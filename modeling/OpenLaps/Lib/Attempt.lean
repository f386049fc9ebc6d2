import Mathlib.Data.List.Forall2

/- Applying a fallible function along a list, stopping at the first failure. -/
namespace Attempt

universe u v w

variable {α : Type u} {β : Type v} {ε : Type w}

def all (attempt : α → Except ε β) : List α → Except ε (List β)
  | [] => .ok []
  | item :: rest =>
    match attempt item with
    | .error error => .error error
    | .ok result =>
      match all attempt rest with
      | .error error => .error error
      | .ok results => .ok (result :: results)

theorem all_ok {attempt : α → Except ε β} {items : List α} {results : List β}
    (succeeded : all attempt items = .ok results) :
    List.Forall₂ (fun item result => attempt item = .ok result) items results := by
  induction items generalizing results with
  | nil =>
    cases succeeded
    exact .nil
  | cons item rest ih =>
    rw [all] at succeeded
    split at succeeded
    · cases succeeded
    · rename_i result first
      split at succeeded
      · cases succeeded
      · rename_i later remaining
        cases succeeded
        exact .cons first (ih remaining)

/-- The first item that fails decides the error. -/
theorem all_error {attempt : α → Except ε β} {items : List α} {error : ε}
    (failed : all attempt items = .error error) : ∃ before item after,
    items = before ++ item :: after ∧ (∀ earlier ∈ before, (attempt earlier).isOk = true) ∧
      attempt item = .error error := by
  induction items with
  | nil => cases failed
  | cons item rest ih =>
    rw [all] at failed
    split at failed
    · rename_i reason first
      cases failed
      exact ⟨[], item, rest, rfl, fun _ member => absurd member List.not_mem_nil, first⟩
    · rename_i result first
      split at failed
      · rename_i reason later
        cases failed
        obtain ⟨before, bad, after, split, fine, raised⟩ := ih later
        refine ⟨item :: before, bad, after, by rw [split, List.cons_append], ?_, raised⟩
        intro earlier member
        rcases List.mem_cons.mp member with here | inside
        · rw [here, first]
          rfl
        · exact fine earlier inside
      · cases failed

theorem all_eq_map {attempt : α → Except ε β} {result : α → β} {items : List α}
    (fine : ∀ item ∈ items, attempt item = .ok (result item)) :
    all attempt items = .ok (items.map result) := by
  induction items with
  | nil => rfl
  | cons item rest ih =>
    rw [all, fine item List.mem_cons_self,
      ih fun later member => fine later (List.mem_cons_of_mem item member)]
    rfl

theorem forall₂_exists {relation : α → β → Prop} {items : List α} {results : List β}
    (related : List.Forall₂ relation items results) {item : α} (member : item ∈ items) :
    ∃ result ∈ results, relation item result := by
  induction related with
  | nil => cases member
  | cons here _ ih =>
    rcases List.mem_cons.mp member with same | inside
    · rw [same]
      exact ⟨_, List.mem_cons_self, here⟩
    · obtain ⟨result, present, found⟩ := ih inside
      exact ⟨result, List.mem_cons_of_mem _ present, found⟩

theorem forall₂_sublist {relation : α → β → Prop} {items fewer : List α} {results : List β}
    (related : List.Forall₂ relation items results) (remain : fewer.Sublist items) :
    ∃ kept, kept.Sublist results ∧ List.Forall₂ relation fewer kept := by
  induction related generalizing fewer with
  | nil =>
    rw [List.sublist_nil.mp remain]
    exact ⟨[], List.nil_sublist _, .nil⟩
  | cons here _ ih =>
    cases remain with
    | cons _ rest =>
      obtain ⟨kept, sublist, still⟩ := ih rest
      exact ⟨kept, sublist.cons _, still⟩
    | cons_cons _ rest =>
      obtain ⟨kept, sublist, still⟩ := ih rest
      exact ⟨_, sublist.cons_cons _, .cons here still⟩

theorem forall₂_and {first second : α → β → Prop} {items : List α} {results : List β}
    (one : List.Forall₂ first items results) (other : List.Forall₂ second items results) :
    List.Forall₂ (fun item result => first item result ∧ second item result) items results := by
  induction one with
  | nil => exact .nil
  | cons here _ ih =>
    cases other with
    | cons here' later' => exact .cons ⟨here, here'⟩ (ih later')

theorem ok_of_all {attempt : α → Except ε β} {items : List α} {results : List β}
    (succeeded : all attempt items = .ok results) {item : α} (member : item ∈ items) :
    ∃ result ∈ results, attempt item = .ok result :=
  forall₂_exists (all_ok succeeded) member

theorem all_eq_ok_of_forall {attempt : α → Except ε β} {items : List α}
    (fine : ∀ item ∈ items, (attempt item).isOk = true) :
    ∃ results, all attempt items = .ok results := by
  cases outcome : all attempt items with
  | ok results => exact ⟨results, rfl⟩
  | error error =>
    obtain ⟨before, item, after, split, _, raised⟩ := all_error outcome
    have present : item ∈ items := by
      rw [split]
      exact List.mem_append_right before List.mem_cons_self
    have good := fine item present
    rw [raised] at good
    cases good

theorem all_append (attempt : α → Except ε β) (first second : List α) :
    all attempt (first ++ second) =
      match all attempt first with
      | .error error => .error error
      | .ok results => (all attempt second).map (results ++ ·) := by
  induction first with
  | nil =>
    rw [List.nil_append, all]
    cases all attempt second <;> rfl
  | cons item rest ih =>
    rw [List.cons_append, all, all, ih]
    cases attempt item with
    | error error => rfl
    | ok result =>
      cases all attempt rest with
      | error error => rfl
      | ok results => cases all attempt second <;> rfl

theorem all_stops {attempt : α → Except ε β} {before after : List α} {item : α} {error : ε}
    (fine : ∀ earlier ∈ before, (attempt earlier).isOk = true)
    (failed : attempt item = .error error) :
    all attempt (before ++ item :: after) = .error error := by
  obtain ⟨results, succeeded⟩ := all_eq_ok_of_forall fine
  rw [all_append, succeeded, all, failed]
  rfl

/-- Working through groups fails as working through all their items does. -/
theorem all_groups_error {γ : Type u} {δ : Type v} (attempt : α → Except ε β) (items : γ → List α)
    (wrap : γ → List β → δ) (groups : List γ) (error : ε) :
    all (fun group => (all attempt (items group)).map (wrap group)) groups = .error error ↔
      all attempt (groups.flatMap items) = .error error := by
  induction groups with
  | nil =>
    constructor
    · exact fun impossible => nomatch impossible
    · exact fun impossible => nomatch impossible
  | cons group rest ih =>
    rw [all, List.flatMap_cons, all_append]
    cases outcome : all attempt (items group) with
    | error reason =>
      constructor
      · intro failed
        cases failed
        rfl
      · intro failed
        cases failed
        rfl
    | ok results =>
      have wrapped : (Except.ok results : Except ε (List β)).map (wrap group) =
          .ok (wrap group results) := rfl
      rw [wrapped]
      dsimp only
      constructor
      · intro failed
        split at failed
        · rename_i reason later
          cases failed
          rw [ih.mp later]
          rfl
        · cases failed
      · intro failed
        cases later : all attempt (rest.flatMap items) with
        | ok found =>
          rw [later] at failed
          cases failed
        | error reason =>
          rw [later] at failed
          cases failed
          rw [ih.mpr later]

/-- A sequence that succeeds succeeds step by step. -/
theorem bind_ok {γ δ : Type v} {first : Except ε γ} {next : γ → Except ε δ} {result : δ} :
    (first >>= next) = .ok result ↔ ∃ value, first = .ok value ∧ next value = .ok result := by
  cases first with
  | error error =>
    constructor
    · intro impossible
      cases impossible
    · rintro ⟨value, impossible, -⟩
      cases impossible
  | ok value => exact ⟨fun done => ⟨value, rfl, done⟩, by rintro ⟨same, ⟨⟩, done⟩; exact done⟩

theorem map_ok {γ δ : Type v} {first : Except ε γ} {make : γ → δ} {result : δ} :
    first.map make = .ok result ↔ ∃ value, first = .ok value ∧ make value = result := by
  cases first with
  | error error =>
    constructor
    · intro impossible
      cases impossible
    · rintro ⟨value, impossible, -⟩
      cases impossible
  | ok value =>
    constructor
    · intro done
      exact ⟨value, rfl, Except.ok.inj done⟩
    · rintro ⟨same, ⟨⟩, made⟩
      exact congrArg Except.ok made

theorem ok_of_toOption {outcome : Except ε α} {result : α}
    (found : outcome.toOption = some result) : outcome = .ok result := by
  cases outcome with
  | error error => cases found
  | ok value =>
    cases found
    rfl

theorem bind_succeeds {γ δ : Type v} {first : Except ε γ} {next : γ → Except ε δ} :
    (∃ result, (first >>= next) = .ok result) ↔
      ∃ value, first = .ok value ∧ ∃ result, next value = .ok result := by
  simp only [bind_ok]
  constructor
  · rintro ⟨result, value, done, later⟩
    exact ⟨value, done, result, later⟩
  · rintro ⟨value, done, result, later⟩
    exact ⟨result, value, done, later⟩

/-- A fold whose steps fail for their items alone succeeds when all items are good. -/
theorem foldlM_ok_iff {σ : Type v} {step : σ → α → Except ε σ} {good : α → Prop}
    (each : ∀ state item, (∃ next, step state item = .ok next) ↔ good item) (items : List α)
    (state : σ) :
    (∃ final, items.foldlM step state = .ok final) ↔ ∀ item ∈ items, good item := by
  induction items generalizing state with
  | nil => exact ⟨fun _ item member => absurd member List.not_mem_nil, fun _ => ⟨state, rfl⟩⟩
  | cons item rest ih =>
    rw [List.foldlM_cons, bind_succeeds, List.forall_mem_cons]
    constructor
    · rintro ⟨next, stepped, later⟩
      exact ⟨(each state item).mp ⟨next, stepped⟩, (ih next).mp later⟩
    · rintro ⟨first, others⟩
      obtain ⟨next, stepped⟩ := (each state item).mpr first
      exact ⟨next, stepped, (ih next).mpr others⟩

end Attempt
