import Mathlib.Data.List.Sort

/- What a reader of the newest value sees of a series of values: some are skipped, some
are seen more than once, and none is seen after a later one. -/

universe u

variable {α : Type u}

/-- `chosen` goes through `source` in order, leaving out some items and repeating others. -/
inductive Selection : List α → List α → Prop where
  | nil (source : List α) : Selection source []
  | skip {source chosen : List α} (item : α) (later : Selection source chosen) :
      Selection (item :: source) chosen
  | take {source chosen : List α} (item : α) (again : Selection (item :: source) chosen) :
      Selection (item :: source) (item :: chosen)

namespace Selection

variable {source middle chosen more picked : List α} {item : α}

theorem of_nil (selection : Selection [] chosen) : chosen = [] := by
  cases selection
  rfl

theorem mem (selection : Selection source chosen) (member : item ∈ chosen) : item ∈ source := by
  induction selection with
  | nil source => cases member
  | skip other later ih => exact List.mem_cons_of_mem other (ih member)
  | take other again ih =>
    cases member with
    | head => exact List.mem_cons_self
    | tail _ rest => exact ih rest

theorem skipAll (before : List α) (selection : Selection source chosen) :
    Selection (before ++ source) chosen := by
  induction before with
  | nil => exact selection
  | cons item rest ih => exact .skip item ih

theorem append (first : Selection source chosen) (second : Selection more picked) :
    Selection (source ++ more) (chosen ++ picked) := by
  induction first with
  | nil source => exact second.skipAll source
  | skip item later ih => exact .skip item ih
  | take item again ih => exact .take item ih

theorem sublist (selection : Selection source chosen) (fewer : picked.Sublist chosen) :
    Selection source picked := by
  induction selection generalizing picked with
  | nil source =>
    rw [List.sublist_nil.mp fewer]
    exact .nil source
  | skip item later ih => exact .skip item (ih fewer)
  | take item again ih =>
    cases fewer with
    | cons _ rest => exact ih rest
    | cons_cons _ rest => exact .take item (ih rest)

theorem trans (first : Selection source middle) (second : Selection middle chosen) :
    Selection source chosen := by
  induction first generalizing chosen with
  | nil source =>
    rw [second.of_nil]
    exact .nil source
  | skip item later ih => exact .skip item (ih second)
  | @take source middle item again ih =>
    induction chosen with
    | nil => exact .nil _
    | cons next rest inner =>
      cases second with
      | skip _ later => exact ih later
      | take _ repeated => exact .take item (inner repeated)

theorem filterMap {β : Type u} (read : α → Option β) (selection : Selection source chosen) :
    Selection (source.filterMap read) (chosen.filterMap read) := by
  induction selection with
  | nil source => exact .nil _
  | skip item later ih =>
    cases found : read item with
    | none => simpa [found] using ih
    | some value => simpa [found] using ih.skip value
  | take item again ih =>
    cases found : read item with
    | none => simpa [found] using ih
    | some value =>
      rw [List.filterMap_cons_some found] at ih ⊢
      rw [List.filterMap_cons_some found]
      exact ih.take value

theorem single (member : item ∈ source) : Selection source [item] := by
  obtain ⟨before, after, rfl⟩ := List.append_of_mem member
  exact skipAll before (.take item (.nil _))

theorem self (source : List α) : Selection source source := by
  induction source with
  | nil => exact .nil []
  | cons item rest ih => exact .take item (.skip item ih)

/-- A new last item of the series may follow any selection of the earlier ones. -/
theorem arrive (item : α) (selection : Selection source chosen) :
    Selection (source ++ [item]) (chosen ++ [item]) :=
  selection.append (self [item])

/-- The last item of the series may be seen again after any selection. -/
theorem last (selection : Selection source chosen) (newest : source.getLast? = some item) :
    Selection source (chosen ++ [item]) := by
  obtain ⟨before, rfl⟩ := List.getLast?_eq_some_iff.mp newest
  clear newest
  generalize split : before ++ [item] = whole at selection
  induction selection generalizing before with
  | nil source =>
    rw [← split]
    exact single (by simp)
  | skip other later ih =>
    cases before with
    | nil =>
      obtain ⟨rfl, rfl⟩ := List.cons.inj split
      rw [later.of_nil]
      exact self [item]
    | cons head tail =>
      obtain ⟨rfl, rest⟩ := List.cons.inj split
      exact .skip _ (ih tail rest)
  | take other again ih => exact .take other (ih before split)

/-- The item seen last may be seen again. -/
theorem repeat_last (selection : Selection source (chosen ++ [item])) :
    Selection source (chosen ++ [item] ++ [item]) := by
  generalize split : chosen ++ [item] = seen at selection
  induction selection generalizing chosen with
  | nil source => simp at split
  | skip other later ih => exact .skip other (ih split)
  | take other again ih =>
    cases chosen with
    | nil =>
      obtain ⟨rfl, rfl⟩ := List.cons.inj split
      exact .take item (.take item again)
    | cons head tail =>
      obtain ⟨rfl, rest⟩ := List.cons.inj split
      exact .take _ (ih rest)

end Selection

section Newest

variable {β : Type u} [LinearOrder β]

/-- The items with the largest stamp. -/
def newest (stamp : α → β) (items : List α) : List α :=
  items.filter fun item => items.all fun other => stamp other ≤ stamp item

theorem mem_newest {stamp : α → β} {items : List α} {item : α} :
    item ∈ newest stamp items ↔ item ∈ items ∧ ∀ other ∈ items, stamp other ≤ stamp item := by
  rw [newest, List.mem_filter, List.all_eq_true]
  simp only [decide_eq_true_eq]

/-- An item later than all others is the newest alone. -/
theorem mem_newest_iff_eq {stamp : α → β} {items : List α} {item : α} (member : item ∈ items)
    (later : ∀ other ∈ items, other = item ∨ stamp other < stamp item) (shown : α) :
    shown ∈ newest stamp items ↔ shown = item := by
  rw [mem_newest]
  constructor
  · intro ⟨inside, latest⟩
    exact (later shown inside).resolve_right (not_lt_of_ge (latest item member))
  · rintro rfl
    refine ⟨member, fun other inside => ?_⟩
    rcases later other inside with rfl | before
    · exact le_refl _
    · exact le_of_lt before

/-- A last item later than all others is the newest alone. -/
theorem newest_concat {stamp : α → β} {items : List α} {last : α}
    (later : ∀ item ∈ items, stamp item < stamp last) :
    newest stamp (items ++ [last]) = [last] := by
  have none : items.filter (fun item =>
      (items ++ [last]).all fun other => stamp other ≤ stamp item) = [] := by
    rw [List.filter_eq_nil_iff]
    intro item member
    simp [later item member]
  have one : [last].filter (fun item =>
      (items ++ [last]).all fun other => stamp other ≤ stamp item) = [last] := by
    simpa using fun item member => le_of_lt (later item member)
  rw [newest, List.filter_append, none, one, List.nil_append]

/-- An item later than all others is the last in the order of the stamps. -/
theorem getLast?_insertionSort {stamp : α → β} {items : List α} {item : α} (member : item ∈ items)
    (later : ∀ other ∈ items, other = item ∨ stamp other < stamp item) :
    (items.insertionSort fun first second => stamp first ≤ stamp second).getLast? = some item := by
  have trans : IsTrans α fun first second => stamp first ≤ stamp second :=
    ⟨fun _ _ _ before after => le_trans before after⟩
  have total : Std.Total fun first second : α => stamp first ≤ stamp second :=
    ⟨fun first second => le_total (stamp first) (stamp second)⟩
  have sorted := List.pairwise_insertionSort (fun first second => stamp first ≤ stamp second) items
  have same : ∀ other, other ∈ items.insertionSort (fun first second => stamp first ≤ stamp second) ↔
      other ∈ items := fun other => List.mem_insertionSort _
  generalize (items.insertionSort fun first second => stamp first ≤ stamp second) = ordered
    at sorted same ⊢
  cases final : ordered.getLast? with
  | none =>
    rw [List.getLast?_eq_none_iff.mp final] at same
    cases (same item).mpr member
  | some last =>
    obtain ⟨before, rfl⟩ := List.getLast?_eq_some_iff.mp final
    have inside : last ∈ items := (same last).mp (by simp)
    rcases later last inside with rfl | less
    · rfl
    · rcases List.mem_append.mp ((same item).mpr member) with earlier | here
      · have order := (List.pairwise_append.mp sorted).2.2 item earlier last (by simp)
        exact absurd less (not_lt_of_ge order)
      · rw [List.mem_singleton.mp here]

end Newest
