import Mathlib.Algebra.Order.Group.Abs
import Mathlib.Data.List.Perm.Subperm
import Mathlib.Tactic.Abel

universe u v w

/- Two sequences in the order of their times, aligned one-to-one within a tolerance by a
single walk over both. The walk never gives up a pair: no other pairing has more. -/
namespace Alignment

structure Outcome (α : Type u) (β : Type v) where
  matched : List (α × β)
  missing : List β
  extra : List α
  deriving DecidableEq, Repr

variable {α : Type u} {β : Type v} {γ : Type w}

/-- A list that is made up of two others, each in its own order. -/
inductive Merges : List α → List α → List α → Prop where
  | nil : Merges [] [] []
  | left {first second all : List α} (item : α) (rest : Merges first second all) :
      Merges (item :: first) second (item :: all)
  | right {first second all : List α} (item : α) (rest : Merges first second all) :
      Merges first (item :: second) (item :: all)

theorem Merges.all_right (items : List α) : Merges [] items items := by
  induction items with
  | nil => exact .nil
  | cons item rest ih => exact .right item ih

theorem Merges.sublist {first second all : List α} (merges : Merges first second all) :
    first.Sublist all ∧ second.Sublist all := by
  induction merges with
  | nil => exact ⟨.slnil, .slnil⟩
  | left item rest ih => exact ⟨ih.1.cons_cons item, ih.2.cons item⟩
  | right item rest ih => exact ⟨ih.1.cons item, ih.2.cons_cons item⟩

section Subperm

variable {item : α} {items part : List α}

theorem subperm_of_not_mem (inside : part.Subperm (item :: items)) (other : item ∉ part) :
    part.Subperm items := by
  obtain ⟨same, perm, sublist⟩ := inside
  cases sublist with
  | cons _ rest => exact ⟨same, perm, rest⟩
  | cons_cons _ rest => exact absurd (perm.mem_iff.mp List.mem_cons_self) other

theorem subperm_of_cons (inside : (item :: part).Subperm items) : part.Subperm items :=
  List.Subperm.cons_self.trans inside

/-- Some entry uses an item, or none does. -/
theorem free_or_used {π : Type v} (key : π → α) {entries : List π}
    (inside : (entries.map key).Subperm (item :: items)) :
    (entries.map key).Subperm items ∨
      ∃ entry rest, key entry = item ∧ entries.Perm (entry :: rest) ∧
        (rest.map key).Subperm items := by
  by_cases used : item ∈ entries.map key
  · right
    obtain ⟨entry, member, same⟩ := List.mem_map.mp used
    obtain ⟨before, after, split⟩ := List.append_of_mem member
    have perm : entries.Perm (entry :: (before ++ after)) := by
      rw [split]
      exact List.perm_middle
    refine ⟨entry, before ++ after, same, perm, ?_⟩
    have rest := (perm.map key).subperm_right.mp inside
    rw [List.map_cons, same] at rest
    exact (List.subperm_cons item).mp rest
  · exact .inl (subperm_of_not_mem inside used)

end Subperm

section Walk

variable [AddCommGroup γ] [LinearOrder γ] (time : α → γ) (mark : β → γ) (tolerance : γ)

/-- The walk: the first items of both are a pair, or the earlier one has no partner. -/
def walk : List α → List β → Outcome α β
  | [], reference => ⟨[], reference, []⟩
  | subject, [] => ⟨[], [], subject⟩
  | item :: subject, other :: reference =>
    if |time item - mark other| ≤ tolerance then
      let rest := walk subject reference
      { rest with matched := (item, other) :: rest.matched }
    else if time item - mark other < 0 then
      let rest := walk subject (other :: reference)
      { rest with extra := item :: rest.extra }
    else
      let rest := walk (item :: subject) reference
      { rest with missing := other :: rest.missing }
  termination_by subject reference => subject.length + reference.length

/-- The pairs and what is left over are all there was, in its order. -/
theorem walk_merges (subject : List α) (reference : List β) :
    Merges ((walk time mark tolerance subject reference).matched.map Prod.fst)
        (walk time mark tolerance subject reference).extra subject ∧
      Merges ((walk time mark tolerance subject reference).matched.map Prod.snd)
        (walk time mark tolerance subject reference).missing reference := by
  fun_induction walk time mark tolerance subject reference with
  | case1 reference => exact ⟨.nil, .all_right reference⟩
  | case2 subject => exact ⟨.all_right subject, .nil⟩
  | case3 item subject other reference near rest ih => exact ⟨.left item ih.1, .left other ih.2⟩
  | case4 item subject other reference far early rest ih => exact ⟨.right item ih.1, ih.2⟩
  | case5 item subject other reference far late rest ih => exact ⟨ih.1, .right other ih.2⟩

theorem walk_near (subject : List α) (reference : List β) :
    ∀ pair ∈ (walk time mark tolerance subject reference).matched,
      |time pair.1 - mark pair.2| ≤ tolerance := by
  fun_induction walk time mark tolerance subject reference with
  | case1 reference => simp
  | case2 subject => simp
  | case3 item subject other reference near rest ih =>
    intro pair member
    rcases List.mem_cons.mp member with here | later
    · rw [here]
      exact near
    · exact ih pair later
  | case4 item subject other reference far early rest ih => exact ih
  | case5 item subject other reference far late rest ih => exact ih

/-- Some of the pairs that are allowed, each item used no more often than it occurs. -/
structure Pairing (subject : List α) (reference : List β) (pairs : List (α × β)) : Prop where
  firsts : (pairs.map Prod.fst).Subperm subject
  seconds : (pairs.map Prod.snd).Subperm reference
  near : ∀ pair ∈ pairs, |time pair.1 - mark pair.2| ≤ tolerance

variable {time mark tolerance} {subject : List α} {reference : List β} {item : α} {other : β}
  {pairs : List (α × β)}

/-- The partners that two close items give up are no further apart. -/
theorem near_exchanged [IsOrderedAddMonoid γ] {first second third fourth : γ}
    (later : first ≤ second) (later' : third ≤ fourth) (here : |first - fourth| ≤ tolerance)
    (there : |second - third| ≤ tolerance) : |second - fourth| ≤ tolerance := by
  rw [abs_le] at here there ⊢
  exact ⟨here.1.trans (sub_le_sub_right later fourth), (sub_le_sub_left later' second).trans there.2⟩

/-- Where the first items of both are close, a pairing of the rest loses one pair at most: the
partners that the two give up are close to each other. -/
theorem Pairing.exchange [IsOrderedAddMonoid γ]
    (pairing : Pairing time mark tolerance (item :: subject) (other :: reference) pairs)
    (sorted : ∀ later ∈ subject, time item ≤ time later)
    (sorted' : ∀ later ∈ reference, mark other ≤ mark later) :
    ∃ rest, Pairing time mark tolerance subject reference rest ∧ pairs.length ≤ rest.length + 1 := by
  rcases free_or_used Prod.fst pairing.firsts with free | ⟨own, rest, same, perm, firsts⟩
  · rcases free_or_used Prod.snd pairing.seconds with free' | ⟨own, rest, same, perm, seconds⟩
    · exact ⟨pairs, ⟨free, free', pairing.near⟩, Nat.le_succ _⟩
    · refine ⟨rest, ⟨subperm_of_cons ((perm.map Prod.fst).subperm_right.mp free), seconds, ?_⟩, ?_⟩
      · intro pair member
        exact pairing.near pair (perm.mem_iff.mpr (List.mem_cons_of_mem own member))
      · rw [perm.length_eq, List.length_cons]
  · have near : ∀ pair ∈ own :: rest, |time pair.1 - mark pair.2| ≤ tolerance :=
      fun pair member => pairing.near pair (perm.mem_iff.mpr member)
    have seconds := (perm.map Prod.snd).subperm_right.mp pairing.seconds
    rcases free_or_used Prod.snd (subperm_of_cons seconds) with
      free' | ⟨own', rest', same', perm', seconds'⟩
    · refine ⟨rest, ⟨firsts, free', ?_⟩, ?_⟩
      · exact fun pair member => near pair (List.mem_cons_of_mem own member)
      · rw [perm.length_eq, List.length_cons]
    · -- `own` and `own'` give up their partners `own.2` and `own'.1` to each other.
      have members := (perm'.map Prod.fst).subperm_right.mp firsts
      have marks : (own.2 :: rest'.map Prod.snd).Subperm reference := by
        have swapped : (own.2 :: rest.map Prod.snd).Perm (other :: own.2 :: rest'.map Prod.snd) := by
          have moved := (perm'.map Prod.snd).cons own.2
          rw [List.map_cons, same'] at moved
          exact moved.trans (.swap other own.2 _)
        exact (List.subperm_cons other).mp (swapped.subperm_right.mp seconds)
      have here := near own List.mem_cons_self
      have there := near own' (List.mem_cons_of_mem own (perm'.mem_iff.mpr List.mem_cons_self))
      have later := sorted own'.1 (members.subset List.mem_cons_self)
      have later' := sorted' own.2 (marks.subset List.mem_cons_self)
      rw [same] at here
      rw [same'] at there
      refine ⟨(own'.1, own.2) :: rest', ⟨members, marks, ?_⟩, ?_⟩
      · intro pair member
        rcases List.mem_cons.mp member with made | kept
        · rw [made]
          exact near_exchanged later later' here there
        · exact near pair (List.mem_cons_of_mem own (perm'.mem_iff.mpr (List.mem_cons_of_mem own' kept)))
      · rw [perm.length_eq, List.length_cons, perm'.length_eq]
        rfl

/-- An item that is early for the first of the others is early for them all. -/
theorem Pairing.early [IsOrderedAddMonoid γ]
    (pairing : Pairing time mark tolerance (item :: subject) (other :: reference) pairs)
    (sorted' : ∀ later ∈ reference, mark other ≤ mark later)
    (far : ¬|time item - mark other| ≤ tolerance) (early : time item - mark other < 0) :
    Pairing time mark tolerance subject (other :: reference) pairs := by
  refine ⟨subperm_of_not_mem pairing.firsts ?_, pairing.seconds, pairing.near⟩
  intro used
  obtain ⟨pair, member, same⟩ := List.mem_map.mp used
  have near := pairing.near pair member
  have inside := pairing.seconds.subset (List.mem_map_of_mem member)
  have later : mark other ≤ mark pair.2 := by
    rcases List.mem_cons.mp inside with here | behind
    · rw [here]
    · exact sorted' pair.2 behind
  rw [same, abs_of_nonpos ((sub_le_sub_left later (time item)).trans early.le)] at near
  rw [abs_of_neg early] at far
  exact far ((neg_le_neg (sub_le_sub_left later (time item))).trans near)

/-- The same the other way round. -/
theorem Pairing.late [IsOrderedAddMonoid γ]
    (pairing : Pairing time mark tolerance (item :: subject) (other :: reference) pairs)
    (sorted : ∀ later ∈ subject, time item ≤ time later)
    (far : ¬|time item - mark other| ≤ tolerance) (late : ¬time item - mark other < 0) :
    Pairing time mark tolerance (item :: subject) reference pairs := by
  refine ⟨pairing.firsts, subperm_of_not_mem pairing.seconds ?_, pairing.near⟩
  intro used
  obtain ⟨pair, member, same⟩ := List.mem_map.mp used
  have near := pairing.near pair member
  have inside := pairing.firsts.subset (List.mem_map_of_mem member)
  have later : time item ≤ time pair.1 := by
    rcases List.mem_cons.mp inside with here | behind
    · rw [here]
    · exact sorted pair.1 behind
  have late := not_lt.mp late
  rw [same, abs_of_nonneg (late.trans (sub_le_sub_right later (mark other)))] at near
  rw [abs_of_nonneg late] at far
  exact far ((sub_le_sub_right later (mark other)).trans near)

/-- No pairing of sorted items has more pairs than the walk finds. -/
theorem walk_optimal [IsOrderedAddMonoid γ] (time : α → γ) (mark : β → γ) (tolerance : γ)
    {subject : List α} {reference : List β}
    (sorted : subject.Pairwise fun earlier later => time earlier ≤ time later)
    (sorted' : reference.Pairwise fun earlier later => mark earlier ≤ mark later)
    {pairs : List (α × β)} (pairing : Pairing time mark tolerance subject reference pairs) :
    pairs.length ≤ (walk time mark tolerance subject reference).matched.length := by
  fun_induction walk time mark tolerance subject reference generalizing pairs with
  | case1 reference =>
    have none := pairing.firsts.length_le
    rw [List.length_map] at none
    exact none
  | case2 subject =>
    have none := pairing.seconds.length_le
    rw [List.length_map] at none
    exact none
  | case3 item subject other reference near rest ih =>
    rw [List.pairwise_cons] at sorted sorted'
    obtain ⟨kept, pairing, more⟩ := pairing.exchange sorted.1 sorted'.1
    exact more.trans (Nat.succ_le_succ (ih sorted.2 sorted'.2 pairing))
  | case4 item subject other reference far early rest ih =>
    exact ih (List.pairwise_cons.mp sorted).2 sorted'
      (pairing.early (List.pairwise_cons.mp sorted').1 far early)
  | case5 item subject other reference far late rest ih =>
    exact ih sorted (List.pairwise_cons.mp sorted').2
      (pairing.late (List.pairwise_cons.mp sorted).1 far late)

end Walk

end Alignment
