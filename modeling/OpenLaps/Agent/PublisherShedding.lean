import OpenLaps.Agent.PublisherInvariant

namespace OpenLaps.Publisher

variable {π : Type}

/-- Whenever a batch was shed, it was submitted before every batch then left in
the buffer. -/
def OldestFirst (state : State π) : Prop :=
  ∀ entry ∈ state.sheds, ∀ left ∈ entry.2, entry.1.order < left.order

/-- The window and the buffer together fit the byte budget, or hold a single batch. -/
def Fits (settings : Settings π) (state : State π) : Prop :=
  Shedding.total settings.size (state.pending ++ state.buffer) ≤ settings.bufferBytes ∨
    (state.pending ++ state.buffer).length ≤ 1

/-- A failed publish or a session end finds the window and the buffer within budget. -/
def RequeueFits (settings : Settings π) (state : State π) : Event π → Prop
  | .failHead => Fits settings state
  | .endSession => Fits settings state
  | _ => True

theorem requeue_bytes {settings : Settings π} {state : State π}
    (valid : Consistent settings state) :
    state.bufferBytes + Shedding.total settings.size state.pending =
      Shedding.total settings.size (state.pending ++ state.buffer) := by
  rw [valid.bytes, Shedding.total_append]
  omega

/-- `_requeue` sheds nothing exactly when everything fits. -/
theorem requeue_sheds_nothing {settings : Settings π} {state : State π}
    (valid : Consistent settings state) :
    (requeue settings state).sheds = state.sheds ↔ Fits settings state := by
  have within := Shedding.shed_popped_eq_nil settings.size settings.bufferBytes
    (state.pending ++ state.buffer).reverse
    (state.bufferBytes + Shedding.total settings.size state.pending)
  rw [requeue_bytes valid, List.length_reverse, Int.ofNat_le] at within
  unfold Fits
  rw [← within]
  simp only [requeue, requeue_bytes valid, List.append_right_eq_self, List.map_eq_nil_iff]

theorem submit_oldestFirst (settings : Settings π) (state : State π) (batch : TickBatch π)
    (now : Nat) (valid : Consistent settings state) (oldest : OldestFirst state) :
    OldestFirst (submit settings state batch now) := by
  intro entry member left remaining
  change entry ∈ state.sheds ++ _ at member
  rcases List.mem_append.mp member with earlier | fresh
  · exact oldest entry earlier left remaining
  · -- The popped batch stood in front of the rest of an ordered buffer.
    obtain ⟨_, suffix⟩ := Shedding.shed_popped _ _ _ _ entry.1 entry.2 fresh
    have ordered := (valid.queued_ordered batch now).sublist
      (suffix.sublist.trans (List.sublist_append_right state.pending _))
    exact (List.pairwise_cons.mp ordered).1 left remaining

/-- What `_requeue` sheds is newer than everything it leaves. -/
theorem requeue_sheds_newest {settings : Settings π} {state : State π}
    (valid : Consistent settings state) (crowded : ¬ Fits settings state) :
    ¬ OldestFirst (requeue settings state) := by
  intro oldest
  let after := Shedding.shed settings.size settings.bufferBytes
    (state.pending ++ state.buffer).reverse
    (state.bufferBytes + Shedding.total settings.size state.pending)
  have popped : after.popped ≠ [] := by
    intro quiet
    apply crowded
    apply (requeue_sheds_nothing valid).mp
    change state.sheds ++ after.popped.map _ = state.sheds
    rw [quiet, List.map_nil, List.append_nil]
  obtain ⟨entry, fresh⟩ := List.exists_mem_of_ne_nil _ popped
  obtain ⟨behind, suffix⟩ := Shedding.shed_popped _ _ _ _ entry.1 entry.2 fresh
  obtain ⟨left, remaining⟩ := List.exists_mem_of_ne_nil _ behind
  have reversed : (state.pending ++ state.buffer).reverse.Pairwise
      fun (newer older : QueuedBatch π) => older.order < newer.order :=
    List.pairwise_reverse.mpr valid.ordered
  have newest : left.order < entry.1.order :=
    (List.pairwise_cons.mp (reversed.sublist suffix.sublist)).1 left remaining
  have claimed : entry.1.order < left.order := by
    apply oldest (Prod.map id List.reverse entry)
    · exact List.mem_append_right _ (List.mem_map_of_mem fresh)
    · exact List.mem_reverse.mpr remaining
  omega

theorem step_oldestFirst (settings : Settings π) (state : State π) (event : Event π)
    (next : State π) (valid : Consistent settings state) (oldest : OldestFirst state)
    (fits : RequeueFits settings state event) (taken : step settings state event = some next) :
    OldestFirst next := by
  have requeued : Fits settings state → OldestFirst (requeue settings state) := by
    intro room entry member
    rw [(requeue_sheds_nothing valid).mpr room] at member
    exact oldest entry member
  cases event with
  | submit batch now =>
      cases taken
      exact submit_oldestFirst settings state batch now valid oldest
  | fillItem =>
      simp only [step, fillItem] at taken
      split at taken
      · split at taken
        · cases taken
        · cases taken
          exact oldest
      · cases taken
  | ackHead =>
      simp only [step, ackHead] at taken
      split at taken
      · cases taken
      · cases taken
        exact oldest
  | failHead =>
      simp only [step] at taken
      split at taken
      · cases taken
      · cases taken
        exact requeued fits
  | endSession =>
      cases taken
      exact requeued fits

/-- Shedding is oldest-first along a run exactly when no failed publish or
session end of the run finds the window and the buffer over budget. -/
theorem sheds_oldest_first_iff (settings : Settings π) (events : List (Event π)) :
    Machine.Always (step settings) OldestFirst init events ↔
      Machine.Along (step settings) (RequeueFits settings) init events := by
  apply Machine.always_iff_along
    (fun state => Consistent settings state ∧ OldestFirst state)
  · exact fun _ valid => valid.2
  · intro state event next valid fits taken
    exact ⟨step_consistent settings state event next valid.1 taken,
      step_oldestFirst settings state event next valid.1 valid.2 fits taken⟩
  · intro state event next valid taken oldest
    cases event with
    | failHead =>
        by_contra crowded
        simp only [step] at taken
        split at taken
        · cases taken
        · cases taken
          exact requeue_sheds_newest valid.1 crowded oldest
    | endSession =>
        by_contra crowded
        cases taken
        exact requeue_sheds_newest valid.1 crowded oldest
    | _ => trivial
  · exact ⟨init_consistent settings, fun entry member => absurd member List.not_mem_nil⟩

/-- The first publish fails while a second batch is buffered: both are over
budget together, and `_requeue` sheds the second one. -/
theorem requeue_keeps_oldest :
    ¬ Machine.Always (step tightSettings) OldestFirst init failedPublish := by
  intro always
  have last := (((always.2 _ rfl).2 _ rfl).2 _ rfl).2 _ rfl
  have claimed := last _ (List.mem_cons_self) _ (List.mem_cons_self)
  exact absurd claimed (by decide)

end OpenLaps.Publisher
