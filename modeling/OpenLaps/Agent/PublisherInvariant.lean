import OpenLaps.Agent.Publisher
import Mathlib.Data.List.Perm.Basic
import Mathlib.Data.List.Nodup

namespace OpenLaps.Publisher

variable {π : Type}

/-- The invariant of the publisher. Every submitted batch is in exactly one of
four places, and the byte count and the lag marker describe what they claim to. -/
structure Consistent (settings : Settings π) (state : State π) : Prop where
  places : (state.acked ++ state.shed ++ state.outstanding).Perm state.submitted
  numbered : state.submitted.map QueuedBatch.order = List.range state.submitted.length
  ordered : state.outstanding.Pairwise fun older newer => older.order < newer.order
  publishedCount : state.published = state.acked.length
  dropCount : state.publishDrops = state.sheds.length
  bytes : state.bufferBytes = Shedding.total settings.size state.buffer
  bounded : state.bufferBytes ≤ settings.bufferBytes ∨ state.buffer.length = 1
  oldest : state.oldestPendingMonoNs = state.pending.head?.map QueuedBatch.submitMonoNs
  windowed : state.pending.length ≤ settings.window

theorem init_consistent (settings : Settings π) : Consistent settings (init : State π) where
  places := List.Perm.refl _
  numbered := rfl
  ordered := List.Pairwise.nil
  publishedCount := rfl
  dropCount := rfl
  bytes := rfl
  bounded := Or.inl (Int.natCast_nonneg _)
  oldest := rfl
  windowed := Nat.zero_le _

theorem Consistent.order_lt {settings : Settings π} {state : State π}
    (valid : Consistent settings state) {item : QueuedBatch π}
    (member : item ∈ state.outstanding) : item.order < state.submitted.length := by
  have recorded : item ∈ state.submitted :=
    valid.places.subset (List.mem_append_right _ member)
  have listed : item.order ∈ List.range state.submitted.length := by
    rw [← valid.numbered]
    exact List.mem_map_of_mem recorded
  exact List.mem_range.mp listed

/-- A new entry follows everything outstanding. -/
theorem Consistent.queued_ordered {settings : Settings π} {state : State π}
    (valid : Consistent settings state) (batch : TickBatch π) (now : Nat) :
    (state.pending ++ (state.buffer ++ [queued settings state batch now])).Pairwise
      fun older newer => older.order < newer.order := by
  rw [← List.append_assoc, List.pairwise_append]
  refine ⟨valid.ordered, List.pairwise_singleton _ _, ?_⟩
  intro older member newer single
  rw [List.mem_singleton.mp single]
  exact valid.order_lt member

/-- Popped items move from the outstanding batches to the shed ones. -/
private theorem perm_shed {α : Type} (acked shed window popped kept : List α) :
    (acked ++ (shed ++ popped) ++ (window ++ kept)).Perm
      (acked ++ shed ++ (window ++ (popped ++ kept))) := by
  simp only [List.append_assoc]
  apply List.Perm.append_left
  apply List.Perm.append_left
  exact List.perm_append_comm_assoc popped window kept

theorem submit_consistent (settings : Settings π) (state : State π) (batch : TickBatch π)
    (now : Nat) (valid : Consistent settings state) :
    Consistent settings (submit settings state batch now) := by
  let item := queued settings state batch now
  let after := Shedding.shed settings.size settings.bufferBytes (state.buffer ++ [item])
    (state.bufferBytes + settings.size item)
  have split : state.buffer ++ [item] = after.popped.map Prod.fst ++ after.kept :=
    Shedding.shed_split settings.size settings.bufferBytes _ _
  have exactBytes : state.bufferBytes + settings.size item =
      Shedding.total settings.size (state.buffer ++ [item]) := by
    rw [valid.bytes]
    simp
  refine ⟨?_, ?_, ?_, valid.publishedCount, ?_, ?_, ?_, valid.oldest, valid.windowed⟩
  · change (state.acked ++ (state.sheds ++ after.popped).map Prod.fst ++
      (state.pending ++ after.kept)).Perm (state.submitted ++ [item])
    rw [List.map_append]
    refine (perm_shed state.acked state.shed state.pending _ after.kept).trans ?_
    rw [← split, ← List.append_assoc state.pending, ← List.append_assoc]
    exact valid.places.append_right [item]
  · change (state.submitted ++ [item]).map QueuedBatch.order =
      List.range (state.submitted ++ [item]).length
    rw [List.map_append, valid.numbered, List.length_append, List.length_singleton,
      List.range_succ]
    rfl
  · refine (valid.queued_ordered batch now).sublist ?_
    change (state.pending ++ after.kept).Sublist (state.pending ++ (state.buffer ++ [item]))
    rw [split]
    exact (List.Sublist.refl _).append (List.sublist_append_right _ _)
  · change state.publishDrops + after.popped.length = (state.sheds ++ after.popped).length
    rw [List.length_append, valid.dropCount]
  · exact Shedding.shed_bytes settings.size settings.bufferBytes _ _ exactBytes
  · exact Shedding.shed_bounded settings.size settings.bufferBytes _ _ (by simp)

theorem fillItem_consistent (settings : Settings π) (state next : State π)
    (valid : Consistent settings state) (taken : fillItem settings state = some next) :
    Consistent settings next := by
  unfold fillItem at taken
  split at taken
  · rename_i room
    cases buffered : state.buffer with
    | nil => simp [buffered] at taken
    | cons item rest =>
        simp only [buffered, Option.some.injEq] at taken
        subst taken
        have same : state.pending ++ [item] ++ rest = state.outstanding := by
          rw [State.outstanding, buffered, List.append_assoc, List.singleton_append]
        have bytes : state.bufferBytes - settings.size item =
            Shedding.total settings.size rest := by
          rw [valid.bytes, buffered, Shedding.total_cons]
          omega
        refine ⟨?_, valid.numbered, ?_, valid.publishedCount, valid.dropCount, bytes, ?_, ?_, ?_⟩
        · change (state.acked ++ state.shed ++ (state.pending ++ [item] ++ rest)).Perm _
          rw [same]
          exact valid.places
        · change (state.pending ++ [item] ++ rest).Pairwise _
          rw [same]
          exact valid.ordered
        · left
          dsimp only
          rcases valid.bounded with low | single
          · omega
          · have empty : rest = [] := by
              rw [buffered, List.length_cons] at single
              exact List.eq_nil_of_length_eq_zero (by omega)
            rw [bytes, empty]
            exact Int.natCast_nonneg _
        · dsimp only
          rw [valid.oldest]
          cases state.pending <;> rfl
        · simp only [List.length_append, List.length_singleton]
          omega
  · cases taken

theorem ackHead_consistent (settings : Settings π) (state next : State π)
    (valid : Consistent settings state) (taken : ackHead state = some next) :
    Consistent settings next := by
  unfold ackHead at taken
  cases window : state.pending with
  | nil => simp [window] at taken
  | cons item rest =>
      simp only [window, Option.some.injEq] at taken
      subst taken
      have outstanding : state.outstanding = item :: (rest ++ state.buffer) := by
        rw [State.outstanding, window, List.cons_append]
      refine ⟨?_, valid.numbered, ?_, ?_, valid.dropCount, valid.bytes, valid.bounded, rfl, ?_⟩
      · change (state.acked ++ [item] ++ state.shed ++ (rest ++ state.buffer)).Perm _
        refine List.Perm.trans ?_ valid.places
        rw [outstanding, List.append_assoc, List.append_assoc, List.append_assoc]
        apply List.Perm.append_left
        rw [List.singleton_append]
        exact List.perm_middle.symm
      · have ordered := valid.ordered
        rw [outstanding] at ordered
        exact (List.pairwise_cons.mp ordered).2
      · simp [valid.publishedCount]
      · have windowed := valid.windowed
        rw [window, List.length_cons] at windowed
        dsimp only
        omega

theorem requeue_consistent (settings : Settings π) (state : State π)
    (valid : Consistent settings state) : Consistent settings (requeue settings state) := by
  let after := Shedding.shed settings.size settings.bufferBytes state.outstanding.reverse
    (state.bufferBytes + Shedding.total settings.size state.pending)
  have split : state.outstanding.reverse = after.popped.map Prod.fst ++ after.kept :=
    Shedding.shed_split settings.size settings.bufferBytes _ _
  have exactBytes : state.bufferBytes + Shedding.total settings.size state.pending =
      Shedding.total settings.size state.outstanding.reverse := by
    rw [valid.bytes, Shedding.total_reverse, State.outstanding, Shedding.total_append]
    omega
  have bytes : after.bytes = Shedding.total settings.size after.kept :=
    Shedding.shed_bytes settings.size settings.bufferBytes _ _ exactBytes
  refine ⟨?_, valid.numbered, ?_, valid.publishedCount, ?_, ?_, ?_, rfl, Nat.zero_le _⟩
  · change (state.acked ++ (state.sheds ++ after.popped.map (Prod.map id List.reverse)).map
      Prod.fst ++ ([] ++ after.kept.reverse)).Perm state.submitted
    rw [List.map_append, List.map_map]
    refine (perm_shed state.acked state.shed [] _ after.kept.reverse).trans ?_
    refine List.Perm.trans (List.Perm.append_left _ ?_) valid.places
    refine List.Perm.trans ?_ (List.reverse_perm state.outstanding)
    rw [split]
    exact (List.reverse_perm after.kept).append_left _
  · refine valid.ordered.sublist ?_
    change ([] ++ after.kept.reverse).Sublist state.outstanding
    rw [List.nil_append, ← List.reverse_sublist, List.reverse_reverse, split]
    exact List.sublist_append_right _ _
  · change state.publishDrops + after.popped.length = (state.sheds ++ after.popped.map _).length
    rw [List.length_append, List.length_map, valid.dropCount]
  · change after.bytes = Shedding.total settings.size after.kept.reverse
    rw [bytes, Shedding.total_reverse]
  · change after.bytes ≤ settings.bufferBytes ∨ after.kept.reverse.length = 1
    rw [List.length_reverse]
    by_cases empty : state.outstanding.reverse = []
    · left
      have nothing : after.kept = [] := by
        rw [empty] at split
        exact (List.append_eq_nil_iff.mp split.symm).2
      rw [bytes, nothing]
      exact Int.natCast_nonneg _
    · exact Shedding.shed_bounded settings.size settings.bufferBytes _ _ empty

theorem step_consistent (settings : Settings π) (state : State π) (event : Event π)
    (next : State π) (valid : Consistent settings state)
    (taken : step settings state event = some next) : Consistent settings next := by
  cases event with
  | submit batch now =>
      cases taken
      exact submit_consistent settings state batch now valid
  | fillItem => exact fillItem_consistent settings state next valid taken
  | ackHead => exact ackHead_consistent settings state next valid taken
  | failHead =>
      simp only [step] at taken
      split at taken
      · cases taken
      · cases taken
        exact requeue_consistent settings state valid
  | endSession =>
      cases taken
      exact requeue_consistent settings state valid

theorem run_consistent (settings : Settings π) (events : List (Event π)) (state : State π)
    (reached : Machine.run (step settings) init events = some state) :
    Consistent settings state :=
  Machine.run_invariant (Consistent settings) (step_consistent settings) events init state
    (init_consistent settings) reached

/-- The loop of `_fill_window` is a run of its critical sections. -/
theorem fillLoop_run (settings : Settings π) (fuel : Nat) (state : State π) :
    ∃ count, Machine.run (step settings) state (List.replicate count .fillItem) =
      some (fillLoop settings fuel state) := by
  induction fuel generalizing state with
  | zero => exact ⟨0, rfl⟩
  | succ fuel ih =>
      unfold fillLoop
      split
      · exact ⟨0, rfl⟩
      · rename_i next taken
        obtain ⟨count, later⟩ := ih next
        refine ⟨count + 1, ?_⟩
        rw [List.replicate_succ, Machine.run_cons]
        change (fillItem settings state).bind _ = _
        rw [taken]
        exact later

theorem fillItem_pending {settings : Settings π} {state next : State π}
    (taken : fillItem settings state = some next) :
    next.pending.length = state.pending.length + 1 := by
  unfold fillItem at taken
  split at taken
  · cases buffered : state.buffer with
    | nil => simp [buffered] at taken
    | cons item rest =>
        simp only [buffered, Option.some.injEq] at taken
        subst taken
        simp
  · cases taken

/-- `window` iterations leave no iteration enabled. -/
theorem fillWindow_done (settings : Settings π) (state : State π) :
    fillItem settings (fillWindow settings state) = none := by
  have enough : ∀ fuel current, settings.window ≤ current.pending.length + fuel →
      fillItem settings (fillLoop settings fuel current) = none := by
    intro fuel
    induction fuel with
    | zero =>
        intro current full
        have closed : ¬ current.pending.length < settings.window := by omega
        simp only [fillLoop, fillItem, closed, ↓reduceIte]
    | succ fuel ih =>
        intro current reach
        unfold fillLoop
        split
        · assumption
        · rename_i next taken
          apply ih
          have longer := fillItem_pending taken
          omega
  exact enough settings.window state (Nat.le_add_left _ _)

/-- `drain` answers at its first idle poll. -/
theorem drain_last (before : List (State π)) (state : State π)
    (earlier : drain before = false) (answer : drain (before ++ [state]) = true) :
    state.idle = true := by
  induction before with
  | nil =>
      simp only [List.nil_append, drain] at answer
      split at answer
      · assumption
      · cases answer
  | cons first rest ih =>
      simp only [drain] at earlier
      split at earlier
      · cases earlier
      · rename_i busy
        rw [List.cons_append, drain, if_neg busy] at answer
        exact ih earlier answer

theorem Consistent.idle_outstanding {settings : Settings π} {state : State π}
    (valid : Consistent settings state) (idle : state.idle = true) : state.outstanding = [] := by
  simp only [State.idle, Bool.and_eq_true, List.isEmpty_iff, Option.isNone_iff_eq_none] at idle
  obtain ⟨buffer, marker⟩ := idle
  rw [valid.oldest, Option.map_eq_none_iff, List.head?_eq_none_iff] at marker
  rw [State.outstanding, marker, buffer, List.append_nil]

theorem Consistent.lag {settings : Settings π} {state : State π}
    (valid : Consistent settings state) (now : Nat) :
    publishLagMs state now = match state.outstanding.head? with
      | none => 0
      | some oldest => ((now : ℚ) - oldest.submitMonoNs) / 1000000 := by
  unfold publishLagMs State.outstanding
  rw [valid.oldest]
  cases state.pending with
  | nil => cases state.buffer <;> rfl
  | cons item rest => rfl

/-- In every state the publisher reaches, under any interleaving of its critical
sections: each submitted batch is in exactly one place and the counters add up;
the window followed by the buffer is in submission order; the byte count is
exact and within budget unless a single batch is buffered; `drain` answers only
when nothing is outstanding; and the lag is the age of the oldest outstanding batch. -/
theorem publisher_conserves_batches (settings : Settings π) (events : List (Event π))
    (state : State π) (reached : Machine.run (step settings) init events = some state) :
    state.submitted.length =
        state.published + state.publishDrops + state.pending.length + state.buffer.length ∧
      (state.acked ++ state.shed ++ (state.pending ++ state.buffer)).Perm state.submitted ∧
      ((state.acked ++ state.shed ++ (state.pending ++ state.buffer)).map
        QueuedBatch.order).Nodup ∧
      (state.pending ++ state.buffer).Pairwise (fun older newer => older.order < newer.order) ∧
      state.bufferBytes = Shedding.total settings.size state.buffer ∧
      (state.bufferBytes ≤ settings.bufferBytes ∨ state.buffer.length = 1) ∧
      (∀ before, drain before = false → drain (before ++ [state]) = true →
        (state.acked ++ state.shed).Perm state.submitted) ∧
      (∀ now, publishLagMs state now = match (state.pending ++ state.buffer).head? with
        | none => 0
        | some oldest => ((now : ℚ) - oldest.submitMonoNs) / 1000000) ∧
      (∀ oldest, (state.pending ++ state.buffer).head? = some oldest →
        ∀ other ∈ state.pending ++ state.buffer, other = oldest ∨ oldest.order < other.order) := by
  have valid := run_consistent settings events state reached
  refine ⟨?_, valid.places, ?_, valid.ordered, valid.bytes, valid.bounded, ?_, valid.lag, ?_⟩
  · have lengths := valid.places.length_eq
    simp only [State.outstanding, State.shed, List.length_append, List.length_map] at lengths
    rw [valid.publishedCount, valid.dropCount]
    omega
  · refine (List.Perm.nodup_iff (valid.places.map QueuedBatch.order)).mpr ?_
    rw [valid.numbered]
    exact List.nodup_range
  · intro before earlier answer
    have nothing := valid.idle_outstanding (drain_last before state earlier answer)
    have places := valid.places
    rw [nothing, List.append_nil] at places
    exact places
  · intro oldest first other member
    have ordered := valid.ordered
    unfold State.outstanding at ordered
    cases listed : state.pending ++ state.buffer with
    | nil => simp [listed] at member
    | cons head rest =>
        rw [listed] at first member ordered
        cases first
        rcases List.mem_cons.mp member with same | later
        · exact Or.inl same
        · exact Or.inr ((List.pairwise_cons.mp ordered).1 other later)

/-- Room for one batch of six bytes, with payloads represented by their size. -/
def tightSettings : Settings Nat := ⟨"car7", 2, 10, id, by decide⟩

/-- A batch goes in flight, a second one is buffered, and the first publish fails. -/
def failedPublish : List (Event Nat) :=
  [.submit ⟨"can0", 6, 1000, 0, "can0:1000"⟩ 5, .fillItem,
    .submit ⟨"can0", 6, 1020, 20000000, "can0:1020"⟩ 9, .failHead]

theorem failedPublish_conserves : ∃ state,
    Machine.run (step tightSettings) init failedPublish = some state ∧
      state.submitted.length =
        state.published + state.publishDrops + state.pending.length + state.buffer.length :=
  ⟨_, rfl, (publisher_conserves_batches tightSettings failedPublish _ rfl).1⟩

end OpenLaps.Publisher
