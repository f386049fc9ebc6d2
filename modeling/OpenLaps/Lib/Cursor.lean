import OpenLaps.Lib.Dict
import Mathlib.Order.Lattice
import Mathlib.Order.Nat

/- A consumer of a numbered stream that writes what it takes in, transaction by
transaction, together with a cursor: the highest sequence it has dealt with. The
database keeps the cursor and the log of transactions; cursor, buffer and the
list of pending messages are lost on a restart. Rows carry the sequence of the
message they come from. -/
namespace Cursor

universe u

variable {ρ : Type u}

def carries (sequence : Nat) (rows : List (Nat × ρ)) : Bool :=
  rows.any fun row => row.1 = sequence

theorem carries_iff (sequence : Nat) (rows : List (Nat × ρ)) :
    carries sequence rows = true ↔ ∃ row ∈ rows, row.1 = sequence := by
  simp [carries]

/-- A message that no row is tagged with has no rows. -/
theorem under_absent (sequence : Nat) (rows : List (Nat × ρ))
    (absent : ∀ row ∈ rows, row.1 ≠ sequence) : Dict.under rows sequence = [] := by
  rw [Dict.under_eq_nil, List.mem_map]
  rintro ⟨row, member, same⟩
  exact absent row member same

theorem under_tagged (sequence : Nat) (rows : List ρ) :
    Dict.under (rows.map (Prod.mk sequence)) sequence = rows := by
  induction rows with
  | nil => rfl
  | cons row rest ih =>
    rw [Dict.under] at ih
    simp only [Dict.under, List.map_cons, List.filter_cons, decide_true, if_true, ih]

theorem tagged_sequence {sequence : Nat} {rows : List ρ} {row : Nat × ρ}
    (tagged : row ∈ rows.map (Prod.mk sequence)) : row.1 = sequence := by
  obtain ⟨_, _, rfl⟩ := List.mem_map.mp tagged
  rfl

/-- `doubt` records that a transaction with rows of the present buffer has
committed although the consumer was told that it had not. -/
structure State (ρ : Type u) where
  committed : Nat
  log : List (List (Nat × ρ))
  acked : List Nat
  refused : List Nat
  cursor : Nat
  highest : Nat
  rows : List (Nat × ρ)
  pending : List Nat
  doubt : Bool

/-- What the stream asks of the consumer: which sequences have rows to be
written, and which lists of rows are all the rows of a message. -/
structure Demand (ρ : Type u) where
  batch : Nat → Prop
  whole : Nat → List ρ → Prop

inductive Action (ρ : Type u) where
  | stay
  /-- The memory is lost; the committed cursor is read back. -/
  | restart
  /-- A message the cursor or the buffer accounts for is acked. -/
  | skip (sequence : Nat) (lands : Bool)
  /-- A message without rows is acked. -/
  | ack (sequence : Nat) (lands : Bool)
  /-- A message that will never have rows is acked and counted as dealt with. -/
  | pass (sequence : Nat) (lands : Bool)
  | take (sequence : Nat) (rows : List ρ)
  | commit (landed : List Nat)
  /-- The transaction commits, and the consumer is told that it did not. -/
  | lose
  /-- The transaction is refused for good and given up. -/
  | drop (landed : List Nat)

namespace State

def acknowledge (state : State ρ) (sequence : Nat) (lands : Bool) : State ρ :=
  { state with acked := if lands then state.acked ++ [sequence] else state.acked }

/-- The transaction of the buffer and the highest sequence. -/
def write (state : State ρ) : State ρ :=
  { state with
    committed := max state.committed state.highest
    log := state.log ++ [state.rows] }

/-- The buffer is emptied and everything in it acked, as far as acks land. -/
def settle (state : State ρ) (landed : List Nat) : State ρ :=
  { state with
    acked := state.acked ++ state.pending.filter (· ∈ landed)
    cursor := max state.cursor state.highest
    rows := []
    pending := []
    doubt := false }

def apply (state : State ρ) : Action ρ → State ρ
  | .stay => state
  | .restart =>
    { state with
      cursor := state.committed
      highest := state.committed
      rows := []
      pending := []
      doubt := false }
  | .skip sequence lands => state.acknowledge sequence lands
  | .ack sequence lands => state.acknowledge sequence lands
  | .pass sequence lands =>
    { state.acknowledge sequence lands with highest := max state.highest sequence }
  | .take sequence rows =>
    { state with
      rows := state.rows ++ rows.map (Prod.mk sequence)
      pending := state.pending ++ [sequence]
      highest := max state.highest sequence }
  | .commit landed => state.write.settle landed
  | .lose => { state.write with doubt := !state.rows.isEmpty }
  | .drop landed => { state.settle landed with refused := state.refused ++ state.pending }

end State

/-- When the consumer may take an action. -/
def Enabled (demand : Demand ρ) (state : State ρ) : Action ρ → Prop
  | .skip sequence _ => sequence ≤ state.cursor ∨ sequence ∈ state.pending
  | .ack sequence _ => ¬ demand.batch sequence
  | .pass sequence _ => ¬ demand.batch sequence
  | .take sequence rows =>
    state.cursor < sequence ∧ sequence ∉ state.pending ∧ demand.whole sequence rows
  | _ => True

/-- The actions that put a transaction into the log. -/
def Action.commits : Action ρ → Bool
  | .commit _ => true
  | .lose => true
  | _ => false

/-- The message an action acks on the strength of the cursor in memory or of the
buffer. -/
def Action.skipped : Action ρ → Option Nat
  | .skip sequence true => some sequence
  | _ => none

/-- Some transaction of the log has rows of the message. -/
def Logged (state : State ρ) (sequence : Nat) : Prop :=
  ∃ rows ∈ state.log, carries sequence rows = true

/-- What holds in every state, whatever the stream and the database do. -/
structure Sound (demand : Demand ρ) (state : State ρ) : Prop where
  cursor_le : state.cursor ≤ state.highest
  committed_le : state.committed ≤ state.highest
  pending_above : ∀ sequence ∈ state.pending, state.cursor < sequence
  pending_le : ∀ sequence ∈ state.pending, sequence ≤ state.highest
  pending_whole : ∀ sequence ∈ state.pending, demand.whole sequence (Dict.under state.rows sequence)
  rows_pending : ∀ row ∈ state.rows, row.1 ∈ state.pending
  logged_le : ∀ sequence, Logged state sequence → sequence ≤ state.committed
  logged_settled : ∀ sequence, Logged state sequence →
    sequence ≤ state.cursor ∨ sequence ∈ state.pending
  doubt_iff : state.doubt = true ↔ ∃ row ∈ state.rows, Logged state row.1

theorem logged_write (state : State ρ) (sequence : Nat) :
    Logged state.write sequence ↔ Logged state sequence ∨ carries sequence state.rows = true := by
  simp only [Logged, State.write, List.mem_append, List.mem_singleton, or_and_right, exists_or,
    exists_eq_left]

variable {demand : Demand ρ} {state : State ρ}

theorem Sound.not_logged (valid : Sound demand state) {sequence : Nat}
    (above : state.cursor < sequence) (unseen : sequence ∉ state.pending) :
    ¬ Logged state sequence := by
  intro logged
  rcases valid.logged_settled sequence logged with below | present
  · omega
  · exact unseen present

theorem Sound.carried_pending (valid : Sound demand state) {sequence : Nat}
    (carried : carries sequence state.rows = true) : sequence ∈ state.pending := by
  obtain ⟨row, member, same⟩ := (carries_iff sequence state.rows).mp carried
  rw [← same]
  exact valid.rows_pending row member

theorem Sound.under_rows (valid : Sound demand state) {sequence : Nat}
    (absent : sequence ∉ state.pending) : Dict.under state.rows sequence = [] := by
  apply under_absent
  intro row member same
  exact absent (same ▸ valid.rows_pending row member)

theorem Sound.logged_write_le (valid : Sound demand state) {sequence : Nat}
    (logged : Logged state.write sequence) : sequence ≤ max state.committed state.highest := by
  rcases (logged_write state sequence).mp logged with before | carried
  · have below := valid.logged_le sequence before
    omega
  · have below := valid.pending_le sequence (valid.carried_pending carried)
    omega

theorem Sound.acknowledge (valid : Sound demand state) (sequence : Nat) (lands : Bool) :
    Sound demand (state.acknowledge sequence lands) :=
  ⟨valid.cursor_le, valid.committed_le, valid.pending_above, valid.pending_le,
    valid.pending_whole, valid.rows_pending, valid.logged_le, valid.logged_settled,
    valid.doubt_iff⟩

theorem Sound.restart (valid : Sound demand state) : Sound demand (state.apply .restart) where
  cursor_le := le_refl _
  committed_le := le_refl _
  pending_above := fun _ member => nomatch member
  pending_le := fun _ member => nomatch member
  pending_whole := fun _ member => nomatch member
  rows_pending := fun _ member => nomatch member
  logged_le := valid.logged_le
  logged_settled := fun sequence logged => Or.inl (valid.logged_le sequence logged)
  doubt_iff := by simp [State.apply]

theorem Sound.pass (valid : Sound demand state) (sequence : Nat) (lands : Bool) :
    Sound demand (state.apply (.pass sequence lands)) := by
  have cursor := valid.cursor_le
  have committed := valid.committed_le
  refine ⟨?_, ?_, valid.pending_above, ?_, valid.pending_whole, valid.rows_pending,
    valid.logged_le, valid.logged_settled, valid.doubt_iff⟩
  · show state.cursor ≤ max state.highest sequence
    omega
  · show state.committed ≤ max state.highest sequence
    omega
  · intro other member
    have below := valid.pending_le other member
    show other ≤ max state.highest sequence
    omega

/-- A message that was not pending brings its own rows and no others. -/
theorem Sound.take_whole (valid : Sound demand state) {sequence : Nat} {rows : List ρ}
    (unseen : sequence ∉ state.pending) (whole : demand.whole sequence rows) {other : Nat}
    (member : other ∈ state.pending ++ [sequence]) :
    demand.whole other (Dict.under (state.rows ++ rows.map (Prod.mk sequence)) other) := by
  rw [Dict.under_append]
  by_cases same : other = sequence
  · rw [same, valid.under_rows unseen, under_tagged, List.nil_append]
    exact whole
  · have old : other ∈ state.pending := by simpa [same] using member
    have none : Dict.under (rows.map (Prod.mk sequence)) other = [] := by
      apply under_absent
      intro row tagged equal
      exact same (equal.symm.trans (tagged_sequence tagged))
    rw [none, List.append_nil]
    exact valid.pending_whole other old

theorem Sound.take_doubt (valid : Sound demand state) {sequence : Nat} (rows : List ρ)
    (above : state.cursor < sequence) (unseen : sequence ∉ state.pending) :
    state.doubt = true ↔
      ∃ row ∈ state.rows ++ rows.map (Prod.mk sequence), Logged state row.1 := by
  rw [valid.doubt_iff]
  constructor
  · intro ⟨row, member, logged⟩
    exact ⟨row, List.mem_append_left _ member, logged⟩
  · intro ⟨row, member, logged⟩
    rcases List.mem_append.mp member with old | new
    · exact ⟨row, old, logged⟩
    · rw [tagged_sequence new] at logged
      exact absurd logged (valid.not_logged above unseen)

theorem Sound.take (valid : Sound demand state) (sequence : Nat) (rows : List ρ)
    (above : state.cursor < sequence) (unseen : sequence ∉ state.pending)
    (whole : demand.whole sequence rows) : Sound demand (state.apply (.take sequence rows)) := by
  have cursor := valid.cursor_le
  have committed := valid.committed_le
  refine ⟨?_, ?_, ?_, ?_, fun other => valid.take_whole unseen whole, ?_, valid.logged_le, ?_,
    valid.take_doubt rows above unseen⟩
  · show state.cursor ≤ max state.highest sequence
    omega
  · show state.committed ≤ max state.highest sequence
    omega
  · intro other member
    rcases List.mem_append.mp member with old | new
    · exact valid.pending_above other old
    · rw [List.mem_singleton.mp new]
      exact above
  · intro other member
    show other ≤ max state.highest sequence
    rcases List.mem_append.mp member with old | new
    · have below := valid.pending_le other old
      omega
    · have same := List.mem_singleton.mp new
      omega
  · intro row member
    rcases List.mem_append.mp member with old | new
    · exact List.mem_append_left _ (valid.rows_pending row old)
    · rw [tagged_sequence new]
      exact List.mem_append_right _ (List.mem_singleton_self sequence)
  · intro other logged
    rcases valid.logged_settled other logged with below | present
    · exact Or.inl below
    · exact Or.inr (List.mem_append_left _ present)

/-- Emptying the buffer is sound once the cursor has passed everything in it. -/
theorem Sound.settle (valid : Sound demand state) (landed : List Nat) :
    Sound demand (state.settle landed) where
  cursor_le := max_le valid.cursor_le (le_refl _)
  committed_le := valid.committed_le
  pending_above := fun _ member => nomatch member
  pending_le := fun _ member => nomatch member
  pending_whole := fun _ member => nomatch member
  rows_pending := fun _ member => nomatch member
  logged_le := valid.logged_le
  logged_settled := by
    intro sequence logged
    left
    show sequence ≤ max state.cursor state.highest
    rcases valid.logged_settled sequence logged with below | present
    · omega
    · have reached := valid.pending_le sequence present
      omega
  doubt_iff := by simp [State.settle]

theorem Sound.lose (valid : Sound demand state) : Sound demand (state.apply .lose) := by
  refine ⟨valid.cursor_le, max_le valid.committed_le (le_refl _), valid.pending_above,
    valid.pending_le, valid.pending_whole, valid.rows_pending,
    fun _ => valid.logged_write_le, ?_, ?_⟩
  · intro sequence logged
    rcases (logged_write state sequence).mp logged with before | carried
    · exact valid.logged_settled sequence before
    · exact Or.inr (valid.carried_pending carried)
  · change (!state.rows.isEmpty) = true ↔ ∃ row ∈ state.rows, Logged state.write row.1
    constructor
    · intro filled
      cases held : state.rows with
      | nil => simp [held] at filled
      | cons row rest =>
        refine ⟨row, List.mem_cons_self, (logged_write state row.1).mpr (Or.inr ?_)⟩
        exact (carries_iff row.1 state.rows).mpr ⟨row, held ▸ List.mem_cons_self, rfl⟩
    · intro ⟨row, member, _⟩
      cases held : state.rows with
      | nil => simp [held] at member
      | cons first rest => rfl

theorem Sound.commit (valid : Sound demand state) (landed : List Nat) :
    Sound demand (state.apply (.commit landed)) := by
  -- up to the flag, a commit is a lost commit followed by emptying the buffer
  have settled := valid.lose.settle landed
  exact ⟨settled.cursor_le, settled.committed_le, settled.pending_above, settled.pending_le,
    settled.pending_whole, settled.rows_pending, settled.logged_le, settled.logged_settled,
    settled.doubt_iff⟩

theorem Sound.drop (valid : Sound demand state) (landed : List Nat) :
    Sound demand (state.apply (.drop landed)) := by
  have settled := valid.settle landed
  exact ⟨settled.cursor_le, settled.committed_le, settled.pending_above, settled.pending_le,
    settled.pending_whole, settled.rows_pending, settled.logged_le, settled.logged_settled,
    settled.doubt_iff⟩

theorem Sound.apply (valid : Sound demand state) {action : Action ρ}
    (enabled : Enabled demand state action) : Sound demand (state.apply action) := by
  cases action with
  | stay => exact valid
  | restart => exact valid.restart
  | skip sequence lands => exact valid.acknowledge sequence lands
  | ack sequence lands => exact valid.acknowledge sequence lands
  | pass sequence lands => exact valid.pass sequence lands
  | take sequence rows => exact valid.take sequence rows enabled.1 enabled.2.1 enabled.2.2
  | commit landed => exact valid.commit landed
  | lose => exact valid.lose
  | drop landed => exact valid.drop landed

/-- Committing actions extend the log by the buffer and raise the cursor to the
highest sequence; the others leave log and cursor alone. -/
theorem apply_log (state : State ρ) (action : Action ρ) :
    (state.apply action).log = (if action.commits then state.log ++ [state.rows] else state.log) ∧
      (state.apply action).committed =
        (if action.commits then max state.committed state.highest else state.committed) := by
  cases action <;> exact ⟨rfl, rfl⟩

theorem refused_apply (state : State ρ) (action : Action ρ) {sequence : Nat}
    (listed : sequence ∈ state.refused) : sequence ∈ (state.apply action).refused := by
  cases action with
  | drop landed => exact List.mem_append_left _ listed
  | _ => exact listed

/- Three properties of the machine, each with the actions that keep it and the actions that
break it, and what the log holds after any action. -/

/-- No message has rows in two transactions. -/
def AtMostOnce (state : State ρ) : Prop :=
  ∀ sequence, state.log.countP (carries sequence) ≤ 1

theorem countP_write (state : State ρ) (sequence : Nat) :
    (state.log ++ [state.rows]).countP (carries sequence) =
      state.log.countP (carries sequence) + if carries sequence state.rows then 1 else 0 := by
  rw [List.countP_append, List.countP_singleton]

theorem countP_unlogged {sequence : Nat} (unlogged : ¬ Logged state sequence) :
    state.log.countP (carries sequence) = 0 := by
  rw [List.countP_eq_zero]
  intro rows member carried
  exact unlogged ⟨rows, member, carried⟩

theorem atMostOnce_apply (valid : Sound demand state) (once : AtMostOnce state)
    (action : Action ρ) (clear : action.commits = true → state.doubt = false) :
    AtMostOnce (state.apply action) := by
  intro sequence
  rw [(apply_log state action).1]
  by_cases commits : action.commits = true
  · rw [if_pos commits, countP_write]
    by_cases carried : carries sequence state.rows = true
    · have unlogged : ¬ Logged state sequence := by
        intro logged
        obtain ⟨row, member, same⟩ := (carries_iff sequence state.rows).mp carried
        have doubted := valid.doubt_iff.mpr ⟨row, member, same ▸ logged⟩
        rw [clear commits] at doubted
        cases doubted
      rw [countP_unlogged unlogged, if_pos carried]
    · rw [if_neg carried]
      exact once sequence
  · rw [if_neg commits]
    exact once sequence

/-- A commit in doubt writes some rows for the second time. -/
theorem atMostOnce_needed (valid : Sound demand state) (action : Action ρ)
    (once : AtMostOnce (state.apply action)) (commits : action.commits = true) :
    state.doubt = false := by
  by_contra doubted
  rw [Bool.not_eq_false] at doubted
  obtain ⟨row, member, rows, logged, carried⟩ := valid.doubt_iff.mp doubted
  have before : 0 < state.log.countP (carries row.1) :=
    List.countP_pos_iff.mpr ⟨rows, logged, carried⟩
  have again : carries row.1 state.rows = true := (carries_iff _ _).mpr ⟨row, member, rfl⟩
  have twice := once row.1
  rw [(apply_log state action).1, if_pos commits, countP_write, if_pos again] at twice
  omega

/-- Every message up to the committed cursor has all its rows in the log, or was
refused. -/
def NoLoss (demand : Demand ρ) (state : State ρ) : Prop :=
  ∀ sequence, demand.batch sequence → sequence ≤ state.committed → sequence ∉ state.refused →
    ∃ rows ∈ state.log, demand.whole sequence (Dict.under rows sequence)

/-- Every message that has rows and lies between the committed cursor and the
highest sequence is in the buffer, or was refused. -/
def Gapless (demand : Demand ρ) (state : State ρ) : Prop :=
  ∀ sequence, demand.batch sequence → ¬ demand.whole sequence [] →
    state.committed < sequence → sequence ≤ state.highest → sequence ∉ state.refused →
    sequence ∈ state.pending

theorem noLoss_apply (valid : Sound demand state) (kept : NoLoss demand state)
    (action : Action ρ) (gapless : action.commits = true → Gapless demand state) :
    NoLoss demand (state.apply action) := by
  intro sequence batch below unrefused
  have stillUnrefused : sequence ∉ state.refused :=
    fun listed => unrefused (refused_apply state action listed)
  rw [(apply_log state action).2] at below
  rw [(apply_log state action).1]
  by_cases commits : action.commits = true
  · rw [if_pos commits] at below ⊢
    by_cases earlier : sequence ≤ state.committed
    · obtain ⟨rows, member, whole⟩ := kept sequence batch earlier stillUnrefused
      exact ⟨rows, List.mem_append_left _ member, whole⟩
    · refine ⟨state.rows, List.mem_append_right _ (List.mem_singleton_self _), ?_⟩
      by_cases present : sequence ∈ state.pending
      · exact valid.pending_whole sequence present
      · -- not in the buffer, so it has no rows to lose
        rw [valid.under_rows present]
        by_contra filled
        have reached : sequence ≤ state.highest := by omega
        exact present (gapless commits sequence batch filled (Nat.lt_of_not_le earlier) reached
          stillUnrefused)
  · rw [if_neg commits] at below ⊢
    exact kept sequence batch below stillUnrefused

/-- A commit over a gap loses the message in the gap. -/
theorem noLoss_needed (valid : Sound demand state) (action : Action ρ)
    (kept : NoLoss demand (state.apply action)) (commits : action.commits = true) :
    Gapless demand state := by
  intro sequence batch filled above reached unrefused
  have same : (state.apply action).refused = state.refused := by
    cases action with
    | drop landed => cases commits
    | _ => rfl
  have below : sequence ≤ (state.apply action).committed := by
    rw [(apply_log state action).2, if_pos commits]
    omega
  obtain ⟨rows, member, whole⟩ := kept sequence batch below (same ▸ unrefused)
  rw [(apply_log state action).1, if_pos commits] at member
  rcases List.mem_append.mp member with logged | new
  · have absent : Dict.under rows sequence = [] := by
      apply under_absent
      intro row listed tagged
      have inLog : Logged state sequence :=
        ⟨rows, logged, (carries_iff sequence rows).mpr ⟨row, listed, tagged⟩⟩
      have := valid.logged_le sequence inLog
      omega
    rw [absent] at whole
    exact absurd whole filled
  · rw [List.mem_singleton.mp new] at whole
    by_contra absent
    rw [valid.under_rows absent] at whole
    exact filled whole

/-- An acked message is covered by the committed cursor, or was refused. -/
def AckedCovered (demand : Demand ρ) (state : State ρ) : Prop :=
  ∀ sequence ∈ state.acked, demand.batch sequence → sequence ∉ state.refused →
    sequence ≤ state.committed

/-- The message is covered by the committed cursor, or was refused. -/
def Safe (demand : Demand ρ) (state : State ρ) (sequence : Nat) : Prop :=
  demand.batch sequence → sequence ∉ state.refused → sequence ≤ state.committed

theorem ackedCovered_acknowledge (covered : AckedCovered demand state) {sequence : Nat}
    {lands : Bool} (safe : lands = true → Safe demand state sequence) :
    AckedCovered demand (state.acknowledge sequence lands) := by
  intro other member
  cases lands with
  | false => exact covered other member
  | true =>
    rcases List.mem_append.mp member with old | new
    · exact covered other old
    · rw [List.mem_singleton.mp new]
      exact safe rfl

theorem ackedCovered_apply (valid : Sound demand state) (covered : AckedCovered demand state)
    {action : Action ρ} (enabled : Enabled demand state action)
    (safe : ∀ sequence, action.skipped = some sequence → Safe demand state sequence) :
    AckedCovered demand (state.apply action) := by
  have grown : ∀ sequence ∈ state.acked, demand.batch sequence → sequence ∉ state.refused →
      sequence ≤ max state.committed state.highest := by
    intro sequence member batch unrefused
    have below := covered sequence member batch unrefused
    omega
  cases action with
  | stay => exact covered
  | restart => exact covered
  | take sequence rows => exact covered
  | lose => exact grown
  | skip sequence lands =>
    apply ackedCovered_acknowledge covered
    intro landed
    rw [landed] at safe
    exact safe sequence rfl
  | ack sequence lands =>
    exact ackedCovered_acknowledge covered fun _ batch => absurd batch enabled
  | pass sequence lands =>
    exact ackedCovered_acknowledge covered fun _ batch => absurd batch enabled
  | commit landed =>
    intro sequence member batch unrefused
    rcases List.mem_append.mp member with old | new
    · exact grown sequence old batch unrefused
    · have pending := (List.mem_filter.mp new).1
      have reached := valid.pending_le sequence pending
      show sequence ≤ max state.committed state.highest
      omega
  | drop landed =>
    intro sequence member batch unrefused
    rcases List.mem_append.mp member with old | new
    · exact covered sequence old batch fun listed =>
        unrefused (List.mem_append_left _ listed)
    · exact absurd (List.mem_append_right _ (List.mem_filter.mp new).1) unrefused

theorem ackedCovered_needed (action : Action ρ) (covered : AckedCovered demand (state.apply action))
    {sequence : Nat} (skipped : action.skipped = some sequence) : Safe demand state sequence := by
  cases action with
  | skip other lands =>
    cases lands with
    | false => cases skipped
    | true =>
      cases skipped
      exact covered sequence (List.mem_append_right _ (List.mem_singleton_self _))
  | _ => cases skipped

/-- Every message a transaction has rows of is there with all its rows. -/
def LogWhole (demand : Demand ρ) (state : State ρ) : Prop :=
  ∀ rows ∈ state.log, ∀ row ∈ rows, demand.whole row.1 (Dict.under rows row.1)

theorem logWhole_apply (valid : Sound demand state) (logWhole : LogWhole demand state)
    (action : Action ρ) : LogWhole demand (state.apply action) := by
  intro rows member
  rw [(apply_log state action).1] at member
  by_cases commits : action.commits = true
  · rw [if_pos commits] at member
    rcases List.mem_append.mp member with old | new
    · exact logWhole rows old
    · rw [List.mem_singleton.mp new]
      intro row listed
      exact valid.pending_whole row.1 (valid.rows_pending row listed)
  · rw [if_neg commits] at member
    exact logWhole rows member

/-- The log has all rows of every message noted, and rows of no others. -/
structure Noted (demand : Demand ρ) (state : State ρ) (noted : List Nat) : Prop where
  written : ∀ sequence ∈ noted, ∃ rows ∈ state.log, demand.whole sequence (Dict.under rows sequence)
  known : ∀ rows ∈ state.log, ∀ row ∈ rows, row.1 ∈ noted

theorem Noted.apply {noted : List Nat} (valid : Sound demand state)
    (recorded : Noted demand state noted) (action : Action ρ) :
    Noted demand (state.apply action)
      (noted ++ if action.commits then state.pending else []) := by
  have log := (apply_log state action).1
  by_cases commits : action.commits = true
  · rw [if_pos commits] at log ⊢
    constructor
    · intro sequence member
      rw [log]
      rcases List.mem_append.mp member with old | new
      · obtain ⟨rows, listed, whole⟩ := recorded.written sequence old
        exact ⟨rows, List.mem_append_left _ listed, whole⟩
      · exact ⟨state.rows, List.mem_append_right _ (List.mem_singleton_self _),
          valid.pending_whole sequence new⟩
    · intro rows member row listed
      rw [log] at member
      rcases List.mem_append.mp member with old | new
      · exact List.mem_append_left _ (recorded.known rows old row listed)
      · rw [List.mem_singleton.mp new] at listed
        exact List.mem_append_right _ (valid.rows_pending row listed)
  · rw [if_neg commits] at log ⊢
    rw [List.append_nil]
    constructor
    · rw [log]
      exact recorded.written
    · rw [log]
      exact recorded.known

end Cursor
