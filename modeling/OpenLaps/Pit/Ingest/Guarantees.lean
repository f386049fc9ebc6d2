import OpenLaps.Lib.Cursor
import OpenLaps.Lib.Machine
import OpenLaps.Pit.Ingest.Refinement

/- What the cursor does and does not guarantee: no loss, at most once, acks after
commits. Each holds in exactly the runs in which one kind of step is absent. -/
namespace OpenLaps.Ingest

theorem init_valid (site : Site) : System.init.Valid site where
  up := fun _ _ up => nomatch up
  down := fun _ => rfl

theorem init_sound (site : Site) : Cursor.Sound (demand site) System.init.view where
  cursor_le := le_refl 0
  committed_le := le_refl 0
  pending_above := fun _ member => nomatch member
  pending_le := fun _ member => nomatch member
  pending_whole := fun _ member => nomatch member
  rows_pending := fun _ member => nomatch member
  logged_le := fun _ logged => nomatch logged
  logged_settled := fun _ logged => nomatch logged
  doubt_iff := by simp [System.init, System.view]

/-- A property of the cursor machine that its actions keep exactly when they are
permitted holds throughout exactly the runs of permitted steps. -/
theorem always_iff_permitted (site : Site) (holds : Cursor.State SampleRow → Prop)
    (permitted : Cursor.State SampleRow → Bool → Option Nat → Prop)
    (start : holds System.init.view)
    (kept : ∀ state action, Cursor.Sound (demand site) state → holds state →
      Cursor.Enabled (demand site) state action →
      permitted state action.commits action.skipped → holds (state.apply action))
    (needed : ∀ state action, Cursor.Sound (demand site) state → holds (state.apply action) →
      permitted state action.commits action.skipped) (events : List Event) :
    Machine.Always (System.step site) (fun system => holds system.view) .init events ↔
      Machine.Along (System.step site)
        (fun system event => permitted system.view (system.commits event) (system.skips event))
        .init events := by
  apply Machine.always_iff_along fun system =>
    system.Valid site ∧ Cursor.Sound (demand site) system.view ∧ holds system.view
  · exact fun _ known => known.2.2
  · rintro system event next ⟨valid, sound, held⟩ allowed taken
    obtain ⟨still, action, enabled, effect, commits, skipped⟩ := step_refined valid taken
    rw [← commits, ← skipped] at allowed
    refine ⟨still, ?_, ?_⟩
    · rw [effect]
      exact sound.apply enabled
    · rw [effect]
      exact kept system.view action sound held enabled allowed
  · rintro system event next ⟨valid, sound, _⟩ taken held
    obtain ⟨_, action, _, effect, commits, skipped⟩ := step_refined valid taken
    rw [← commits, ← skipped]
    rw [effect] at held
    exact needed system.view action sound held
  · exact ⟨init_valid site, init_sound site, start⟩

theorem Site.SupportedBatch.whole_iff {site : Site} {message : Msg} {batch : SampleBatch}
    (supported : site.SupportedBatch message batch) (rows : List SampleRow) :
    (demand site).whole message.sequence rows ↔ site.AllRows batch rows := by
  constructor
  · rintro ⟨other, parsed, listed, same, all⟩
    have equal := site.sequence_inj listed.listed supported.listed same
    rw [equal] at listed
    rwa [Option.some.inj (supported.parsed.symm.trans listed.parsed)]
  · exact fun all => ⟨message, batch, supported, rfl, all⟩

theorem commits_up {system : System} {event : Event} (commits : system.commits event = true) :
    ∃ writer phase, system.process = .up writer phase := by
  cases up : system.process with
  | up writer phase => exact ⟨writer, phase, rfl⟩
  | down =>
    rw [(quiet_down up event).commits] at commits
    cases commits

namespace System

/-- All sample rows of the message are in a committed transaction. -/
def RowsCommitted (site : Site) (system : System) (message : Msg) (batch : SampleBatch) : Prop :=
  ∃ transaction ∈ system.db.transactions,
    site.AllRows batch (Dict.under transaction.rows message.sequence)

/-- Every supported batch message up to the committed cursor has its rows
committed, unless its flush was refused twice. -/
def NoLoss (site : Site) (system : System) : Prop :=
  ∀ message batch, site.SupportedBatch message batch → message.sequence ≤ system.db.cursor →
    message.sequence ∉ system.refused → system.RowsCommitted site message batch

/-- A flush that commits has in its buffer every supported batch message above
the committed cursor and not above `_max_seq`, other than those without sample
rows and those of flushes refused twice. -/
def CommitsGapless (site : Site) (system : System) (event : Event) : Prop :=
  ∀ writer phase, system.process = .up writer phase → system.commits event = true →
    ∀ message batch, site.SupportedBatch message batch → ¬ site.AllRows batch [] →
      system.db.cursor < message.sequence → message.sequence ≤ writer.maxSeq →
      message.sequence ∉ system.refused → message.sequence ∈ writer.pending.map Msg.sequence

theorem noLoss_view (site : Site) (system : System) :
    system.NoLoss site ↔ Cursor.NoLoss (demand site) system.view := by
  rw [Cursor.NoLoss, view_committed, view_log, view_refused]
  constructor
  · rintro kept _ ⟨message, batch, supported, rfl⟩ below unrefused
    obtain ⟨transaction, member, all⟩ := kept message batch supported below unrefused
    exact ⟨transaction.rows, List.mem_map_of_mem member, (supported.whole_iff _).mpr all⟩
  · intro kept message batch supported below unrefused
    obtain ⟨rows, member, whole⟩ :=
      kept message.sequence ⟨message, batch, supported, rfl⟩ below unrefused
    obtain ⟨transaction, listed, rfl⟩ := List.mem_map.mp member
    exact ⟨transaction, listed, (supported.whole_iff _).mp whole⟩

theorem commitsGapless_view (site : Site) (system : System) (event : Event) :
    system.CommitsGapless site event ↔
      (system.commits event = true → Cursor.Gapless (demand site) system.view) := by
  constructor
  · rintro gapless commits _ ⟨message, batch, supported, rfl⟩ filled
    obtain ⟨writer, phase, up⟩ := commits_up commits
    rw [view_up up]
    rw [supported.whole_iff] at filled
    exact gapless writer phase up commits message batch supported filled
  · intro gapless writer phase up commits message batch supported filled
    have viewed := gapless commits message.sequence ⟨message, batch, supported, rfl⟩
      (fun whole => filled ((supported.whole_iff []).mp whole))
    rw [view_up up] at viewed
    exact viewed

end System

/-- No loss holds throughout a run exactly when no flush of the run commits over
a gap. -/
theorem noLoss_iff (site : Site) (events : List Event) :
    Machine.Always (System.step site) (System.NoLoss site) .init events ↔
      Machine.Along (System.step site) (System.CommitsGapless site) .init events := by
  have property : System.NoLoss site = fun system => Cursor.NoLoss (demand site) system.view :=
    funext fun system => propext (system.noLoss_view site)
  have condition : System.CommitsGapless site = fun system event =>
      system.commits event = true → Cursor.Gapless (demand site) system.view :=
    funext fun system => funext fun event => propext (system.commitsGapless_view site event)
  rw [property, condition]
  apply always_iff_permitted site (Cursor.NoLoss (demand site))
    (fun state commits _ => commits = true → Cursor.Gapless (demand site) state)
  · rintro sequence ⟨message, _, supported, rfl⟩ below
    have positive := site.positive message supported.listed
    exact absurd below (Nat.not_le_of_lt positive)
  · exact fun state action sound kept _ => Cursor.noLoss_apply sound kept action
  · exact fun state action sound kept => Cursor.noLoss_needed sound action kept

/-- One generation with one channel. -/
def rpmRegistry : ChannelRegistry :=
  ⟨1, "car1", 1700000000000, [⟨1, "car.rpm", "can:rpm", "rpm", .double, 0, 0⟩]⟩

def rpmBatch (rpm : ℚ) : SampleBatch := ⟨1, 1700000000000, 1, [⟨1, 0, some (.d (.finite rpm))⟩], 1⟩

def registryMessage : Msg := ⟨1, some "registry", "tele.car1.catalog", some rpmRegistry, none⟩

def batchMessage (sequence : Nat) : Msg :=
  ⟨sequence, some "batch", "tele.car1.can", none, some (rpmBatch 4000)⟩

/-- A stream of one registry and two batches, without lap events. -/
def trackside : Site where
  settings :=
    { vehicleId := "car1"
      batchRows := 5000
      fetchBatch := 500
      maxBufferedRows := 200000
      text := ⟨fun _ => false, fun _ => none, fun _ => none, fun _ => none, fun _ => ""⟩
      channelKey := fun _ => 1 }
  stream := [registryMessage, batchMessage 2, batchMessage 3]
  positive := by decide
  ordered := by decide

theorem trackside_supported (sequence : Nat) (listed : batchMessage sequence ∈ trackside.stream) :
    trackside.SupportedBatch (batchMessage sequence) (rpmBatch 4000) :=
  ⟨listed, rfl, rfl, rfl⟩

theorem trackside_rows : ¬ trackside.AllRows (rpmBatch 4000) [] := by
  rintro ⟨registry, ⟨message, listed, parsed, _⟩, _, none⟩
  have only : registry = rpmRegistry := by
    rcases List.mem_cons.mp listed with rfl | later
    · exact (Option.some.inj parsed).symm
    · rcases List.mem_cons.mp later with rfl | last
      · cases parsed
      · rw [List.mem_singleton.mp last] at parsed
        cases parsed
  rw [only] at none
  have one : ((batchRows trackside.settings rpmRegistry (rpmBatch 4000)).toOption.map
      List.length) = some 1 := by decide +kernel
  rw [none] at one
  cases one

/-- The fetch that carried message 2 fails; message 3 is delivered and committed
before message 2 comes again. -/
def gapRun : List Event :=
  [.start [registryMessage], .fetch [registryMessage], .handle true, .settle false,
    .fetchFails [batchMessage 2], .fetch [batchMessage 3], .handle true, .settle true,
    .flush ⟨.committed, .committed, [3]⟩]

theorem gapRun_loses : ¬ ∀ (site : Site) (events : List Event) (final : System),
    Machine.run (System.step site) .init events = some final → final.NoLoss site := by
  intro always
  have ends : ((Machine.run (System.step trackside) .init gapRun).map fun final =>
      (final.db.cursor, final.db.transactions.map fun transaction =>
        (Dict.under transaction.rows 2).length, final.refused)) = some (3, [0], []) := by
    decide +kernel
  obtain ⟨final, reached, same⟩ := Option.map_eq_some_iff.mp ends
  simp only [Prod.mk.injEq] at same
  obtain ⟨cursor, lengths, refused⟩ := same
  obtain ⟨transaction, member, all⟩ := always trackside gapRun final reached (batchMessage 2)
    (rpmBatch 4000) (trackside_supported 2 (by decide)) (by rw [cursor]; decide)
    (by rw [refused]; exact List.not_mem_nil)
  have empty : (Dict.under transaction.rows 2).length = 0 := by
    have counted := List.mem_map_of_mem member
      (f := fun transaction : Transaction => (Dict.under transaction.rows 2).length)
    rw [lengths] at counted
    exact List.mem_singleton.mp counted
  change trackside.AllRows (rpmBatch 4000) (Dict.under transaction.rows 2) at all
  rw [List.length_eq_zero_iff.mp empty] at all
  exact trackside_rows all

namespace System

/-- The committed transactions that insert rows of a message. -/
def insertions (system : System) (sequence : Nat) : Nat :=
  system.db.transactions.countP fun transaction => Cursor.carries sequence transaction.rows

def AtMostOnce (system : System) : Prop := ∀ sequence, system.insertions sequence ≤ 1

/-- No transaction commits while the buffer holds rows of an earlier one whose
commit reply was lost. -/
def CommitsUndoubted (system : System) (event : Event) : Prop :=
  system.commits event = true → system.doubt = false

theorem atMostOnce_view (system : System) :
    system.AtMostOnce ↔ Cursor.AtMostOnce system.view := by
  have counted : ∀ sequence, system.view.log.countP (Cursor.carries sequence) =
      system.insertions sequence := by
    intro sequence
    rw [view_log, List.countP_map]
    rfl
  constructor
  · exact fun once sequence => (counted sequence).le.trans (once sequence)
  · exact fun once sequence => (counted sequence).ge.trans (once sequence)

theorem commitsUndoubted_view (system : System) (event : Event) :
    system.CommitsUndoubted event ↔
      (system.commits event = true → system.view.doubt = false) := by
  constructor
  · intro undoubted commits
    obtain ⟨writer, phase, up⟩ := commits_up commits
    rw [view_up up]
    exact undoubted commits
  · intro undoubted commits
    obtain ⟨writer, phase, up⟩ := commits_up commits
    have viewed := undoubted commits
    rw [view_up up] at viewed
    exact viewed

end System

/-- At most once holds throughout a run exactly when nothing is committed in
doubt. -/
theorem atMostOnce_iff (site : Site) (events : List Event) :
    Machine.Always (System.step site) System.AtMostOnce .init events ↔
      Machine.Along (System.step site) System.CommitsUndoubted .init events := by
  have property : System.AtMostOnce = fun system => Cursor.AtMostOnce system.view :=
    funext fun system => propext system.atMostOnce_view
  have condition : System.CommitsUndoubted = fun system event =>
      system.commits event = true → system.view.doubt = false :=
    funext fun system => funext fun event => propext (system.commitsUndoubted_view event)
  rw [property, condition]
  apply always_iff_permitted site Cursor.AtMostOnce
    (fun state commits _ => commits = true → state.doubt = false)
  · exact fun sequence => Nat.zero_le 1
  · exact fun state action sound once _ => Cursor.atMostOnce_apply sound once action
  · exact fun state action sound once => Cursor.atMostOnce_needed sound action once

/-- The reply to the commit of message 2 is lost, and the kept buffer is flushed
again. -/
def lostReplyRun : List Event :=
  [.start [registryMessage], .fetch [registryMessage, batchMessage 2], .handle true, .handle true,
    .settle true, .flush ⟨.lost, .committed, []⟩, .fetch [], .settle true,
    .flush ⟨.committed, .committed, [2]⟩]

theorem lostReplyRun_repeats : ¬ ∀ (site : Site) (events : List Event) (final : System),
    Machine.run (System.step site) .init events = some final → final.AtMostOnce := by
  intro always
  have ends : ((Machine.run (System.step trackside) .init lostReplyRun).map fun final =>
      final.insertions 2) = some 2 := by
    decide +kernel
  obtain ⟨final, reached, twice⟩ := Option.map_eq_some_iff.mp ends
  have once := always trackside lostReplyRun final reached 2
  omega

namespace System

/-- A supported batch message is acked only if the committed cursor covers it,
unless its flush was refused twice. -/
def AckedAfterCommit (site : Site) (system : System) : Prop :=
  ∀ message batch, site.SupportedBatch message batch →
    message.sequence ∈ system.consumer.acked → message.sequence ∉ system.refused →
    message.sequence ≤ system.db.cursor

/-- The writer is handed no supported batch message that is in its buffer or not
above its cursor in memory, unless the committed cursor covers the message, its
flush was refused twice, or the ack does not land. -/
def SkipsCovered (site : Site) (system : System) (event : Event) : Prop :=
  ∀ message batch, site.SupportedBatch message batch →
    system.skips event = some message.sequence → message.sequence ∉ system.refused →
    message.sequence ≤ system.db.cursor

theorem ackedAfterCommit_view (site : Site) (system : System) :
    system.AckedAfterCommit site ↔ Cursor.AckedCovered (demand site) system.view := by
  rw [Cursor.AckedCovered, view_committed, view_acked, view_refused]
  constructor
  · rintro covered _ acked ⟨message, batch, supported, rfl⟩
    exact covered message batch supported acked
  · intro covered message batch supported acked
    exact covered message.sequence acked ⟨message, batch, supported, rfl⟩

theorem skipsCovered_view (site : Site) (system : System) (event : Event) :
    system.SkipsCovered site event ↔ ∀ sequence, system.skips event = some sequence →
      Cursor.Safe (demand site) system.view sequence := by
  simp only [Cursor.Safe, view_committed, view_refused]
  constructor
  · rintro covered _ skips ⟨message, batch, supported, rfl⟩
    exact covered message batch supported skips
  · intro covered message batch supported skips
    exact covered message.sequence skips ⟨message, batch, supported, rfl⟩

end System

/-- Acks follow commits throughout a run exactly when no message is acked as seen
before it is covered. -/
theorem ackedAfterCommit_iff (site : Site) (events : List Event) :
    Machine.Always (System.step site) (System.AckedAfterCommit site) .init events ↔
      Machine.Along (System.step site) (System.SkipsCovered site) .init events := by
  have property : System.AckedAfterCommit site = fun system =>
      Cursor.AckedCovered (demand site) system.view :=
    funext fun system => propext (system.ackedAfterCommit_view site)
  have condition : System.SkipsCovered site = fun system event => ∀ sequence,
      system.skips event = some sequence → Cursor.Safe (demand site) system.view sequence :=
    funext fun system => funext fun event => propext (system.skipsCovered_view site event)
  rw [property, condition]
  apply always_iff_permitted site (Cursor.AckedCovered (demand site))
    (fun state _ skipped => ∀ sequence, skipped = some sequence →
      Cursor.Safe (demand site) state sequence)
  · exact fun sequence acked => nomatch acked
  · exact fun state action sound covered enabled => Cursor.ackedCovered_apply sound covered enabled
  · exact fun state action _ covered _ => Cursor.ackedCovered_needed action covered

/-- The flush of message 2 fails, `ack_wait` expires, and the message comes
again while it is still in the buffer. -/
def earlyAckRun : List Event :=
  [.start [registryMessage], .fetch [registryMessage, batchMessage 2], .handle true, .handle true,
    .settle true, .flush ⟨.rolledBack, .committed, []⟩, .fetch [batchMessage 2], .handle true]

theorem earlyAckRun_acks : ¬ ∀ (site : Site) (events : List Event) (final : System),
    Machine.run (System.step site) .init events = some final → final.AckedAfterCommit site := by
  intro always
  have ends : ((Machine.run (System.step trackside) .init earlyAckRun).map fun final =>
      (final.db.cursor, final.consumer.acked, final.refused)) = some (0, [1, 2], []) := by
    decide +kernel
  obtain ⟨final, reached, same⟩ := Option.map_eq_some_iff.mp ends
  simp only [Prod.mk.injEq] at same
  obtain ⟨cursor, acked, refused⟩ := same
  have covered := always trackside earlyAckRun final reached (batchMessage 2) (rpmBatch 4000)
    (trackside_supported 2 (by decide)) (by rw [acked]; decide)
    (by rw [refused]; exact List.not_mem_nil)
  rw [cursor] at covered
  cases covered

end OpenLaps.Ingest
