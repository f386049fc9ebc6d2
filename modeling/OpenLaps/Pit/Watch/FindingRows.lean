import OpenLaps.Pit.Watch.Store

/- Which rows of findings are open after each statement of the store. -/
namespace OpenLaps.Watch

/-- The monitor whose turn a number was. -/
def owner (config : WatchConfig) (findingId : Nat) : Option String :=
  config.monitors.keys[findingId % config.monitors.keys.length]?

/-- A number that was given out to the monitor. -/
structure Owns (config : WatchConfig) (ids : Nat) (name : String) (findingId : Nat) : Prop where
  issued : findingId < ids
  owner : owner config findingId = some name

theorem Owns.later {config : WatchConfig} {ids ids' : Nat} {name : String} {findingId : Nat}
    (owns : Owns config ids name findingId) (more : ids ≤ ids') : Owns config ids' name findingId :=
  ⟨Nat.lt_of_lt_of_le owns.issued more, owns.owner⟩

theorem Owns.same {config : WatchConfig} {ids ids' : Nat} {name name' : String} {findingId : Nat}
    (owns : Owns config ids name findingId) (owns' : Owns config ids' name' findingId) :
    name = name' := by
  have same := owns.owner.symm.trans owns'.owner
  exact Option.some.inj same

/-- A round gives each monitor a number of its own. -/
theorem owns_turn {config : WatchConfig} {ids : Nat} {name : String}
    (rounds : ids % config.monitors.keys.length = 0) (listed : name ∈ config.monitors.keys) :
    Owns config (ids + config.monitors.keys.length) name
      (ids + config.monitors.keys.idxOf name) := by
  have place := List.idxOf_lt_length_of_mem listed
  constructor
  · omega
  · unfold owner
    have turn : (ids + config.monitors.keys.idxOf name) % config.monitors.keys.length =
        config.monitors.keys.idxOf name := by
      rw [Nat.add_mod, rounds, Nat.zero_add, Nat.mod_mod, Nat.mod_eq_of_lt place]
    rw [turn, List.getElem?_eq_getElem place, List.getElem_idxOf place]

namespace Database

/-- A row of the monitor that is not closed. -/
def IsOpen (database : Database) (name : String) (findingId : Nat) : Prop :=
  ∃ row, database.findings.get? findingId = some row ∧ row.monitor = name ∧ row.closedAt = none

/-- The open rows of a monitor, to compute with. -/
def openIds (database : Database) (name : String) : List Nat :=
  (database.findings.entries.filter fun entry =>
    entry.2.monitor = name ∧ entry.2.closedAt = none).map Prod.fst

theorem mem_openIds {database : Database} {name : String} {findingId : Nat} :
    findingId ∈ database.openIds name ↔ database.IsOpen name findingId := by
  unfold openIds IsOpen
  rw [List.mem_map]
  constructor
  · rintro ⟨entry, member, same⟩
    obtain ⟨listed, facts⟩ := List.mem_filter.mp member
    rw [← same]
    exact ⟨entry.2, (database.findings.get?_eq_some entry.1 entry.2).mpr listed,
      of_decide_eq_true facts⟩
  · rintro ⟨row, found, facts⟩
    refine ⟨(findingId, row), List.mem_filter.mpr ⟨?_, decide_eq_true facts⟩, rfl⟩
    exact (database.findings.get?_eq_some findingId row).mp found

/-- Every row has a number of its monitor. -/
def Owned (config : WatchConfig) (ids : Nat) (database : Database) : Prop :=
  ∀ findingId row, database.findings.get? findingId = some row →
    Owns config ids row.monitor findingId

variable {config : WatchConfig} {ids : Nat} {database : Database}

theorem Owned.isOpen (owned : Owned config ids database) {name : String} {findingId : Nat}
    (isOpen : database.IsOpen name findingId) : Owns config ids name findingId := by
  obtain ⟨row, found, own, _⟩ := isOpen
  rw [← own]
  exact owned findingId row found

/-- A finding that its monitor can write. -/
structure Writable (config : WatchConfig) (ids : Nat) (name : String) (finding : Finding) : Prop where
  owns : Owns config ids name finding.findingId
  closes : finding.closedAt ≠ some 0

theorem Writable.closedAt {name : String} {finding : Finding}
    (writable : Writable config ids name finding) :
    finding.closedAt.filter (· ≠ 0) = finding.closedAt := by
  cases closed : finding.closedAt with
  | none => rfl
  | some time =>
    have nonzero : time ≠ 0 := by
      intro zero
      apply writable.closes
      rw [closed, zero]
    simp [nonzero]

theorem recordFinding_findings (database : Database) (name : String) (finding : Finding) :
    ∃ row, (database.recordFinding name finding).findings =
        database.findings.set finding.findingId row ∧
      row.closedAt = finding.closedAt.filter (· ≠ 0) ∧
      (row.monitor = name ∨ ∃ old, database.findings.get? finding.findingId = some old ∧
        row.monitor = old.monitor) := by
  unfold recordFinding
  dsimp only
  split
  · rename_i old found
    exact ⟨_, rfl, rfl, .inr ⟨old, found, rfl⟩⟩
  · exact ⟨_, rfl, rfl, .inl rfl⟩

/-- After the upsert the finding's row is as the finding, and the others are as before. -/
theorem recordFinding_spec (owned : Owned config ids database) {name : String} {finding : Finding}
    (writable : Writable config ids name finding) :
    Owned config ids (database.recordFinding name finding) ∧
      ∀ other findingId, (database.recordFinding name finding).IsOpen other findingId ↔
        if findingId = finding.findingId then other = name ∧ finding.closedAt = none
        else database.IsOpen other findingId := by
  obtain ⟨row, set, closedAt, origin⟩ := recordFinding_findings database name finding
  have own : row.monitor = name := by
    rcases origin with fresh | ⟨old, found, same⟩
    · exact fresh
    · rw [same]
      exact (owned finding.findingId old found).same writable.owns
  rw [writable.closedAt] at closedAt
  constructor
  · intro findingId other found
    rw [set, Dict.get?_set] at found
    split at found
    · rename_i same
      cases found
      rw [own, ← same]
      exact writable.owns
    · exact owned findingId other found
  · intro other findingId
    unfold IsOpen
    rw [set, Dict.get?_set]
    by_cases same : findingId = finding.findingId
    · rw [if_pos same.symm, if_pos same]
      constructor
      · rintro ⟨found, present, monitor, unclosed⟩
        cases present
        exact ⟨monitor.symm.trans own, closedAt.symm.trans unclosed⟩
      · rintro ⟨monitor, unclosed⟩
        exact ⟨row, rfl, own.trans monitor.symm, closedAt.trans unclosed⟩
    · rw [if_neg (fun equal => same equal.symm), if_neg same]

/-- What the report of a row makes of the open rows of its monitor. -/
def Reported (before : Nat → Prop) (report : Option Finding) (findingId : Nat) : Prop :=
  match report with
  | none => before findingId
  | some finding =>
    if findingId = finding.findingId then finding.closedAt = none else before findingId

theorem saveModel_findings (call : WriteTick) (name : String) :
    (database.saveModel call name).findings = database.findings := by
  unfold saveModel
  split <;> rfl

theorem writeRow_spec (owned : Owned config ids database) (call : WriteTick) {name : String}
    {row : Row} (writable : ∀ finding, row.finding = some finding → Writable config ids name finding) :
    Owned config ids (database.writeRow call name row) ∧
      ∀ other findingId, (database.writeRow call name row).IsOpen other findingId ↔
        if other = name then Reported (database.IsOpen name) row.finding findingId
        else database.IsOpen other findingId := by
  have rows : (database.writeRow call name row).findings =
      (database.recordReport name row.finding).findings := saveModel_findings call name
  have opens : ∀ other findingId, (database.writeRow call name row).IsOpen other findingId ↔
      (database.recordReport name row.finding).IsOpen other findingId := by
    intro other findingId
    unfold IsOpen
    rw [rows]
  simp only [opens]
  unfold Owned
  rw [rows]
  cases report : row.finding with
  | none =>
    refine ⟨owned, ?_⟩
    intro other findingId
    split
    · rename_i same
      rw [same]
      exact Iff.rfl
    · exact Iff.rfl
  | some finding =>
    have spec := recordFinding_spec owned (writable finding report)
    refine ⟨spec.1, ?_⟩
    intro other findingId
    show (database.recordFinding name finding).IsOpen other findingId ↔ _
    rw [spec.2]
    unfold Reported
    dsimp only
    by_cases here : findingId = finding.findingId
    · rw [if_pos here, if_pos here]
      split
      · rename_i same
        simp [same]
      · rename_i different
        -- A row with this number would be one of the monitor that writes it.
        constructor
        · intro both
          exact absurd both.1 different
        · intro isOpen
          have theirs := owned.isOpen isOpen
          rw [here] at theirs
          exact absurd (theirs.same (writable finding report).owns) different
    · rw [if_neg here, if_neg here]
      split
      · rename_i same
        rw [same]
      · exact Iff.rfl

/-- The place of a monitor's checkpoint in the transaction. -/
def Saves (call : WriteTick) (name : String) (key : String × Nat × String) (model : Saved) : Prop :=
  key.2.2 = name ∧ named call.session = some key.1 ∧ (call.stints.get? name).getD 0 = key.2.1 ∧
    call.models.get? name = some model

theorem Saves.get? {call : WriteTick} {name : String} {key : String × Nat × String} {model : Saved}
    (saves : Saves call name key model) :
    (database.saveModel call name).baselines.get? key = some model := by
  obtain ⟨own, inside, slot, present⟩ := saves
  unfold saveModel
  rw [inside, present]
  dsimp only
  rw [Dict.get?_set, slot, ← own, if_pos rfl]

theorem saveModel_get? {call : WriteTick} {name : String} {key : String × Nat × String}
    {model : Saved} (found : (database.saveModel call name).baselines.get? key = some model) :
    Saves call name key model ∨ database.baselines.get? key = some model := by
  unfold saveModel at found
  split at found
  · rename_i session saved inside present
    dsimp only at found
    rw [Dict.get?_set] at found
    split at found
    · rename_i same
      cases found
      left
      rw [← same]
      exact ⟨rfl, inside, rfl, present⟩
    · exact .inr found
  · exact .inr found

theorem recordReport_baselines (name : String) (report : Option Finding) :
    (database.recordReport name report).baselines = database.baselines := by
  cases report with
  | none => rfl
  | some finding => rfl

theorem saveModel_kept {call : WriteTick} {name : String} {key : String × Nat × String}
    (apart : ∀ model, ¬Saves call name key model) :
    (database.saveModel call name).baselines.get? key = database.baselines.get? key := by
  unfold saveModel
  split
  · rename_i session saved inside present
    dsimp only
    rw [Dict.get?_set]
    split
    · rename_i same
      refine absurd ?_ (apart saved)
      rw [← same]
      exact ⟨rfl, inside, rfl, present⟩
    · rfl
  · rfl

/-- The rows of a tick, each of its own monitor. -/
theorem foldl_writeRow_spec (call : WriteTick) (entries : List (String × Row))
    (distinct : (entries.map Prod.fst).Nodup) (owned : Owned config ids database)
    (writable : ∀ entry ∈ entries, ∀ finding, entry.2.finding = some finding →
      Writable config ids entry.1 finding) :
    let after := entries.foldl (fun database entry => database.writeRow call entry.1 entry.2) database
    Owned config ids after ∧
      ∀ name findingId, after.IsOpen name findingId ↔
        match Dict.lookup entries name with
        | none => database.IsOpen name findingId
        | some row => Reported (database.IsOpen name) row.finding findingId := by
  induction entries generalizing database with
  | nil => exact ⟨owned, fun _ _ => Iff.rfl⟩
  | cons first rest ih =>
    rw [List.map_cons, List.nodup_cons] at distinct
    have one := writeRow_spec owned call (writable first List.mem_cons_self)
    have others := ih distinct.2 one.1 fun entry member =>
      writable entry (List.mem_cons_of_mem first member)
    refine ⟨others.1, ?_⟩
    intro name findingId
    rw [List.foldl_cons, others.2 name findingId, Dict.lookup]
    by_cases here : first.1 = name
    · have absent : Dict.lookup rest name = none := by
        rw [Dict.lookup_eq_none, ← here]
        exact distinct.1
      rw [absent, if_pos here]
      dsimp only
      rw [one.2, if_pos here.symm, here]
    · rw [if_neg here]
      have apart : ∀ findingId, (database.writeRow call first.1 first.2).IsOpen name findingId ↔
          database.IsOpen name findingId := by
        intro findingId
        rw [one.2, if_neg fun equal => here equal.symm]
      split
      · exact apart findingId
      · unfold Reported
        split
        · exact apart findingId
        · split
          · exact Iff.rfl
          · exact apart findingId

theorem writeTick_spec (call : WriteTick) (owned : Owned config ids database)
    (writable : ∀ name row, call.rows.get? name = some row → ∀ finding, row.finding = some finding →
      Writable config ids name finding) :
    Owned config ids (database.writeTick call) ∧
      ∀ name findingId, (database.writeTick call).IsOpen name findingId ↔
        match call.rows.get? name with
        | none => database.IsOpen name findingId
        | some row => Reported (database.IsOpen name) row.finding findingId := by
  apply foldl_writeRow_spec call call.rows.entries call.rows.nodup owned
  intro entry member finding report
  apply writable entry.1 entry.2 ?_ finding report
  exact (call.rows.get?_eq_some entry.1 entry.2).mpr member

/-- The checkpoints are those of before and one for each row. -/
theorem writeTick_get? {call : WriteTick} {key : String × Nat × String} {model : Saved}
    (found : (database.writeTick call).baselines.get? key = some model) :
    (∃ name, Saves call name key model) ∨ database.baselines.get? key = some model := by
  unfold writeTick at found
  generalize call.rows.entries = entries at found
  induction entries generalizing database with
  | nil => exact .inr found
  | cons first rest ih =>
    rcases ih found with saved | before
    · exact .inl saved
    · rcases saveModel_get? before with saves | old
      · exact .inl ⟨first.1, saves⟩
      · rw [recordReport_baselines] at old
        exact .inr old

theorem Saves.written {call : WriteTick} {name : String} {key : String × Nat × String}
    {model : Saved} (saves : Saves call name key model) (listed : name ∈ call.rows.keys) :
    (database.writeTick call).baselines.get? key = some model := by
  unfold Dict.keys at listed
  unfold writeTick
  -- Once it is set, what the later rows set is the same or elsewhere.
  have stays : ∀ (rest : List (String × Row)) (database : Database),
      database.baselines.get? key = some model →
      (rest.foldl (fun database entry => database.writeRow call entry.1 entry.2)
        database).baselines.get? key = some model := by
    intro rest
    induction rest with
    | nil => exact fun _ there => there
    | cons first rest ih =>
      intro database there
      apply ih
      unfold writeRow
      by_cases again : ∃ model', Saves call first.1 key model'
      · obtain ⟨model', saves'⟩ := again
        have same : model' = model := by
          have one := saves'.2.2.2
          have two := saves.2.2.2
          rw [← saves'.1, saves.1, two] at one
          exact (Option.some.inj one).symm
        rw [saves'.get?, same]
      · rw [saveModel_kept fun model' saves' => again ⟨model', saves'⟩, recordReport_baselines]
        exact there
  generalize call.rows.entries = entries at listed ⊢
  induction entries generalizing database with
  | nil => cases listed
  | cons first rest ih =>
    rw [List.foldl_cons]
    rw [List.map_cons] at listed
    rcases List.mem_cons.mp listed with here | inside
    · apply stays
      unfold writeRow
      rw [← here]
      exact saves.get?
    · exact ih inside

theorem closePrevious_spec (time : Int) (call : ClosePrevious) (owned : Owned config ids database) :
    Owned config ids (database.closePrevious time call) ∧
      ∀ name findingId, (database.closePrevious time call).IsOpen name findingId ↔
        database.IsOpen name findingId ∧ (name ∈ call.monitors → findingId ∈ call.keep) := by
  constructor
  · intro findingId row found
    unfold closePrevious at found
    dsimp only at found
    rw [Dict.get?_mapEntries] at found
    obtain ⟨old, present, changed⟩ := Option.map_eq_some_iff.mp found
    have own := owned findingId old present
    rw [← changed]
    split
    · exact own
    · exact own
  · intro name findingId
    unfold IsOpen closePrevious
    dsimp only
    rw [Dict.get?_mapEntries]
    constructor
    · rintro ⟨row, found, monitor, unclosed⟩
      obtain ⟨old, present, changed⟩ := Option.map_eq_some_iff.mp found
      split at changed
      · rw [← changed] at unclosed
        cases unclosed
      · rename_i spared
        rw [← changed] at monitor unclosed
        refine ⟨⟨old, present, monitor, unclosed⟩, ?_⟩
        intro listed
        by_contra absent
        exact spared ⟨by rw [monitor]; exact listed, unclosed, absent⟩
    · rintro ⟨⟨old, present, monitor, unclosed⟩, kept⟩
      refine ⟨old, ?_, monitor, unclosed⟩
      rw [present, Option.map_some]
      split
      · rename_i closes
        rw [monitor] at closes
        exact absurd (kept closes.1) closes.2.2
      · rfl

end Database

end OpenLaps.Watch
