import OpenLaps.Lib.Attempt
import OpenLaps.Pit.Ingest.LapRows

/- What a lap materialiser loses when it starts afresh in the middle of a stream, and
when the rows it makes from there on are none the worse for it. -/
namespace OpenLaps.Ingest

/-- What an event asks of the materialiser, as far as the event alone decides it. -/
inductive Change where
  | ignored
  | malformed
  | sector (row : SectorRow)
  | lap (row : LapRow)
  | pit (update : PitStatusUpdate)

def change (text : PyText) (event : LapEvent) : Except PyError Change :=
  if event.eventType = "sector_completed" then do
    match ← asInt (event.decoded.lookup "sector") with
    | none => return .malformed
    | some sector => do
      let splitTimeS ← asFloat (event.decoded.lookup "split_time")
      return .sector ⟨sector, splitTimeS, event.time⟩
  else if event.eventType = "lap_completed" then do
    let (_, row) ← (LapMaterialiser.new "").completeLap event
    return .lap row
  else if event.eventType = "pit_entry" ∨ event.eventType = "pit_exit" then
    return .pit ((LapMaterialiser.new "").pitUpdate text event)
  else
    return .ignored

namespace LapMaterialiser

/-- The buffer with room for one more sector. -/
def kept (sectors : Dict (Int × Int) SectorRow) : Dict (Int × Int) SectorRow :=
  if sectors.entries.length ≥ maxBufferedSectors then dropOldest sectors else sectors

def apply (laps : LapMaterialiser) (lapNumber : Int) :
    Change → LapMaterialiser × Option Materialised
  | .ignored => (laps, none)
  | .malformed => ({ laps with malformedEvents := laps.malformedEvents + 1 }, none)
  | .sector row =>
    ({ laps with sectors := (kept laps.sectors).set (lapNumber, row.sector) row }, none)
  | .lap row =>
    ({ laps with sectors := laps.sectors.filter fun key => key.1 ≠ lapNumber },
      some (.lap { row with
        vehicleId := laps.vehicleId
        sectors := laps.sectorsFor lapNumber }))
  | .pit update => (laps, some (.pit { update with vehicleId := laps.vehicleId }))

end LapMaterialiser

theorem shallow_of_observe {text : PyText} {payload : String} {laps : LapMaterialiser}
    {result : LapMaterialiser × Option Materialised}
    (observed : laps.observe text payload = .ok result) : text.deep payload = false := by
  unfold LapMaterialiser.observe at observed
  split at observed
  · cases observed
  · rename_i shallow
    exact eq_false_of_ne_true shallow

/-- An event is read without regard to the buffer, then applied to it. -/
theorem observe_event {text : PyText} {payload : String} {event : LapEvent}
    (shallow : text.deep payload = false) (parsed : parse text payload = some event)
    (laps : LapMaterialiser) :
    laps.observe text payload =
      (change text event).map ((laps.adopt event.lapNumber).apply event.lapNumber) := by
  unfold LapMaterialiser.observe change
  rw [shallow, if_neg Bool.false_ne_true, parsed]
  by_cases sector : event.eventType = "sector_completed"
  · simp only [if_pos sector]
    unfold LapMaterialiser.bufferSector
    cases asInt (event.decoded.lookup "sector") with
    | error raised => rfl
    | ok number =>
      cases number with
      | none => rfl
      | some number =>
        cases asFloat (event.decoded.lookup "split_time") <;> rfl
  · simp only [if_neg sector]
    by_cases lap : event.eventType = "lap_completed"
    · simp only [if_pos lap]
      unfold LapMaterialiser.completeLap
      cases asInt (event.decoded.lookup "stint_number") with
      | error raised => rfl
      | ok stint => cases asFloat (event.decoded.lookup "lap_time") <;> rfl
    · simp only [if_neg lap]
      by_cases pit : event.eventType = "pit_entry" ∨ event.eventType = "pit_exit"
      · simp only [if_pos pit]
        rfl
      · simp only [if_neg pit]
        rfl

theorem observe_malformed {text : PyText} {payload : String}
    (shallow : text.deep payload = false) (parsed : parse text payload = none) (laps : LapMaterialiser) :
    laps.observe text payload =
      .ok ({ laps with malformedEvents := laps.malformedEvents + 1 }, none) := by
  unfold LapMaterialiser.observe
  rw [shallow, if_neg Bool.false_ne_true, parsed]
  rfl

/-- A sector event that enters the buffer. -/
def LapEvent.isSector (event : LapEvent) : Bool :=
  event.eventType = "sector_completed" &&
    ((asInt (event.decoded.lookup "sector")).toOption.join).isSome

/-- Going back from the last event, a sector of the lap comes before anything else than
events of that lap under way. -/
def waiting (lapNumber : Int) : List LapEvent → Bool
  | [] => false
  | event :: earlier =>
    event.lapNumber = lapNumber && event.eventType ≠ "lap_completed" &&
      (event.isSector || waiting lapNumber earlier)

/-- The lap is completed before an event of another lap. -/
def finishes (lapNumber : Int) : List LapEvent → Bool
  | [] => false
  | event :: later =>
    event.lapNumber = lapNumber &&
      (event.eventType = "lap_completed" || finishes lapNumber later)

/-- The cut separates no sector event from the event of its lap, and no negative lap
number follows on it. -/
def cleanCut (before after : List LapEvent) : Bool :=
  match before.reverse with
  | [] => true
  | last :: earlier =>
    !(waiting last.lapNumber (last :: earlier) && finishes last.lapNumber after) &&
      (after.head?.all fun next => 0 ≤ next.lapNumber)

/-- The sectors of laps beyond a limit. -/
def live (limit : Int) (sectors : Dict (Int × Int) SectorRow) : List ((Int × Int) × SectorRow) :=
  sectors.entries.filter fun entry => limit < entry.1.1

section Live

variable {limit : Int} {sectors first second : Dict (Int × Int) SectorRow}

theorem head_keys {oldest : Int × Int}
    (head : (sectors.keys.insertionSort fun first second => keyLe first second).head? =
      some oldest) :
    oldest ∈ sectors.keys ∧ ∀ key ∈ sectors.keys, oldest.1 ≤ key.1 := by
  have trans : IsTrans (Int × Int) fun first second => keyLe first second = true :=
    ⟨fun _ _ _ before after => keyLe_trans before after⟩
  have total : Std.Total fun first second : Int × Int => keyLe first second = true :=
    ⟨keyLe_total⟩
  have sorted := List.pairwise_insertionSort (fun first second => keyLe first second = true)
    sectors.keys
  cases order : sectors.keys.insertionSort fun first second => keyLe first second with
  | nil =>
    rw [order] at head
    cases head
  | cons least rest =>
    rw [order] at head sorted
    rw [← Option.some.inj head]
    have member : ∀ key, key ∈ sectors.keys ↔ key ∈ least :: rest := by
      intro key
      rw [← order, List.mem_insertionSort]
    refine ⟨(member least).mpr List.mem_cons_self, ?_⟩
    intro key listed
    rcases List.mem_cons.mp ((member key).mp listed) with same | later
    · rw [same]
    · have before := (keyLe_iff least key).mp (List.rel_of_pairwise_cons sorted later)
      omega

/-- The oldest of some sectors, with what dropping it leaves. -/
theorem dropOldest_spec (filled : sectors.entries ≠ []) :
    ∃ oldest ∈ sectors.keys, (∀ key ∈ sectors.keys, oldest.1 ≤ key.1) ∧
      (LapMaterialiser.dropOldest sectors).entries =
        sectors.entries.filter fun entry => entry.1 ≠ oldest := by
  cases head : (sectors.keys.insertionSort fun first second => keyLe first second).head? with
  | none =>
    have none := List.head?_eq_none_iff.mp head
    have length := List.length_insertionSort (fun first second => keyLe first second = true)
      sectors.keys
    rw [none] at length
    have empty : sectors.entries.length = 0 := by
      rw [← List.length_map Prod.fst]
      exact length.symm
    exact absurd (List.length_eq_zero_iff.mp empty) filled
  | some oldest =>
    obtain ⟨member, least⟩ := head_keys head
    refine ⟨oldest, member, least, ?_⟩
    rw [LapMaterialiser.dropOldest, head]
    rfl

theorem dropOldest_shorter (filled : sectors.entries ≠ []) :
    (LapMaterialiser.dropOldest sectors).entries.length < sectors.entries.length := by
  obtain ⟨oldest, member, -, dropped⟩ := dropOldest_spec filled
  obtain ⟨entry, listed, key⟩ := List.mem_map.mp member
  rw [dropped, List.length_filter_lt_length_iff_exists]
  exact ⟨entry, listed, by simp [key]⟩

/-- Dropping the oldest sector spares the live ones while others are left. -/
theorem live_dropOldest {dead : (Int × Int) × SectorRow} (listed : dead ∈ sectors.entries)
    (old : dead.1.1 ≤ limit) :
    live limit (LapMaterialiser.dropOldest sectors) = live limit sectors := by
  obtain ⟨oldest, -, least, dropped⟩ := dropOldest_spec (List.ne_nil_of_mem listed)
  have low := least dead.1 (List.mem_map_of_mem listed)
  unfold live
  rw [dropped, List.filter_filter]
  apply List.filter_congr
  intro other _
  by_cases beyond : limit < other.1.1
  · have distinct : other.1 ≠ oldest := by
      intro same
      rw [same] at beyond
      omega
    simp [beyond, distinct]
  · simp [beyond]

/-- Both buffers drop a live sector only when they hold nothing else. -/
theorem live_kept (agree : live limit first = live limit second)
    (room : first.entries.length ≤ LapMaterialiser.maxBufferedSectors)
    (space : second.entries.length ≤ LapMaterialiser.maxBufferedSectors) :
    live limit (LapMaterialiser.kept first) = live limit (LapMaterialiser.kept second) := by
  have spared : ∀ sectors : Dict (Int × Int) SectorRow,
      (live limit sectors).length < LapMaterialiser.maxBufferedSectors →
        live limit (LapMaterialiser.kept sectors) = live limit sectors := by
    intro sectors few
    unfold LapMaterialiser.kept
    split
    · rename_i full
      have fewer : (live limit sectors).length < sectors.entries.length := by omega
      obtain ⟨entry, listed, dead⟩ := List.length_filter_lt_length_iff_exists.mp fewer
      exact live_dropOldest listed (by simpa using dead)
    · rfl
  by_cases few : (live limit first).length < LapMaterialiser.maxBufferedSectors
  · rw [spared first few, spared second (agree ▸ few), agree]
  · have whole : ∀ sectors : Dict (Int × Int) SectorRow,
        sectors.entries.length ≤ LapMaterialiser.maxBufferedSectors →
        ¬ (live limit sectors).length < LapMaterialiser.maxBufferedSectors →
          live limit sectors = sectors.entries := by
      intro sectors bound many
      have length := List.length_filter_le (fun entry => decide (limit < entry.1.1)) sectors.entries
      apply List.Sublist.eq_of_length_le List.filter_sublist
      change _ ≤ (live limit sectors).length
      omega
    have same : first.entries = second.entries := by
      rw [← whole first room few, ← whole second space (agree ▸ few), agree]
    have equal : first = second := by
      cases first
      cases second
      cases same
      rfl
    rw [equal]

theorem mem_kept {entry : (Int × Int) × SectorRow}
    (member : entry ∈ (LapMaterialiser.kept sectors).entries) : entry ∈ sectors.entries := by
  unfold LapMaterialiser.kept at member
  split at member
  · exact mem_dropOldest member
  · exact member

theorem kept_room (room : sectors.entries.length ≤ LapMaterialiser.maxBufferedSectors) :
    (LapMaterialiser.kept sectors).entries.length < LapMaterialiser.maxBufferedSectors := by
  unfold LapMaterialiser.kept
  split
  · rename_i full
    have filled : sectors.entries ≠ [] := by
      intro empty
      rw [empty] at full
      cases full
    have fewer := dropOldest_shorter filled
    omega
  · omega

theorem live_set (agree : live limit first = live limit second) (key : Int × Int)
    (row : SectorRow) : live limit (first.set key row) = live limit (second.set key row) := by
  have written : ∀ sectors : Dict (Int × Int) SectorRow, live limit (sectors.set key row) =
      if decide (limit < key.1) then Dict.assign (live limit sectors) key row
      else live limit sectors :=
    fun sectors => Dict.assign_filter sectors.entries key row fun key => limit < key.1
  rw [written, written, agree]

theorem live_filter (agree : live limit first = live limit second) (keep : Int × Int → Bool) :
    live limit (first.filter keep) = live limit (second.filter keep) := by
  have swap : ∀ sectors : Dict (Int × Int) SectorRow, live limit (sectors.filter keep) =
      (live limit sectors).filter fun entry => keep entry.1 := by
    intro sectors
    unfold live Dict.filter
    rw [List.filter_filter, List.filter_filter]
    apply List.filter_congr
    intro entry _
    exact Bool.and_comm _ _
  rw [swap, swap, agree]

/-- The sectors of a live lap, in order, are among the live ones. -/
theorem sectorsFor_live {resumed whole : LapMaterialiser}
    (agree : live limit resumed.sectors = live limit whole.sectors) {lapNumber : Int}
    (beyond : limit < lapNumber) : resumed.sectorsFor lapNumber = whole.sectorsFor lapNumber := by
  have sorted : ∀ laps : LapMaterialiser, laps.sectorsFor lapNumber =
      ((((laps.sectors.filter fun key => limit < key.1).entries.insertionSort
        fun first second => keyLe first.1 second.1).filter
          fun entry => entry.1.1 = lapNumber).map Prod.snd) := by
    intro laps
    have total : Std.Total fun first second : (Int × Int) × SectorRow =>
        keyLe first.1 second.1 = true := ⟨fun first second => keyLe_total first.1 second.1⟩
    have trans : IsTrans ((Int × Int) × SectorRow) fun first second =>
        keyLe first.1 second.1 = true := ⟨fun _ _ _ before after => keyLe_trans before after⟩
    have ordered := List.pairwise_insertionSort
      (fun first second : (Int × Int) × SectorRow => keyLe first.1 second.1 = true)
      laps.sectors.entries
    rw [sorted_entries ((List.perm_insertionSort _ _).filter _) (ordered.filter _),
      List.filter_filter]
    unfold LapMaterialiser.sectorsFor
    congr 1
    apply List.filter_congr
    intro entry _
    by_cases own : entry.1.1 = lapNumber
    · simp [own, beyond]
    · simp [own]
  have same : (resumed.sectors.filter fun key => limit < key.1) =
      whole.sectors.filter fun key => limit < key.1 := by
    unfold Dict.filter
    congr 1
  rw [sorted, sorted, same]

end Live

theorem adopt_known {laps : LapMaterialiser} {highest : Int}
    (known : laps.highestLapNumber = some highest) (lapNumber : Int) :
    laps.adopt lapNumber =
      if lapNumber < highest then
        { laps with sectors := .empty, highestLapNumber := some lapNumber }
      else { laps with highestLapNumber := some lapNumber } := by
  unfold LapMaterialiser.adopt
  rw [known]
  dsimp only
  split
  · rfl
  · rename_i reached
    rw [max_eq_left (not_lt.mp reached)]

theorem adopt_fresh {laps : LapMaterialiser} (fresh : laps.highestLapNumber = none)
    (lapNumber : Int) :
    laps.adopt lapNumber = { laps with highestLapNumber := some (max lapNumber 0) } := by
  unfold LapMaterialiser.adopt
  rw [fresh]

theorem finishes_cons {lapNumber : Int} {event : LapEvent} {later : List LapEvent}
    (own : event.lapNumber = lapNumber) (unfinished : finishes lapNumber (event :: later) = false) :
    event.eventType ≠ "lap_completed" ∧ finishes lapNumber later = false := by
  rw [finishes, decide_eq_true own, Bool.true_and, Bool.or_eq_false_iff] at unfinished
  exact ⟨of_decide_eq_false unfinished.1, unfinished.2⟩

/-- How a materialiser that started afresh compares with one that has seen the whole
stream, given the events to come. -/
inductive Resumed (later : List LapEvent) (resumed whole : LapMaterialiser) : Prop where
  /-- They know the same. -/
  | same (sectors : resumed.sectors = whole.sectors)
      (highest : resumed.highestLapNumber = whole.highestLapNumber)
  /-- They differ in sectors of laps up to a limit, which no event will complete. -/
  | stale (limit highest : Int) (here : resumed.highestLapNumber = some highest)
      (there : whole.highestLapNumber = some highest)
      (agree : live limit resumed.sectors = live limit whole.sectors)
      (past : limit < highest ∨ limit = highest ∧ finishes highest later = false)
  /-- No event has come since the start. -/
  | fresh (last highest : Int) (empty : resumed.sectors = .empty)
      (here : resumed.highestLapNumber = none) (there : whole.highestLapNumber = some highest)
      (reached : last ≤ highest)
      (keys : ∀ key ∈ whole.sectors.keys,
        key.1 ≤ last ∧ (key.1 = last → finishes last later = false))
      (next : ∀ event, later.head? = some event → 0 ≤ event.lapNumber)

/-- What is left of the comparison once an event's lap number has been adopted. -/
theorem Resumed.adopt {event : LapEvent} {later : List LapEvent}
    {resumed whole : LapMaterialiser} (memory : Resumed (event :: later) resumed whole) :
    ((resumed.adopt event.lapNumber).sectors = (whole.adopt event.lapNumber).sectors ∧
      (resumed.adopt event.lapNumber).highestLapNumber =
        (whole.adopt event.lapNumber).highestLapNumber) ∨
    ∃ limit, (resumed.adopt event.lapNumber).highestLapNumber = some event.lapNumber ∧
      (whole.adopt event.lapNumber).highestLapNumber = some event.lapNumber ∧
      live limit (resumed.adopt event.lapNumber).sectors =
        live limit (whole.adopt event.lapNumber).sectors ∧
      (limit < event.lapNumber ∨ limit = event.lapNumber ∧
        event.eventType ≠ "lap_completed" ∧ finishes event.lapNumber later = false) := by
  cases memory with
  | same sectors highest =>
    left
    unfold LapMaterialiser.adopt
    rw [highest]
    split
    · exact ⟨sectors, rfl⟩
    · split
      · exact ⟨rfl, rfl⟩
      · exact ⟨sectors, rfl⟩
  | stale limit highest here there agree past =>
    rw [adopt_known here, adopt_known there]
    by_cases back : event.lapNumber < highest
    · rw [if_pos back, if_pos back]
      exact Or.inl ⟨rfl, rfl⟩
    · rw [if_neg back, if_neg back]
      refine Or.inr ⟨limit, rfl, rfl, agree, ?_⟩
      by_cases beyond : limit < event.lapNumber
      · exact Or.inl beyond
      · rcases past with below | ⟨equal, quiet⟩
        · omega
        · have own : event.lapNumber = highest := by omega
          rw [own]
          exact Or.inr ⟨equal, finishes_cons own quiet⟩
  | fresh last highest empty here there reached keys next =>
    have positive := next event rfl
    rw [adopt_fresh here, adopt_known there, max_eq_left positive]
    by_cases back : event.lapNumber < highest
    · rw [if_pos back]
      exact Or.inl ⟨empty, rfl⟩
    · rw [if_neg back]
      right
      -- the sectors of this very lap are out of reach only if it is not completed
      by_cases own : ∃ key ∈ whole.sectors.keys, key.1 = event.lapNumber
      · obtain ⟨key, member, number⟩ := own
        have bound := keys key member
        have equal : event.lapNumber = last := by omega
        have quiet := bound.2 (number.trans equal)
        refine ⟨event.lapNumber, rfl, rfl, ?_, Or.inr ⟨rfl, ?_⟩⟩
        · rw [empty]
          symm
          apply List.filter_eq_nil_iff.mpr
          intro entry listed
          have old := (keys entry.1 (List.mem_map_of_mem listed)).1
          simp only [decide_eq_true_eq, not_lt]
          omega
        · rw [← equal] at quiet
          exact finishes_cons rfl quiet
      · refine ⟨event.lapNumber - 1, rfl, rfl, ?_, Or.inl (by omega)⟩
        rw [empty]
        symm
        apply List.filter_eq_nil_iff.mpr
        intro entry listed
        have old := (keys entry.1 (List.mem_map_of_mem listed)).1
        have other : entry.1.1 ≠ event.lapNumber :=
          fun same => own ⟨entry.1, List.mem_map_of_mem listed, same⟩
        simp only [decide_eq_true_eq, not_lt]
        omega

structure Continues (later : List LapEvent) (resumed whole : LapMaterialiser) : Prop where
  vehicle : resumed.vehicleId = whole.vehicleId
  room : resumed.sectors.entries.length ≤ LapMaterialiser.maxBufferedSectors
  space : whole.sectors.entries.length ≤ LapMaterialiser.maxBufferedSectors
  memory : Resumed later resumed whole

theorem adopt_vehicle (laps : LapMaterialiser) (lapNumber : Int) :
    (laps.adopt lapNumber).vehicleId = laps.vehicleId := by
  unfold LapMaterialiser.adopt
  split
  · rfl
  · split <;> rfl

theorem adopt_room {laps : LapMaterialiser} (lapNumber : Int)
    (room : laps.sectors.entries.length ≤ LapMaterialiser.maxBufferedSectors) :
    (laps.adopt lapNumber).sectors.entries.length ≤ LapMaterialiser.maxBufferedSectors := by
  unfold LapMaterialiser.adopt
  split
  · exact room
  · split
    · exact Nat.zero_le _
    · exact room

theorem apply_room {laps : LapMaterialiser} (lapNumber : Int) (change : Change)
    (room : laps.sectors.entries.length ≤ LapMaterialiser.maxBufferedSectors) :
    (laps.apply lapNumber change).1.sectors.entries.length ≤
      LapMaterialiser.maxBufferedSectors := by
  cases change with
  | ignored => exact room
  | malformed => exact room
  | pit update => exact room
  | sector row =>
    have space := kept_room room
    have length := Dict.length_assign (LapMaterialiser.kept laps.sectors).entries
      (lapNumber, row.sector) row
    show (Dict.assign _ _ _).length ≤ _
    omega
  | lap row => exact (List.length_filter_le _ _).trans room

/-- Lap events and nothing else complete laps; only numbered sectors are buffered. -/
theorem change_kind {text : PyText} {event : LapEvent} {changed : Change}
    (read : change text event = .ok changed) :
    (event.eventType = "lap_completed" ↔ ∃ row, changed = .lap row) ∧
      ∀ row, changed = .sector row → event.isSector = true := by
  unfold change at read
  by_cases sector : event.eventType = "sector_completed"
  · rw [if_pos sector] at read
    have other : event.eventType ≠ "lap_completed" := by
      rw [sector]
      decide
    cases number : asInt (event.decoded.lookup "sector") with
    | error raised =>
      rw [number] at read
      cases read
    | ok value =>
      rw [number] at read
      cases value with
      | none =>
        cases read
        simp [other]
      | some value =>
        cases split : asFloat (event.decoded.lookup "split_time") with
        | error raised =>
          rw [split] at read
          cases read
        | ok time =>
          rw [split] at read
          cases read
          simp [LapEvent.isSector, sector, number, Except.toOption]
  · rw [if_neg sector] at read
    by_cases lap : event.eventType = "lap_completed"
    · rw [if_pos lap] at read
      cases completed : (LapMaterialiser.new "").completeLap event with
      | error raised =>
        rw [completed] at read
        cases read
      | ok result =>
        rw [completed] at read
        cases read
        simp [lap]
    · rw [if_neg lap] at read
      split at read
      · cases read
        simp [lap]
      · cases read
        simp [lap]

/-- An event does the same to both, and leaves them comparable. -/
theorem Continues.step {text : PyText} {event : LapEvent} {later : List LapEvent} {changed : Change}
    {resumed whole : LapMaterialiser} (continues : Continues (event :: later) resumed whole)
    (read : change text event = .ok changed) :
    ((resumed.adopt event.lapNumber).apply event.lapNumber changed).2 =
        ((whole.adopt event.lapNumber).apply event.lapNumber changed).2 ∧
      Continues later ((resumed.adopt event.lapNumber).apply event.lapNumber changed).1
        ((whole.adopt event.lapNumber).apply event.lapNumber changed).1 := by
  have vehicle : (resumed.adopt event.lapNumber).vehicleId =
      (whole.adopt event.lapNumber).vehicleId := by
    rw [adopt_vehicle, adopt_vehicle]
    exact continues.vehicle
  have room := adopt_room event.lapNumber continues.room
  have space := adopt_room event.lapNumber continues.space
  have bounds := And.intro (apply_room event.lapNumber changed room)
    (apply_room event.lapNumber changed space)
  rcases continues.memory.adopt with ⟨sectors, highest⟩ | ⟨limit, here, there, agree, past⟩
  · cases changed with
    | ignored => exact ⟨rfl, vehicle, bounds.1, bounds.2, .same sectors highest⟩
    | malformed => exact ⟨rfl, vehicle, bounds.1, bounds.2, .same sectors highest⟩
    | pit update =>
      refine ⟨?_, vehicle, bounds.1, bounds.2, .same sectors highest⟩
      show some (Materialised.pit _) = some (Materialised.pit _)
      rw [vehicle]
    | sector row =>
      refine ⟨rfl, vehicle, bounds.1, bounds.2, .same ?_ highest⟩
      show Dict.set _ _ _ = Dict.set _ _ _
      rw [sectors]
    | lap row =>
      refine ⟨?_, vehicle, bounds.1, bounds.2, .same ?_ highest⟩
      · show some (Materialised.lap _) = some (Materialised.lap _)
        unfold LapMaterialiser.sectorsFor
        rw [vehicle, sectors]
      · exact congrArg (fun sectors => Dict.filter sectors fun key => key.1 ≠ event.lapNumber)
          sectors
  · have still : limit < event.lapNumber ∨
        limit = event.lapNumber ∧ finishes event.lapNumber later = false :=
      past.imp id fun both => ⟨both.1, both.2.2⟩
    cases changed with
    | ignored =>
      exact ⟨rfl, vehicle, bounds.1, bounds.2, .stale limit _ here there agree still⟩
    | malformed =>
      exact ⟨rfl, vehicle, bounds.1, bounds.2, .stale limit _ here there agree still⟩
    | pit update =>
      refine ⟨?_, vehicle, bounds.1, bounds.2, .stale limit _ here there agree still⟩
      show some (Materialised.pit _) = some (Materialised.pit _)
      rw [vehicle]
    | sector row =>
      refine ⟨rfl, vehicle, bounds.1, bounds.2, .stale limit _ here there ?_ still⟩
      exact live_set (live_kept agree room space) _ row
    | lap row =>
      have beyond : limit < event.lapNumber := by
        rcases past with below | ⟨_, other, _⟩
        · exact below
        · exact absurd ((change_kind read).1.mpr ⟨row, rfl⟩) other
      refine ⟨?_, vehicle, bounds.1, bounds.2, .stale limit _ here there ?_ still⟩
      · show some (Materialised.lap _) = some (Materialised.lap _)
        rw [vehicle, sectorsFor_live agree beyond]
      · exact live_filter agree _

/-- What a materialiser holds after events, the last one first: at most sectors of the
lap under way or of earlier laps. -/
def Reached (laps : LapMaterialiser) : List LapEvent → Prop
  | [] => laps.sectors = .empty ∧ laps.highestLapNumber = none
  | last :: earlier => ∃ highest, laps.highestLapNumber = some highest ∧ last.lapNumber ≤ highest ∧
      ∀ key ∈ laps.sectors.keys, key.1 ≤ last.lapNumber ∧
        (key.1 = last.lapNumber → waiting last.lapNumber (last :: earlier) = true)

theorem Reached.adopt {laps : LapMaterialiser} {past : List LapEvent} (reached : Reached laps past)
    (lapNumber : Int) : ∃ highest, (laps.adopt lapNumber).highestLapNumber = some highest ∧
      lapNumber ≤ highest ∧ ∀ key ∈ (laps.adopt lapNumber).sectors.keys,
        key.1 ≤ lapNumber ∧ (key.1 = lapNumber → waiting lapNumber past = true) := by
  cases past with
  | nil =>
    obtain ⟨empty, fresh⟩ := reached
    rw [adopt_fresh fresh]
    refine ⟨max lapNumber 0, rfl, le_max_left _ _, ?_⟩
    rw [empty]
    exact fun key member => absurd member List.not_mem_nil
  | cons last earlier =>
    obtain ⟨highest, known, below, keys⟩ := reached
    rw [adopt_known known]
    split
    · exact ⟨lapNumber, rfl, le_refl _, fun key member => absurd member List.not_mem_nil⟩
    · refine ⟨lapNumber, rfl, le_refl _, ?_⟩
      intro key member
      have old := keys key member
      refine ⟨by omega, ?_⟩
      intro own
      have same : last.lapNumber = lapNumber := by omega
      rw [← same] at own ⊢
      exact old.2 own

theorem Reached.step {text : PyText} {event : LapEvent} {changed : Change} {laps : LapMaterialiser}
    {past : List LapEvent} (reached : Reached laps past)
    (read : change text event = .ok changed) :
    Reached ((laps.adopt event.lapNumber).apply event.lapNumber changed).1 (event :: past) := by
  obtain ⟨highest, known, below, keys⟩ := reached.adopt event.lapNumber
  obtain ⟨completes, numbered⟩ := change_kind read
  have kept : ∀ key ∈ (laps.adopt event.lapNumber).sectors.keys,
      event.eventType ≠ "lap_completed" → key.1 ≤ event.lapNumber ∧
        (key.1 = event.lapNumber → waiting event.lapNumber (event :: past) = true) := by
    intro key member other
    have old := keys key member
    refine ⟨old.1, fun own => ?_⟩
    rw [waiting, old.2 own]
    simp [other]
  have other : (∀ row, changed ≠ .lap row) → event.eventType ≠ "lap_completed" := by
    intro silent lap
    obtain ⟨row, same⟩ := completes.mp lap
    exact silent row same
  cases changed with
  | ignored =>
    have quiet := other fun _ never => Change.noConfusion never
    exact ⟨highest, known, below, fun key member => kept key member quiet⟩
  | malformed =>
    have quiet := other fun _ never => Change.noConfusion never
    exact ⟨highest, known, below, fun key member => kept key member quiet⟩
  | pit update =>
    have quiet := other fun _ never => Change.noConfusion never
    exact ⟨highest, known, below, fun key member => kept key member quiet⟩
  | sector row =>
    have quiet := other fun _ never => Change.noConfusion never
    refine ⟨highest, known, below, ?_⟩
    intro key member
    obtain ⟨entry, listed, same⟩ := List.mem_map.mp member
    rw [← same]
    rcases Dict.mem_entries_set listed with fresh | old
    · rw [fresh]
      refine ⟨le_refl _, fun _ => ?_⟩
      rw [waiting, numbered row rfl]
      simp [quiet]
    · exact kept entry.1 (List.mem_map_of_mem (mem_kept old)) quiet
  | lap row =>
    refine ⟨highest, known, below, ?_⟩
    intro key member
    obtain ⟨entry, listed, same⟩ := List.mem_map.mp member
    obtain ⟨old, distinct⟩ := Dict.mem_entries_filter.mp listed
    rw [← same]
    refine ⟨(keys entry.1 (List.mem_map_of_mem old)).1, fun own => ?_⟩
    simp [own] at distinct

/-- One payload observed, its row appended to those before. -/
def observeNext (text : PyText) (result : LapMaterialiser × List Materialised) (payload : String) :
    Except PyError (LapMaterialiser × List Materialised) :=
  (result.1.observe text payload).map fun first => (first.1, result.2 ++ first.2.toList)

theorem observeAll_eq (text : PyText) (laps : LapMaterialiser) (payloads : List String) :
    observeAll text laps payloads = payloads.foldlM (observeNext text) (laps, []) := rfl

/-- Rows made before are carried along. -/
theorem observeNext_carried (text : PyText) (payloads : List String) (laps : LapMaterialiser)
    (rows : List Materialised) :
    payloads.foldlM (observeNext text) (laps, rows) =
      (observeAll text laps payloads).map fun result => (result.1, rows ++ result.2) := by
  rw [observeAll_eq]
  induction payloads generalizing laps rows with
  | nil =>
    show Except.ok (laps, rows) = Except.ok (laps, rows ++ [])
    rw [List.append_nil]
  | cons payload rest ih =>
    rw [List.foldlM_cons, List.foldlM_cons, observeNext, observeNext]
    cases laps.observe text payload with
    | error raised => rfl
    | ok first =>
      show List.foldlM _ (first.1, rows ++ first.2.toList) rest =
        Except.map _ (List.foldlM _ (first.1, [] ++ first.2.toList) rest)
      rw [ih, ih first.1 ([] ++ first.2.toList)]
      cases List.foldlM (observeNext text) (first.1, []) rest with
      | error raised => rfl
      | ok result => simp [Except.map, List.append_assoc]

theorem observeAll_cons (text : PyText) (laps : LapMaterialiser) (payload : String)
    (rest : List String) :
    observeAll text laps (payload :: rest) = (laps.observe text payload).bind fun first =>
      (observeAll text first.1 rest).map fun result =>
        (result.1, first.2.toList ++ result.2) := by
  rw [observeAll_eq, List.foldlM_cons, observeNext]
  cases laps.observe text payload with
  | error raised => rfl
  | ok first =>
    show List.foldlM _ (first.1, [] ++ first.2.toList) rest = _
    rw [observeNext_carried, List.nil_append]
    rfl

/-- What observes a whole stream observes its first payload and then the rest. -/
theorem observeAll_cons_ok {text : PyText} {laps after : LapMaterialiser} {payload : String}
    {rest : List String} {rows : List Materialised}
    (observed : observeAll text laps (payload :: rest) = .ok (after, rows)) :
    ∃ first more, laps.observe text payload = .ok first ∧
      observeAll text first.1 rest = .ok (after, more) ∧ rows = first.2.toList ++ more := by
  rw [observeAll_cons] at observed
  obtain ⟨first, here, later⟩ := Attempt.bind_ok.mp observed
  cases others : observeAll text first.1 rest with
  | error raised =>
    rw [others] at later
    cases later
  | ok final =>
    rw [others] at later
    cases later
    exact ⟨first, final.2, here, others, rfl⟩

theorem observeAll_append {text : PyText} {laps middle : LapMaterialiser} {rows : List Materialised}
    {payloads : List String} (observed : observeAll text laps payloads = .ok (middle, rows))
    (more : List String) :
    observeAll text laps (payloads ++ more) =
      (observeAll text middle more).map fun result => (result.1, rows ++ result.2) := by
  induction payloads generalizing laps rows with
  | nil =>
    cases observed
    show observeAll text middle more = _
    cases observeAll text middle more <;> rfl
  | cons payload rest ih =>
    obtain ⟨first, others, here, later, rfl⟩ := observeAll_cons_ok observed
    rw [List.cons_append, observeAll_cons, here]
    show (observeAll text first.1 (rest ++ more)).map _ = _
    rw [ih later]
    cases observeAll text middle more with
    | error raised => rfl
    | ok last => simp [Except.map, List.append_assoc]

/-- The events among some payloads. -/
def eventsIn (text : PyText) (payloads : List String) : List LapEvent :=
  payloads.filterMap (parse text)

theorem observe_reached {text : PyText} {payload : String} {laps after : LapMaterialiser}
    {row : Option Materialised} {past : List LapEvent} (reached : Reached laps past)
    (room : laps.sectors.entries.length ≤ LapMaterialiser.maxBufferedSectors)
    (observed : laps.observe text payload = .ok (after, row)) :
    Reached after ((parse text payload).toList ++ past) ∧ after.vehicleId = laps.vehicleId ∧
      after.sectors.entries.length ≤ LapMaterialiser.maxBufferedSectors := by
  have shallow := shallow_of_observe observed
  cases parsed : parse text payload with
  | none =>
    rw [observe_malformed shallow parsed] at observed
    cases observed
    exact ⟨by cases past <;> exact reached, rfl, room⟩
  | some event =>
    rw [observe_event shallow parsed] at observed
    cases read : change text event with
    | error raised =>
      rw [read] at observed
      cases observed
    | ok changed =>
      rw [read] at observed
      have same := congrArg Prod.fst (Except.ok.inj observed)
      dsimp only at same
      rw [← same]
      refine ⟨reached.step read, ?_, apply_room _ changed (adopt_room _ room)⟩
      rw [← adopt_vehicle laps event.lapNumber]
      cases changed <;> rfl

/-- The materialiser of a whole stream. -/
theorem observeAll_reached {text : PyText} {payloads : List String} {laps after : LapMaterialiser}
    {rows : List Materialised} {past : List LapEvent} (reached : Reached laps past)
    (room : laps.sectors.entries.length ≤ LapMaterialiser.maxBufferedSectors)
    (observed : observeAll text laps payloads = .ok (after, rows)) :
    Reached after ((eventsIn text payloads).reverse ++ past) ∧
      after.vehicleId = laps.vehicleId ∧
      after.sectors.entries.length ≤ LapMaterialiser.maxBufferedSectors := by
  induction payloads generalizing laps rows past with
  | nil =>
    cases observed
    exact ⟨reached, rfl, room⟩
  | cons payload rest ih =>
    obtain ⟨first, others, here, later, -⟩ := observeAll_cons_ok observed
    obtain ⟨next, vehicle, space⟩ := observe_reached reached room here
    obtain ⟨last, same, bound⟩ := ih next space later
    refine ⟨?_, same.trans vehicle, bound⟩
    have split : (eventsIn text (payload :: rest)).reverse ++ past =
        (eventsIn text rest).reverse ++ ((parse text payload).toList ++ past) := by
      unfold eventsIn
      cases parsed : parse text payload with
      | none => simp [parsed]
      | some event => simp [parsed]
    rw [split]
    exact last

/-- A materialiser that starts afresh at a clean cut. -/
theorem continues_new {text : PyText} {vehicleId : String} {before after : List String}
    {whole : LapMaterialiser} {rows : List Materialised}
    (observed : observeAll text (.new vehicleId) before = .ok (whole, rows))
    (clean : cleanCut (eventsIn text before) (eventsIn text after) = true) :
    Continues (eventsIn text after) (.new vehicleId) whole := by
  obtain ⟨reached, vehicle, room⟩ := observeAll_reached
    (show Reached (.new vehicleId) [] from ⟨rfl, rfl⟩) (Nat.zero_le _) observed
  refine ⟨vehicle.symm, Nat.zero_le _, room, ?_⟩
  rw [List.append_nil] at reached
  unfold cleanCut at clean
  cases past : (eventsIn text before).reverse with
  | nil =>
    rw [past] at reached
    exact .same reached.1.symm reached.2.symm
  | cons last earlier =>
    rw [past] at reached clean
    obtain ⟨highest, known, below, keys⟩ := reached
    simp only [Bool.and_eq_true, Bool.not_eq_true', Bool.and_eq_false_iff] at clean
    refine .fresh last.lapNumber highest rfl rfl known below ?_ ?_
    · intro key member
      refine ⟨(keys key member).1, fun own => ?_⟩
      rcases clean.1 with idle | unfinished
      · rw [(keys key member).2 own] at idle
        cases idle
      · exact unfinished
    · intro event next
      rw [next] at clean
      simpa using clean.2

/-- A payload does the same to both, and leaves them comparable. -/
theorem Continues.observe {text : PyText} {payload : String} {later : List LapEvent}
    {resumed whole after : LapMaterialiser} {row : Option Materialised}
    (continues : Continues ((parse text payload).toList ++ later) resumed whole)
    (observed : resumed.observe text payload = .ok (after, row)) :
    ∃ next, whole.observe text payload = .ok (next, row) ∧ Continues later after next := by
  have shallow := shallow_of_observe observed
  cases parsed : parse text payload with
  | none =>
    rw [observe_malformed shallow parsed] at observed ⊢
    cases observed
    rw [parsed] at continues
    refine ⟨_, rfl, continues.vehicle, continues.room, continues.space, ?_⟩
    cases continues.memory with
    | same sectors highest => exact .same sectors highest
    | stale limit highest here there agree past =>
      exact .stale limit highest here there agree past
    | fresh last highest empty here there reached keys next =>
      exact .fresh last highest empty here there reached keys next
  | some event =>
    rw [observe_event shallow parsed] at observed ⊢
    rw [parsed] at continues
    cases read : change text event with
    | error raised =>
      rw [read] at observed
      cases observed
    | ok changed =>
      rw [read] at observed
      obtain ⟨rows, still⟩ := continues.step read
      have both := Except.ok.inj observed
      have first := congrArg Prod.fst both
      have second := congrArg Prod.snd both
      dsimp only at first second
      rw [first] at still
      refine ⟨_, ?_, still⟩
      rw [← second, rows]
      rfl

end OpenLaps.Ingest
