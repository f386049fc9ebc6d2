import OpenLaps.Lib.Attempt
import OpenLaps.Pit.Ingest.Guarantees

/- Which messages `_handle` takes, and which end the process whenever they are delivered. -/
namespace OpenLaps.Ingest

/-- A lap event field that `int` can read, if it is a number. -/
def IntReadable : Option Json → Prop
  | some (.float (.finite _)) => True
  | some (.float _) => False
  | _ => True

/-- A lap event field that `float` can read, if it is a number. -/
def FloatReadable : Option Json → Prop
  | some (.int value) => |value| < PyFloat.limit
  | _ => True

def IsNumber : Option Json → Prop
  | some (.int _) => True
  | some (.float _) => True
  | _ => False

/-- The numbers of an event that are read after `_parse`. -/
structure LapEvent.Convertible (event : LapEvent) : Prop where
  sector : event.eventType = "sector_completed" →
    IntReadable (event.decoded.lookup "sector") ∧
      (IsNumber (event.decoded.lookup "sector") →
        FloatReadable (event.decoded.lookup "split_time"))
  lap : event.eventType = "lap_completed" →
    IntReadable (event.decoded.lookup "stint_number") ∧
      FloatReadable (event.decoded.lookup "lap_time")

/-- A lap event whose text does not nest too deeply, and whose numbers can be read if `_parse`
accepts it. -/
def Foldable (text : PyText) (payload : String) : Prop :=
  text.deep payload = false ∧ ∀ event, parse text payload = some event → event.Convertible

/-- A sample that becomes a row becomes one, and its lap event can be folded. -/
def SampleFits (text : PyText) (keys : Dict (Nat × Nat) Nat) (registrySeq : Nat)
    (sample : DecodedSample) : Prop :=
  (keys.get? (registrySeq, sample.channel.id)).isSome → ∀ value, sample.value = some value →
    InCalendar (sample.captureUnixMs / 1000) ∧
      (sample.channel.name = "lap.event" → ∀ payload, value = .str payload →
        Foldable text payload)

/-- A registry that parses, with a creation time that is a time. -/
def RegistryFits (writer : IngestWriter) (message : Msg) : Prop :=
  ∃ registry, message.asRegistry = some registry ∧
    (writer.stop = true ∨ registry.createdUnixMs = 0 ∨
      InCalendar ((registry.createdUnixMs : ℚ) / 1000))

/-- A batch that parses and, if it is decoded, whose samples all fit. -/
def BatchFits (settings : WriterSettings) (writer : IngestWriter) (message : Msg) : Prop :=
  ∃ batch, message.asBatch = some batch ∧
    (RegistryCache.supported batch.formatVersion = true →
      ∀ channels, writer.cache.channels.get? batch.registrySeq = some channels →
        ∀ wire ∈ batch.samples, ∀ sample,
          RegistryCache.decodeSample channels batch.batchEpochUnixMs wire = some sample →
          SampleFits settings.text writer.keys batch.registrySeq sample)

/-- A message that was seen before, or fits as what it is. -/
def Fits (settings : WriterSettings) (writer : IngestWriter) (message : Msg) : Prop :=
  message.sequence ≤ writer.cursor ∨ message.sequence ∈ writer.buffered ∨
    if isRegistry message settings.vehicleId then RegistryFits writer message
    else BatchFits settings writer message

/-- What it means that a message is acked, buffered or stalled on. -/
def Disposed (settings : WriterSettings) (next : IngestWriter) (message : Msg) : Reply → Prop
  | .acked =>
    message.sequence ≤ next.cursor ∨ message.sequence ∈ next.buffered ∨
      isRegistry message settings.vehicleId = true ∨ message.sequence ≤ next.maxSeq
  | .buffered =>
    message ∈ next.pending ∧ message.sequence ∈ next.buffered ∧ message.sequence ≤ next.maxSeq
  | .stalled registrySeq =>
    (∃ batch, message.asBatch = some batch ∧ batch.registrySeq = registrySeq) ∧
      next.cache.channels.get? registrySeq = none

theorem asInt_succeeds (value : Option Json) :
    (∃ number, asInt value = .ok number) ↔ IntReadable value := by
  cases value with
  | none => simp [asInt, IntReadable]
  | some json =>
    cases json with
    | float number =>
      cases number <;> simp [asInt, intOfFloat, IntReadable, Except.map]
    | _ => simp [asInt, IntReadable]

theorem asFloat_succeeds (value : Option Json) :
    (∃ number, asFloat value = .ok number) ↔ FloatReadable value := by
  cases value with
  | none => simp [asFloat, FloatReadable]
  | some json =>
    cases json with
    | int number =>
      simp only [asFloat, FloatReadable]
      by_cases small : |number| < PyFloat.limit
      · simp [floatOfInt_small small, Except.map, small]
      · simp [floatOfInt_large small, Except.map, small]
    | _ => simp [asFloat, FloatReadable]

/-- Only a number counts as a sector. -/
theorem asInt_some {value : Option Json} {number : Option Int} (read : asInt value = .ok number) :
    number.isSome ↔ IsNumber value := by
  cases value with
  | none =>
    cases read
    simp [IsNumber]
  | some json =>
    cases json with
    | float exactly =>
      cases exactly with
      | finite value =>
        cases read
        simp [IsNumber]
      | _ => cases read
    | int exactly =>
      cases read
      simp [IsNumber]
    | _ =>
      cases read
      simp [IsNumber]

theorem fromTimestamp_succeeds (seconds : ℚ) :
    (∃ instant, fromTimestamp (.finite seconds) = .ok instant) ↔ InCalendar seconds := by
  rw [fromTimestamp_finite]
  by_cases inside : InCalendar seconds
  · simp [inside]
  · simp [inside]

theorem bufferSector_succeeds (laps : LapMaterialiser) (event : LapEvent) :
    (∃ next, laps.bufferSector event = .ok next) ↔
      IntReadable (event.decoded.lookup "sector") ∧
        (IsNumber (event.decoded.lookup "sector") →
          FloatReadable (event.decoded.lookup "split_time")) := by
  rw [LapMaterialiser.bufferSector, Attempt.bind_succeeds, ← asInt_succeeds, ← asFloat_succeeds]
  constructor
  · rintro ⟨number, read, later⟩
    refine ⟨⟨number, read⟩, fun numeric => ?_⟩
    obtain ⟨sector, rfl⟩ := Option.isSome_iff_exists.mp ((asInt_some read).mpr numeric)
    obtain ⟨split, done, _⟩ := Attempt.bind_succeeds.mp later
    exact ⟨split, done⟩
  · rintro ⟨⟨number, read⟩, splits⟩
    refine ⟨number, read, ?_⟩
    cases number with
    | none => exact ⟨_, rfl⟩
    | some sector =>
      obtain ⟨split, done⟩ := splits ((asInt_some read).mp rfl)
      exact Attempt.bind_succeeds.mpr ⟨split, done, _, rfl⟩

theorem completeLap_succeeds (laps : LapMaterialiser) (event : LapEvent) :
    (∃ next, laps.completeLap event = .ok next) ↔
      IntReadable (event.decoded.lookup "stint_number") ∧
        FloatReadable (event.decoded.lookup "lap_time") := by
  rw [LapMaterialiser.completeLap, Attempt.bind_succeeds, ← asInt_succeeds, ← asFloat_succeeds]
  constructor
  · rintro ⟨stint, read, later⟩
    obtain ⟨time, done, _⟩ := Attempt.bind_succeeds.mp later
    exact ⟨⟨stint, read⟩, time, done⟩
  · rintro ⟨⟨stint, read⟩, time, done⟩
    exact ⟨stint, read, Attempt.bind_succeeds.mpr ⟨time, done, _, rfl⟩⟩

/-- A lap event escapes `observe` only as a text that nests too deeply, or through the numbers
read after `_parse`. -/
theorem observe_succeeds (text : PyText) (laps : LapMaterialiser) (payload : String) :
    (∃ next, laps.observe text payload = .ok next) ↔ Foldable text payload := by
  unfold LapMaterialiser.observe Foldable
  cases text.deep payload with
  | true =>
    rw [if_pos rfl]
    exact ⟨fun ⟨_, impossible⟩ => (nomatch impossible), fun fits => (nomatch fits.1)⟩
  | false =>
  rw [if_neg Bool.false_ne_true]
  simp only [true_and]
  cases parsed : parse text payload with
  | none => exact ⟨fun _ event impossible => (nomatch impossible), fun _ => ⟨_, rfl⟩⟩
  | some event =>
    have only : (∀ other, some event = some other → other.Convertible) ↔ event.Convertible :=
      ⟨fun all => all event rfl, fun fine other same => Option.some.inj same ▸ fine⟩
    rw [only]
    dsimp only
    by_cases sector : event.eventType = "sector_completed"
    · have other : event.eventType ≠ "lap_completed" := by
        rw [sector]
        decide
      rw [if_pos sector, Attempt.bind_succeeds]
      constructor
      · rintro ⟨next, done, _⟩
        exact ⟨fun _ => (bufferSector_succeeds _ event).mp ⟨next, done⟩,
          fun impossible => absurd impossible other⟩
      · intro fine
        obtain ⟨next, done⟩ := (bufferSector_succeeds (laps.adopt event.lapNumber) event).mpr
          (fine.sector sector)
        exact ⟨next, done, _, rfl⟩
    · rw [if_neg sector]
      by_cases lap : event.eventType = "lap_completed"
      · rw [if_pos lap, Attempt.bind_succeeds]
        constructor
        · rintro ⟨next, done, _⟩
          exact ⟨fun impossible => absurd impossible sector,
            fun _ => (completeLap_succeeds _ event).mp ⟨next, done⟩⟩
        · intro fine
          obtain ⟨next, done⟩ := (completeLap_succeeds (laps.adopt event.lapNumber) event).mpr
            (fine.lap lap)
          exact ⟨next, done, _, rfl⟩
      · rw [if_neg lap]
        have fine : event.Convertible :=
          ⟨fun impossible => absurd impossible sector, fun impossible => absurd impossible lap⟩
        split
        · exact ⟨fun _ => fine, fun _ => ⟨_, rfl⟩⟩
        · exact ⟨fun _ => fine, fun _ => ⟨_, rfl⟩⟩

theorem materialiseLap_succeeds (settings : WriterSettings) (writer : IngestWriter)
    (payload : String) :
    (∃ next, writer.materialiseLap settings payload = .ok next) ↔
      Foldable settings.text payload := by
  rw [← observe_succeeds settings.text writer.laps payload, IngestWriter.materialiseLap,
    Attempt.bind_succeeds]
  constructor
  · rintro ⟨next, done, _⟩
    exact ⟨next, done⟩
  · rintro ⟨⟨laps, row⟩, done⟩
    refine ⟨⟨laps, row⟩, done, ?_⟩
    cases row with
    | none => exact ⟨_, rfl⟩
    | some made => cases made <;> exact ⟨_, rfl⟩

/-- The lap events of a sample that becomes a row. -/
def lapPayload (keys : Dict (Nat × Nat) Nat) (registrySeq : Nat) (sample : DecodedSample) :
    List String :=
  if (keys.get? (registrySeq, sample.channel.id)).isSome ∧ sample.channel.name = "lap.event" then
    match sample.value with
    | some (.str payload) => [payload]
    | _ => []
  else []

theorem addSample_succeeds (keys : Dict (Nat × Nat) Nat) (registrySeq : Nat) (soFar : BatchRows)
    (sample : DecodedSample) :
    (∃ next, addSample keys registrySeq soFar sample = .ok next) ↔
      ((keys.get? (registrySeq, sample.channel.id)).isSome → sample.value.isSome →
        InCalendar (sample.captureUnixMs / 1000)) := by
  unfold addSample
  cases keys.get? (registrySeq, sample.channel.id) with
  | none => simp
  | some channelKey =>
    cases sample.value with
    | none => simp
    | some value =>
      simp only [Option.isSome_some, true_implies]
      rw [Attempt.bind_succeeds, ← fromTimestamp_succeeds]
      constructor
      · rintro ⟨instant, done, _⟩
        exact ⟨instant, done⟩
      · rintro ⟨instant, done⟩
        refine ⟨instant, done, ?_⟩
        split
        · exact ⟨_, rfl⟩
        · split
          · exact ⟨_, rfl⟩
          · exact ⟨_, rfl⟩

theorem addSample_lapEvents {keys : Dict (Nat × Nat) Nat} {registrySeq : Nat}
    {soFar next : BatchRows} {sample : DecodedSample}
    (added : addSample keys registrySeq soFar sample = .ok next) :
    next.lapEvents = soFar.lapEvents ++ lapPayload keys registrySeq sample := by
  unfold addSample at added
  unfold lapPayload
  cases found : keys.get? (registrySeq, sample.channel.id) with
  | none =>
    rw [found] at added
    cases added
    simp
  | some channelKey =>
    rw [found] at added
    cases given : sample.value with
    | none =>
      rw [given] at added
      cases added
      simp
    | some value =>
      rw [given] at added
      obtain ⟨instant, _, added⟩ := Attempt.bind_ok.mp added
      dsimp only at added
      by_cases named : sample.channel.name = "lap.event"
      · cases value with
        | str payload =>
          simp only [named, columns, Option.isSome_some, and_self, if_true] at added
          cases added
          simp [named]
        | _ =>
          simp only [named, columns, Option.isSome_none, Bool.false_eq_true, and_false,
            if_false, String.reduceEq] at added
          cases added
          simp
      · simp only [named, false_and, if_false] at added
        split at added
        · cases added
          simp [named]
        · cases added
          simp [named]

theorem rowsFromBatch_lapEvents {batch : DecodedBatch} {keys : Dict (Nat × Nat) Nat}
    {converted : BatchRows} (done : rowsFromBatch batch keys = .ok converted) :
    converted.lapEvents = batch.samples.flatMap (lapPayload keys batch.registrySeq) := by
  have folds : ∀ (samples : List DecodedSample) (soFar : BatchRows),
      samples.foldlM (addSample keys batch.registrySeq) soFar = .ok converted →
        converted.lapEvents =
          soFar.lapEvents ++ samples.flatMap (lapPayload keys batch.registrySeq) := by
    intro samples
    induction samples with
    | nil =>
      intro soFar folded
      cases folded
      simp
    | cons sample rest ih =>
      intro soFar folded
      rw [List.foldlM_cons] at folded
      obtain ⟨next, added, later⟩ := Attempt.bind_ok.mp folded
      rw [ih next later, addSample_lapEvents added, List.flatMap_cons, List.append_assoc]
  simpa [BatchRows.empty] using folds batch.samples BatchRows.empty done

/-- A sample fits when its row can be made and its lap event folded. -/
theorem sampleFits_iff (text : PyText) (keys : Dict (Nat × Nat) Nat) (registrySeq : Nat)
    (sample : DecodedSample) :
    SampleFits text keys registrySeq sample ↔
      ((keys.get? (registrySeq, sample.channel.id)).isSome → sample.value.isSome →
        InCalendar (sample.captureUnixMs / 1000)) ∧
      ∀ payload ∈ lapPayload keys registrySeq sample, Foldable text payload := by
  unfold SampleFits lapPayload
  by_cases keyed : (keys.get? (registrySeq, sample.channel.id)).isSome
  · cases given : sample.value with
    | none => simp
    | some value =>
      by_cases named : sample.channel.name = "lap.event"
      · cases value <;> simp [keyed, named]
      · simp [keyed, named]
  · simp [keyed]

/-- A decoded batch joins the buffer exactly when all its samples fit. -/
theorem bufferBatch_succeeds (settings : WriterSettings) (writer : IngestWriter) (message : Msg)
    (batch : DecodedBatch) :
    (∃ next, writer.bufferBatch settings message batch = .ok next) ↔
      ∀ sample ∈ batch.samples,
        SampleFits settings.text writer.keys batch.registrySeq sample := by
  have rows := Attempt.foldlM_ok_iff (addSample_succeeds writer.keys batch.registrySeq)
    batch.samples BatchRows.empty
  have laps := fun writer : IngestWriter => fun payloads : List String =>
    Attempt.foldlM_ok_iff (materialiseLap_succeeds settings) payloads writer
  rw [IngestWriter.bufferBatch, Attempt.bind_succeeds]
  simp only [sampleFits_iff]
  constructor
  · rintro ⟨converted, made, later⟩ sample member
    refine ⟨rows.mp ⟨converted, made⟩ sample member, fun payload listed => ?_⟩
    obtain ⟨folded, done, _⟩ := Attempt.bind_succeeds.mp later
    have inside : payload ∈ converted.lapEvents := by
      rw [rowsFromBatch_lapEvents made]
      exact List.mem_flatMap.mpr ⟨sample, member, listed⟩
    exact (laps _ converted.lapEvents).mp ⟨folded, done⟩ payload inside
  · intro fine
    obtain ⟨converted, made⟩ := rows.mpr fun sample member => (fine sample member).1
    refine ⟨converted, made, Attempt.bind_succeeds.mpr ?_⟩
    have good : ∀ payload ∈ converted.lapEvents, Foldable settings.text payload := by
      intro payload listed
      rw [rowsFromBatch_lapEvents made] at listed
      obtain ⟨sample, member, inside⟩ := List.mem_flatMap.mp listed
      exact (fine sample member).2 payload inside
    obtain ⟨folded, done⟩ := (laps _ converted.lapEvents).mpr good
    exact ⟨folded, done, _, rfl⟩

theorem readRegistry_succeeds (settings : WriterSettings) (writer : IngestWriter)
    (message : Msg) :
    (∃ next, writer.readRegistry settings message = .ok next) ↔ RegistryFits writer message := by
  unfold IngestWriter.readRegistry RegistryFits
  cases parsed : message.asRegistry with
  | none => simp
  | some registry =>
    simp only [Option.some.injEq, exists_eq_left']
    unfold IngestWriter.applyRegistry upsertRegistry epochMsToDatetime
    by_cases stopped : writer.stop = true
    · simp [stopped]
    · by_cases unset : registry.createdUnixMs = 0
      · simp [stopped, unset, bind, Except.bind, pure, Except.pure, Except.map]
      · rw [fromTimestamp_finite]
        by_cases inside : InCalendar ((registry.createdUnixMs : ℚ) / 1000)
        · simp [stopped, unset, inside, bind, Except.bind, pure, Except.pure, Except.map]
        · simp [stopped, unset, inside, bind, Except.bind, Except.map]

theorem handleBatch_succeeds (settings : WriterSettings) (writer : IngestWriter) (message : Msg)
    (parsed : SampleBatch) :
    (∃ result, writer.handleBatch settings message parsed = .ok result) ↔
      (RegistryCache.supported parsed.formatVersion = true →
        ∀ channels, writer.cache.channels.get? parsed.registrySeq = some channels →
          ∀ wire ∈ parsed.samples, ∀ sample,
            RegistryCache.decodeSample channels parsed.batchEpochUnixMs wire = some sample →
            SampleFits settings.text writer.keys parsed.registrySeq sample) := by
  unfold IngestWriter.handleBatch RegistryCache.decodeBatch
  by_cases supported : RegistryCache.supported parsed.formatVersion = true
  · cases known : writer.cache.channels.get? parsed.registrySeq with
    | none => simp [supported]
    | some channels =>
      simp only [supported, not_true_eq_false, if_false, Option.some.injEq, forall_const,
        forall_eq']
      rw [Attempt.bind_succeeds]
      have made := bufferBatch_succeeds settings writer message
        ⟨parsed.registrySeq, parsed.batchEpochUnixMs, parsed.batchEpochMonoNs,
          parsed.samples.filterMap (RegistryCache.decodeSample channels
            parsed.batchEpochUnixMs)⟩
      simp only [List.mem_filterMap] at made
      constructor
      · rintro ⟨next, done, _⟩ wire member sample decoded
        exact made.mp ⟨next, done⟩ sample ⟨wire, member, decoded⟩
      · intro fine
        obtain ⟨next, done⟩ := made.mpr fun sample ⟨wire, member, decoded⟩ =>
          fine wire member sample decoded
        exact ⟨next, done, _, rfl⟩
  · simp [supported]

theorem handle_succeeds (settings : WriterSettings) (writer : IngestWriter) (message : Msg) :
    (∃ result, writer.handle settings message = .ok result) ↔ Fits settings writer message := by
  unfold IngestWriter.handle Fits
  by_cases done : message.sequence ≤ writer.cursor
  · simp [done]
  · by_cases held : message.sequence ∈ writer.buffered
    · simp [held]
    · simp only [done, held, if_false, false_or]
      split
      · rw [← readRegistry_succeeds settings writer message, IngestWriter.handleRegistry]
        cases writer.readRegistry settings message with
        | error error => simp [Except.map]
        | ok next => simp [Except.map]
      · unfold BatchFits
        cases parsed : message.asBatch with
        | none => simp
        | some batch =>
          simp only [Option.some.injEq, exists_eq_left']
          exact handleBatch_succeeds settings writer message batch

/-- What a message that is taken comes to. -/
theorem handle_disposed {settings : WriterSettings} {writer next : IngestWriter} {message : Msg}
    {reply : Reply} (done : writer.handle settings message = .ok (next, reply)) :
    Disposed settings next message reply := by
  unfold IngestWriter.handle at done
  split at done
  · rename_i old
    cases done
    exact .inl old
  · split at done
    · rename_i held
      cases done
      exact .inr (.inl held)
    · split at done
      · rename_i registry
        unfold IngestWriter.handleRegistry at done
        cases applied : writer.readRegistry settings message with
        | error error =>
          rw [applied] at done
          cases done
        | ok learned =>
          rw [applied] at done
          cases done
          exact .inr (.inr (.inl registry))
      · cases parsed : message.asBatch with
        | none =>
          rw [parsed] at done
          cases done
        | some batch =>
          rw [parsed] at done
          dsimp only at done
          unfold IngestWriter.handleBatch RegistryCache.decodeBatch at done
          by_cases supported : RegistryCache.supported batch.formatVersion = true
          · rw [if_neg (not_not.mpr supported)] at done
            cases known : writer.cache.channels.get? batch.registrySeq with
            | none =>
              rw [known] at done
              cases done
              exact ⟨⟨batch, parsed, rfl⟩, known⟩
            | some channels =>
              rw [known] at done
              dsimp only at done
              obtain ⟨buffered, made, same⟩ := Attempt.bind_ok.mp done
              cases same
              obtain ⟨_, _, _, _, _, _, rfl⟩ := bufferBatch_spec made
              exact ⟨by simp, by simp, Nat.le_max_right _ _⟩
          · rw [if_pos supported] at done
            cases done
            exact .inr (.inr (.inr (Nat.le_max_right _ _)))

end OpenLaps.Ingest
