import OpenLaps.Collectors.NmeaCounts
import OpenLaps.Collectors.SerialTransport
import OpenLaps.Core.StringRules
import OpenLaps.Lib.Attempt
import OpenLaps.Lib.Machine

/- What the serial collector emits for the lines of its receiver, wherever they pause. -/
namespace OpenLaps.Nmea
open Strings

/-! ### What a result of `readline` comes to -/

section Values

variable (runtime : Runtime) (source : String)

/-- What the decoder gives for a line with its newline, if the line is not too long. -/
def lineValues (line : Bytes) : Values :=
  if line.length ≤ maxSentenceBytes + 1 then valuesOf runtime source (.bytes line) else []

/-- What the collector emits for a result of `readline`. -/
def chunkValues (chunk : Bytes) : Values :=
  if SerialCollector.oversized chunk then [] else valuesOf runtime source (.bytes chunk)

variable {runtime source}

theorem valuesOf_congr {first second : Bytes}
    (same : (Sentence.bytes first).text.map runtime.strip =
      (Sentence.bytes second).text.map runtime.strip) :
    valuesOf runtime source (.bytes first) = valuesOf runtime source (.bytes second) := by
  have read (data : Bytes) : readSentence runtime source (.bytes data) =
      (Sentence.bytes data).text.map runtime.strip >>= fun text =>
        validatedBody runtime text >>= fun body => decodeFields runtime source (splitOn ',' body) := by
    unfold readSentence
    cases (Sentence.bytes data).text <;> rfl
  unfold valuesOf
  rw [read, read, same]

/-- White space, which is ASCII. -/
def White (data : Bytes) : Prop :=
  ∀ byte ∈ data, (9 ≤ byte.toNat ∧ byte.toNat ≤ 13) ∨ (28 ≤ byte.toNat ∧ byte.toNat ≤ 32)

/-- A text of ASCII bytes. -/
def textOf (data : Bytes) : Text := data.map fun byte => Char.ofNat byte.toNat

theorem text_bytes (data : Bytes) : (Sentence.bytes data).text =
    if data.all (· < 128) then .ok (textOf data)
    else .error (.valueError "'ascii' codec can't decode byte: ordinal not in range(128)") := rfl

theorem White.ascii {data : Bytes} (white : White data) : data.all (· < 128) = true := by
  apply List.all_eq_true.mpr
  intro byte member
  have range := white byte member
  rw [decide_eq_true_eq, UInt8.lt_iff_toNat_lt]
  show byte.toNat < 128
  omega

theorem White.spaces {data : Bytes} (white : White data) : Spaces runtime (textOf data) := by
  intro char member
  obtain ⟨byte, listed, rfl⟩ := List.mem_map.mp member
  have range := white byte listed
  have every : ∀ number : Fin 33, (Char.ofNat number).toNat = number := by decide
  rw [Runtime.isSpace, isAscii, every ⟨byte.toNat, by omega⟩, if_pos (decide_eq_true (by omega))]
  simpa using range

theorem spaces_append {first second : Text} (spaces : Spaces runtime first)
    (spaces' : Spaces runtime second) : Spaces runtime (first ++ second) := by
  intro char member
  rcases List.mem_append.mp member with left | right
  · exact spaces char left
  · exact spaces' char right

/-- Stripping takes white space away at both ends. -/
theorem strip_between {lead trail : Text} (before : Spaces runtime lead)
    (after : Spaces runtime trail) (text : Text) :
    runtime.strip (lead ++ (text ++ trail)) = runtime.strip text := by
  obtain ⟨front, back, whole, front', back', trimmed⟩ := exists_frame runtime text
  have frame := strip_framed (spaces_append before front') (spaces_append back' after) trimmed
  rw [← frame]
  conv_lhs => rw [whole]
  simp only [List.append_assoc]

/-- White space around a chunk does not change what it is decoded to. -/
theorem valuesOf_between {before after : Bytes} (white : White before) (white' : White after)
    (chunk : Bytes) : valuesOf runtime source (.bytes (before ++ (chunk ++ after))) =
      valuesOf runtime source (.bytes chunk) := by
  apply valuesOf_congr
  rw [text_bytes, text_bytes, List.all_append, List.all_append, white.ascii, white'.ascii,
    Bool.true_and, Bool.and_true]
  split
  · have text : textOf (before ++ (chunk ++ after)) =
        textOf before ++ (textOf chunk ++ textOf after) := by simp [textOf]
    show Except.ok (runtime.strip (textOf (before ++ (chunk ++ after)))) =
      Except.ok (runtime.strip (textOf chunk))
    rw [text, strip_between white.spaces white'.spaces]
  · rfl

theorem valuesOf_white {data : Bytes} (white : White data) :
    valuesOf runtime source (.bytes data) = [] := by
  have none : White [] := fun _ member => absurd member List.not_mem_nil
  have same : valuesOf runtime source (.bytes (data ++ ([] ++ []))) =
      valuesOf runtime source (.bytes []) := valuesOf_between white none []
  rw [List.append_nil, List.append_nil] at same
  rw [same]
  rfl

theorem validatedBody_ok {text body : Text} (valid : validatedBody runtime text = .ok body) :
    ∃ payload, text = '$' :: payload ∧ body = (partition '*' payload).1 := by
  unfold validatedBody at valid
  split at valid
  · rename_i payload
    refine ⟨payload, rfl, ?_⟩
    split at valid
    · rename_i whole bare
      cases valid
      rw [bare]
    · rename_i whole supplied starred
      split at valid
      · cases valid
      · split at valid
        · cases valid
        · cases valid
          rw [starred]
  · cases valid

/-- The types of sentences that have values. -/
def fixTypes : List Text := ["GGA".toList, "GST".toList, "RMC".toList]

/-- Fields that no decoder takes values from: too few, or of another type. -/
def Bare (fields : List Text) : Prop :=
  fields.length < 9 ∨ lastChars 3 (fieldAt fields 0) ∉ fixTypes

theorem Bare.values {fields : List Text} (bare : Bare fields) {kind : Kind} {values : Values}
    (decoded : decodeFields runtime source fields = .ok (kind, values)) : values = [] := by
  have few {type : Text} (known : type ∈ fixTypes) (same : lastChars 3 (fieldAt fields 0) = type) :
      fields.length < 12 ∧ fields.length < 9 := by
    rcases bare with few | other
    · omega
    · rw [same] at other
      exact absurd known other
  unfold decodeFields at decoded
  dsimp only at decoded
  split at decoded
  · rename_i type
    rw [decodeGga, if_pos (few (by simp [fixTypes]) type).1] at decoded
    cases decoded
  · split at decoded
    · rename_i type
      rw [decodeGst, if_pos (few (by simp [fixTypes]) type).2] at decoded
      cases decoded
    · split at decoded
      · cases decoded
        rfl
      · rename_i type
        rw [decodeRmc, if_pos (few (by simp [fixTypes]) (not_not.mp type)).1] at decoded
        cases decoded

/-- Bytes that are no sentence with values, whatever its checksum: no text that begins with a
dollar, or one whose fields have none. -/
def NoFix (runtime : Runtime) (data : Bytes) : Prop :=
  ∀ text payload, (Sentence.bytes data).text = .ok text → runtime.strip text = '$' :: payload →
    Bare (splitOn ',' (partition '*' payload).1)

theorem NoFix.values {data : Bytes} (none : NoFix runtime data) :
    valuesOf runtime source (.bytes data) = [] := by
  unfold valuesOf
  cases read : readSentence runtime source (.bytes data) with
  | error error => rfl
  | ok result =>
      obtain ⟨text, given, checked⟩ := Attempt.bind_ok.mp read
      obtain ⟨body, valid, decoded⟩ := Attempt.bind_ok.mp checked
      obtain ⟨payload, stripped, rfl⟩ := validatedBody_ok valid
      exact (none text payload given stripped).values decoded

/-- How `readline` may return a line, newline included: one result holds all that is no white
space, in a line that is not too long, or neither the line nor a result has a fix to decode. -/
def LineRead (runtime : Runtime) (parts : List Bytes) : Prop :=
  (parts.flatten.length ≤ maxSentenceBytes + 1 ∧ ∃ before chunk after,
    parts = before ++ chunk :: after ∧ ∀ part ∈ before ++ after, White part) ∨
  ((maxSentenceBytes + 1 < parts.flatten.length ∨ NoFix runtime parts.flatten) ∧
    ∀ part ∈ parts, SerialCollector.oversized part ∨ NoFix runtime part)

/-- Nothing comes of a result that is skipped or has no fix. -/
theorem chunkValues_none {chunk : Bytes}
    (none : SerialCollector.oversized chunk ∨ NoFix runtime chunk) :
    chunkValues runtime source chunk = [] := by
  unfold chunkValues
  rcases none with oversized | bare
  · rw [if_pos oversized]
  · rw [bare.values, ite_self]

theorem chunkValues_white {chunk : Bytes} (white : White chunk) :
    chunkValues runtime source chunk = [] := by
  unfold chunkValues
  rw [valuesOf_white white, ite_self]

theorem flatMap_white {parts : List Bytes} (white : ∀ part ∈ parts, White part) :
    parts.flatMap (chunkValues runtime source) = [] :=
  List.flatMap_eq_nil_iff.mpr fun part member => chunkValues_white (white part member)

theorem white_flatten {parts : List Bytes} (white : ∀ part ∈ parts, White part) :
    White parts.flatten := by
  intro byte member
  obtain ⟨part, listed, inside⟩ := List.mem_flatten.mp member
  exact white part listed byte inside

/-- Such a line gives the values that it has. -/
theorem LineRead.values {parts : List Bytes} (read : LineRead runtime parts)
    (ended : parts.flatten.getLast? = some 10) :
    parts.flatMap (chunkValues runtime source) = lineValues runtime source parts.flatten := by
  rcases read with ⟨short, before, chunk, after, rfl, white⟩ | ⟨long, each⟩
  · have white' : ∀ part ∈ before, White part :=
      fun part member => white part (List.mem_append_left after member)
    have white'' : ∀ part ∈ after, White part :=
      fun part member => white part (List.mem_append_right before member)
    have whole : (before ++ chunk :: after).flatten = before.flatten ++ (chunk ++ after.flatten) := by
      rw [List.flatten_append, List.flatten_cons]
    have fits : ¬ SerialCollector.oversized chunk := by
      rintro ⟨long, unended⟩
      rw [whole] at short ended
      simp only [List.length_append] at short
      have none : before.flatten = [] := List.eq_nil_of_length_eq_zero (by omega)
      have none' : after.flatten = [] := List.eq_nil_of_length_eq_zero (by omega)
      rw [none, none', List.nil_append, List.append_nil] at ended
      exact unended (.inl ended)
    rw [List.flatMap_append, List.flatMap_cons, flatMap_white white', flatMap_white white'',
      List.nil_append, List.append_nil, lineValues, if_pos short, whole,
      valuesOf_between (white_flatten white') (white_flatten white''), chunkValues, if_neg fits]
  · have none : lineValues runtime source parts.flatten = [] := by
      unfold lineValues
      rcases long with long | bare
      · rw [if_neg (by omega)]
      · rw [bare.values, ite_self]
    rw [none]
    exact List.flatMap_eq_nil_iff.mpr fun part member => chunkValues_none (each part member)

end Values

/-! ### Runs of the read loop -/

section Loop

variable {runtime : Runtime} {wallClock : Int → ℚ}

theorem decode_source (decoder : NmeaDecoder) (sentence : Sentence) :
    (decoder.decode runtime sentence).1.source = decoder.source := by
  unfold NmeaDecoder.decode
  dsimp only
  split
  · rfl
  · split <;> rfl

/-- A result of `readline` never stops the loop, and its values are emitted. -/
theorem readLine_told (runtime : Runtime) (wallClock : Int → ℚ) (collector : SerialCollector)
    (chunk : Bytes) (tMonoNs : Int) :
    ∃ next, collector.readLine runtime wallClock chunk tMonoNs = .ok next ∧
      next.decoder.source = collector.decoder.source ∧
      next.told = collector.told ++ chunkValues runtime collector.decoder.source chunk := by
  unfold SerialCollector.readLine chunkValues
  split
  · rename_i none
    refine ⟨collector, rfl, rfl, ?_⟩
    rw [none]
    exact (List.append_nil _).symm
  · split
    · exact ⟨_, rfl, rfl, (List.append_nil _).symm⟩
    · rw [SerialCollector.handleLine]
      dsimp only
      rw [decode_values]
      refine ⟨_, rfl, decode_source _ _, ?_⟩
      unfold SerialCollector.told
      rw [List.map_append, List.map_map]
      exact congrArg _ (List.map_id _)

namespace Reading

/-- What has been emitted are the values of the lines that have ended. -/
def Faithful (runtime : Runtime) (source : String) (reading : Reading) : Prop :=
  reading.collector.told = reading.lines.flatMap (lineValues runtime source)

/-- Nothing was returned of the line that has not ended, but what has no fix to decode. -/
def Quiet (runtime : Runtime) (reading : Reading) : Prop :=
  ∀ part ∈ reading.pieces, SerialCollector.oversized part ∨ NoFix runtime part

/-- What a step may do to a line that it ends. -/
def Uncut (runtime : Runtime) (reading : Reading) : Arrival → Prop
  | .byte value _ => value = 10 → LineRead runtime (reading.pieces ++ [reading.pending ++ [10]])
  | .pause _ => True

/-- The values of the lines that have ended, and of what was returned of the current one. -/
structure Followed (runtime : Runtime) (source : String) (reading : Reading) : Prop where
  named : reading.collector.decoder.source = source
  told : reading.collector.told = reading.lines.flatMap (lineValues runtime source) ++
    reading.pieces.flatMap (chunkValues runtime source)

variable {source : String} {reading : Reading}

theorem Followed.faithful (followed : reading.Followed runtime source)
    (quiet : reading.Quiet runtime) : reading.Faithful runtime source := by
  have silent : reading.pieces.flatMap (chunkValues runtime source) = [] :=
    List.flatMap_eq_nil_iff.mpr fun part member => chunkValues_none (quiet part member)
  rw [Faithful, followed.told, silent, List.append_nil]

/-- Every arrival is handled. -/
theorem step_enabled (runtime : Runtime) (wallClock : Int → ℚ) (reading : Reading)
    (arrival : Arrival) : ∃ next, reading.step runtime wallClock arrival = some next := by
  cases arrival with
  | pause tMonoNs =>
      obtain ⟨collector, read, -⟩ :=
        readLine_told runtime wallClock reading.collector reading.pending tMonoNs
      rw [Reading.step, read]
      exact ⟨_, rfl⟩
  | byte value tMonoNs =>
      obtain ⟨collector, read, -⟩ :=
        readLine_told runtime wallClock reading.collector (reading.pending ++ [value]) tMonoNs
      rw [Reading.step, read]
      split
      · exact ⟨_, rfl⟩
      · split
        · exact ⟨_, rfl⟩
        · exact ⟨_, rfl⟩

/-- What `readline` returns of a line adds to what was told. -/
theorem Followed.piece (followed : reading.Followed runtime source) {chunk : Bytes}
    {collector : SerialCollector}
    (same : collector.decoder.source = reading.collector.decoder.source)
    (told : collector.told =
      reading.collector.told ++ chunkValues runtime reading.collector.decoder.source chunk) :
    Followed runtime source { reading with
      collector := collector, pending := [], pieces := reading.pieces ++ [chunk] } := by
  rw [followed.named] at same told
  refine ⟨same, ?_⟩
  rw [told, followed.told, List.flatMap_append, List.flatMap_singleton, List.append_assoc]

theorem Followed.step (followed : reading.Followed runtime source) {arrival : Arrival}
    (uncut : reading.Uncut runtime arrival) {next : Reading}
    (taken : reading.step runtime wallClock arrival = some next) :
    next.Followed runtime source := by
  cases arrival with
  | pause tMonoNs =>
      obtain ⟨collector, read, same, told⟩ :=
        readLine_told runtime wallClock reading.collector reading.pending tMonoNs
      rw [Reading.step, read] at taken
      cases taken
      exact followed.piece same told
  | byte value tMonoNs =>
      obtain ⟨collector, read, same, told⟩ :=
        readLine_told runtime wallClock reading.collector (reading.pending ++ [value]) tMonoNs
      rw [Reading.step, read] at taken
      split at taken
      · rename_i newline
        cases taken
        have parts : (reading.pieces ++ [reading.pending ++ [10]]).flatMap (chunkValues runtime source) =
            _ := (uncut newline).values (by simp)
        rw [followed.named, newline] at told
        rw [followed.named] at same
        refine ⟨same, ?_⟩
        show collector.told = _ ++ []
        rw [newline, told, followed.told, List.append_nil, List.flatMap_append,
          List.flatMap_singleton, ← parts, List.flatMap_append, List.flatMap_singleton,
          List.append_assoc]
      · split at taken
        · cases taken
          exact followed.piece same told
        · cases taken
          exact ⟨followed.named, followed.told⟩

end Reading

/-- Where no sentence is cut, timing changes nothing: the loop goes on over every arrival, and
wherever the stream stops it has emitted what the decoder gives for the lines that have ended,
unless a sentence was returned of a line that has not. -/
theorem framing_untimed (runtime : Runtime) (wallClock : Int → ℚ) (decoder : NmeaDecoder)
    (arrivals : List Arrival)
    (uncut : Machine.Along (Reading.step runtime wallClock) (Reading.Uncut runtime)
      (.start decoder) arrivals) :
    (∃ final, Machine.run (Reading.step runtime wallClock)
      (.start decoder) arrivals = some final) ∧
    Machine.Always (Reading.step runtime wallClock)
      (fun reading => reading.Quiet runtime → reading.Faithful runtime decoder.source)
      (.start decoder) arrivals := by
  constructor
  · apply Machine.run_some_iff.mpr
    intro _ arrival _ _ reading _
    exact Reading.step_enabled runtime wallClock reading arrival
  · apply Machine.always_of_along (Reading.Followed runtime decoder.source) _ _ arrivals _ _ uncut
    · intro reading followed
      exact followed.faithful
    · intro reading arrival next followed permitted taken
      exact followed.step permitted taken
    · exact ⟨rfl, rfl⟩

/-- A line that comes in one piece, after pauses. -/
theorem lineRead_of_blank {pieces : List Bytes} {pending : Bytes} (blank : pieces.flatten = [])
    (short : pending.length ≤ maxSentenceBytes) : LineRead runtime (pieces ++ [pending ++ [10]]) := by
  refine .inl ⟨?_, pieces, pending ++ [10], [], rfl, ?_⟩
  · rw [List.flatten_append, blank, List.flatten_singleton, List.nil_append, List.length_append]
    exact Nat.succ_le_succ short
  · rw [List.append_nil]
    intro part member byte inside
    rw [List.flatten_eq_nil_iff.mp blank part member] at inside
    cases inside

end Loop

/-- The bytes of a text, one after the other. -/
def bytesOf (text : String) : List Arrival :=
  text.toList.map fun char => .byte (UInt8.ofNat char.toNat) 0

def serialDecoder : NmeaDecoder := { sourceName := "gps", device := "nmea" }

/-- A pause, a sentence and another pause. -/
def gstLine : List Arrival :=
  [.pause 0] ++ bytesOf "$GPGST,,,,,,1,2,15\n" ++ [.pause 1]

/-- `Uncut` for lines that come in one piece, as a test. -/
def uncutTest (reading : Reading) : Arrival → Bool
  | .byte value _ =>
      value != 10 || (reading.pieces.flatten = [] && reading.pending.length ≤ maxSentenceBytes)
  | .pause _ => true

theorem uncut_of_test (reading : Reading) (arrival : Arrival)
    (tested : uncutTest reading arrival = true) : reading.Uncut plainRuntime arrival := by
  cases arrival with
  | pause tMonoNs => trivial
  | byte value tMonoNs =>
      intro newline
      unfold uncutTest at tested
      dsimp only at tested
      rw [newline] at tested
      obtain ⟨blank, short⟩ := (Bool.and_eq_true _ _).mp tested
      exact lineRead_of_blank (of_decide_eq_true blank) (of_decide_eq_true short)

theorem framing_untimed_gst :
    ∃ final, Machine.run (Reading.step plainRuntime fun _ => 0) (.start serialDecoder) gstLine =
        some final ∧
      final.collector.told = [("gps:nmea.GST.lat_std", .float (.finite 1)),
        ("gps:nmea.GST.lon_std", .float (.finite 2)),
        ("gps:nmea.GST.alt_std", .float (.finite 15))] ∧
      final.Faithful plainRuntime serialDecoder.source := by
  have ended : (Machine.run (Reading.step plainRuntime fun _ => 0) (.start serialDecoder)
      gstLine).map (fun reading => (reading.collector.told, reading.pieces)) =
        some ([("gps:nmea.GST.lat_std", .float (.finite 1)),
          ("gps:nmea.GST.lon_std", .float (.finite 2)),
          ("gps:nmea.GST.alt_std", .float (.finite 15))], [[]]) := by decide +kernel
  have tested : Machine.checks (Reading.step plainRuntime fun _ => 0) uncutTest
      (.start serialDecoder) gstLine = true := by decide +kernel
  have untimed := (framing_untimed plainRuntime (fun _ => 0) serialDecoder gstLine
    ((Machine.along_of_checks _ _ tested).imp fun reading arrival fine =>
      uncut_of_test reading arrival fine)).2
  obtain ⟨final, reached, state⟩ := Option.map_eq_some_iff.mp ended
  obtain ⟨told, pieces⟩ := Prod.mk.inj state
  refine ⟨final, reached, told, untimed.final reached ?_⟩
  intro part member
  rw [pieces, List.mem_singleton] at member
  subst member
  refine .inr fun text payload given stripped => ?_
  cases given
  cases stripped

/-- The same sentence with a pause inside its last number, and the part before the pause. -/
def cutGst : List Arrival := bytesOf "$GPGST,,,,,,1,2,1" ++ [.pause 1] ++ bytesOf "5\n"

def tornGst : List Arrival := bytesOf "$GPGST,,,,,,1,2,1" ++ [.pause 1]

/-- A run that ends with a collector that was told something else than its lines say. -/
def EndsUnfaithful (arrivals : List Arrival) : Prop :=
  ∃ final, Machine.run (Reading.step plainRuntime fun _ => 0) (.start serialDecoder) arrivals =
    some final ∧ ¬ final.Faithful plainRuntime serialDecoder.source

theorem endsUnfaithful_of_told {arrivals : List Arrival}
    (told : (Machine.run (Reading.step plainRuntime fun _ => 0) (.start serialDecoder) arrivals).any
      (fun reading => reading.collector.told ≠
        reading.lines.flatMap (lineValues plainRuntime serialDecoder.source)) = true) :
    EndsUnfaithful arrivals := by
  obtain ⟨final, reached, wrong⟩ := (Option.any_eq_true _ _).mp told
  refine ⟨final, reached, fun faithful => ?_⟩
  rw [Reading.Faithful] at faithful
  simp [faithful] at wrong

/-- The part before the pause is decoded as if it were the sentence, whether or not the rest
of it comes. -/
theorem cut_sentence_misread : EndsUnfaithful cutGst ∧ EndsUnfaithful tornGst :=
  ⟨endsUnfaithful_of_told (by decide +kernel), endsUnfaithful_of_told (by decide +kernel)⟩

end OpenLaps.Nmea
