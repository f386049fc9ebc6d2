import OpenLaps.Lib.Attempt
import OpenLaps.Pit.Session.State

/- Every history of calls leaves numbered, contiguous stints and a state that
`from_dict` gives back unchanged. -/
namespace OpenLaps.Session

open Ingest (Json)

theorem strip_strip (text : String) : strip (strip text) = strip text := by
  have front : ((text.toList.dropWhile isSpace).rdropWhile isSpace).dropWhile isSpace =
      (text.toList.dropWhile isSpace).rdropWhile isSpace := by
    rw [List.dropWhile_eq_self_iff]
    intro long
    have start := (List.rdropWhile_prefix isSpace (text.toList.dropWhile isSpace)).getElem long
    rw [start]
    exact List.dropWhile_get_zero_not isSpace text.toList _
  rw [strip, strip, String.toList_ofList, front, List.rdropWhile_idempotent]

/-- Text that starts and ends with a visible character. -/
theorem strip_bounded (first last : Char) (middle : List Char)
    (front : isSpace first = false) (back : isSpace last = false) :
    strip (String.ofList (first :: (middle ++ [last]))) =
      String.ofList (first :: (middle ++ [last])) := by
  rw [strip, String.toList_ofList, List.dropWhile_cons_of_neg (by simp [front]), ← List.cons_append,
    List.rdropWhile_concat_neg _ _ _ (by simp [back])]

/-- What `strip` leaves of a text that is not blank. -/
structure Trimmed (text : String) : Prop where
  stripped : strip text = text
  nonempty : text ≠ ""

theorem trimmed_strip (text : String) (nonempty : strip text ≠ "") : Trimmed (strip text) :=
  ⟨strip_strip text, nonempty⟩

theorem trimmed_sessionType (kind : String) (known : kind ∈ sessionTypes) : Trimmed kind := by
  simp only [sessionTypes, List.mem_cons, List.not_mem_nil, or_false] at known
  rcases known with same | same | same | same <;> subst same <;>
    exact ⟨by decide, by decide⟩

theorem lower_sessionType (py : Runtime) (kind : String) (known : kind ∈ sessionTypes) :
    py.lower kind = kind := by
  apply py.lower_word
  simp only [sessionTypes, List.mem_cons, List.not_mem_nil, or_false] at known
  rcases known with same | same | same | same <;> subst same <;> decide

theorem digit_visible (char : Char) (digit : (char.isDigit || char == '-') = true) :
    isSpace char = false := by
  rw [Bool.or_eq_true, beq_iff_eq] at digit
  rcases digit with digit | dash
  · have bounds : 48 ≤ char.toNat ∧ char.toNat ≤ 57 := by
      simp only [Char.isDigit, Bool.and_eq_true, decide_eq_true_eq] at digit
      exact digit
    simp only [isSpace]
    simp
    omega
  · subst dash
    decide

theorem sessionType_last (kind : String) (known : kind ∈ sessionTypes) :
    ∃ front last, kind.toList = front ++ [last] ∧ isSpace last = false := by
  simp only [sessionTypes, List.mem_cons, List.not_mem_nil, or_false] at known
  rcases known with same | same | same | same <;> subst same
  · exact ⟨"practic".toList, 'e', by decide, by decide⟩
  · exact ⟨"qualifyin".toList, 'g', by decide, by decide⟩
  · exact ⟨"rac".toList, 'e', by decide, by decide⟩
  · exact ⟨"tes".toList, 't', by decide, by decide⟩

/-- The identifier starts with a digit of the stamp and ends with the type. -/
theorem trimmed_sessionId (py : Runtime) (now : Int) (stamp uuid kind : String)
    (stamped : py.stamp now = .ok stamp) (known : kind ∈ sessionTypes) :
    Trimmed (stamp ++ "-" ++ uuid ++ "-" ++ kind) := by
  obtain ⟨filled, digits⟩ := py.stamp_digits now stamp stamped
  obtain ⟨front, last, ending, visible⟩ := sessionType_last kind known
  cases opening : stamp.toList with
  | nil => exact absurd (String.toList_eq_nil_iff.mp opening) filled
  | cons first rest =>
    have digit := List.all_eq_true.mp digits first (by rw [opening]; exact List.mem_cons_self)
    have shape : stamp ++ "-" ++ uuid ++ "-" ++ kind =
        String.ofList (first :: ((rest ++ '-' :: uuid.toList ++ '-' :: front) ++ [last])) := by
      rw [← String.toList_inj]
      simp [opening, ending]
    rw [shape]
    refine ⟨strip_bounded first last _ (digit_visible first digit) visible, ?_⟩
    intro empty
    rw [← String.toList_inj] at empty
    simp at empty

/-- `stints` continue a history that counts from `number` and last ended at
`start`, up to `last`; `meets` relates an end to the start that follows it. -/
def Follow (meets : Int → Int → Prop) : Int → Int → List Stint → Int → Prop
  | _, start, [], last => last = start
  | number, start, stint :: rest, last =>
    stint.stintNumber = number ∧ meets start stint.startMs ∧ stint.startMs ≤ stint.endMs ∧
      Trimmed stint.driver ∧ Follow meets (number + 1) stint.endMs rest last

theorem Follow.append {meets : Int → Int → Prop} {number start last : Int} {stints : List Stint}
    (more : List Stint) (final : Int) (follow : Follow meets number start stints last) :
    Follow meets number start (stints ++ more) final ↔
      Follow meets (number + stints.length) last more final := by
  induction stints generalizing number start with
  | nil =>
    have same : last = start := follow
    simp [same]
  | cons stint rest ih =>
    obtain ⟨numbered, met, ordered, named, later⟩ := follow
    have tail := ih later
    have count : number + ((stint :: rest).length : Int) = number + 1 + rest.length := by
      simp only [List.length_cons]
      omega
    rw [count, ← tail]
    simp only [List.cons_append, Follow, numbered, met, ordered, named, true_and]

/-- A history that goes on can be cut before its last stint. -/
theorem Follow.split {meets : Int → Int → Prop} {number start final : Int}
    (stints more : List Stint) (follow : Follow meets number start (stints ++ more) final) :
    ∃ last, Follow meets number start stints last ∧
      Follow meets (number + stints.length) last more final := by
  induction stints generalizing number start with
  | nil => exact ⟨start, rfl, by simpa using follow⟩
  | cons stint rest ih =>
    obtain ⟨numbered, met, ordered, named, later⟩ := follow
    obtain ⟨last, kept, remaining⟩ := ih later
    refine ⟨last, ⟨numbered, met, ordered, named, kept⟩, ?_⟩
    have count : number + ((stint :: rest).length : Int) = number + 1 + rest.length := by
      simp only [List.length_cons]
      omega
    rw [count]
    exact remaining

theorem Follow.le {meets : Int → Int → Prop} (forward : ∀ first second, meets first second →
    first ≤ second) {number start last : Int} {stints : List Stint}
    (follow : Follow meets number start stints last) : start ≤ last := by
  induction stints generalizing number start with
  | nil =>
    have same : last = start := follow
    omega
  | cons stint rest ih =>
    have met := forward _ _ follow.2.1
    have ordered := follow.2.2.1
    have later := ih follow.2.2.2.2
    omega

/-- A session with `closed` stints before its current one, the last of which
ended at `last`. -/
structure Opened (meets : Int → Int → Prop) (state : SessionState) (closed : List Stint)
    (last : Int) : Prop where
  sessionId : Trimmed state.sessionId
  sessionType : state.sessionType ∈ sessionTypes
  driver : Trimmed state.driver
  trackName : strip state.trackName = state.trackName
  car : strip state.car = state.car
  sessionStart : 0 ≤ state.sessionStartMs
  follow : Follow meets 1 state.sessionStartMs closed last
  stintNumber : state.stintNumber = closed.length + 1
  stintStart : meets last state.stintStartMs

/-- What `from_dict` accepts when `meets` is `≤`, and what the service itself
produces when `meets` is equality. -/
inductive Sound (meets : Int → Int → Prop) (state : SessionState) : Prop
  | idle (blank : state = {})
  | active (last : Int) (status : state.status = .active)
      (opened : Opened meets state state.stints last)
  | ended (closed : List Stint) (last finish : Int) (status : state.status = .ended)
      (opened : Opened meets state closed last)
      (stints : state.stints = closed ++ [state.closing finish])
      (forward : state.stintStartMs ≤ finish)

section Transitions

variable {meets : Int → Int → Prop} (py : Runtime)

theorem startSession_sound (touching : ∀ instant, meets instant instant)
    (uuid : String) (state next : SessionState)
    (sessionType driver trackName car : String) (now : Int) (payload : List (String × Json))
    (nonneg : 0 ≤ now)
    (accepted : state.startSession py uuid sessionType driver trackName car now =
      .ok (next, payload)) : Sound meets next := by
  simp only [SessionState.startSession] at accepted
  split at accepted
  · cases accepted
  split at accepted
  · cases accepted
  rename_i known
  split at accepted
  · cases accepted
  rename_i named
  split at accepted
  · cases accepted
  rename_i stamp stamped
  have kind : py.lower (strip sessionType) ∈ sessionTypes := Decidable.not_not.mp known
  cases accepted
  refine .active now rfl ⟨?_, kind, trimmed_strip driver named, strip_strip trackName,
    strip_strip car, nonneg, rfl, rfl, touching now⟩
  exact trimmed_sessionId py now stamp uuid _ stamped kind

/-- Closing the current stint extends the history of an open session. -/
theorem Opened.close {state : SessionState} {closed : List Stint} {last : Int} (now : Int)
    (opened : Opened meets state closed last) (later : state.stintStartMs ≤ now) :
    Follow meets 1 state.sessionStartMs (closed ++ [state.closing now]) now := by
  rw [opened.follow.append]
  refine ⟨?_, opened.stintStart, later, opened.driver, rfl⟩
  have number := opened.stintNumber
  show state.stintNumber = 1 + closed.length
  omega

theorem Sound.of_active {state : SessionState} (sound : Sound meets state)
    (status : state.status = .active) : ∃ last, Opened meets state state.stints last := by
  cases sound with
  | idle blank =>
    rw [blank] at status
    cases status
  | active last _ opened => exact ⟨last, opened⟩
  | ended closed last finish done => exact absurd (status.symm.trans done) (by decide)

theorem changeDriver_sound (touching : ∀ instant, meets instant instant)
    (state next : SessionState) (driver : String) (now : Int)
    (payload : List (String × Json)) (sound : Sound meets state)
    (accepted : state.changeDriver py driver now = .ok (next, payload)) : Sound meets next := by
  simp only [SessionState.changeDriver] at accepted
  split at accepted
  · cases accepted
  rename_i running
  have status : state.status = .active := Decidable.not_not.mp running
  split at accepted
  · cases accepted
  rename_i named
  split at accepted
  · cases accepted
  split at accepted
  · cases accepted
  rename_i late
  obtain ⟨last, opened⟩ := sound.of_active status
  have extended := opened.close now (Int.not_lt.mp late)
  have number := opened.stintNumber
  cases accepted
  refine .active now status ⟨opened.sessionId, opened.sessionType, trimmed_strip driver named,
    opened.trackName, opened.car, opened.sessionStart, extended, ?_, touching now⟩
  simp [number]

theorem amendStintStart_sound (touching : ∀ instant, meets instant instant)
    (state next : SessionState) (atMs : Int) (payload : List (String × Json))
    (sound : Sound meets state)
    (accepted : state.amendStintStart atMs = .ok (next, payload)) : Sound meets next := by
  simp only [SessionState.amendStintStart] at accepted
  split at accepted
  · cases accepted
  rename_i running
  have status : state.status = .active := Decidable.not_not.mp running
  split at accepted
  · cases accepted
  split at accepted
  · cases accepted
  rename_i previous ending
  split at accepted
  · cases accepted
  rename_i late
  obtain ⟨last, opened⟩ := sound.of_active status
  have shape : state.stints = state.stints.dropLast ++ [previous] :=
    (List.dropLast_append_getLast? previous ending).symm
  have follow := opened.follow
  rw [shape] at follow
  obtain ⟨before, kept, final⟩ := follow.split
  obtain ⟨numbered, met, ordered, named, same⟩ := final
  -- only the end of the last closed stint moves, and it stays behind its start
  have moved : Follow meets 1 state.sessionStartMs
      (state.stints.dropLast ++ [{ previous with endMs := atMs }]) atMs := by
    rw [kept.append]
    exact ⟨numbered, met, Int.not_lt.mp late, named, rfl⟩
  have count : (state.stints.dropLast ++ [{ previous with endMs := atMs }]).length =
      state.stints.length := by
    rw [shape]
    simp
  have number := opened.stintNumber
  cases accepted
  refine .active atMs status ⟨opened.sessionId, opened.sessionType, opened.driver,
    opened.trackName, opened.car, opened.sessionStart, moved, ?_, touching atMs⟩
  rw [count]
  exact number

theorem endSession_sound (state next : SessionState) (now : Int)
    (payload : List (String × Json)) (sound : Sound meets state)
    (accepted : state.endSession now = .ok (next, payload)) : Sound meets next := by
  simp only [SessionState.endSession] at accepted
  split at accepted
  · cases accepted
  rename_i running
  have status : state.status = .active := Decidable.not_not.mp running
  split at accepted
  · cases accepted
  rename_i late
  obtain ⟨last, opened⟩ := sound.of_active status
  cases accepted
  refine .ended state.stints last now rfl ⟨opened.sessionId, opened.sessionType, opened.driver,
    opened.trackName, opened.car, opened.sessionStart, opened.follow, opened.stintNumber,
    opened.stintStart⟩ rfl (Int.not_lt.mp late)

end Transitions

/-- `item` holds the fields of a closed stint, in any order. -/
structure StintWritten (stint : Stint) (item : List (String × Json)) : Prop where
  driver : item.lookup "driver" = some (.str stint.driver)
  stintNumber : item.lookup "stint_number" = some (.int stint.stintNumber)
  startMs : item.lookup "start_ms" = some (.int stint.startMs)
  endMs : item.lookup "end_ms" = some (.int stint.endMs)

/-- `data` holds the fields of `to_dict`, in any order: `json.dumps` sorts the
keys of the state file. -/
structure Written (state : SessionState) (data : List (String × Json)) : Prop where
  sessionId : data.lookup "session_id" = some (.str state.sessionId)
  sessionType : data.lookup "session_type" = some (.str state.sessionType)
  driver : data.lookup "driver" = some (.str state.driver)
  trackName : data.lookup "track_name" = some (.str state.trackName)
  car : data.lookup "car" = some (.str state.car)
  stintNumber : data.lookup "stint_number" = some (.int state.stintNumber)
  sessionStart : data.lookup "session_start" = some (.int state.sessionStartMs)
  stintStart : data.lookup "stint_start" = some (.int state.stintStartMs)
  status : data.lookup "status" = some (.str state.status.text)
  stints : ∃ items : List (List (String × Json)),
    data.lookup "stints" = some (.list (items.map Json.object)) ∧
      List.Forall₂ StintWritten state.stints items

theorem stintWritten_toDict (stint : Stint) : StintWritten stint stint.toDict := by
  constructor <;> simp [Stint.toDict, List.lookup_cons]

theorem written_toDict (state : SessionState) (clock : Int) :
    Written state (state.toDict clock) := by
  refine ⟨?_, ?_, ?_, ?_, ?_, ?_, ?_, ?_, ?_, state.stints.map Stint.toDict, ?_, ?_⟩
  case refine_11 =>
    rw [List.forall₂_map_right_iff]
    exact List.forall₂_same.mpr fun stint _ => stintWritten_toDict stint
  all_goals simp [SessionState.toDict, SessionState.payload, List.lookup_cons]

theorem requiredString_written (data : List (String × Json)) (key value : String)
    (found : data.lookup key = some (.str value)) (trimmed : Trimmed value) :
    requiredString data key = .ok value := by
  simp only [requiredString, found, trimmed.stripped, if_neg trimmed.nonempty]

theorem optionalString_written (data : List (String × Json)) (key value : String)
    (found : data.lookup key = some (.str value)) (stripped : strip value = value) :
    optionalString data key = .ok value := by
  simp only [optionalString, found, stripped]

theorem requiredInteger_written (data : List (String × Json)) (key : String) (value : Int)
    (found : data.lookup key = some (.int value)) : requiredInteger data key = .ok value := by
  simp only [requiredInteger, found]

theorem readStints_written (number start last : Int) (stints : List Stint)
    (items : List (List (String × Json))) (follow : Follow (· ≤ ·) number start stints last)
    (written : List.Forall₂ StintWritten stints items) :
    readStints number start (items.map Json.object) = .ok (stints, last) := by
  induction written generalizing number start with
  | nil =>
    have same : last = start := follow
    rw [same]
    rfl
  | @cons stint item stints items here later ih =>
    obtain ⟨numbered, met, ordered, named, rest⟩ := follow
    have checks : ¬ (stint.stintNumber ≠ number ∨ stint.startMs < start ∨
        stint.endMs < stint.startMs) := by
      omega
    rw [List.map_cons, readStints, requiredInteger_written _ _ _ here.stintNumber,
      requiredInteger_written _ _ _ here.startMs, requiredInteger_written _ _ _ here.endMs,
      requiredString_written _ _ _ here.driver named]
    simp only [bind, Except.bind, if_neg checks, ih _ _ rest]
    rfl

theorem readStatus_written (py : Runtime) (state : SessionState) (data : List (String × Json))
    (found : data.lookup "status" = some (.str state.status.text)) :
    readStatus py data = .ok state.status := by
  have stripped : strip state.status.text = state.status.text := by
    cases state.status <;> decide
  have lowered : py.lower state.status.text = state.status.text := by
    apply py.lower_word
    cases state.status <;> decide
  simp only [readStatus, found, bind, Except.bind, stripped, lowered]
  cases state.status <;> rfl

/-- The checks of `from_dict` that concern the history as a whole. -/
theorem fromDict_opened (py : Runtime) (state : SessionState) (data : List (String × Json))
    (closed : List Stint) (before last : Int) (written : Written state data)
    (opened : Opened (· ≤ ·) state closed before)
    (follow : Follow (· ≤ ·) 1 state.sessionStartMs state.stints last)
    (running : state.status = .active → state.stints.length = state.stintNumber - 1 ∧
      last ≤ state.stintStartMs)
    (finished : state.status = .ended → state.stints.length = state.stintNumber ∧
      ∃ final ∈ state.stints.getLast?,
        state.driver = final.driver ∧ state.stintStartMs = final.startMs)
    (begun : state.status ≠ .none) : fromDict py data = .ok state := by
  obtain ⟨items, listed, stints⟩ := written.stints
  have ordered := opened.follow.le fun _ _ met => met
  have met := opened.stintStart
  have number := opened.stintNumber
  have bounds : ¬ (state.sessionStartMs < 0 ∨ state.stintStartMs < state.sessionStartMs ∨
      state.stintNumber < 1) := by
    have start := opened.sessionStart
    omega
  have counted : ¬ ((state.stints.length : Int) ≠
      if state.status = .ended then state.stintNumber else state.stintNumber - 1) := by
    cases status : state.status with
    | none => exact absurd status begun
    | active => simpa using (running status).1
    | ended => simpa using (finished status).1
  have late : ¬ (state.status = .active ∧ state.stintStartMs < last) :=
    fun claimed => Int.not_lt.mpr (running claimed.1).2 claimed.2
  have matching : ¬ (state.status = .ended ∧ ¬ ∃ final ∈ state.stints.getLast?,
      state.driver = final.driver ∧ state.stintStartMs = final.startMs) :=
    fun claimed => claimed.2 (finished claimed.1).2
  have listing : stintList data = .ok (items.map Json.object) := by
    simp only [stintList, listed]
  rw [fromDict, readStatus_written py state data written.status]
  simp only [bind, Except.bind, if_neg begun,
    requiredString_written _ _ _ written.sessionType (trimmed_sessionType _ opened.sessionType),
    lower_sessionType py _ opened.sessionType, opened.sessionType, not_true_eq_false, if_false,
    requiredInteger_written _ _ _ written.sessionStart,
    requiredInteger_written _ _ _ written.stintStart,
    requiredInteger_written _ _ _ written.stintNumber, if_neg bounds, listing,
    readStints_written _ _ _ _ _ follow stints,
    requiredString_written _ _ _ written.driver opened.driver,
    requiredString_written _ _ _ written.sessionId opened.sessionId,
    optionalString_written _ _ _ written.trackName opened.trackName,
    optionalString_written _ _ _ written.car opened.car]
  rw [if_neg counted, if_neg late, if_neg matching]
  rfl

/-- A sound state is read back as it was written. -/
theorem fromDict_written (py : Runtime) (state : SessionState) (data : List (String × Json))
    (sound : Sound (· ≤ ·) state) (written : Written state data) :
    fromDict py data = .ok state := by
  cases sound with
  | idle blank =>
    rw [fromDict, readStatus_written py state data written.status, blank]
    rfl
  | active last status opened =>
    have number := opened.stintNumber
    have count : (state.stints.length : Int) = state.stintNumber - 1 := by omega
    apply fromDict_opened py state data state.stints last last written opened opened.follow
    · exact fun _ => ⟨count, opened.stintStart⟩
    · exact fun claimed => absurd (status.symm.trans claimed) (by decide)
    · rw [status]
      decide
  | ended closed last finish status opened stints forward =>
    have number := opened.stintNumber
    have follow := opened.close finish forward
    rw [← stints] at follow
    have count : (state.stints.length : Int) = state.stintNumber := by
      rw [stints, List.length_append, List.length_singleton]
      omega
    have final : state.closing finish ∈ state.stints.getLast? := by simp [stints]
    apply fromDict_opened py state data closed last finish written opened follow
    · exact fun claimed => absurd (status.symm.trans claimed) (by decide)
    · exact fun _ => ⟨count, state.closing finish, final, rfl, rfl⟩
    · rw [status]
      decide

theorem requiredString_trimmed (data : List (String × Json)) (key value : String)
    (read : requiredString data key = .ok value) : Trimmed value := by
  rw [requiredString] at read
  split at read
  · rename_i found
    split at read
    · cases read
    · rename_i filled
      cases read
      exact trimmed_strip _ filled
  · cases read

theorem optionalString_stripped (data : List (String × Json)) (key value : String)
    (read : optionalString data key = .ok value) : strip value = value := by
  rw [optionalString] at read
  split at read
  · cases read
    exact strip_strip ""
  · cases read
    exact strip_strip _
  · cases read

theorem readStints_follow (items : List Json) (number start last : Int) (closed : List Stint)
    (read : readStints number start items = .ok (closed, last)) :
    Follow (· ≤ ·) number start closed last := by
  induction items generalizing number start closed with
  | nil =>
    cases read
    rfl
  | cons item rest ih =>
    cases item with
    | object fields =>
      rw [readStints] at read
      obtain ⟨stintNumber, -, read⟩ := Attempt.bind_ok.mp read
      obtain ⟨startMs, -, read⟩ := Attempt.bind_ok.mp read
      obtain ⟨endMs, -, read⟩ := Attempt.bind_ok.mp read
      split at read
      · cases read
      rename_i checks
      obtain ⟨driver, named, read⟩ := Attempt.bind_ok.mp read
      obtain ⟨⟨later, final⟩, remaining, read⟩ := Attempt.bind_ok.mp read
      cases read
      refine ⟨?_, ?_, ?_, requiredString_trimmed _ _ _ named, ih _ _ _ remaining⟩
      · show stintNumber = number
        omega
      · show start ≤ startMs
        omega
      · show startMs ≤ endMs
        omega
    | _ => cases read

/-- Whatever `from_dict` accepts is sound. -/
theorem fromDict_sound (py : Runtime) (data : List (String × Json)) (state : SessionState)
    (read : fromDict py data = .ok state) : Sound (· ≤ ·) state := by
  rw [fromDict] at read
  obtain ⟨status, -, read⟩ := Attempt.bind_ok.mp read
  split at read
  · cases read
    exact .idle rfl
  rename_i begun
  obtain ⟨kind, -, read⟩ := Attempt.bind_ok.mp read
  dsimp only at read
  split at read
  · cases read
  rename_i known
  obtain ⟨sessionStart, -, read⟩ := Attempt.bind_ok.mp read
  obtain ⟨stintStart, -, read⟩ := Attempt.bind_ok.mp read
  obtain ⟨stintNumber, -, read⟩ := Attempt.bind_ok.mp read
  split at read
  · cases read
  rename_i bounds
  obtain ⟨items, -, read⟩ := Attempt.bind_ok.mp read
  obtain ⟨⟨closed, previousEnd⟩, listed, read⟩ := Attempt.bind_ok.mp read
  dsimp only at read
  by_cases miscounted : (closed.length : Int) ≠
      if status = .ended then stintNumber else stintNumber - 1
  · rw [if_pos miscounted] at read
    cases read
  rw [if_neg miscounted] at read
  have counted := Decidable.not_not.mp miscounted
  obtain ⟨driver, named, read⟩ := Attempt.bind_ok.mp read
  split at read
  · cases read
  rename_i late
  split at read
  · cases read
  rename_i matching
  obtain ⟨sessionId, identified, read⟩ := Attempt.bind_ok.mp read
  obtain ⟨trackName, tracked, read⟩ := Attempt.bind_ok.mp read
  obtain ⟨car, equipped, read⟩ := Attempt.bind_ok.mp read
  cases read
  have follow := readStints_follow _ _ _ _ _ listed
  have kindKnown : py.lower kind ∈ sessionTypes := Decidable.not_not.mp known
  have nonneg : 0 ≤ sessionStart := by omega
  cases status with
  | none => exact absurd rfl begun
  | active =>
    have count : (closed.length : Int) = stintNumber - 1 := by simpa using counted
    have met : previousEnd ≤ stintStart := by
      by_contra early
      exact late ⟨rfl, by omega⟩
    refine .active previousEnd rfl ⟨requiredString_trimmed _ _ _ identified, kindKnown,
      requiredString_trimmed _ _ _ named, optionalString_stripped _ _ _ tracked,
      optionalString_stripped _ _ _ equipped, nonneg, follow, ?_, met⟩
    show stintNumber = closed.length + 1
    omega
  | ended =>
    have count : (closed.length : Int) = stintNumber := by simpa using counted
    obtain ⟨final, ending, sameDriver, sameStart⟩ :
        ∃ final ∈ closed.getLast?, driver = final.driver ∧ stintStart = final.startMs := by
      by_contra missing
      exact matching ⟨rfl, missing⟩
    have shape := (List.dropLast_append_getLast? final ending).symm
    rw [shape] at follow
    obtain ⟨before, kept, numbered, met, ordered, -, -⟩ := follow.split
    have front : stintNumber = closed.dropLast.length + 1 := by
      rw [shape, List.length_append, List.length_singleton] at count
      omega
    refine .ended closed.dropLast before final.endMs rfl
      ⟨requiredString_trimmed _ _ _ identified, kindKnown, requiredString_trimmed _ _ _ named,
        optionalString_stripped _ _ _ tracked, optionalString_stripped _ _ _ equipped, nonneg,
        kept, front, sameStart ▸ met⟩ ?_ ?_
    · have number : stintNumber = final.stintNumber := by omega
      show closed = closed.dropLast ++ [⟨driver, stintNumber, stintStart, final.endMs⟩]
      rw [sameDriver, sameStart, number]
      exact shape
    · show stintStart ≤ final.endMs
      omega

theorem Sound.trimmed {meets : Int → Int → Prop} {state : SessionState}
    (sound : Sound meets state) (begun : state.status ≠ .none) : Trimmed state.sessionId := by
  cases sound with
  | idle blank =>
    rw [blank] at begun
    exact absurd rfl begun
  | active last status opened => exact opened.sessionId
  | ended closed last finish status opened => exact opened.sessionId

theorem Sound.mono {first second : Int → Int → Prop} {state : SessionState}
    (sound : Sound first state) (weaker : ∀ left right, first left right → second left right) :
    Sound second state := by
  have followed : ∀ number start last stints, Follow first number start stints last →
      Follow second number start stints last := by
    intro number start last stints follow
    induction stints generalizing number start with
    | nil => exact follow
    | cons stint rest ih =>
      obtain ⟨numbered, met, ordered, named, later⟩ := follow
      exact ⟨numbered, weaker _ _ met, ordered, named, ih _ _ later⟩
  have reopened : ∀ closed last, Opened first state closed last →
      Opened second state closed last := by
    intro closed last opened
    exact { opened with
      follow := followed _ _ _ _ opened.follow
      stintStart := weaker _ _ opened.stintStart }
  cases sound with
  | idle blank => exact .idle blank
  | active last status opened => exact .active last status (reopened _ _ opened)
  | ended closed last finish status opened stints forward =>
    exact .ended closed last finish status (reopened _ _ opened) stints forward

/-- All closed stints, those of an ended session included, follow each other. -/
theorem Sound.follow {meets : Int → Int → Prop} {state : SessionState}
    (sound : Sound meets state) :
    ∃ last, Follow meets 1 state.sessionStartMs state.stints last ∧
      (state.status = .active →
        state.stintNumber = state.stints.length + 1 ∧ meets last state.stintStartMs) := by
  cases sound with
  | idle blank =>
    subst blank
    exact ⟨0, rfl, fun claimed => by cases claimed⟩
  | active last status opened =>
    exact ⟨last, opened.follow, fun _ => ⟨opened.stintNumber, opened.stintStart⟩⟩
  | ended closed last finish status opened stints forward =>
    refine ⟨finish, ?_, fun claimed => absurd (status.symm.trans claimed) (by decide)⟩
    rw [stints]
    exact opened.close finish forward

theorem Follow.numbered {meets : Int → Int → Prop} {number start last : Int}
    {stints : List Stint} (follow : Follow meets number start stints last) (index : Nat)
    (stint : Stint) (found : stints[index]? = some stint) :
    stint.stintNumber = number + index ∧ stint.startMs ≤ stint.endMs := by
  induction stints generalizing number start index with
  | nil => simp at found
  | cons head rest ih =>
    cases index with
    | zero =>
      simp only [List.getElem?_cons_zero, Option.some.injEq] at found
      subst found
      have numbered := follow.1
      have ordered := follow.2.2.1
      push_cast
      omega
    | succ index =>
      rw [List.getElem?_cons_succ] at found
      have later := ih follow.2.2.2.2 index found
      push_cast
      omega

theorem Follow.adjacent {number start last : Int} {stints : List Stint}
    (follow : Follow (· = ·) number start stints last) :
    stints.IsChain fun first second => first.endMs = second.startMs := by
  induction stints generalizing number start with
  | nil => exact .nil
  | cons stint rest ih =>
    have later := ih follow.2.2.2.2
    cases rest with
    | nil => exact .singleton stint
    | cons next more => exact .cons_cons follow.2.2.2.2.2.1 later

theorem Follow.last_end {meets : Int → Int → Prop} {number start last : Int}
    {stints : List Stint} (follow : Follow meets number start stints last) :
    last = (stints.getLast?.map Stint.endMs).getD start := by
  induction stints generalizing number start with
  | nil => exact follow
  | cons stint rest ih =>
    rw [ih follow.2.2.2.2]
    cases rest with
    | nil => rfl
    | cons next more => simp [List.getLast?_cons]

/-- The stints are numbered from 1 and leave no gap: the first starts with the
session, each one where the one before it ended, and so does the active one. -/
structure Contiguous (state : SessionState) : Prop where
  numbered : ∀ (index : Nat) stint, state.stints[index]? = some stint →
    stint.stintNumber = (index : Int) + 1
  ordered : ∀ stint ∈ state.stints, stint.startMs ≤ stint.endMs
  opening : ∀ first ∈ state.stints.head?, first.startMs = state.sessionStartMs
  adjacent : state.stints.IsChain fun first second => first.endMs = second.startMs
  current : state.status = .active → state.stintNumber = state.stints.length + 1 ∧
    state.stintStartMs = (state.stints.getLast?.map Stint.endMs).getD state.sessionStartMs

theorem Sound.contiguous {state : SessionState} (sound : Sound (· = ·) state) :
    Contiguous state := by
  obtain ⟨last, follow, running⟩ := sound.follow
  constructor
  · intro index stint found
    have numbered := (follow.numbered index stint found).1
    omega
  · intro stint member
    obtain ⟨index, found⟩ := List.mem_iff_getElem?.mp member
    exact (follow.numbered index stint found).2
  · intro first found
    cases listed : state.stints with
    | nil => simp [listed] at found
    | cons stint rest =>
      rw [listed] at follow found
      have same : stint = first := by simpa using found
      rw [← same]
      exact follow.2.1.symm
  · exact follow.adjacent
  · intro status
    obtain ⟨number, met⟩ := running status
    exact ⟨number, met.symm.trans follow.last_end⟩

namespace Call

/-- When a call that opens a session says it starts. -/
def opening : Call → Int
  | .startSession _ _ _ _ _ now => now
  | _ => 0

theorem apply_sound {meets : Int → Int → Prop} (touching : ∀ instant, meets instant instant)
    (py : Runtime) (state next : SessionState) (call : Call) (payload : List (String × Json))
    (sound : Sound meets state) (nonneg : 0 ≤ call.opening)
    (accepted : call.apply py state = .ok (next, payload)) : Sound meets next := by
  cases call with
  | startSession uuid sessionType driver trackName car now =>
    exact startSession_sound py touching uuid state next sessionType driver trackName car now
      payload nonneg accepted
  | changeDriver driver now =>
    exact changeDriver_sound py touching state next driver now payload sound accepted
  | amendStintStart atMs =>
    exact amendStintStart_sound touching state next atMs payload sound accepted
  | endSession now => exact endSession_sound state next now payload sound accepted

theorem opening_nonneg (call : Call) (nonneg : 0 ≤ call.time) : 0 ≤ call.opening := by
  cases call with
  | startSession uuid sessionType driver trackName car now => exact nonneg
  | _ => exact Int.le_refl 0

theorem step_sound {meets : Int → Int → Prop} (touching : ∀ instant, meets instant instant)
    (py : Runtime) (state : SessionState) (call : Call) (sound : Sound meets state)
    (nonneg : 0 ≤ call.time) : Sound meets (call.step py state) := by
  rw [step]
  split
  · rename_i next payload accepted
    exact call.apply_sound touching py state next payload sound (call.opening_nonneg nonneg) accepted
  · exact sound

theorem run_sound {meets : Int → Int → Prop} (touching : ∀ instant, meets instant instant)
    (py : Runtime) (calls : List Call) (state : SessionState) (sound : Sound meets state)
    (nonneg : ∀ call ∈ calls, 0 ≤ call.time) :
    Sound meets (run py state calls) := by
  induction calls generalizing state with
  | nil => exact sound
  | cons call rest ih =>
    apply ih
    · exact call.step_sound touching py state sound (nonneg call List.mem_cons_self)
    · exact fun later member => nonneg later (List.mem_cons_of_mem call member)

end Call

/-- Whatever was called before, the stints are contiguous and the state survives
a round trip through its dictionary, also with the keys reordered. -/
theorem session_round_trip (py : Runtime) (calls : List Call)
    (nonneg : ∀ call ∈ calls, 0 ≤ call.time) (state : SessionState)
    (reached : state = Call.run py {} calls) :
    Contiguous state ∧ (∀ clock, fromDict py (state.toDict clock) = .ok state) ∧
      ∀ data, Written state data → fromDict py data = .ok state := by
  have sound : Sound (· = ·) state := by
    rw [reached]
    exact Call.run_sound (fun _ => rfl) py calls {} (.idle rfl) nonneg
  have readable : ∀ data, Written state data → fromDict py data = .ok state :=
    fun data => fromDict_written py state data (sound.mono fun _ _ same => same.le)
  exact ⟨sound.contiguous, fun clock => readable _ (written_toDict state clock), readable⟩

/-- `str.lower` of an ASCII character. -/
def asciiLower (char : Char) : Char :=
  if char.toNat ≤ 90 && 65 ≤ char.toNat then Char.ofNat (char.toNat + 32) else char

theorem asciiLower_lower (char : Char) (lower : char.isLower = true) :
    asciiLower char = char := by
  have letter : (decide (char.val ≥ 'a'.val) && decide (char.val ≤ 'z'.val)) = true := lower
  rw [Bool.and_eq_true, decide_eq_true_eq] at letter
  have small : 97 ≤ char.toNat := letter.1
  have apart : ¬ char.toNat ≤ 90 := by omega
  simp [asciiLower, apart]

/-- `str.lower` on ASCII text, `repr` of a text without quotes, and the stamp of
the first minute of the epoch. -/
def epochRuntime : Runtime where
  lower text := String.ofList (text.toList.map asciiLower)
  repr text := "'" ++ text ++ "'"
  stamp ms :=
    if 0 ≤ ms ∧ ms < 60000 then .ok "19700101-0000"
    else .error (.overflowError "timestamp out of range for platform time_t")
  lower_word := by
    intro word letters
    have fixed : word.toList.map asciiLower = word.toList.map id :=
      List.map_congr_left fun char member =>
        asciiLower_lower char (List.all_eq_true.mp letters char member)
    rw [fixed, List.map_id, String.ofList_toList]
  stamp_digits := by
    intro ms text stamped
    split at stamped
    · cases stamped
      decide +kernel
    · cases stamped

/-- A race whose driver change was entered late and corrected, then ended. -/
def shortRace : List Call :=
  [.startSession "5f2c" " Race " "ada" "spa" "" 1000, .changeDriver "grace" 9000,
    .amendStintStart 7000, .endSession 20000]

theorem session_round_trip_shortRace :
    Contiguous (Call.run epochRuntime {} shortRace) ∧
      (Call.run epochRuntime {} shortRace).stints =
        [⟨"ada", 1, 1000, 7000⟩, ⟨"grace", 2, 7000, 20000⟩] :=
  ⟨(session_round_trip epochRuntime shortRace (by decide) _ rfl).1, by decide +kernel⟩

end OpenLaps.Session
