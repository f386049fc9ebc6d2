import OpenLaps.Firmware.Receiver

/- The numbers and the sizes of the messages since a boot, on any input. -/
namespace OpenLaps.Firmware

theorem atoi_bounds (text : Bytes) : -2147483648 ≤ atoi text ∧ atoi text ≤ 2147483647 := by
  unfold atoi
  dsimp only
  split
  · omega
  · split
    · omega
    · split <;> omega

theorem cumulativeDays_bounds (month : Nat) :
    0 ≤ cumulativeDays.getD month 0 ∧ cumulativeDays.getD month 0 ≤ 334 := by
  have listed : ∀ days ∈ cumulativeDays, 0 ≤ days ∧ days ≤ 334 := by decide
  rw [List.getD_eq_getElem?_getD]
  cases found : cumulativeDays[month]? with
  | none => decide
  | some days => exact listed days (List.mem_of_getElem? found)

theorem unixSecond_bounds {year month day hour minute second : Int} (first : 1970 ≤ year)
    (last : year ≤ 2147483647) (dayLow : 1 ≤ day) (dayHigh : day ≤ 31) (hourLow : -214749 ≤ hour)
    (hourHigh : hour ≤ 23) (minuteLow : -99 ≤ minute) (minuteHigh : minute ≤ 59)
    (secondLow : -99 ≤ second) (secondHigh : second ≤ 60) :
    -10 ^ 18 < unixSecond year month day hour minute second ∧
      unixSecond year month day hour minute second < 10 ^ 18 := by
  have listed := cumulativeDays_bounds month.toNat
  unfold unixSecond daysBeforeYear
  dsimp only
  generalize cumulativeDays.getD month.toNat 0 = before at listed
  split <;> omega

theorem tmod_bounds (number : Int) {divisor : Int} (positive : 0 < divisor) :
    -divisor < number.tmod divisor ∧ number.tmod divisor < divisor :=
  ⟨Int.lt_tmod_of_pos number positive, Int.tmod_lt_of_pos number positive⟩

/-- The second that a `ZDA` sentence gives is small enough for its field. -/
theorem nmeaZdaUtcSecond_bounds {libc : Libc} {sentence : Bytes} {utcSecond : Int}
    (given : nmeaZdaUtcSecond libc sentence = some utcSecond) :
    -10 ^ 18 < utcSecond ∧ utcSecond < 10 ^ 18 := by
  unfold nmeaZdaUtcSecond at given
  split at given
  · obtain ⟨⟨hhmmss, day, month, year⟩, read, made⟩ := Option.bind_eq_some_iff.mp given
    dsimp only at made
    split at made
    · cases made
    · rename_i checked
      cases made
      have years : year ≤ 2147483647 := by
        unfold zdaFields at read
        split at read
        · split at read
          · split at read
            · cases read
              exact (atoi_bounds _).2
            · cases read
          · cases read
        · cases read
      have range := libc.int32 hhmmss
      generalize libc.toInt hhmmss = packed at *
      have split := Int.mul_tdiv_add_tmod packed 10000
      have remainder := tmod_bounds packed (show (0 : Int) < 10000 by decide)
      have minutes := tmod_bounds (packed.tdiv 100) (show (0 : Int) < 100 by decide)
      have seconds := tmod_bounds packed (show (0 : Int) < 100 by decide)
      generalize packed.tdiv 10000 = hour at *
      generalize packed.tmod 10000 = rest at *
      generalize (packed.tdiv 100).tmod 100 = minute at *
      generalize packed.tmod 100 = second at *
      apply unixSecond_bounds
      all_goals omega
  · cases given

theorem length_toString_nat {value digits : Nat} (positive : 0 < digits)
    (small : value < 10 ^ digits) : (toString value).length ≤ digits :=
  (Nat.length_repr_le_iff positive).mpr small

theorem length_toString_int {value : Int} (low : -10 ^ 18 < value) (high : value < 10 ^ 18) :
    (toString value).length ≤ 19 := by
  cases value with
  | ofNat value =>
      have small : value < 10 ^ 18 := by
        have cast : (value : Int) < 10 ^ 18 := high
        omega
      have bound := length_toString_nat (by decide) small
      show (toString value).length ≤ 19
      omega
  | negSucc value =>
      have small : value + 1 < 10 ^ 18 := by omega
      have bound := length_toString_nat (by decide) small
      show ("-" ++ toString (value + 1)).length ≤ 19
      rw [String.length_append]
      show 1 + (toString (value + 1)).length ≤ 19
      omega

/-- The prefix of a message fits its buffer. -/
theorem th1Prefix_fits (sequence : UInt32) {utcSecond : Int} {edgeUs : Nat}
    (low : -10 ^ 18 < utcSecond) (high : utcSecond < 10 ^ 18) (small : edgeUs < 2 ^ 64) :
    (th1Prefix sequence utcSecond edgeUs).length + 24 < 128 := by
  have number : sequence.toNat < 10 ^ 10 := by
    have bound := sequence.toNat_lt
    omega
  have first := length_toString_nat (by decide) number
  have second := length_toString_int low high
  have third : (toString edgeUs).length ≤ 20 := length_toString_nat (by decide) (by omega)
  unfold th1Prefix
  simp only [String.length_append]
  show 4 + _ + 1 + _ + 1 + _ + 1 + 24 < 128
  omega

namespace Receiver

/-- The messages that have a number, second and edge: those written, and the one that
waits for its transmit time. -/
def messages (state : Receiver) : List (UInt32 × Int × Nat) :=
  state.sent.map (fun line => (line.sequence, line.utcSecond, line.edgeUs)) ++
    match state.pc with
    | .sending sequence utcSecond edgeUs => [(sequence, utcSecond, edgeUs)]
    | _ => []

/-- The loop is not about to write a message. -/
def Quiet (state : Receiver) : Prop :=
  ∀ sequence utcSecond edgeUs, state.pc ≠ .sending sequence utcSecond edgeUs

theorem Quiet.messages {state : Receiver} (quiet : state.Quiet) :
    state.messages = state.sent.map fun line => (line.sequence, line.utcSecond, line.edgeUs) := by
  unfold Receiver.messages
  split
  · rename_i sequence utcSecond edgeUs sending
    exact absurd sending (quiet sequence utcSecond edgeUs)
  · exact List.append_nil _

theorem quiet_of_idle {state : Receiver} (idle : state.pc = .idle) : state.Quiet := by
  intro sequence utcSecond edgeUs sending
  rw [idle] at sending
  cases sending

theorem quiet_of_stamped {state : Receiver} {line : Bytes} {sentenceUs : Nat}
    (stamped : state.pc = .stamped line sentenceUs) : state.Quiet := by
  intro sequence utcSecond edgeUs sending
  rw [stamped] at sending
  cases sending

section Steps

variable {state : Receiver}

theorem reads_bounds {now : Nat} (readable : state.reads now = true) :
    state.clock ≤ now ∧ now < 2 ^ 64 := by
  rw [reads, Bool.and_eq_true] at readable
  exact ⟨of_decide_eq_true readable.1, of_decide_eq_true readable.2⟩

theorem gnssRx_frame (state : Receiver) (byte : UInt8) :
    ∃ ring, state.gnssRx byte = { state with ring := ring } := by
  unfold gnssRx
  split
  · exact ⟨_, rfl⟩
  · exact ⟨state.ring, rfl⟩

/-- Up to `take_edge` the loop touches neither the slot nor the messages. -/
theorem pass_frame (now : Nat) (idle : state.pc = .idle) :
    ∃ ring line fixed fixSeenUs pc, state.pass now = { state with
      ring := ring, line := line, fixed := fixed, fixSeenUs := fixSeenUs, pc := pc } ∧
      (state.pass now).Quiet := by
  have quiet := quiet_of_idle idle
  unfold pass
  split
  · exact ⟨_, _, _, _, _, rfl, quiet⟩
  · dsimp only
    split
    · split
      · exact ⟨_, _, _, _, _, rfl, quiet⟩
      · exact ⟨_, _, _, _, _, rfl, quiet⟩
    · split
      · exact ⟨_, _, _, _, _, rfl, quiet⟩
      · unfold endLine
        dsimp only
        split
        · exact ⟨_, _, _, _, _, rfl, quiet⟩
        · split
          · exact ⟨_, _, _, _, _, rfl, quiet_of_stamped rfl⟩
          · exact ⟨_, _, _, _, _, rfl, quiet⟩

theorem timingAssociate_near {edgeUs sentenceUs delayUs : Nat}
    (associated : timingAssociate (some edgeUs) sentenceUs = some delayUs) :
    sentenceUs ≤ edgeUs + timingMaxSentenceDelayUs := by
  unfold timingAssociate at associated
  dsimp only at associated
  split at associated
  · cases associated
  · split at associated
    · cases associated
    · omega

/-- `take_edge` always empties the slot; a message is formed from the edge in it only
when the sentence is behind that edge by the bound at most. -/
theorem associate_cases (libc : Libc) (line : Bytes) (sentenceUs : Nat)
    (small : state.edgePending = true → state.edgeTimeUs < 2 ^ 64) :
    state.associate libc line sentenceUs = { state with edgePending := false, pc := .idle } ∨
      ∃ utcSecond, state.edgePending = true ∧ nmeaZdaUtcSecond libc line = some utcSecond ∧
        sentenceUs ≤ state.edgeTimeUs + timingMaxSentenceDelayUs ∧
        state.associate libc line sentenceUs = { state with
          edgePending := false, sequence := state.sequence + 1,
          pc := .sending state.sequence utcSecond state.edgeTimeUs } := by
  unfold associate takeEdge
  dsimp only
  split
  · rename_i edgeUs delayUs utcSecond present delayed given
    split at present
    · rename_i waits
      cases present
      have room := th1Prefix_fits state.sequence (nmeaZdaUtcSecond_bounds given).1
        (nmeaZdaUtcSecond_bounds given).2 (small waits)
      split
      · right
        refine ⟨utcSecond, waits, given, ?_, ?_⟩
        · rw [if_pos waits] at delayed
          exact timingAssociate_near delayed
        · rw [if_neg (by omega)]
      · left
        rfl
    · cases present
  · left
    rfl

/-- Numbers given by place hold of the lines written so far. -/
theorem number_of_place
    (numbered : state.messages.map Prod.fst = (List.range state.messages.length).map UInt32.ofNat)
    {index : Nat} {line : Th1} (found : state.sent[index]? = some line) :
    line.sequence = UInt32.ofNat index := by
  have inside := (List.getElem?_eq_some_iff.mp found).1
  have place : state.messages[index]? = some (line.sequence, line.utcSecond, line.edgeUs) := by
    unfold messages
    rw [List.getElem?_append_left (by simpa using inside), List.getElem?_map, found]
    rfl
  have number := congrArg (fun numbers => numbers[index]?) numbered
  have within := (List.getElem?_eq_some_iff.mp place).1
  rw [List.getElem?_map, place, List.getElem?_map, List.getElem?_range within] at number
  exact Option.some.inj number

end Steps

/-- The number of a message is its place, and its fields fit the line. -/
structure Numbered (state : Receiver) : Prop where
  slot : state.edgePending = true → state.edgeTimeUs < 2 ^ 64
  sizes : ∀ message ∈ state.messages, message.2.1 < 10 ^ 18 ∧ message.2.2 < 2 ^ 64
  delays : ∀ line ∈ state.sent, line.delayUs < 2 ^ 64
  numbered : state.messages.map Prod.fst = (List.range state.messages.length).map UInt32.ofNat
  next : state.sequence = UInt32.ofNat state.messages.length

theorem numbered_init : Numbered {} where
  slot := by simp
  sizes := by simp [messages]
  delays := by simp
  numbered := by simp [messages]
  next := by simp [messages]

variable {state : Receiver}

/-- A step that forms no message. -/
theorem Numbered.frame (counted : state.Numbered) {next : Receiver}
    (slot : next.edgePending = true → next.edgeTimeUs < 2 ^ 64)
    (messages : next.messages = state.messages)
    (delays : ∀ line ∈ next.sent, line.delayUs < 2 ^ 64)
    (sequence : next.sequence = state.sequence) : next.Numbered := by
  constructor
  · exact slot
  · rw [messages]
    exact counted.sizes
  · exact delays
  · rw [messages]
    exact counted.numbered
  · rw [messages, sequence]
    exact counted.next

/-- The step that can form a message. -/
theorem Numbered.associate (counted : state.Numbered) {libc : Libc} {line : Bytes}
    {sentenceUs now : Nat} (stamped : state.pc = .stamped line sentenceUs) :
    Numbered { state.associate libc line sentenceUs with clock := now } := by
  have before := (quiet_of_stamped stamped).messages
  rcases associate_cases libc line sentenceUs counted.slot with dropped | formed
  · rw [dropped]
    apply counted.frame
    · intro waits
      cases waits
    · rw [before]
      apply Quiet.messages
      exact quiet_of_idle rfl
    · exact counted.delays
    · rfl
  · obtain ⟨utcSecond, waits, given, near, result⟩ := formed
    have small := (nmeaZdaUtcSecond_bounds given).2
    have after : messages { state with
        edgePending := false, sequence := state.sequence + 1,
        pc := .sending state.sequence utcSecond state.edgeTimeUs, clock := now } =
          state.messages ++ [(state.sequence, utcSecond, state.edgeTimeUs)] := by
      rw [before]
      rfl
    rw [result]
    constructor
    · intro waits
      cases waits
    · rw [after]
      intro message member
      rcases List.mem_append.mp member with old | new
      · exact counted.sizes message old
      · rw [List.mem_singleton.mp new]
        exact ⟨small, counted.slot waits⟩
    · exact counted.delays
    · rw [after, List.map_append, counted.numbered, List.length_append]
      show _ ++ [state.sequence] = (List.range (state.messages.length + 1)).map UInt32.ofNat
      rw [List.range_succ, List.map_append, counted.next]
      rfl
    · rw [after, List.length_append]
      show state.sequence + 1 = UInt32.ofNat (state.messages.length + 1)
      rw [counted.next, UInt32.ofNat_add]
      rfl

/-- The waiting message is written with its delay. -/
theorem Numbered.transmit (counted : state.Numbered) {sequence : UInt32} {utcSecond : Int}
    {edgeUs now : Nat} (sending : state.pc = .sending sequence utcSecond edgeUs)
    (small : now < 2 ^ 64) :
    Numbered { state.transmit sequence utcSecond edgeUs now with clock := now } := by
  apply counted.frame
  · exact counted.slot
  · unfold messages
    rw [sending]
    show List.map _ (state.sent ++ [_]) ++ [] = _
    rw [List.map_append, List.append_nil]
    rfl
  · intro line member
    rcases List.mem_append.mp member with old | new
    · exact counted.delays line old
    · rw [List.mem_singleton.mp new]
      show now - edgeUs < 2 ^ 64
      omega
  · rfl

/-- One step of the receiver, whatever it hears; lines are only added. -/
theorem Numbered.step (counted : state.Numbered) {libc : Libc} {event : Event} {next : Receiver}
    (taken : Firmware.step libc state event = some next) :
    next.Numbered ∧ state.sent <+: next.sent := by
  cases event with
  | pps now =>
      obtain ⟨readable, ⟨⟩⟩ := Option.ite_none_right_eq_some.mp taken
      refine ⟨counted.frame ?_ rfl counted.delays rfl, List.prefix_refl _⟩
      intro _
      exact (reads_bounds readable).2
  | rx byte =>
      cases taken
      obtain ⟨ring, received⟩ := gnssRx_frame state byte
      rw [received]
      exact ⟨counted.frame counted.slot rfl counted.delays rfl, List.prefix_refl _⟩
  | pass now =>
      obtain ⟨⟨_, idle⟩, ⟨⟩⟩ := Option.ite_none_right_eq_some.mp taken
      obtain ⟨ring, line, fixed, fixSeenUs, pc, passed, quiet⟩ := pass_frame now idle
      rw [passed] at quiet ⊢
      refine ⟨counted.frame counted.slot ?_ counted.delays rfl, List.prefix_refl _⟩
      rw [(quiet_of_idle idle).messages]
      apply Quiet.messages
      exact quiet
  | takeEdge now =>
      rw [Firmware.step] at taken
      split at taken
      · rename_i line sentenceUs stamped
        obtain ⟨_, ⟨⟩⟩ := Option.ite_none_right_eq_some.mp taken
        have same : (state.associate libc line sentenceUs).sent = state.sent := by
          rcases associate_cases libc line sentenceUs counted.slot with dropped | formed
          · rw [dropped]
          · obtain ⟨_, _, _, _, result⟩ := formed
            rw [result]
        exact ⟨counted.associate stamped, ⟨[], by rw [List.append_nil]; exact same.symm⟩⟩
      · cases taken
  | transmit now =>
      rw [Firmware.step] at taken
      split at taken
      · rename_i sequence utcSecond edgeUs sending
        obtain ⟨readable, ⟨⟩⟩ := Option.ite_none_right_eq_some.mp taken
        exact ⟨counted.transmit sending (reads_bounds readable).2, List.prefix_append _ _⟩
      · cases taken

/-- A line of this boot: its number is its place, and its fields fit. -/
theorem Numbered.line (counted : state.Numbered) {index : Nat} {line : Th1}
    (found : state.sent[index]? = some line) :
    line.sequence = UInt32.ofNat index ∧ line.utcSecond < 10 ^ 18 ∧ line.edgeUs < 2 ^ 64 ∧
      line.delayUs < 2 ^ 64 := by
  have member := List.mem_of_getElem? found
  have listed : (line.sequence, line.utcSecond, line.edgeUs) ∈ state.messages := by
    apply List.mem_append_left
    exact List.mem_map_of_mem member
  have sizes := counted.sizes _ listed
  exact ⟨number_of_place counted.numbered found, sizes.1, sizes.2, counted.delays line member⟩

end Receiver

end OpenLaps.Firmware
