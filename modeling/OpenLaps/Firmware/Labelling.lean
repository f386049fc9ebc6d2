import OpenLaps.Firmware.Numbering

/- Which second the messages to the host give to which edge, for any losses on the two
paths from the receiver. -/
namespace OpenLaps.Firmware

/-- What the receiver sends: the times of its edges, lost ones included, and the second
that begins at each. -/
structure Pulses where
  edgeUs : Nat → Nat
  second : Nat → Int
  apart : ∀ index, edgeUs index + 1000000 ≤ edgeUs (index + 1)

theorem Pulses.apart_of_lt (pulses : Pulses) {first later : Nat} (order : first < later) :
    pulses.edgeUs first + 1000000 ≤ pulses.edgeUs later := by
  induction later with
  | zero => omega
  | succ later ih =>
      have gap := pulses.apart later
      rcases Nat.lt_or_ge first later with before | reached
      · have so := ih before
        omega
      · have same : first = later := by omega
        rw [same]
        exact gap

/-- The promise of the two paths about one step. The interrupt runs at most once for an
edge. A `ZDA` sentence that passes its checks is the one of some second, received after
the edge of that second and taken before the next edge. Nothing is said of the edges and
the sentences that never arrive, or of sentences that fail a check. -/
def Punctual (libc : Libc) (pulses : Pulses) (state : Receiver) : Event → Prop
  | .pps now => now ∉ state.captured ∧ ∃ index, now = pulses.edgeUs index
  | .takeEdge now =>
      ∀ line sentenceUs utcSecond, state.pc = .stamped line sentenceUs →
        nmeaZdaUtcSecond libc line = some utcSecond →
        ∃ index, utcSecond = pulses.second index ∧ pulses.edgeUs index ≤ sentenceUs ∧
          now < pulses.edgeUs (index + 1)
  | _ => True

namespace Receiver

def usedEdges (state : Receiver) : List Nat := state.messages.map fun message => message.2.2

/-- Every message names an edge of its own, and its second. -/
structure Labelled (pulses : Pulses) (state : Receiver) : Prop where
  past : ∀ edgeUs ∈ state.captured, edgeUs ≤ state.clock ∧ edgeUs < 2 ^ 64
  pulse : ∀ edgeUs ∈ state.captured, ∃ index, edgeUs = pulses.edgeUs index
  pending : state.edgePending = true →
    state.edgeTimeUs ∈ state.captured ∧ state.edgeTimeUs ∉ state.usedEdges
  captured : ∀ edgeUs ∈ state.usedEdges, edgeUs ∈ state.captured
  once : state.usedEdges.Nodup
  labelled : ∀ message ∈ state.messages, ∃ index,
    message.2.2 = pulses.edgeUs index ∧ message.2.1 = pulses.second index

theorem labelled_init (pulses : Pulses) : Labelled pulses {} where
  past := by simp
  pulse := by simp
  pending := by simp
  captured := by simp [usedEdges, messages]
  once := by simp [usedEdges, messages]
  labelled := by simp [messages]

variable {pulses : Pulses} {state : Receiver}

/-- A step that leaves the messages, the edge slot and the counter alone. -/
theorem Labelled.frame (labelled : state.Labelled pulses) {next : Receiver}
    (clock : state.clock ≤ next.clock) (messages : next.messages = state.messages)
    (pending : next.edgePending = true → state.edgePending = true)
    (edgeTimeUs : next.edgeTimeUs = state.edgeTimeUs)
    (captured : next.captured = state.captured) : next.Labelled pulses := by
  have used : next.usedEdges = state.usedEdges := by
    unfold usedEdges
    rw [messages]
  constructor
  · intro edgeUs member
    rw [captured] at member
    have before := labelled.past edgeUs member
    omega
  · rw [captured]
    exact labelled.pulse
  · intro waits
    rw [edgeTimeUs, captured, used]
    exact labelled.pending (pending waits)
  · rw [captured, used]
    exact labelled.captured
  · rw [used]
    exact labelled.once
  · rw [messages]
    exact labelled.labelled

/-- The interrupt overwrites the slot with an edge that no message has used. -/
theorem Labelled.ppsCallback (labelled : state.Labelled pulses) {now : Nat}
    (fresh : now ∉ state.captured) (pulse : ∃ index, now = pulses.edgeUs index)
    (later : state.clock ≤ now) (small : now < 2 ^ 64) :
    Labelled pulses { state.ppsCallback now with clock := now } := by
  constructor
  · intro edgeUs member
    rcases List.mem_append.mp member with old | new
    · have before := labelled.past edgeUs old
      show edgeUs ≤ now ∧ edgeUs < 2 ^ 64
      omega
    · rw [List.mem_singleton.mp new]
      exact ⟨Nat.le_refl now, small⟩
  · intro edgeUs member
    rcases List.mem_append.mp member with old | new
    · exact labelled.pulse edgeUs old
    · rw [List.mem_singleton.mp new]
      exact pulse
  · intro _
    constructor
    · apply List.mem_append_right
      exact List.mem_singleton_self now
    · intro used
      exact fresh (labelled.captured now used)
  · intro edgeUs used
    exact List.mem_append_left _ (labelled.captured edgeUs used)
  · exact labelled.once
  · exact labelled.labelled

/-- The step that can form a message: the edge in the slot came by the sentence's own
second, and an edge of an earlier second is too far behind. -/
theorem Labelled.associate (labelled : state.Labelled pulses) {libc : Libc} {line : Bytes}
    {sentenceUs now : Nat} (stamped : state.pc = .stamped line sentenceUs)
    (later : state.clock ≤ now)
    (punctual : ∀ utcSecond, nmeaZdaUtcSecond libc line = some utcSecond →
      ∃ index, utcSecond = pulses.second index ∧ pulses.edgeUs index ≤ sentenceUs ∧
        now < pulses.edgeUs (index + 1)) :
    Labelled pulses { state.associate libc line sentenceUs with clock := now } := by
  have before := (quiet_of_stamped stamped).messages
  have small (waits : state.edgePending = true) : state.edgeTimeUs < 2 ^ 64 :=
    (labelled.past _ (labelled.pending waits).1).2
  rcases associate_cases libc line sentenceUs small with dropped | formed
  · rw [dropped]
    apply labelled.frame later
    · rw [before]
      apply Quiet.messages
      exact quiet_of_idle rfl
    · intro waits
      cases waits
    · rfl
    · rfl
  · obtain ⟨utcSecond, waits, given, near, result⟩ := formed
    have ⟨captured, unused⟩ := labelled.pending waits
    obtain ⟨edge, timed⟩ := labelled.pulse _ captured
    obtain ⟨index, second, received, taken⟩ := punctual utcSecond given
    have own : edge = index := by
      have reached := (labelled.past _ captured).1
      rcases Nat.lt_trichotomy edge index with stale | same | early
      · have gap := pulses.apart_of_lt stale
        unfold timingMaxSentenceDelayUs at near
        omega
      · exact same
      · have gap : pulses.edgeUs (index + 1) ≤ pulses.edgeUs edge := by
          rcases Nat.lt_or_ge (index + 1) edge with further | adjacent
          · have apart := pulses.apart_of_lt further
            omega
          · have next : index + 1 = edge := by omega
            exact Nat.le_of_eq (congrArg pulses.edgeUs next)
        omega
    have messages : ∀ next : Receiver, next.sent = state.sent →
        next.pc = .sending state.sequence utcSecond state.edgeTimeUs →
        next.messages = state.messages ++ [(state.sequence, utcSecond, state.edgeTimeUs)] := by
      intro next sent sending
      rw [before]
      unfold Receiver.messages
      rw [sent, sending]
    rw [result]
    have after := messages { state with
      edgePending := false, sequence := state.sequence + 1,
      pc := .sending state.sequence utcSecond state.edgeTimeUs, clock := now } rfl rfl
    have used := congrArg (List.map fun message => message.2.2) after
    rw [List.map_append] at used
    constructor
    · intro edgeUs member
      have bounds := labelled.past edgeUs member
      show edgeUs ≤ now ∧ edgeUs < 2 ^ 64
      omega
    · exact labelled.pulse
    · intro waits
      cases waits
    · intro edgeUs member
      unfold usedEdges at member
      rw [used] at member
      rcases List.mem_append.mp member with old | new
      · exact labelled.captured edgeUs old
      · rw [List.mem_singleton.mp new]
        exact captured
    · unfold usedEdges
      rw [used]
      apply List.nodup_append.mpr
      refine ⟨labelled.once, List.pairwise_singleton _ _, ?_⟩
      intro edgeUs old other new same
      rw [same, List.mem_singleton.mp new] at old
      exact unused old
    · rw [after]
      intro message member
      rcases List.mem_append.mp member with old | new
      · exact labelled.labelled message old
      · rw [List.mem_singleton.mp new]
        rw [own] at timed
        exact ⟨index, timed, second⟩

/-- One step of a receiver whose paths keep their promise. -/
theorem Labelled.step {libc : Libc} (labelled : state.Labelled pulses) {event : Event}
    (punctual : Punctual libc pulses state event) {next : Receiver}
    (taken : Firmware.step libc state event = some next) : next.Labelled pulses := by
  cases event with
  | pps now =>
      rw [Firmware.step] at taken
      split at taken
      · rename_i readable
        obtain ⟨later, small⟩ := reads_bounds readable
        cases taken
        exact labelled.ppsCallback punctual.1 punctual.2 later small
      · cases taken
  | rx byte =>
      cases taken
      obtain ⟨ring, received⟩ := gnssRx_frame state byte
      rw [received]
      exact labelled.frame (Nat.le_refl _) rfl id rfl rfl
  | pass now =>
      rw [Firmware.step] at taken
      split at taken
      · rename_i allowed
        have later := (reads_bounds allowed.1).1
        cases taken
        obtain ⟨ring, line, fixed, fixSeenUs, pc, passed, quiet⟩ := pass_frame now allowed.2
        rw [passed] at quiet ⊢
        apply labelled.frame later
        · rw [(quiet_of_idle allowed.2).messages]
          apply Quiet.messages
          exact quiet
        · exact id
        · rfl
        · rfl
      · cases taken
  | takeEdge now =>
      rw [Firmware.step] at taken
      split at taken
      · rename_i line sentenceUs stamped
        split at taken
        · rename_i readable
          cases taken
          apply labelled.associate stamped (reads_bounds readable).1
          intro utcSecond given
          exact punctual line sentenceUs utcSecond stamped given
        · cases taken
      · cases taken
  | transmit now =>
      rw [Firmware.step] at taken
      split at taken
      · rename_i sequence utcSecond edgeUs sending
        split at taken
        · rename_i readable
          cases taken
          apply labelled.frame (reads_bounds readable).1
          · unfold messages
            rw [sending]
            show List.map _ (state.sent ++ [_]) ++ [] = _
            rw [List.map_append, List.append_nil]
            rfl
          · exact id
          · rfl
          · rfl
        · cases taken
      · cases taken

end Receiver

/-- Each line to the host gives an edge of the interrupt its own second, no edge is in
two lines, and the `k`th line has number `k` in 32 bits. -/
def LinesLabelled (pulses : Pulses) (state : Receiver) : Prop :=
  (∀ line ∈ state.sent, line.edgeUs ∈ state.captured ∧ ∃ index,
    line.edgeUs = pulses.edgeUs index ∧ line.utcSecond = pulses.second index) ∧
  (state.sent.map Th1.edgeUs).Nodup ∧
  ∀ index line, state.sent[index]? = some line → line.sequence = UInt32.ofNat index

theorem Receiver.Labelled.lines {pulses : Pulses} {state : Receiver}
    (labelled : state.Labelled pulses) (counted : state.Numbered) :
    LinesLabelled pulses state := by
  have listed : ∀ line ∈ state.sent,
      (line.sequence, line.utcSecond, line.edgeUs) ∈ state.messages := by
    intro line member
    apply List.mem_append_left
    exact List.mem_map_of_mem member
  refine ⟨?_, ?_, ?_⟩
  · intro line member
    refine ⟨labelled.captured _ ?_, labelled.labelled _ (listed line member)⟩
    exact List.mem_map_of_mem (listed line member)
  · have once := labelled.once
    unfold Receiver.usedEdges Receiver.messages at once
    rw [List.map_append, List.map_map] at once
    exact (List.nodup_append.mp once).1
  · intro index line found
    exact Receiver.number_of_place counted.numbered found

/-- Whatever edges and sentences are lost, the lines are labelled. -/
theorem lines_labelled (libc : Libc) (pulses : Pulses) (events : List Event)
    (punctual : Machine.Along (step libc) (Punctual libc pulses) {} events) :
    Machine.Always (step libc) (LinesLabelled pulses) {} events := by
  apply Machine.always_of_along fun state => state.Labelled pulses ∧ state.Numbered
  · rintro state ⟨labelled, counted⟩
    exact labelled.lines counted
  · rintro state event next ⟨labelled, counted⟩ allowed taken
    exact ⟨labelled.step allowed taken, (counted.step taken).1⟩
  · exact ⟨Receiver.labelled_init pulses, Receiver.numbered_init⟩
  · exact punctual

def decimal (digits : Bytes) : Nat :=
  digits.foldl (fun value digit => 10 * value + (digit.toNat - 48)) 0

/-- `strtod` on a text of digits, with a sign and a fraction or without; the cast saturates. -/
def digitsOnly : Libc where
  strtod text :=
    let (sign, body) : ℚ × Bytes :=
      if text.head? = some (ascii '-') then (-1, text.tail) else (1, text)
    let (whole, rest) := (body.takeWhile isDigit, body.dropWhile isDigit)
    let (fraction, rest) :=
      if rest.head? = some (ascii '.') then
        (rest.tail.takeWhile isDigit, rest.tail.dropWhile isDigit)
      else ([], rest)
    if whole = [] then none
    else some (.finite (sign * (decimal whole + decimal fraction / 10 ^ fraction.length)), rest)
  toInt
    | .finite value => max (-2147483648) (min (if 0 ≤ value then ⌊value⌋ else ⌈value⌉) 2147483647)
    | .special => 0
  int32 := by
    rintro (value | -)
    · exact ⟨le_max_left _ _, max_le (by decide) (min_le_right _ _)⟩
    · decide
  truncates := by
    intro value small
    obtain ⟨low, high⟩ := abs_lt.mp small
    have floor : ⌊value⌋ < 2147483648 := Int.floor_lt.mpr (by exact_mod_cast high)
    have ceil : -2147483648 < ⌈value⌉ := Int.lt_ceil.mpr (by exact_mod_cast low)
    dsimp only
    split
    · rename_i nonneg
      have positive := Int.floor_nonneg.mpr nonneg
      omega
    · rename_i negative
      have below : ⌈value⌉ ≤ 0 := Int.ceil_le.mpr (by exact_mod_cast (not_le.mp negative).le)
      omega

def everySecond : Pulses where
  edgeUs index := 1000000 * index
  second index := index
  apart := by
    intro index
    omega

/-- `Punctual` for `everySecond`, as a test. -/
def onTheSecond (state : Receiver) : Event → Bool
  | .pps now => decide (now ∉ state.captured) && now % 1000000 = 0
  | .takeEdge now =>
      match state.pc with
      | .stamped line sentenceUs =>
          match nmeaZdaUtcSecond digitsOnly line with
          | some utcSecond =>
              utcSecond = (sentenceUs / 1000000 : Nat) && now / 1000000 = sentenceUs / 1000000
          | none => true
      | _ => true
  | _ => true

theorem punctual_onTheSecond (state : Receiver) (event : Event)
    (tested : onTheSecond state event = true) : Punctual digitsOnly everySecond state event := by
  cases event with
  | pps now =>
      obtain ⟨fresh, whole⟩ := (Bool.and_eq_true _ _).mp tested
      refine ⟨of_decide_eq_true fresh, now / 1000000, ?_⟩
      have even := of_decide_eq_true whole
      show now = 1000000 * (now / 1000000)
      omega
  | takeEdge now =>
      intro line sentenceUs utcSecond stamped given
      unfold onTheSecond at tested
      dsimp only at tested
      rw [stamped] at tested
      dsimp only at tested
      rw [given] at tested
      obtain ⟨second, taken⟩ := (Bool.and_eq_true _ _).mp tested
      have soon := of_decide_eq_true taken
      refine ⟨sentenceUs / 1000000, of_decide_eq_true second, ?_, ?_⟩
      · show 1000000 * (sentenceUs / 1000000) ≤ sentenceUs
        omega
      · show now < 1000000 * (sentenceUs / 1000000 + 1)
        omega
  | rx byte => trivial
  | pass now => trivial
  | transmit now => trivial

/-- The loop takes lines of the receiver at one time. -/
def heard (text : String) (now : Nat) : List Event :=
  let bytes := text.toList.map ascii
  bytes.map .rx ++ List.replicate bytes.length (.pass now)

/-- The edge of second 1, a fix and the sentence of second 1. -/
def oneSecond : List Event :=
  [.pps 1000000] ++ heard "$GNGGA,,,,,,1,*55\n$GNZDA,000001,1,1,1970*58\n" 1100000 ++
    [.takeEdge 1200000, .transmit 1300000]

/-- Then the edge of second 2 and the sentence of second 3 are lost, and the sentence of second
5 fails its checksum. -/
def lossySeconds : List Event :=
  oneSecond ++ heard "$GNGGA,,,,,,1,*55\n$GNZDA,000002,1,1,1970*5B\n" 2100000 ++
    [.takeEdge 2200000, .pps 3000000] ++ heard "$GNGGA,,,,,,1,*55\n" 3100000 ++ [.pps 4000000] ++
    heard "$GNGGA,,,,,,1,*55\n$GNZDA,000004,1,1,1970*5D\n" 4100000 ++
    [.takeEdge 4200000, .transmit 4300000, .pps 5000000] ++
    heard "$GNZDA,000005,1,1,1970*00\n" 5100000 ++ [.takeEdge 5200000]

theorem lines_labelled_oneSecond :
    (Machine.run (step digitsOnly) {} lossySeconds).map Receiver.sent =
        some [⟨0, 1, 1000000, 300000⟩, ⟨1, 4, 4000000, 300000⟩] ∧
      Machine.Always (step digitsOnly) (LinesLabelled everySecond) {} lossySeconds := by
  refine ⟨by decide +kernel, lines_labelled digitsOnly everySecond lossySeconds ?_⟩
  have tested : Machine.checks (step digitsOnly) onTheSecond {} lossySeconds = true := by
    decide +kernel
  apply Machine.Along.imp (Machine.along_of_checks _ _ tested)
  exact punctual_onTheSecond

end OpenLaps.Firmware
