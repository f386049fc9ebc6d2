import OpenLaps.Firmware.Labelling
import OpenLaps.Lib.Machine
import OpenLaps.Tools.Th1Lines

/- Which lines of the firmware the shim accepts, over reboots of the firmware, losses on the
line, reconnects and restarts of the shim. -/
namespace OpenLaps.Shim

open Firmware Strings

/-- A line of the firmware: the boot that wrote it, and its place among the lines of it. -/
structure Carried where
  boot : Nat
  index : Nat
  line : Th1
  deriving DecidableEq, Repr

def Carried.Before (first later : Carried) : Prop :=
  first.boot < later.boot ∨ (first.boot = later.boot ∧ first.index < later.index)

/-- The firmware, the line to the host and the shim. `older` are the lines of former boots
still on their way, and `passed` of the lines of this boot have left the line. `delivered`
is the last intact line that reached the shim, and `accepted` the last line that it took,
where that was an intact one; neither is ever read. -/
structure Link where
  boot : Nat := 0
  receiver : Receiver := {}
  older : List Carried := []
  passed : Nat := 0
  shim : GnssReceiverInterfaceShim := {}
  delivered : Option Carried := none
  accepted : Option Carried := none
  deriving DecidableEq, Repr

/-- What can happen: a step of the firmware, its reboot, a line lost, delivered or delivered
again, bytes that are no line of the firmware (what a broken line leaves included), the
device lost and opened again, a new process of the shim. -/
inductive LinkEvent where
  | firmware (event : Event)
  | reboot
  | lose
  | deliver (arrivalNs : Int) (works : Bool)
  | again (arrivalNs : Int) (works : Bool)
  | noise (data : Bytes) (arrivalNs : Int) (works : Bool)
  | reconnect
  | restartShim
  deriving DecidableEq, Repr

namespace Link

variable (runtime : Runtime) (libc : Libc)

/-- The lines of this boot that are still on their way. -/
def current (link : Link) : List Carried :=
  (link.receiver.sent.zipIdx.drop link.passed).map fun (line, index) => ⟨link.boot, index, line⟩

/-- The next line to arrive. -/
def head? (link : Link) : Option Carried :=
  match link.older with
  | carried :: _ => some carried
  | [] => link.receiver.sent[link.passed]?.map fun line => ⟨link.boot, link.passed, line⟩

/-- The line without its head. -/
def pop (link : Link) : Link := { link with
  older := link.older.tail
  passed := if link.older = [] then link.passed + 1 else link.passed }

/-- The shim reads bytes that are the given line of the firmware, or none. -/
def hear (link : Link) (source : Option Carried) (data : Bytes) (arrivalNs : Int) (works : Bool) :
    Link :=
  let result := link.shim.receive runtime (fun _ => works) data arrivalNs
  { link with shim := result.1, accepted := if result.2 then source else link.accepted }

def step (link : Link) : LinkEvent → Option Link
  | .firmware event =>
    (Firmware.step libc link.receiver event).map fun receiver => { link with receiver := receiver }
  | .reboot => some { link with
      boot := link.boot + 1, receiver := {}, older := link.older ++ link.current, passed := 0 }
  | .lose => link.head?.map fun _ => link.pop
  | .deliver arrivalNs works => link.head?.map fun carried =>
    { link.pop with delivered := some carried }.hear runtime (some carried) (th1Bytes carried.line)
      arrivalNs works
  | .again arrivalNs works => link.delivered.map fun carried =>
    link.hear runtime (some carried) (th1Bytes carried.line) arrivalNs works
  | .noise data arrivalNs works => some (link.hear runtime none data arrivalNs works)
  | .reconnect => some { link with shim := link.shim.deviceError }
  | .restartShim => some { link with shim := {}, accepted := none }

/-- Whether the shim would take a line now, its sink working. -/
def takes (link : Link) (line : Th1) (arrivalNs : Int) : Bool :=
  (link.shim.receive runtime (fun _ => true) (th1Bytes line) arrivalNs).2

end Link

/-- A valid line: its second is one that the shim reads, and its delay is small. -/
def Punctual (line : Th1) : Prop := 0 < line.utcSecond ∧ (line.delayUs : Int) ≤ maxFirmwareDelayUs

/-- A number up to half the range ahead of another. -/
def Ahead (sequence previous : Int) : Prop :=
  ∃ steps : Int, 0 < steps ∧ steps < 2 ^ 31 ∧ sequence = (previous + steps) % 2 ^ 32

/-- What the shim does with lines, and with the next one in particular. -/
structure SequenceLaw (runtime : Runtime) (link : Link) : Prop where
  /-- A line is numbered by its place since the boot. -/
  numbered : ∀ carried ∈ link.head?, carried.line.sequence = UInt32.ofNat carried.index
  /-- A valid line is taken unless the last one taken by this shim is not behind it. -/
  taken : ∀ carried ∈ link.head?, Punctual carried.line → ∀ arrivalNs,
    (link.takes runtime carried.line arrivalNs = true ↔
      ∀ last ∈ link.shim.lastSequence, Ahead carried.line.sequence.toNat last)
  /-- So it is taken when that was a line of the same boot, and not long ago. -/
  sameBoot : ∀ carried ∈ link.head?, Punctual carried.line → ∀ last ∈ link.accepted,
    last.boot = carried.boot → carried.index < last.index + 2 ^ 31 → ∀ arrivalNs,
      link.takes runtime carried.line arrivalNs = true
  /-- What was taken is not taken again. -/
  once : ∀ data arrivalNs laterNs sink laterSink,
    (link.shim.receive runtime sink data arrivalNs).2 = true →
      ((link.shim.receive runtime sink data arrivalNs).1.receive runtime laterSink data laterNs).2 =
        false

/-! ### What the shim takes -/

section Receive

variable {runtime : Runtime} {shim : GnssReceiverInterfaceShim} {sink : SockSample → Bool}
  {data : Bytes} {arrivalNs : Int}

theorem newer_iff {sequence previous : Int} (low : 0 ≤ sequence) (high : sequence < 2 ^ 32) :
    isNewerSequence sequence previous = true ↔ Ahead sequence previous := by
  unfold isNewerSequence Ahead
  dsimp only
  rw [Bool.and_eq_true, decide_eq_true_eq, decide_eq_true_eq]
  constructor
  · intro range
    exact ⟨(sequence - previous) % 2 ^ 32, range.1, range.2, by omega⟩
  · intro ahead
    obtain ⟨steps, positive, few, same⟩ := ahead
    omega

theorem not_newer_self (sequence : Int) : isNewerSequence sequence sequence = false := by
  simp [isNewerSequence]

theorem fresh_iff (sequence : Int) :
    (shim.lastSequence.any fun last => ! isNewerSequence sequence last) = false ↔
      ∀ last ∈ shim.lastSequence, isNewerSequence sequence last = true := by
  cases shim.lastSequence with
  | none => simp
  | some last => simp

/-- A line that is taken parses, is valid and newer, and its number is then the last one. -/
theorem processLine_taken {line : Nmea.Sentence}
    (taken : (shim.processLine runtime sink line arrivalNs).2 = true) :
    ∃ message, parseMessage runtime line = .ok message ∧
      (∀ last ∈ shim.lastSequence, isNewerSequence message.sequence last = true) ∧
      (shim.processLine runtime sink line arrivalNs).1.lastSequence = some message.sequence := by
  unfold GnssReceiverInterfaceShim.processLine at taken ⊢
  dsimp only at taken ⊢
  cases parsed : parseMessage runtime line with
  | error error =>
    rw [parsed] at taken
    cases taken
  | ok message =>
    rw [parsed] at taken
    dsimp only at taken ⊢
    split at taken
    · cases taken
    · rename_i fine
      split at taken
      · cases taken
      · rename_i fresh
        split at taken
        · rename_i works
          refine ⟨message, rfl, (fresh_iff _).mp (Bool.eq_false_iff.mpr fresh), ?_⟩
          rw [if_neg fine, if_neg fresh, if_pos works]
        · cases taken

/-- A valid line with a newer number is taken while the sink works. -/
theorem processLine_fresh {line : Nmea.Sentence} {message : TimingMessage}
    (parsed : parseMessage runtime line = .ok message) (valid : message.valid = true)
    (small : message.edgeToTransmitUs ≤ maxFirmwareDelayUs)
    (newer : ∀ last ∈ shim.lastSequence, isNewerSequence message.sequence last = true) :
    (shim.processLine runtime (fun _ => true) line arrivalNs).2 = true := by
  have fine : ¬((! message.valid || decide (maxFirmwareDelayUs < message.edgeToTransmitUs)) = true) := by
    simp [valid, small]
  unfold GnssReceiverInterfaceShim.processLine
  rw [parsed]
  dsimp only
  rw [if_neg fine, (fresh_iff _).mpr newer]
  rfl

/-- The read loop takes what `process_line` takes. -/
theorem receive_taken (taken : (shim.receive runtime sink data arrivalNs).2 = true) :
    shim.receive runtime sink data arrivalNs =
      shim.processLine runtime sink (.bytes data) arrivalNs := by
  unfold GnssReceiverInterfaceShim.receive at taken ⊢
  split at taken
  · cases taken
  · rename_i some
    rw [if_neg some]
    split at taken
    · cases taken
    · rename_i framed
      rw [if_neg framed]

theorem receive_th1 (line : Th1) : shim.receive runtime sink (th1Bytes line) arrivalNs =
    shim.processLine runtime sink (.bytes (th1Bytes line)) arrivalNs := by
  have ends : (th1Bytes line).getLast? = some 10 := by
    have whole : th1Text line = ((th1Prefix line.sequence line.utcSecond line.edgeUs).toList ++
        (formatInt 20 line.delayUs ++ " 1".toList)) ++ ['\n'] := by simp [th1Text]
    rw [th1Bytes, whole, Nmea.encodeAscii, List.map_append, List.map_singleton, List.getLast?_concat]
    rfl
  have some : th1Bytes line ≠ [] := by
    intro none
    rw [none] at ends
    cases ends
  rw [GnssReceiverInterfaceShim.receive, if_neg some, if_neg fun oversized => oversized.2 (.inl ends)]

/-- What became of the last number when a line was taken. -/
theorem receive_lastSequence (taken : (shim.receive runtime sink data arrivalNs).2 = true) :
    ∃ message, parseMessage runtime (.bytes data) = .ok message ∧
      (shim.receive runtime sink data arrivalNs).1.lastSequence = some message.sequence := by
  have same := receive_taken taken
  rw [same] at taken ⊢
  obtain ⟨message, parsed, -, last⟩ := processLine_taken taken
  exact ⟨message, parsed, last⟩

theorem receive_kept (refused : (shim.receive runtime sink data arrivalNs).2 = false) :
    (shim.receive runtime sink data arrivalNs).1.lastSequence = shim.lastSequence := by
  revert refused
  unfold GnssReceiverInterfaceShim.receive GnssReceiverInterfaceShim.processLine
  dsimp only
  repeat' split
  all_goals first | exact fun _ => rfl | exact fun impossible => nomatch impossible

/-- The same bytes are not taken twice. -/
theorem receive_once {laterSink : SockSample → Bool} {laterNs : Int}
    (taken : (shim.receive runtime sink data arrivalNs).2 = true) :
    ((shim.receive runtime sink data arrivalNs).1.receive runtime laterSink data laterNs).2 =
      false := by
  obtain ⟨message, parsed, last⟩ := receive_lastSequence taken
  apply Bool.eq_false_iff.mpr
  intro again
  have same := receive_taken again
  rw [same] at again
  obtain ⟨other, parsed', newer, -⟩ := processLine_taken again
  rw [parsed] at parsed'
  cases parsed'
  have self := newer message.sequence last
  rw [not_newer_self] at self
  cases self

/-- A valid line of the firmware is taken unless the last number is not behind its own. -/
theorem takes_th1 {line : Th1} (valid : Punctual line) (second : line.utcSecond < 10 ^ 18)
    (edge : line.edgeUs < 2 ^ 64) (delay : line.delayUs < 2 ^ 64) :
    (shim.receive runtime (fun _ => true) (th1Bytes line) arrivalNs).2 = true ↔
      ∀ last ∈ shim.lastSequence, Ahead line.sequence.toNat last := by
  have small := line.sequence.toNat_lt
  have low : (0 : Int) ≤ line.sequence.toNat := by omega
  have high : (line.sequence.toNat : Int) < 2 ^ 32 := by omega
  have parsed : parseMessage runtime _ = _ := parse_th1 line valid.1 second edge delay
  rw [receive_th1]
  constructor
  · intro taken last held
    obtain ⟨message, read, newer, -⟩ := processLine_taken taken
    rw [parsed] at read
    cases read
    exact (newer_iff low high).mp (newer last held)
  · intro ahead
    apply processLine_fresh parsed rfl valid.2
    intro last held
    exact (newer_iff low high).mpr (ahead last held)

end Receive

/-! ### Runs of the link -/

/-- A line whose number is its place, and whose fields fit. -/
structure Carried.Sound (carried : Carried) : Prop where
  number : carried.line.sequence = UInt32.ofNat carried.index
  second : carried.line.utcSecond < 10 ^ 18
  edge : carried.line.edgeUs < 2 ^ 64
  delay : carried.line.delayUs < 2 ^ 64

namespace Link

variable {runtime : Runtime} {libc : Libc} {link : Link} {carried : Carried}

/-- A line that left the link before all that are on their way. -/
def Passed (link : Link) (carried : Carried) : Prop :=
  (∀ later ∈ link.older, carried.Before later) ∧
    (carried.boot < link.boot ∨ (carried.boot = link.boot ∧ carried.index < link.passed))

/-- Lines arrive in the order in which they were written, and the last one taken is behind
all of them. -/
structure InOrder (link : Link) : Prop where
  receiver : link.receiver.Numbered
  older : ∀ carried ∈ link.older, carried.Sound ∧ carried.boot < link.boot
  ordered : link.older.Pairwise Carried.Before
  delivered : ∀ carried ∈ link.delivered, carried.Sound ∧ link.Passed carried
  accepted : ∀ carried ∈ link.accepted, carried.Sound ∧ link.Passed carried ∧
    link.shim.lastSequence = some (carried.line.sequence.toNat : Int)

theorem inOrder_init : InOrder {} where
  receiver := Receiver.numbered_init
  older := by simp
  ordered := by simp
  delivered := by simp
  accepted := by simp

theorem InOrder.sound_current (inOrder : link.InOrder) {index : Nat} {line : Th1}
    (found : link.receiver.sent[index]? = some line) : Carried.Sound ⟨link.boot, index, line⟩ := by
  obtain ⟨number, second, edge, delay⟩ := inOrder.receiver.line found
  exact ⟨number, second, edge, delay⟩

/-- The next line is sound, and behind it are all that have left. -/
theorem InOrder.head (inOrder : link.InOrder) (next : carried ∈ link.head?) :
    carried.Sound ∧ ∀ last, link.Passed last → last.Before carried := by
  unfold head? at next
  split at next
  · rename_i first rest waiting
    cases next
    have member : carried ∈ link.older := by
      rw [waiting]
      exact List.mem_cons_self
    exact ⟨(inOrder.older carried member).1, fun last passed => passed.1 carried member⟩
  · obtain ⟨line, found, rfl⟩ := Option.map_eq_some_iff.mp next
    exact ⟨inOrder.sound_current found, fun last passed => passed.2⟩

theorem Passed.pop {last : Carried} (passed : link.Passed last) : link.pop.Passed last := by
  refine ⟨fun later member => passed.1 later (List.mem_of_mem_tail member), ?_⟩
  rcases passed.2 with former | ⟨same, behind⟩
  · exact .inl former
  · refine .inr ⟨same, ?_⟩
    unfold Link.pop
    dsimp only
    split <;> omega

/-- A line that leaves the link has left it before the others. -/
theorem InOrder.popped (inOrder : link.InOrder) (next : carried ∈ link.head?) :
    link.pop.Passed carried := by
  unfold head? at next
  split at next
  · rename_i first rest waiting
    cases next
    have ordered := inOrder.ordered
    have older := inOrder.older
    rw [waiting] at ordered older
    refine ⟨?_, .inl (older carried List.mem_cons_self).2⟩
    intro later member
    have inside : later ∈ link.older.tail := member
    rw [waiting] at inside
    exact (List.pairwise_cons.mp ordered).1 later inside
  · rename_i none
    obtain ⟨line, found, rfl⟩ := Option.map_eq_some_iff.mp next
    refine ⟨?_, .inr ⟨rfl, ?_⟩⟩
    · intro later member
      have inside : later ∈ link.older.tail := member
      rw [none] at inside
      cases inside
    · unfold Link.pop
      dsimp only
      rw [if_pos none]
      exact Nat.lt_succ_self _

theorem InOrder.pop (inOrder : link.InOrder) : link.pop.InOrder where
  receiver := inOrder.receiver
  older carried member := inOrder.older carried (List.mem_of_mem_tail member)
  ordered := inOrder.ordered.tail
  delivered carried held := (inOrder.delivered carried held).imp_right Passed.pop
  accepted carried held := (inOrder.accepted carried held).imp_right (And.imp_left Passed.pop)

/-- The shim reads something: an intact line that has left the link, or anything else. -/
theorem InOrder.hear (inOrder : link.InOrder) {source : Option Carried} {data : Bytes}
    {arrivalNs : Int} {works : Bool}
    (intact : ∀ carried ∈ source, carried.Sound ∧ link.Passed carried ∧
      data = th1Bytes carried.line) :
    (link.hear runtime source data arrivalNs works).InOrder := by
  unfold Link.hear
  dsimp only
  cases taken : (link.shim.receive runtime (fun _ => works) data arrivalNs).2 with
  | true =>
    refine ⟨inOrder.receiver, inOrder.older, inOrder.ordered, inOrder.delivered, ?_⟩
    intro carried held
    obtain ⟨sound, passed, same⟩ := intact carried held
    obtain ⟨message, parsed, last⟩ := receive_lastSequence taken
    rw [same] at parsed
    rw [parse_sequence carried.line parsed] at last
    exact ⟨sound, passed, last⟩
  | false =>
    refine ⟨inOrder.receiver, inOrder.older, inOrder.ordered, inOrder.delivered, ?_⟩
    intro carried held
    obtain ⟨sound, passed, last⟩ := inOrder.accepted carried held
    refine ⟨sound, passed, ?_⟩
    rw [← last]
    exact receive_kept taken

theorem InOrder.current (inOrder : link.InOrder) (member : carried ∈ link.current) :
    carried.Sound ∧ carried.boot = link.boot ∧ link.passed ≤ carried.index := by
  obtain ⟨⟨line, index⟩, dropped, rfl⟩ := List.mem_map.mp member
  obtain ⟨place, found⟩ := List.mem_iff_getElem?.mp dropped
  rw [List.getElem?_drop, List.getElem?_zipIdx] at found
  obtain ⟨line', here, same⟩ := Option.map_eq_some_iff.mp found
  cases same
  rw [Nat.zero_add]
  exact ⟨inOrder.sound_current here, rfl, Nat.le_add_right _ _⟩

theorem current_ordered (link : Link) : link.current.Pairwise Carried.Before := by
  apply List.pairwise_map.mpr
  apply List.Pairwise.drop
  apply List.pairwise_iff_getElem.mpr
  intro first later inside inside' order
  rw [List.getElem_zipIdx, List.getElem_zipIdx]
  exact .inr ⟨rfl, by simpa using order⟩

/-- The lines on their way when the firmware starts again. -/
theorem InOrder.reboot (inOrder : link.InOrder) : InOrder { link with
    boot := link.boot + 1, receiver := {}, older := link.older ++ link.current, passed := 0 } := by
  have passed (last : Carried) (left : link.Passed last) : Passed { link with
      boot := link.boot + 1, receiver := {}, older := link.older ++ link.current, passed := 0 }
      last := by
    refine ⟨?_, .inl ?_⟩
    · intro later member
      rcases List.mem_append.mp member with old | new
      · exact left.1 later old
      · obtain ⟨-, boot, further⟩ := inOrder.current new
        unfold Carried.Before
        have behind := left.2
        omega
    · show last.boot < link.boot + 1
      have behind := left.2
      omega
  constructor
  · exact Receiver.numbered_init
  · intro carried member
    show carried.Sound ∧ carried.boot < link.boot + 1
    rcases List.mem_append.mp member with old | new
    · have before := inOrder.older carried old
      exact ⟨before.1, Nat.lt_succ_of_lt before.2⟩
    · obtain ⟨sound, boot, -⟩ := inOrder.current new
      exact ⟨sound, by omega⟩
  · apply List.pairwise_append.mpr
    refine ⟨inOrder.ordered, current_ordered link, ?_⟩
    intro old member new member'
    have before := (inOrder.older old member).2
    have boot := (inOrder.current member').2.1
    exact .inl (by omega)
  · exact fun carried held => (inOrder.delivered carried held).imp_right (passed carried)
  · exact fun carried held => (inOrder.accepted carried held).imp_right (And.imp_left (passed carried))

theorem InOrder.step (inOrder : link.InOrder) {event : LinkEvent} {next : Link}
    (taken : link.step runtime libc event = some next) : next.InOrder := by
  cases event with
  | firmware event =>
    obtain ⟨receiver, moved, rfl⟩ := Option.map_eq_some_iff.mp taken
    have counted := (inOrder.receiver.step moved).1
    exact ⟨counted, inOrder.older, inOrder.ordered, inOrder.delivered, inOrder.accepted⟩
  | reboot =>
    cases taken
    exact inOrder.reboot
  | lose =>
    obtain ⟨carried, -, rfl⟩ := Option.map_eq_some_iff.mp taken
    exact inOrder.pop
  | deliver arrivalNs works =>
    obtain ⟨carried, next, rfl⟩ := Option.map_eq_some_iff.mp taken
    have left := inOrder.popped next
    have sound := (inOrder.head next).1
    have popped := inOrder.pop
    apply InOrder.hear
    · refine ⟨popped.receiver, popped.older, popped.ordered, ?_, popped.accepted⟩
      intro last held
      cases held
      exact ⟨sound, left⟩
    · intro last held
      cases held
      exact ⟨sound, left, rfl⟩
  | again arrivalNs works =>
    obtain ⟨carried, held, rfl⟩ := Option.map_eq_some_iff.mp taken
    apply inOrder.hear
    intro last same
    cases same
    obtain ⟨sound, passed⟩ := inOrder.delivered carried held
    exact ⟨sound, passed, rfl⟩
  | noise data arrivalNs works =>
    cases taken
    apply inOrder.hear
    intro carried held
    cases held
  | reconnect =>
    cases taken
    exact ⟨inOrder.receiver, inOrder.older, inOrder.ordered, inOrder.delivered, inOrder.accepted⟩
  | restartShim =>
    cases taken
    refine ⟨inOrder.receiver, inOrder.older, inOrder.ordered, inOrder.delivered, ?_⟩
    intro carried held
    cases held

/-- The number of a line of the same boot, not long before. -/
theorem ahead_of_sound {last : Carried} (sound : carried.Sound) (sound' : last.Sound)
    (behind : last.index < carried.index) (soon : carried.index < last.index + 2 ^ 31) :
    Ahead carried.line.sequence.toNat last.line.sequence.toNat := by
  rw [sound.number, sound'.number, UInt32.toNat_ofNat', UInt32.toNat_ofNat']
  refine ⟨(carried.index : Int) - last.index, by omega, by omega, by omega⟩

theorem InOrder.law (inOrder : link.InOrder) : SequenceLaw runtime link where
  numbered carried next := (inOrder.head next).1.number
  taken carried next valid arrivalNs := by
    obtain ⟨⟨-, second, edge, delay⟩, -⟩ := inOrder.head next
    exact takes_th1 valid second edge delay
  sameBoot carried next valid last held boot soon arrivalNs := by
    obtain ⟨sound, behind⟩ := inOrder.head next
    obtain ⟨sound', passed, number⟩ := inOrder.accepted last held
    apply (takes_th1 valid sound.second sound.edge sound.delay).mpr
    intro previous same
    rw [number] at same
    cases same
    apply ahead_of_sound sound sound' _ soon
    rcases behind last passed with former | ⟨-, earlier⟩
    · omega
    · exact earlier
  once _ _ _ _ _ taken := receive_once taken

end Link

/-- Whatever the firmware, the line and the shim do, the shim takes the lines it should. -/
theorem sequence_acceptance (runtime : Runtime) (libc : Libc) (events : List LinkEvent) :
    Machine.Always (Link.step runtime libc) (SequenceLaw runtime) {} events := by
  have all : Machine.Along (Link.step runtime libc) (fun _ _ => True) {} events :=
    Machine.along_of_forall events _ fun _ _ _ => trivial
  refine Machine.always_of_along Link.InOrder ?_ ?_ events _ Link.inOrder_init all
  · intro link inOrder
    exact inOrder.law
  · intro link event next inOrder _ taken
    exact inOrder.step taken

/-! ### A reboot -/

theorem Link.run_firmware (runtime : Runtime) (libc : Libc) (events : List Event) (link : Link) :
    Machine.run (Link.step runtime libc) link (events.map .firmware) =
      (Machine.run (Firmware.step libc) link.receiver events).map fun receiver =>
        { link with receiver := receiver } := by
  induction events generalizing link with
  | nil => rfl
  | cons event rest ih =>
    rw [List.map_cons, Machine.run_cons, Machine.run_cons, Link.step]
    cases Firmware.step libc link.receiver event with
    | none => rfl
    | some next => exact ih { link with receiver := next }

/-- Every valid line is taken when it arrives. -/
def FirstTaken (runtime : Runtime) (link : Link) : Prop :=
  ∀ carried ∈ link.head?, Punctual carried.line → ∀ arrivalNs,
    link.takes runtime carried.line arrivalNs = true

/-- One line of a boot, and one of the next boot. -/
def rebooted : List LinkEvent :=
  oneSecond.map .firmware ++ ([.deliver 0 true, .reboot] ++ oneSecond.map .firmware)

/-- The first line after the reboot is refused. -/
theorem rebooted_refused : ¬ Machine.Always (Link.step plainRuntime digitsOnly)
    (FirstTaken plainRuntime) {} rebooted := by
  intro always
  obtain ⟨receiver, ran, sent⟩ : ∃ receiver, Machine.run (Firmware.step digitsOnly) {} oneSecond =
      some receiver ∧ receiver.sent = [⟨0, 1, 1000000, 300000⟩] := by
    have written : (Machine.run (Firmware.step digitsOnly) {} oneSecond).map Receiver.sent =
        some [⟨0, 1, 1000000, 300000⟩] := by decide +kernel
    exact Option.map_eq_some_iff.mp written
  have valid : Punctual ⟨0, 1, 1000000, 300000⟩ := ⟨by decide, by decide⟩
  have taken (shim : GnssReceiverInterfaceShim) :
      (shim.receive plainRuntime (fun _ => true) (th1Bytes ⟨0, 1, 1000000, 300000⟩) 0).2 = true ↔ _ :=
    takes_th1 valid (by decide) (by decide) (by decide)
  have first := (taken {}).mpr fun last held => nomatch held
  obtain ⟨message, parsed, last⟩ := receive_lastSequence first
  rw [parse_sequence _ parsed] at last
  have reached : ∃ link, Machine.run (Link.step plainRuntime digitsOnly) {} rebooted = some link ∧
      link.head? = some ⟨1, 0, ⟨0, 1, 1000000, 300000⟩⟩ ∧ link.shim.lastSequence = some 0 := by
    rw [rebooted, Machine.run_append, Link.run_firmware, ran, Option.map_some, Option.bind_some,
      Machine.run_append]
    have head : Link.head? { receiver := receiver } = some ⟨0, 0, ⟨0, 1, 1000000, 300000⟩⟩ := by
      rw [Link.head?, sent]
      rfl
    have none : Link.current { receiver := receiver, passed := 1, boot := 0 } = [] := by
      rw [Link.current, sent]
      rfl
    rw [Machine.run_cons, Link.step, head, Option.map_some, Option.bind_some, Machine.run_cons,
      Link.step, Option.bind_some, Machine.run_nil, Option.bind_some, Link.run_firmware, ran]
    refine ⟨_, rfl, ?_, last⟩
    have older : ([] : List Carried) ++ Link.current { receiver := receiver, passed := 1, boot := 0 } =
        [] := none
    show (match ([] : List Carried) ++ Link.current { receiver := receiver, passed := 1 } with
      | carried :: _ => some carried
      | [] => receiver.sent[0]?.map fun line => ⟨1, 0, line⟩) = _
    rw [older, sent]
    rfl
  obtain ⟨link, run, head, held⟩ := reached
  have again := always.final run _ head valid 0
  obtain ⟨steps, positive, few, same⟩ := (taken link.shim).mp again 0 held
  have zero : (0 : Int) = (0 + steps) % 2 ^ 32 := same
  omega

end OpenLaps.Shim
