import OpenLaps.Core.Wire
import OpenLaps.Lib.Binary64

/- The capture stamps of CAN frames. The kernel stamps a frame by the realtime clock, a double
of seconds, and the collector projects that onto the monotonic one from the first frame of a
connection. -/
namespace OpenLaps.Collectors

/-- `_FrameClock`. -/
structure FrameClock where
  epochRef : Option ℚ
  monoRef : Int
deriving DecidableEq

namespace FrameClock

/-- `reset`: no anchor until the next frame. -/
def reset : FrameClock := ⟨none, 0⟩

/-- `round((timestamp - epoch) * 1e9)`. The seconds of the kernel have 64 bits, so nothing
overflows. -/
def advance (epoch timestamp : ℚ) : Int :=
  Rounding.halfEven (Binary64.round (Binary64.round (timestamp - epoch) * 10 ^ 9))

/-- `to_mono_ns` of a stamp in seconds, called at `now`. -/
def toMonoNs (clock : FrameClock) (now : Int) (timestamp : ℚ) : Int × FrameClock :=
  if timestamp = 0 then (now, clock)
  else
    match clock.epochRef with
    | none => (now + advance timestamp timestamp, ⟨some timestamp, now⟩)
    | some epoch => (clock.monoRef + advance epoch timestamp, clock)

/-- The stamps that are given one after another: each to a stamp in seconds, at a time. -/
def stamps : FrameClock → List (Int × ℚ) → List Int
  | _, [] => []
  | clock, (now, timestamp) :: rest =>
      (clock.toMonoNs now timestamp).1 :: stamps (clock.toMonoNs now timestamp).2 rest

end FrameClock

/-- A stamped frame: the monotonic clock when it was received and when it was handled, in
nanoseconds, and the realtime clock when it was received, the double of seconds that the
kernel's stamp comes as. -/
structure Frame where
  received : Int
  handled : Int
  timestamp : ℚ
  waited : received ≤ handled
  stamped : timestamp ≠ 0
  double : Binary64.IsDouble timestamp
  clock : |timestamp| < 2 ^ 63

namespace Frame

def delay (frame : Frame) : Int := frame.handled - frame.received

/-- The nanoseconds between two stamps, as doubles have them. -/
def since (frame first : Frame) : Int := FrameClock.advance first.timestamp frame.timestamp

/-- How far the realtime clock went ahead of the monotonic one between two frames: its steps,
and what the spacing of the stamps adds. -/
def step (frame first : Frame) : Int := frame.since first - (frame.received - first.received)

/-- What `to_mono_ns` sees of a frame. -/
def seen (frame : Frame) : Int × ℚ := (frame.handled, frame.timestamp)

end Frame

def largestDelay (frames : List Frame) : Int := (frames.map Frame.delay).foldr max 0

/-- The stamps of a connection. -/
def connection (frames : List Frame) : List Int := FrameClock.reset.stamps (frames.map Frame.seen)

/-- Stamps in order, each no further from its frame than the largest delay. -/
structure Immune (frames : List Frame) (stamps : List Int) : Prop where
  ordered : stamps.Pairwise (· ≤ ·)
  near : List.Forall₂ (fun frame stamp => |stamp - frame.received| ≤ largestDelay frames) frames stamps

/-- The realtime clock never goes back from frame to frame, by a nanosecond after the first
one, and all its steps since then stay within what the delays allow. -/
structure Steady (frames : List Frame) : Prop where
  forward : ∀ first ∈ frames.head?, frames.Pairwise fun earlier later =>
    earlier.timestamp ≤ later.timestamp ∨ earlier.since first = later.since first
  within : ∀ first ∈ frames.head?, ∀ frame ∈ frames,
    -(largestDelay frames + first.delay) ≤ frame.step first ∧
      frame.step first ≤ largestDelay frames - first.delay

namespace FrameClock

theorem advance_mono (epoch : ℚ) {earlier later : ℚ} (le : earlier ≤ later) :
    advance epoch earlier ≤ advance epoch later := by
  unfold advance
  apply Rounding.halfEven_mono
  apply Binary64.round_mono
  apply mul_le_mul_of_nonneg_right _ (by norm_num)
  exact Binary64.round_mono (sub_le_sub_right le epoch)

/-- With an anchor the stamps follow the realtime clock. -/
theorem stamps_anchored (first : Frame) (frames : List Frame) :
    stamps ⟨some first.timestamp, first.handled⟩ (frames.map Frame.seen) =
      frames.map fun frame => first.handled + frame.since first := by
  induction frames with
  | nil => rfl
  | cons frame rest ih =>
      have stamp : toMonoNs ⟨some first.timestamp, first.handled⟩ frame.handled frame.timestamp =
          (first.handled + frame.since first, ⟨some first.timestamp, first.handled⟩) := by
        rw [toMonoNs, if_neg frame.stamped]
        rfl
      rw [List.map_cons, List.map_cons, Frame.seen, stamps, stamp, ih]

end FrameClock

/-- The first frame is the anchor of its connection. -/
theorem connection_cons (first : Frame) (rest : List Frame) :
    connection (first :: rest) =
      (first :: rest).map fun frame => first.handled + frame.since first := by
  have anchored : FrameClock.reset.toMonoNs first.handled first.timestamp =
      (first.handled + first.since first, ⟨some first.timestamp, first.handled⟩) := by
    rw [FrameClock.toMonoNs, if_neg first.stamped]
    rfl
  rw [connection, List.map_cons, Frame.seen, FrameClock.stamps, anchored,
    FrameClock.stamps_anchored, List.map_cons]

theorem since_le_iff (first earlier later : Frame) :
    earlier.since first ≤ later.since first ↔
      earlier.timestamp ≤ later.timestamp ∨ earlier.since first = later.since first := by
  constructor
  · intro le
    rcases le_total earlier.timestamp later.timestamp with forward | back
    · exact Or.inl forward
    · exact Or.inr (le_antisymm le (FrameClock.advance_mono first.timestamp back))
  · rintro (forward | same)
    · exact FrameClock.advance_mono first.timestamp forward
    · exact same.le

/-- The stamps are in order exactly when the realtime clock never goes back by a nanosecond. -/
theorem ordered_iff (frames : List Frame) :
    (connection frames).Pairwise (· ≤ ·) ↔
      ∀ first ∈ frames.head?, frames.Pairwise fun earlier later =>
        earlier.timestamp ≤ later.timestamp ∨ earlier.since first = later.since first := by
  cases frames with
  | nil => exact ⟨fun _ _ _ => List.Pairwise.nil, fun _ => List.Pairwise.nil⟩
  | cons first rest =>
      rw [connection_cons, List.pairwise_map]
      simp only [add_le_add_iff_left, since_le_iff]
      constructor
      · intro ordered anchor head
        cases head
        exact ordered
      · exact fun ordered => ordered first rfl

/-- A stamp is late by the first frame's delay and all the steps since. -/
theorem near_iff (first : Frame) (rest : List Frame) (most : Int) :
    List.Forall₂ (fun frame stamp => |stamp - frame.received| ≤ most) (first :: rest)
        (connection (first :: rest)) ↔
      ∀ frame ∈ first :: rest, -(most + first.delay) ≤ frame.step first ∧
        frame.step first ≤ most - first.delay := by
  rw [connection_cons, List.forall₂_map_right_iff, List.forall₂_same]
  apply forall₂_congr
  intro frame _
  have late : first.handled + frame.since first - frame.received = first.delay + frame.step first := by
    unfold Frame.delay Frame.step
    omega
  rw [late, abs_le]
  constructor
  · intro bounds
    omega
  · intro bounds
    omega

/-- The stamps of a connection are in order and near their frames exactly when the realtime
clock is not stepped back over a frame, nor away from the first by more than the delays. -/
theorem immune_iff (frames : List Frame) : Immune frames (connection frames) ↔ Steady frames := by
  constructor
  · intro immune
    refine ⟨(ordered_iff frames).mp immune.ordered, ?_⟩
    cases frames with
    | nil => exact fun first none => nomatch none
    | cons first rest =>
        intro head same
        cases same
        exact (near_iff first rest _).mp immune.near
  · intro steady
    refine ⟨(ordered_iff frames).mpr steady.forward, ?_⟩
    cases frames with
    | nil => exact List.Forall₂.nil
    | cons first rest => exact (near_iff first rest _).mpr (steady.within first rfl)

/-- The double nearest to a time. -/
def stampAt (seconds : ℚ) : ℚ := Binary64.round seconds

/-- Two frames a hundredth of a second apart, and the realtime clock set back by a second
between them. -/
def setBack : List Frame :=
  [⟨1000000000, 1000100000, stampAt 1700000000, by decide, by decide +kernel,
      Binary64.round_isDouble _, by decide +kernel⟩,
    ⟨1010000000, 1010100000, stampAt (169999999901 / 100), by decide, by decide +kernel,
      Binary64.round_isDouble _, by decide +kernel⟩]

theorem setBack_disordered :
    (setBack.Pairwise fun first second => first.received < second.received) ∧
      largestDelay setBack = 100000 ∧ connection setBack = [1000100000, 10099990] ∧
      ¬ Immune setBack (connection setBack) := by
  have stamps : connection setBack = [1000100000, 10099990] := by decide +kernel
  refine ⟨by decide, by decide, stamps, ?_⟩
  intro immune
  have order := immune.ordered
  rw [stamps] at order
  revert order
  decide

end OpenLaps.Collectors
