import Mathlib.Algebra.Ring.Nat
import OpenLaps.Pit.TimingFeed.WebSocket

/- Frames on the wire: the reader undoes the encoder, at every length and for every
mask, however the stream hands out its bytes. -/
namespace OpenLaps.WebSocket

@[simp] theorem applyMask_applyMask (mask payload : Bytes) :
    applyMask mask (applyMask mask payload) = payload := by
  rw [applyMask, applyMask, List.mapIdx_mapIdx]
  apply List.ext_getElem
  · simp
  · intro index _ _
    rw [List.getElem_mapIdx, Function.comp_apply, UInt8.xor_assoc, UInt8.xor_self, UInt8.xor_zero]

@[simp] theorem length_applyMask (mask payload : Bytes) :
    (applyMask mask payload).length = payload.length := by
  simp [applyMask]

@[simp] theorem length_packBig (width value : Nat) : (packBig width value).length = width := by
  induction width generalizing value with
  | zero => rfl
  | succ width ih => rw [packBig, List.length_append, ih, List.length_singleton]

theorem unpackBig_packBig {width value : Nat} (fits : value < 256 ^ width) :
    unpackBig (packBig width value) = value := by
  induction width generalizing value with
  | zero =>
    rw [pow_zero, Nat.lt_one_iff] at fits
    rw [fits]
    rfl
  | succ width ih =>
    have smaller : value / 256 < 256 ^ width := by
      rw [pow_succ] at fits
      omega
    have byte : (UInt8.ofNat (value % 256)).toNat = value % 256 := by
      rw [UInt8.toNat_ofNat']
      omega
    have front := ih smaller
    rw [unpackBig] at front
    rw [packBig, unpackBig, List.foldl_append, front]
    simp only [List.foldl_cons, List.foldl_nil, byte]
    omega

/-- The two mask bits a header can have. -/
def maskBit (mask : Option Mask) : UInt8 := if mask.isSome then 0x80 else 0

theorem maskBit_cases (mask : Option Mask) : maskBit mask = 0x80 ∨ maskBit mask = 0 := by
  cases mask with
  | none => exact Or.inr rfl
  | some mask => exact Or.inl rfl

/-- The seven length bits and the mask bit do not get in each other's way. -/
theorem header_bits {bit : UInt8} (which : bit = 0x80 ∨ bit = 0) {short : Nat} (small : short < 128) :
    (bit ||| UInt8.ofNat short) &&& 0x80 = bit ∧
      ((bit ||| UInt8.ofNat short) &&& 0x7F).toNat = short := by
  have all : ∀ short : Fin 128,
      ((0x80 ||| UInt8.ofNat short) &&& 0x80 = 0x80 ∧
        ((0x80 ||| UInt8.ofNat short) &&& 0x7F).toNat = short) ∧
      ((0 ||| UInt8.ofNat short) &&& 0x80 = 0 ∧
        ((0 ||| UInt8.ofNat short) &&& 0x7F).toNat = short) := by
    decide +kernel
  rcases which with rfl | rfl
  · exact (all ⟨short, small⟩).1
  · exact (all ⟨short, small⟩).2

/-- The length a header carries is the length that is read. -/
theorem readLength_lengthBytes {bit : UInt8} (which : bit = 0x80 ∨ bit = 0) {length : Nat}
    (fits : length < 256 ^ 8) : ∃ second field, lengthBytes bit length = second :: field ∧
      second &&& 0x80 = bit ∧ ∀ (stream : Stream) (rest : Bytes), stream.bytes = field ++ rest →
        ∃ next, readLength stream (second &&& 0x7F).toNat = .ok (length, next) ∧
          next.bytes = rest := by
  unfold lengthBytes
  by_cases short : length < 126
  · rw [if_pos short]
    obtain ⟨mask, bits⟩ := header_bits which (show length < 128 by omega)
    refine ⟨_, [], rfl, mask, ?_⟩
    intro stream rest bytes
    refine ⟨stream, ?_, bytes⟩
    rw [bits, readLength, if_neg (by omega), if_neg (by omega)]
    rfl
  rw [if_neg short]
  by_cases medium : length < 65536
  · rw [if_pos medium]
    obtain ⟨mask, bits⟩ := header_bits which (show 126 < 128 by decide)
    refine ⟨bit ||| 126, packBig 2 length, rfl, mask, ?_⟩
    intro stream rest bytes
    obtain ⟨next, read, left⟩ := readExact_append bytes
    rw [length_packBig] at read
    refine ⟨next, ?_, left⟩
    rw [show ((bit ||| 126) &&& 0x7F).toNat = 126 from bits, readLength, if_pos rfl, read]
    simp only [bind, Except.bind, unpackBig_packBig (show length < 256 ^ 2 from medium)]
    rfl
  · rw [if_neg medium]
    obtain ⟨mask, bits⟩ := header_bits which (show 127 < 128 by decide)
    refine ⟨bit ||| 127, packBig 8 length, rfl, mask, ?_⟩
    intro stream rest bytes
    obtain ⟨next, read, left⟩ := readExact_append bytes
    rw [length_packBig] at read
    refine ⟨next, ?_, left⟩
    rw [show ((bit ||| 127) &&& 0x7F).toNat = 127 from bits, readLength, if_neg (by decide),
      if_pos rfl, read]
    simp only [bind, Except.bind, unpackBig_packBig fits]
    rfl

/-- The payload as it is sent. -/
def sentPayload (mask : Option Mask) (payload : Bytes) : Bytes :=
  match mask with
  | none => payload
  | some mask => mask.bytes ++ applyMask mask.bytes payload

theorem readPayload_sentPayload {stream : Stream} {mask : Option Mask} {payload rest : Bytes}
    (bytes : stream.bytes = sentPayload mask payload ++ rest) :
    ∃ next, readPayload stream mask.isSome payload.length = .ok (payload, next) ∧
      next.bytes = rest := by
  cases mask with
  | none => exact readExact_append bytes
  | some mask =>
    rw [sentPayload, List.append_assoc] at bytes
    obtain ⟨middle, first, left⟩ := readExact_append bytes
    obtain ⟨next, second, done⟩ := readExact_append left
    rw [mask.four] at first
    rw [length_applyMask] at second
    refine ⟨next, ?_, done⟩
    simp only [readPayload, Option.isSome_some, if_true, first, second, bind, Except.bind,
      applyMask_applyMask]
    rfl

/-- A frame in bytes, from its first byte on. -/
def frameBytes (first : UInt8) (payload : Bytes) (mask : Option Mask) : Bytes :=
  first :: lengthBytes (maskBit mask) payload.length ++ sentPayload mask payload

theorem encodeFrame_eq (opcode : Nat) (payload : Bytes) (mask : Option Mask) :
    encodeFrame opcode payload mask =
      frameBytes (0x80 ||| UInt8.ofNat (opcode &&& 0x0F)) payload mask := by
  cases mask with
  | none => rfl
  | some mask =>
    simp only [encodeFrame, frameBytes, sentPayload, maskBit, Option.isSome_some, if_true,
      List.append_assoc]

/-- A frame is read off the front of the stream as it was sent. -/
theorem readFrame_frameBytes {first : UInt8} {payload rest : Bytes} {mask : Option Mask}
    {stream : Stream} {requireMask : Bool} (clear : first &&& 0x70 = 0)
    (small : payload.length ≤ maxMessageBytes) (masked : requireMask = true → mask ≠ none)
    (bytes : stream.bytes = frameBytes first payload mask ++ rest) :
    ∃ next, readFrame stream requireMask =
        .ok ({ fin := first &&& 0x80 ≠ 0, opcode := (first &&& 0x0F).toNat, payload := payload },
          next) ∧
      next.bytes = rest := by
  have fits : payload.length < 256 ^ 8 := Nat.lt_of_le_of_lt small (by decide)
  obtain ⟨second, field, header, bit, reads⟩ := readLength_lengthBytes (maskBit_cases mask) fits
  have split : stream.bytes = [first, second] ++ (field ++ (sentPayload mask payload ++ rest)) := by
    rw [bytes, frameBytes, header]
    simp
  obtain ⟨afterHead, head, left⟩ := readExact_append split
  obtain ⟨afterLength, length, remaining⟩ := reads afterHead _ left
  obtain ⟨next, read, done⟩ := readPayload_sentPayload remaining
  have isMasked : (decide (second &&& 0x80 ≠ 0)) = mask.isSome := by
    rw [bit, maskBit]
    cases mask <;> rfl
  have allowed : ¬ (requireMask = true ∧ second &&& 0x80 = 0) := by
    rintro ⟨required, zero⟩
    rw [bit, maskBit] at zero
    cases mask with
    | none => exact masked required rfl
    | some mask => cases zero
  refine ⟨next, ?_, done⟩
  rw [List.length_cons, List.length_singleton] at head
  simp only [readFrame, head, bind, Except.bind, List.getD_cons_zero, List.getD_cons_succ, clear,
    ne_eq, not_true_eq_false, if_false, length, if_neg (Nat.not_lt_of_le small), if_neg allowed,
    pure, Except.pure]
  simp only [ne_eq] at isMasked
  rw [isMasked, read]

/-- The first byte of a frame: the opcode in its low bits, the FIN bit, and no
reserved bit. -/
theorem first_bits (opcode : Nat) :
    (0x80 ||| UInt8.ofNat (opcode &&& 0x0F)) &&& 0x70 = 0 ∧
      (0x80 ||| UInt8.ofNat (opcode &&& 0x0F)) &&& 0x80 = 0x80 ∧
      ((0x80 ||| UInt8.ofNat (opcode &&& 0x0F)) &&& 0x0F).toNat = opcode % 16 := by
  have all : ∀ low : Fin 16, (0x80 ||| UInt8.ofNat low) &&& 0x70 = 0 ∧
      (0x80 ||| UInt8.ofNat low) &&& 0x80 = 0x80 ∧
      ((0x80 ||| UInt8.ofNat low) &&& 0x0F).toNat = low := by
    decide +kernel
  rw [show opcode &&& 0x0F = opcode % 16 from Nat.and_two_pow_sub_one_eq_mod opcode 4]
  exact all ⟨opcode % 16, Nat.mod_lt opcode (by decide)⟩

/-- `read_frame` undoes `encode_frame`. -/
theorem readFrame_encodeFrame (opcode : Nat) {payload rest : Bytes} {mask : Option Mask}
    {stream : Stream} {requireMask : Bool} (small : payload.length ≤ maxMessageBytes)
    (masked : requireMask = true → mask ≠ none)
    (bytes : stream.bytes = encodeFrame opcode payload mask ++ rest) :
    ∃ next, readFrame stream requireMask =
        .ok ({ fin := true, opcode := opcode % 16, payload := payload }, next) ∧
      next.bytes = rest := by
  obtain ⟨clear, fin, low⟩ := first_bits opcode
  rw [encodeFrame_eq] at bytes
  have read := readFrame_frameBytes clear small masked bytes
  rw [fin, low] at read
  exact read

end OpenLaps.WebSocket
