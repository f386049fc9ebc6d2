import OpenLaps.Collectors.NmeaWriting
import OpenLaps.Firmware.Numbering
import OpenLaps.Lib.Attempt
import OpenLaps.Tools.GnssReceiverInterfaceShim

/- The lines of the firmware as the shim reads them. -/
namespace OpenLaps

namespace Strings

variable {runtime : Runtime} {field text : Text}

/-- A text that `split` does not cut: not empty and without white space, in ASCII. -/
structure Word (text : Text) : Prop where
  letters : ∀ char ∈ text, isAscii char = true ∧ 33 ≤ char.toNat
  some : text ≠ []

theorem Word.visible (word : Word field) {char : Char} (member : char ∈ field) :
    runtime.isSpace char = false := by
  obtain ⟨ascii, large⟩ := word.letters char member
  simp [Runtime.isSpace, ascii]
  omega

theorem Decimal.word (decimal : Decimal text) (some : text ≠ []) : Word text where
  letters := by
    intro char member
    have range : 48 ≤ char.toNat ∧ char.toNat ≤ 57 :=
      Char.isDigit_iff_toNat.mp (decimal char member)
    refine ⟨?_, by omega⟩
    simp [isAscii]
    omega
  some := some

theorem wordsFrom_append (begun rest : Text) (letters : ∀ char ∈ field, runtime.isSpace char = false) :
    runtime.wordsFrom begun (field ++ rest) = runtime.wordsFrom (begun ++ field) rest := by
  induction field generalizing begun with
  | nil => rw [List.nil_append, List.append_nil]
  | cons char field ih =>
    have here := letters char List.mem_cons_self
    rw [List.cons_append, Runtime.wordsFrom, here, if_neg (by decide),
      ih _ fun char member => letters char (List.mem_cons_of_mem _ member),
      List.append_assoc, List.singleton_append]

/-- A word up to a blank. -/
theorem Word.first (word : Word field) (rest : Text) :
    runtime.words (field ++ ' ' :: rest) = field :: runtime.words rest := by
  have blank : runtime.isSpace ' ' = true := by simp [Runtime.isSpace, isAscii]
  rw [Runtime.words, wordsFrom_append [] _ fun char member => word.visible member, List.nil_append,
    Runtime.wordsFrom, if_pos blank, if_neg word.some]
  rfl

theorem Word.only (word : Word field) : runtime.words field = [field] := by
  have whole : runtime.wordsFrom [] (field ++ []) = runtime.wordsFrom ([] ++ field) [] :=
    wordsFrom_append [] [] fun char member => word.visible member
  rw [List.append_nil, List.nil_append] at whole
  rw [Runtime.words, whole, Runtime.wordsFrom, if_neg word.some]

/-- A number as it is printed. -/
theorem decimal_toString (n : Nat) : Decimal (toString n).toList := by
  intro char member
  have listed : char ∈ Nat.toDigits 10 n := by
    rw [← Nat.toList_repr]
    exact member
  exact Nat.isDigit_of_mem_toDigits (by decide) (by decide) listed

theorem toString_ne_nil (n : Nat) : (toString n).toList ≠ [] := by
  show n.repr.toList ≠ []
  rw [Nat.toList_repr]
  exact Nat.toDigits_ne_nil

theorem digitsValue_toString (n : Nat) : digitsValue (toString n).toList = n := by
  show digitsValue n.repr.toList = n
  rw [Nat.toList_repr, digitsValue, Numeral.value, List.foldl_map]
  have printed := Nat.ofDigitChars_ten_toDigits (n := n)
  rw [Nat.ofDigitChars_eq_foldl] at printed
  exact printed

theorem word_nat (n : Nat) : Word (toString n).toList :=
  (decimal_toString n).word (toString_ne_nil n)

theorem word_int (value : Int) : Word (toString value).toList := by
  cases value with
  | ofNat value => exact word_nat value
  | negSucc value =>
    have digits := word_nat (value + 1)
    have printed : (toString (Int.negSucc value)).toList = '-' :: (toString (value + 1)).toList := by
      show ("-" ++ toString (value + 1)).toList = _
      rw [String.toList_append]
      rfl
    rw [printed]
    refine ⟨?_, List.cons_ne_nil _ _⟩
    intro char member
    rcases List.mem_cons.mp member with rfl | rest
    · decide
    · exact digits.letters char rest

/-- A printed number of few digits is read back. -/
theorem int_toString {n : Nat} (digits : Nat) (few : 0 < digits) (short : digits ≤ maxStrDigits)
    (small : n < 10 ^ digits) : runtime.int (toString n).toList = .ok n := by
  have length : (toString n).toList.length ≤ digits := by
    rw [String.length_toList]
    exact Firmware.length_toString_nat few small
  rw [int_digits (decimal_toString n) (toString_ne_nil n) (by omega), digitsValue_toString]

end Strings

namespace Shim

open Firmware Nmea Strings

/-- The text of a message: its prefix, the delay in 20 digits and the mark of a valid one. -/
def th1Text (line : Th1) : Text :=
  (th1Prefix line.sequence line.utcSecond line.edgeUs).toList ++
    (formatInt 20 line.delayUs ++ " 1\n".toList)

def th1Bytes (line : Th1) : Bytes := encodeAscii (th1Text line)

/-- The six words of a message. -/
def th1Words (line : Th1) : List Text :=
  ["TH1".toList, (toString line.sequence.toNat).toList, (toString line.utcSecond).toList,
    (toString line.edgeUs).toList, formatInt 20 line.delayUs, "1".toList]

variable {runtime : Runtime} (line : Th1)

theorem word_literal {text : Text} (some : text ≠ [])
    (all : text.all (fun char => isAscii char && 33 ≤ char.toNat) = true) : Word text where
  letters := by
    intro char member
    have tested := List.all_eq_true.mp all char member
    simpa using tested
  some := some

theorem word_th1 : ∀ field ∈ th1Words line, Word field := by
  intro field member
  have delay : Word (formatInt 20 line.delayUs) :=
    (decimal_formatInt 20 line.delayUs).word (formatInt_ne_nil 20 line.delayUs)
  simp only [th1Words, List.mem_cons, List.not_mem_nil, or_false] at member
  rcases member with rfl | rfl | rfl | rfl | rfl | rfl
  · exact word_literal (by decide) (by decide)
  · exact word_nat _
  · exact word_int _
  · exact word_nat _
  · exact delay
  · exact word_literal (by decide) (by decide)

theorem th1Text_eq : th1Text line =
    "TH1".toList ++ ' ' :: ((toString line.sequence.toNat).toList ++ ' ' ::
      ((toString line.utcSecond).toList ++ ' ' :: ((toString line.edgeUs).toList ++ ' ' ::
        (formatInt 20 line.delayUs ++ ' ' :: ("1".toList ++ ['\n']))))) := by
  unfold th1Text th1Prefix
  simp only [String.toList_append, List.append_assoc]
  rfl

theorem th1Text_ascii : ∀ char ∈ th1Text line, isAscii char = true := by
  have letters {field : Text} (member : field ∈ th1Words line) {char : Char} (inside : char ∈ field) :
      isAscii char = true := ((word_th1 line field member).letters char inside).1
  have blank : isAscii ' ' = true ∧ isAscii '\n' = true := by decide
  intro char member
  rw [th1Text_eq] at member
  simp only [List.mem_append, List.mem_cons, List.not_mem_nil, or_false] at member
  rcases member with inside | rfl | inside | rfl | inside | rfl | inside | rfl | inside | rfl |
    inside | rfl
  · exact letters (by simp [th1Words]) inside
  · exact blank.1
  · exact letters (by simp [th1Words]) inside
  · exact blank.1
  · exact letters (by simp [th1Words]) inside
  · exact blank.1
  · exact letters (by simp [th1Words]) inside
  · exact blank.1
  · exact letters (by simp [th1Words]) inside
  · exact blank.1
  · exact letters (by simp [th1Words]) inside
  · exact blank.2

/-- The shim splits a message into its words. -/
theorem words_th1 : runtime.words (runtime.strip (th1Text line)) = th1Words line := by
  have word := word_th1 line
  have stripped : runtime.strip (th1Text line) =
      "TH1".toList ++ ' ' :: ((toString line.sequence.toNat).toList ++ ' ' ::
        ((toString line.utcSecond).toList ++ ' ' :: ((toString line.edgeUs).toList ++ ' ' ::
          (formatInt 20 line.delayUs ++ ' ' :: "1".toList)))) := by
    have trimmed : Trimmed runtime ('T' :: ("H1".toList ++ ' ' ::
        ((toString line.sequence.toNat).toList ++ ' ' :: ((toString line.utcSecond).toList ++ ' ' ::
          ((toString line.edgeUs).toList ++ ' ' :: (formatInt 20 line.delayUs ++ [' '])))) ++ ['1'])) :=
      trimmed_between _ (by simp [Runtime.isSpace, isAscii]) (by simp [Runtime.isSpace, isAscii])
    have before : Spaces runtime [] := fun _ member => absurd member List.not_mem_nil
    have after : Spaces runtime ['\n'] := by simp [Spaces, Runtime.isSpace, isAscii]
    have frame := strip_framed before after trimmed
    rw [th1Text_eq]
    simpa using frame
  rw [stripped, (word _ (by simp [th1Words])).first, (word _ (by simp [th1Words])).first,
    (word _ (by simp [th1Words])).first, (word _ (by simp [th1Words])).first,
    (word _ (by simp [th1Words])).first, (word _ (by simp [th1Words])).only]
  rfl

theorem text_th1 : (Sentence.bytes (th1Bytes line)).text = .ok (th1Text line) :=
  text_encodeAscii (th1Text_ascii line)

theorem int_sequence : runtime.int (toString line.sequence.toNat).toList =
    .ok (line.sequence.toNat : Int) := by
  have small := line.sequence.toNat_lt
  exact int_toString 10 (by decide) (by decide) (by omega)

theorem parse_words : parseMessage runtime (.bytes (th1Bytes line)) =
    parseFields runtime (th1Words line) := by
  have split (text : Text) (next : Text → Except PyError TimingMessage) :
      (Except.ok text >>= next) = next text := rfl
  rw [parseMessage, text_th1, split, words_th1]

/-- Whatever else a message says, its number is the one that it is read with. -/
theorem parse_sequence {message : TimingMessage}
    (parsed : parseMessage runtime (.bytes (th1Bytes line)) = .ok message) :
    message.sequence = line.sequence.toNat := by
  rw [parse_words, th1Words, parseFields, if_neg fun other => other rfl, int_sequence] at parsed
  obtain ⟨sequence, ⟨⟩, parsed⟩ := Attempt.bind_ok.mp parsed
  obtain ⟨utcSecond, -, parsed⟩ := Attempt.bind_ok.mp parsed
  obtain ⟨edgeUs, -, parsed⟩ := Attempt.bind_ok.mp parsed
  obtain ⟨delayUs, -, parsed⟩ := Attempt.bind_ok.mp parsed
  obtain ⟨validity, -, parsed⟩ := Attempt.bind_ok.mp parsed
  split at parsed
  · cases parsed
  · split at parsed
    · cases parsed
    · cases parsed
      rfl

/-- A message of the firmware is read as what it says. -/
theorem parse_th1 (positive : 0 < line.utcSecond) (second : line.utcSecond < 10 ^ 18)
    (edge : line.edgeUs < 2 ^ 64) (delay : line.delayUs < 2 ^ 64) :
    parseMessage runtime (.bytes (th1Bytes line)) =
      .ok ⟨line.sequence.toNat, line.utcSecond, line.edgeUs, line.delayUs, true⟩ := by
  have readSecond : runtime.int (toString line.utcSecond).toList = .ok line.utcSecond := by
    obtain ⟨seconds, whole⟩ := Int.eq_ofNat_of_zero_le (Int.le_of_lt positive)
    rw [whole]
    apply int_toString 18 (by decide) (by decide)
    omega
  have readEdge : runtime.int (toString line.edgeUs).toList = .ok (line.edgeUs : Int) :=
    int_toString 20 (by decide) (by decide) (by omega)
  have readDelay : runtime.int (formatInt 20 line.delayUs) = .ok (line.delayUs : Int) := by
    have length : (formatInt 20 line.delayUs).length = 20 :=
      formatInt_length (by decide) (by omega)
    rw [int_digits (decimal_formatInt 20 _) (formatInt_ne_nil 20 _) (by rw [length]; decide),
      digitsValue_formatInt]
  have readValid : runtime.int "1".toList = .ok 1 :=
    int_digits (forall_of_all (by decide)) (by decide) (by decide)
  have small := line.sequence.toNat_lt
  rw [parse_words, th1Words, parseFields, if_neg fun other => other rfl, int_sequence,
    readSecond, readEdge, readDelay, readValid]
  show (if _ then _ else if _ then _ else _) = _
  rw [if_neg, if_neg]
  · rfl
  · omega
  · unfold uint32Mask
    omega

end Shim

end OpenLaps
