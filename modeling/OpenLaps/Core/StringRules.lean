import Mathlib.Data.List.TakeWhile
import Mathlib.Tactic.IntervalCases
import OpenLaps.Core.Strings

/- How the operations on texts compose: stripping what stands in white space, cutting at a
separator, joining fields, and numerals that name one number. -/
namespace OpenLaps.Strings

/-- A property of each of some listed characters, by testing them. -/
theorem forall_of_all {p : Char → Prop} [DecidablePred p] {chars : Text}
    (all : chars.all (fun char => p char) = true) : ∀ char ∈ chars, p char :=
  fun char member => of_decide_eq_true (List.all_eq_true.mp all char member)

/-- No white space at either end. -/
structure Trimmed (runtime : Runtime) (text : Text) : Prop where
  head : ∀ first ∈ text.head?, runtime.isSpace first = false
  last : ∀ last ∈ text.getLast?, runtime.isSpace last = false

/-- White space only. -/
def Spaces (runtime : Runtime) (text : Text) : Prop := ∀ char ∈ text, runtime.isSpace char = true

section Strip

variable {runtime : Runtime} {text lead trail : Text}

theorem dropWhile_stays {p : Char → Bool} (head : ∀ first ∈ text.head?, p first = false) :
    text.dropWhile p = text := by
  cases text with
  | nil => rfl
  | cons first rest => rw [List.dropWhile_cons_of_neg (by simp [head first rfl])]

theorem Spaces.reverse (spaces : Spaces runtime text) : Spaces runtime text.reverse :=
  fun char member => spaces char (List.mem_reverse.mp member)

/-- Stripping leaves what stands between white space. -/
theorem strip_framed (before : Spaces runtime lead) (after : Spaces runtime trail)
    (trimmed : Trimmed runtime text) : runtime.strip (lead ++ (text ++ trail)) = text := by
  unfold Runtime.strip
  rw [List.dropWhile_append_of_pos before]
  cases text with
  | nil =>
    rw [List.nil_append, List.dropWhile_eq_nil_iff.mpr after]
    rfl
  | cons first rest =>
    have stays : (first :: rest ++ trail).dropWhile runtime.isSpace = first :: rest ++ trail :=
      dropWhile_stays fun char same => trimmed.head char same
    rw [stays, List.reverse_append, List.dropWhile_append_of_pos after.reverse, dropWhile_stays,
      List.reverse_reverse]
    intro last same
    rw [List.head?_reverse] at same
    exact trimmed.last last same

theorem Spaces.absent (spaces : Spaces runtime text) {char : Char}
    (plain : runtime.isSpace char = false) : char ∉ text := by
  intro member
  rw [spaces char member] at plain
  cases plain

/-- A text from a character that is no space up to another one. -/
theorem trimmed_between {first last : Char} (inner : Text)
    (head : runtime.isSpace first = false) (end' : runtime.isSpace last = false) :
    Trimmed runtime (first :: (inner ++ [last])) where
  head := by
    intro char same
    cases same
    exact head
  last := by
    intro char same
    rw [← List.cons_append, List.getLast?_concat] at same
    cases same
    exact end'

theorem head_dropWhile (p : Char → Bool) (text : Text) :
    ∀ first ∈ (text.dropWhile p).head?, p first = false := by
  intro first same
  have kept := List.head?_dropWhile_not p text
  cases rest : (text.dropWhile p).head? with
  | none =>
    rw [rest] at same
    cases same
  | some char =>
    rw [rest] at same kept
    cases same
    simpa using kept

/-- Every text is its stripped form between white space. -/
theorem exists_frame (runtime : Runtime) (text : Text) : ∃ lead trail,
    text = lead ++ (runtime.strip text ++ trail) ∧ Spaces runtime lead ∧ Spaces runtime trail ∧
      Trimmed runtime (runtime.strip text) := by
  have front := List.takeWhile_append_dropWhile (p := runtime.isSpace) (l := text)
  generalize inner : text.dropWhile runtime.isSpace = rest at front
  have back := List.takeWhile_append_dropWhile (p := runtime.isSpace) (l := rest.reverse)
  have stripped : runtime.strip text = (rest.reverse.dropWhile runtime.isSpace).reverse := by
    rw [Runtime.strip, inner]
  have whole : rest = runtime.strip text ++ (rest.reverse.takeWhile runtime.isSpace).reverse := by
    rw [stripped, ← List.reverse_append, back, List.reverse_reverse]
  refine ⟨text.takeWhile runtime.isSpace, (rest.reverse.takeWhile runtime.isSpace).reverse,
    ?_, ?_, ?_, ?_, ?_⟩
  · rw [← whole, front]
  · exact fun char member => List.mem_takeWhile_imp member
  · intro char member
    exact List.mem_takeWhile_imp (List.mem_reverse.mp member)
  · intro first same
    have head : ∀ char ∈ rest.head?, runtime.isSpace char = false := by
      rw [← inner]
      exact head_dropWhile _ _
    apply head first
    rw [whole]
    cases text' : runtime.strip text with
    | nil =>
      rw [text'] at same
      cases same
    | cons char chars =>
      rw [text'] at same
      exact same
  · intro last same
    rw [stripped, List.getLast?_reverse] at same
    exact head_dropWhile _ _ last same

end Strip

section Partition

variable {separator : Char} {before after text : Text}

theorem partition_at (absent : separator ∉ before) :
    partition separator (before ++ separator :: after) = (before, some after) := by
  have each : ∀ char ∈ before, decide (char ≠ separator) = true := by
    intro char member
    refine decide_eq_true fun same => absent ?_
    rwa [← same]
  unfold partition
  rw [List.dropWhile_append_of_pos each, List.takeWhile_append_of_pos each]
  simp

theorem partition_absent (absent : separator ∉ text) : partition separator text = (text, none) := by
  have each : ∀ char ∈ text, decide (char ≠ separator) = true := by
    intro char member
    refine decide_eq_true fun same => absent ?_
    rwa [← same]
  unfold partition
  rw [List.dropWhile_eq_nil_iff.mpr each]

/-- The first separator of a text that has one. -/
theorem exists_first (present : separator ∈ text) : ∃ before after,
    text = before ++ separator :: after ∧ separator ∉ before := by
  obtain ⟨before, after, split, absent⟩ := List.eq_append_cons_of_mem present
  exact ⟨before, after, split, absent⟩

end Partition

section Split

variable {separator : Char} {first : Text}

theorem splitOn_ne_nil (separator : Char) (text : Text) : splitOn separator text ≠ [] := by
  cases text with
  | nil => simp [splitOn]
  | cons char rest =>
    unfold splitOn
    split
    · simp
    · split <;> simp

theorem splitOn_absent (absent : separator ∉ first) : splitOn separator first = [first] := by
  induction first with
  | nil => rfl
  | cons char rest ih =>
    have other : char ≠ separator := fun same => absent (same ▸ List.mem_cons_self)
    rw [splitOn, if_neg other, ih fun member => absent (List.mem_cons_of_mem char member)]

/-- A separator ends one list of fields and begins another. -/
theorem splitOn_append_separator (text rest : Text) :
    splitOn separator (text ++ separator :: rest) =
      splitOn separator text ++ splitOn separator rest := by
  induction text with
  | nil => simp [splitOn]
  | cons char text ih =>
    rw [List.cons_append, splitOn, splitOn]
    split
    · rw [ih, List.cons_append]
    · rw [ih]
      cases parts : splitOn separator text with
      | nil => exact absurd parts (splitOn_ne_nil separator text)
      | cons part more => rfl

/-- A text without the separator goes to the last field. -/
theorem splitOn_append (text : Text) {tail : Text} (absent : separator ∉ tail) :
    ∃ parts last, splitOn separator text = parts ++ [last] ∧
      splitOn separator (text ++ tail) = parts ++ [last ++ tail] := by
  induction text with
  | nil => exact ⟨[], [], rfl, by simp [splitOn_absent absent]⟩
  | cons char text ih =>
    obtain ⟨parts, last, plain, joined⟩ := ih
    rw [List.cons_append, splitOn, splitOn, plain, joined]
    split
    · exact ⟨[] :: parts, last, rfl, rfl⟩
    · cases parts with
      | nil => exact ⟨[], char :: last, rfl, rfl⟩
      | cons part more => exact ⟨(char :: part) :: more, last, rfl, rfl⟩

theorem splitOn_field (absent : separator ∉ first) (rest : Text) :
    splitOn separator (first ++ separator :: rest) = first :: splitOn separator rest := by
  rw [splitOn_append_separator, splitOn_absent absent, List.singleton_append]

theorem splitOn_letter {char : Char} (other : char ≠ separator) (rest : Text) :
    splitOn separator (char :: separator :: rest) = [char] :: splitOn separator rest := by
  have absent : separator ∉ [char] := by simpa using Ne.symm other
  exact splitOn_field absent rest

/-- A text without the separator goes in front of the first field. -/
theorem splitOn_prepend (absent : separator ∉ first) (text : Text) :
    ∃ head rest, splitOn separator text = head :: rest ∧
      splitOn separator (first ++ text) = (first ++ head) :: rest := by
  induction first with
  | nil =>
    cases parts : splitOn separator text with
    | nil => exact absurd parts (splitOn_ne_nil separator text)
    | cons head rest => exact ⟨head, rest, rfl, parts⟩
  | cons char more ih =>
    have other : char ≠ separator := fun same => absent (same ▸ List.mem_cons_self)
    obtain ⟨head, rest, plain, joined⟩ :=
      ih fun member => absent (List.mem_cons_of_mem char member)
    refine ⟨head, rest, plain, ?_⟩
    rw [List.cons_append, splitOn, if_neg other, joined]
    rfl

end Split

section Numbers

theorem digitChar_hex {digit : Nat} (small : digit < 16) :
    (Nat.digitChar digit).toUpper ∈ "0123456789ABCDEF".toList := by
  interval_cases digit <;> decide

theorem digitChar_hex_injective {first second : Nat} (small : first < 16) (small' : second < 16)
    (same : (Nat.digitChar first).toUpper = (Nat.digitChar second).toUpper) : first = second := by
  have every : ∀ first second : Fin 16, (Nat.digitChar first).toUpper =
      (Nat.digitChar second).toUpper → first = second := by decide
  exact congrArg Fin.val (every ⟨first, small⟩ ⟨second, small'⟩ same)

theorem mem_formatHex {width n : Nat} {char : Char} (member : char ∈ formatHex width n) :
    char ∈ "0123456789ABCDEF".toList := by
  obtain ⟨digit, listed, rfl⟩ := List.mem_map.mp member
  exact digitChar_hex (Numeral.digit_lt (by decide) listed)

/-- A hexadecimal numeral names one number. -/
theorem formatHex_injective (width : Nat) : Function.Injective (formatHex width) :=
  Numeral.map_digits_injective (by decide) fun _ small _ small' same =>
    digitChar_hex_injective small small' same

theorem digitChar_digit {digit : Nat} (small : digit < 10) :
    (Nat.digitChar digit).isDigit = true ∧ (Nat.digitChar digit).toNat - 48 = digit := by
  interval_cases digit <;> decide

variable {runtime : Runtime} {digits text : Text}

/-- The digits that a number is printed with. -/
def Decimal (digits : Text) : Prop := ∀ char ∈ digits, char.isDigit = true

theorem decimal_digits (width n : Nat) :
    Decimal ((Numeral.digits 10 width n).map Nat.digitChar) := by
  intro char member
  obtain ⟨digit, listed, rfl⟩ := List.mem_map.mp member
  exact (digitChar_digit (Numeral.digit_lt (by decide) listed)).1

theorem decimal_formatInt (width n : Nat) : Decimal (formatInt width n) := decimal_digits _ n

theorem digitsValue_map {digits : List Nat} (small : ∀ digit ∈ digits, digit < 10) :
    digitsValue (digits.map Nat.digitChar) = Numeral.value 10 digits := by
  have same : (digits.map Nat.digitChar).map (fun digit => digit.toNat - 48) = digits := by
    rw [List.map_map]
    calc digits.map ((fun digit => digit.toNat - 48) ∘ Nat.digitChar) = digits.map id :=
          List.map_congr_left fun digit member => (digitChar_digit (small digit member)).2
      _ = digits := List.map_id digits
  rw [digitsValue, same]

theorem digitsValue_formatInt (width n : Nat) : digitsValue (formatInt width n) = n := by
  rw [formatInt, digitsValue_map fun _ member => Numeral.digit_lt (by decide) member,
    Numeral.value_digits]

theorem formatInt_length {width n : Nat} (positive : 0 < width) (fits : n < 10 ^ width) :
    (formatInt width n).length = width := by
  rw [formatInt, List.length_map, Nat.max_eq_right positive, Numeral.digits_length (by decide) fits]

theorem formatInt_ne_nil (width n : Nat) : formatInt width n ≠ [] := by
  have long := Numeral.width_le_length 10 (max 1 width) n
  intro none
  have length := congrArg List.length none
  rw [formatInt, List.length_map, List.length_nil] at length
  omega

/-- What stands in a number without sign and exponent. -/
def Plain (text : Text) : Prop := ∀ char ∈ text, char.isDigit = true ∨ char = '.'

theorem Decimal.plain (decimal : Decimal text) : Plain text :=
  fun char member => .inl (decimal char member)

theorem plain_char {char : Char} (plain : char.isDigit = true ∨ char = '.') :
    isAscii char = true ∧ blank char = false ∧ char ≠ '_' ∧ char ≠ '-' ∧ char ≠ '+' := by
  rcases plain with digit | rfl
  · have range : 48 ≤ char.toNat ∧ char.toNat ≤ 57 := Char.isDigit_iff_toNat.mp digit
    simp only [isAscii, blank, decide_eq_true_eq, Bool.or_eq_false_iff, Bool.and_eq_false_iff,
      decide_eq_false_iff_not]
    refine ⟨by omega, ⟨by omega, ?_⟩, ?_, ?_, ?_⟩ <;>
    · rintro rfl
      simp at digit
  · decide

theorem literalChar_plain (plain : Plain text) : text.map runtime.literalChar = text := by
  calc text.map runtime.literalChar = text.map id :=
        List.map_congr_left fun char member => by
          rw [Runtime.literalChar, if_pos (plain_char (plain char member)).1]
          rfl
    _ = text := List.map_id text

theorem underscores_plain (plain : Plain text) {previous : Char} (other : previous ≠ '_') :
    underscores previous text = true := by
  induction text generalizing previous with
  | nil => simpa [underscores] using other
  | cons char rest ih =>
    have here := (plain_char (plain char List.mem_cons_self)).2.2.1
    have later := ih (fun char member => plain char (List.mem_cons_of_mem _ member)) here
    simp [underscores, here, other, later]

/-- A plain text is its own literal. -/
theorem literal_plain (plain : Plain text) : literal (text.map runtime.literalChar) = some text := by
  have front {text : Text} (plain : Plain text) : text.dropWhile blank = text :=
    dropWhile_stays fun first same =>
      (plain_char (plain first (List.mem_of_mem_head? same))).2.1
  have reversed : Plain text.reverse := fun char member => plain char (List.mem_reverse.mp member)
  have kept : text.filter (· ≠ '_') = text :=
    List.filter_eq_self.mpr fun char member =>
      decide_eq_true (plain_char (plain char member)).2.2.1
  rw [literalChar_plain plain, literal, front plain, front reversed, List.reverse_reverse,
    if_pos (underscores_plain plain (by decide)), kept]

theorem signed_plain (plain : Plain text) : signed text = (false, text) := by
  cases text with
  | nil => rfl
  | cons first rest =>
    have other := plain_char (plain first List.mem_cons_self)
    unfold signed
    split
    · rename_i same
      exact absurd (List.cons.inj same).1 other.2.2.2.1
    · rename_i same
      exact absurd (List.cons.inj same).1 other.2.2.2.2
    · rfl

/-- Digits are read as the number that they stand for. -/
theorem int_digits (decimal : Decimal digits) (some : digits ≠ [])
    (short : digits.length ≤ maxStrDigits) : runtime.int digits = .ok (digitsValue digits) := by
  have all : digits.all Char.isDigit = true := List.all_eq_true.mpr decimal
  rw [Runtime.int, literal_plain decimal.plain]
  dsimp only
  rw [signed_plain decimal.plain]
  simp [some, all, Nat.not_lt.mpr short]

theorem decimalValue_point {whole fraction : Text} (decimal : Decimal whole)
    (decimal' : Decimal fraction) (some' : whole ≠ []) :
    decimalValue (whole ++ '.' :: fraction) =
      some ((digitsValue (whole ++ fraction) : ℚ) / 10 ^ fraction.length) := by
  have front : (whole ++ '.' :: fraction).takeWhile Char.isDigit = whole := by
    rw [List.takeWhile_append_of_pos decimal, List.takeWhile_cons_of_neg (by decide),
      List.append_nil]
  have point : (whole ++ '.' :: fraction).dropWhile Char.isDigit = '.' :: fraction := by
    rw [List.dropWhile_append_of_pos decimal, List.dropWhile_cons_of_neg (by decide)]
  have taken : fraction.takeWhile Char.isDigit = fraction := List.takeWhile_eq_self_iff.mpr decimal'
  have rest : fraction.dropWhile Char.isDigit = [] := List.dropWhile_eq_nil_iff.mpr decimal'
  have behind : fractionOf ('.' :: fraction) =
      (fraction.takeWhile Char.isDigit, fraction.dropWhile Char.isDigit) := rfl
  unfold decimalValue
  rw [front, point, behind, taken, rest]
  dsimp only
  rw [if_neg fun none => some' none.1]
  simp [exponent]

theorem word_plain {name : String} (plain : Plain text) (some : text ≠ [])
    (letter : name.toList.head?.all (fun char => ! char.isDigit && char ≠ '.') = true) :
    String.ofList (text.map Char.toLower) ≠ name := by
  rintro rfl
  cases text with
  | nil => exact some rfl
  | cons first rest =>
    have head : first.toLower.isDigit = false ∧ first.toLower ≠ '.' := by simpa using letter
    have lower : first.toLower = first := by
      rcases plain first List.mem_cons_self with digit | rfl
      · have range : 48 ≤ first.toNat ∧ first.toNat ≤ 57 := Char.isDigit_iff_toNat.mp digit
        have small : ¬('A'.toNat ≤ first.toNat) := by
          show ¬(65 ≤ first.toNat)
          omega
        exact dif_neg fun upper => small upper.1
      · decide
    rw [lower] at head
    rcases plain first List.mem_cons_self with digit | point
    · rw [head.1] at digit
      cases digit
    · exact head.2 point

/-- A plain text with a point in it is read as the double nearest to its value. -/
theorem float_point {whole fraction : Text} (decimal : Decimal whole)
    (decimal' : Decimal fraction) (some' : whole ≠ []) :
    runtime.float (whole ++ '.' :: fraction) =
      .ok (runtime.double ((digitsValue (whole ++ fraction) : ℚ) / 10 ^ fraction.length)) := by
  have plain : Plain (whole ++ '.' :: fraction) := by
    intro char member
    rcases List.mem_append.mp member with first | rest
    · exact .inl (decimal char first)
    · rcases List.mem_cons.mp rest with rfl | last
      · exact .inr rfl
      · exact .inl (decimal' char last)
  have some : whole ++ '.' :: fraction ≠ [] := by simp
  rw [Runtime.float, literal_plain plain]
  dsimp only
  rw [signed_plain plain]
  rw [if_neg fun word => word.elim (word_plain plain some (by decide))
      (word_plain plain some (by decide)),
    if_neg (word_plain plain some (by decide)), decimalValue_point decimal decimal' some']
  simp

/-- What a number is printed as is read as the multiple of the last place next to it. -/
theorem float_formatFixed (width places : Nat) {value : ℚ} (nonneg : 0 ≤ value) :
    runtime.float (formatFixed width places value) =
      .ok (runtime.double ((Rounding.halfEven (value * 10 ^ places) : ℚ) / 10 ^ places)) := by
  have scaled : 0 ≤ Rounding.halfEven (value * 10 ^ places) :=
    Rounding.halfEven_nonneg (by positivity)
  obtain ⟨n, rounded⟩ : ∃ n : Nat, Rounding.halfEven (value * 10 ^ places) = n :=
    ⟨_, (Int.toNat_of_nonneg scaled).symm⟩
  have fits : n % 10 ^ places < 10 ^ places := Nat.mod_lt _ (by positivity)
  rw [formatFixed, rounded, Int.toNat_natCast]
  rw [ float_point (decimal_formatInt _ _) (decimal_digits _ _)]
  · have parts : digitsValue (formatInt (width - (places + 1)) (n / 10 ^ places) ++
        (Numeral.digits 10 places (n % 10 ^ places)).map Nat.digitChar) = n := by
      rw [formatInt, ← List.map_append, digitsValue_map, Numeral.value_parts _ _ _ _ (by decide)]
      intro digit member
      rcases List.mem_append.mp member with first | second
      · exact Numeral.digit_lt (by decide) first
      · exact Numeral.digit_lt (by decide) second
    rw [parts, List.length_map, Numeral.digits_length (by decide) fits,
      Int.cast_natCast]
  · exact formatInt_ne_nil _ _

end Numbers

end OpenLaps.Strings
