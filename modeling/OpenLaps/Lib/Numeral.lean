import Mathlib.Data.Nat.Digits.Lemmas

/- Numerals: the digits of a number in some base, most significant first and filled up with
zeros, and the number that a list of digits stands for. -/
namespace Numeral

def digits (base width n : ℕ) : List ℕ := (Nat.digitsAppend base width n).reverse

def value (base : ℕ) (digits : List ℕ) : ℕ := digits.foldl (fun value digit => base * value + digit) 0

theorem value_eq_ofDigits (base : ℕ) (digits : List ℕ) :
    value base digits = Nat.ofDigits base digits.reverse := by
  rw [value, Nat.ofDigits_eq_foldr, List.foldr_reverse]
  simp only [Nat.cast_id, Nat.add_comm]

theorem value_digits (base width n : ℕ) : value base (digits base width n) = n := by
  rw [value_eq_ofDigits, digits, List.reverse_reverse, Nat.digitsAppend,
    Nat.ofDigits_append_replicate_zero, Nat.ofDigits_digits]

theorem digits_injective (base width : ℕ) : Function.Injective (digits base width) := by
  intro first second same
  rw [← value_digits base width first, same, value_digits]

theorem digit_lt {base width n digit : ℕ} (large : 1 < base) (member : digit ∈ digits base width n) :
    digit < base :=
  Nat.lt_of_mem_digitsAppend large width digit (List.mem_reverse.mp member)

theorem digits_length {base width n : ℕ} (large : 1 < base) (fits : n < base ^ width) :
    (digits base width n).length = width := by
  rw [digits, List.length_reverse, Nat.length_digitsAppend large width fits]

theorem width_le_length (base width n : ℕ) : width ≤ (digits base width n).length := by
  rw [digits, List.length_reverse, Nat.digitsAppend, List.length_append, List.length_replicate]
  omega

/-- Numerals written with one sign for each digit name one number. -/
theorem map_digits_injective {α : Type*} {sign : ℕ → α} {base width : ℕ} (large : 1 < base)
    (distinct : ∀ first < base, ∀ second < base, sign first = sign second → first = second) :
    Function.Injective fun n => (digits base width n).map sign := by
  have lists (first second : List ℕ) (small : ∀ digit ∈ first, digit < base)
      (small' : ∀ digit ∈ second, digit < base) (same : first.map sign = second.map sign) :
      first = second := by
    induction first generalizing second with
    | nil => exact (List.map_eq_nil_iff.mp same.symm).symm
    | cons digit rest ih =>
      cases second with
      | nil => cases same
      | cons digit' rest' =>
        obtain ⟨heads, tails⟩ := List.cons.inj same
        have equal := distinct digit (small digit List.mem_cons_self) digit'
          (small' digit' List.mem_cons_self) heads
        have later := ih rest' (fun digit member => small digit (List.mem_cons_of_mem _ member))
          (fun digit member => small' digit (List.mem_cons_of_mem _ member)) tails
        rw [equal, later]
  intro first second same
  exact digits_injective base width (lists _ _ (fun _ member => digit_lt large member)
    (fun _ member => digit_lt large member) same)

theorem value_append (base : ℕ) (first second : List ℕ) :
    value base (first ++ second) = value base first * base ^ second.length + value base second := by
  rw [value_eq_ofDigits, List.reverse_append, Nat.ofDigits_append, List.length_reverse,
    ← value_eq_ofDigits, ← value_eq_ofDigits]
  ring

/-- A number in two parts, the lower one `places` digits long. -/
theorem value_parts (base width places n : ℕ) (large : 1 < base) :
    value base (digits base width (n / base ^ places) ++ digits base places (n % base ^ places)) =
      n := by
  have fits : n % base ^ places < base ^ places := Nat.mod_lt _ (by positivity)
  rw [value_append, value_digits, value_digits, digits_length large fits]
  exact Nat.div_add_mod' n (base ^ places)

end Numeral
