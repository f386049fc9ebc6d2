import OpenLaps.Core.Batcher
import OpenLaps.Core.CatalogTables
import OpenLaps.Pit.RegistryCache
import Mathlib.Tactic.FieldSimp
import Mathlib.Tactic.Ring

namespace OpenLaps

/-- The float that a number is taken as: itself, or the one nearest to an integer. -/
def TakenAs (value : SampleValue) (number : PyFloat) : Prop :=
  value = .float number ∨
    ∃ exactly : Int, value = .int exactly ∧ number = .finite (Binary64.round exactly)

/-- What the roundings of a scaled channel add up to at most. -/
def roundingSlack (policy : ChannelPolicy) (number : ℚ) : ℚ :=
  (|number| + |policy.offset| + policy.scale) / 2 ^ 50 + 4 * Binary64.least

/-- What of a value survives encoding under its policy and decoding again: the
value itself, its rounding to `float`, or the value up to half a scale step and the
roundings, where the numbers are well below the largest float. -/
def ValueKept (f32 : PyFloat → PyFloat) (policy : ChannelPolicy) (value : SampleValue)
    (decoded : SampleValue) : Prop :=
  match policy.valueType with
  | .double => ∃ number, TakenAs value number ∧ decoded = .float number
  | .float => ∃ number, TakenAs value number ∧ decoded = .float (f32 number)
  | .int64 | .uint =>
    if policy.scale = 0 then
      ∃ number : Int, value.number? = some (.finite number) ∧ decoded = .int number
    else
      ∃ number : ℚ, value.number? = some (.finite number) ∧
        (|number| + |policy.offset| + policy.scale ≤ 2 ^ 1022 → ∃ back : ℚ,
          decoded = .float (.finite back) ∧
            |back - number| ≤ policy.scale / 2 + roundingSlack policy number)
  | .bool => ∃ flag : Bool, decoded = .bool flag ∧
      (value = .bool flag ∨ value.number? = some (.finite (if flag then 1 else 0)))
  | .string => ∃ text, value = .str text ∧ decoded = .str text
  | .unspecified => False

theorem requireFloat_takenAs {value : SampleValue} {policy : ChannelPolicy} {number : PyFloat}
    (taken : Batcher.requireFloat value policy = .ok number) : TakenAs value number := by
  cases value with
  | int exactly =>
    change floatOfInt exactly = .ok number at taken
    by_cases small : |exactly| < PyFloat.limit
    · rw [floatOfInt_small small] at taken
      cases taken
      exact Or.inr ⟨exactly, rfl, rfl⟩
    · rw [floatOfInt_large small] at taken
      cases taken
  | float exactly =>
    cases taken
    exact Or.inl rfl
  | bool flag => cases taken
  | str text => cases taken

/-- A finite float is near the number it was taken from. -/
theorem TakenAs.near {value : SampleValue} {exactly : ℚ} (taken : TakenAs value (.finite exactly)) :
    ∃ number : ℚ, value.number? = some (.finite number) ∧
      |exactly - number| ≤ |number| / 2 ^ 53 + Binary64.least / 2 := by
  rcases taken with rfl | ⟨whole, rfl, same⟩
  · refine ⟨exactly, rfl, ?_⟩
    rw [sub_self, abs_zero]
    have least := Binary64.least_pos
    positivity
  · cases same
    exact ⟨whole, rfl, Binary64.abs_round_sub_le whole⟩

/-- `round((value - offset) / scale)` of finite floats. -/
def quotientOf (policy : ChannelPolicy) (number : ℚ) : Int :=
  Rounding.halfEven (Binary64.round (Binary64.round (number - policy.offset) / policy.scale))

/-- `wire * scale + offset` of finite floats. -/
def valueOf (policy : ChannelPolicy) (wire : ℚ) : ℚ :=
  Binary64.round (Binary64.round (Binary64.round wire * policy.scale) + policy.offset)

/-- What rounds comes from a finite number. -/
theorem unscale_round {policy : ChannelPolicy} {number : PyFloat} {wire : Int}
    (rounded : (Batcher.unscale policy number).round = .ok wire) :
    ∃ exactly : ℚ, number = .finite exactly ∧ wire = quotientOf policy exactly := by
  cases quotient : Batcher.unscale policy number with
  | posInf =>
    rw [quotient] at rounded
    cases rounded
  | negInf =>
    rw [quotient] at rounded
    cases rounded
  | nan =>
    rw [quotient] at rounded
    cases rounded
  | finite result =>
    rw [quotient] at rounded
    obtain ⟨divided, quotient', -, same⟩ := PyFloat.rounded_finite quotient
    cases difference : (number.sub (.finite policy.offset)).rounded with
    | posInf =>
      rw [difference, PyFloat.div] at quotient'
      split at quotient' <;> cases quotient'
    | negInf =>
      rw [difference, PyFloat.div] at quotient'
      split at quotient' <;> cases quotient'
    | nan =>
      rw [difference] at quotient'
      cases quotient'
    | finite above =>
      rw [difference] at quotient'
      cases quotient'
      obtain ⟨apart, subtracted, -, same'⟩ := PyFloat.rounded_finite difference
      cases number with
      | posInf => cases subtracted
      | negInf => cases subtracted
      | nan => cases subtracted
      | finite exactly =>
        cases subtracted
        cases rounded
        refine ⟨exactly, rfl, ?_⟩
        rw [same, same']
        rfl

section Scaled

variable {policy : ChannelPolicy} {number exactly : ℚ}

theorem abs_le_of_near {first second bound : ℚ} (near : |first - second| ≤ bound) :
    |first| ≤ |second| + bound := by
  have split := abs_sub_abs_le_abs_sub first second
  linarith

theorem least_le : Binary64.least ≤ 1 / 2 ^ 60 := by
  have power : (2 : ℚ) ^ (-1074 : Int) ≤ 2 ^ (-60 : Int) := zpow_le_zpow_right₀ (by norm_num) (by norm_num)
  calc Binary64.least ≤ 2 ^ (-60 : Int) := power
    _ = 1 / 2 ^ 60 := by norm_num

theorem abs_round_div_mul (positive : 0 < policy.scale) (value : ℚ) :
    |Binary64.round (value / policy.scale) * policy.scale - value| ≤
      |value| / 2 ^ 53 + Binary64.least / 2 * policy.scale := by
  have near := Binary64.abs_round_sub_le (value / policy.scale)
  have scaled : Binary64.round (value / policy.scale) * policy.scale - value =
      (Binary64.round (value / policy.scale) - value / policy.scale) * policy.scale := by
    rw [sub_mul, div_mul_cancel₀ _ positive.ne']
  rw [abs_div, abs_of_pos positive] at near
  rw [scaled, abs_mul, abs_of_pos positive]
  calc _ ≤ (|value| / policy.scale / 2 ^ 53 + Binary64.least / 2) * policy.scale :=
        mul_le_mul_of_nonneg_right near positive.le
    _ = |value| / 2 ^ 53 + Binary64.least / 2 * policy.scale := by
        field_simp

theorem abs_round_mul (positive : 0 < policy.scale) (value : ℚ) :
    |Binary64.round value * policy.scale - value * policy.scale| ≤
      |value * policy.scale| / 2 ^ 53 + Binary64.least / 2 * policy.scale := by
  rw [← sub_mul, abs_mul, abs_mul, abs_of_pos positive]
  calc _ ≤ (|value| / 2 ^ 53 + Binary64.least / 2) * policy.scale :=
        mul_le_mul_of_nonneg_right (Binary64.abs_round_sub_le value) positive.le
    _ = |value| * policy.scale / 2 ^ 53 + Binary64.least / 2 * policy.scale := by ring

theorem abs_quotientOf (positive : 0 < policy.scale) (exactly : ℚ) :
    |quotientOf policy exactly * policy.scale -
        Binary64.round (Binary64.round (exactly - policy.offset) / policy.scale) * policy.scale| ≤
      policy.scale / 2 := by
  rw [← sub_mul, abs_mul, abs_of_pos positive]
  calc _ ≤ 1 / 2 * policy.scale :=
        mul_le_mul_of_nonneg_right (Rounding.abs_halfEven_sub _) positive.le
    _ = policy.scale / 2 := by ring

/-- Each operation of the way there and back adds its own rounding. -/
theorem scaled_near (positive : 0 < policy.scale)
    (near : |exactly - number| ≤ |number| / 2 ^ 53 + Binary64.least / 2) :
    |Binary64.round (quotientOf policy exactly) * policy.scale| ≤
        9 / 8 * (|number| + |policy.offset| + policy.scale) + 1 ∧
      |Binary64.round (Binary64.round (quotientOf policy exactly) * policy.scale) +
          policy.offset| ≤ 9 / 4 * (|number| + |policy.offset| + policy.scale) + 2 ∧
      |valueOf policy (quotientOf policy exactly) - number| ≤
        policy.scale / 2 + roundingSlack policy number := by
  have subtracted := Binary64.abs_round_sub_le (exactly - policy.offset)
  have divided := abs_round_div_mul positive (Binary64.round (exactly - policy.offset))
  have rounded := abs_quotientOf positive exactly
  have converted := abs_round_mul positive (quotientOf policy exactly)
  have multiplied := Binary64.abs_round_sub_le (Binary64.round (quotientOf policy exactly) * policy.scale)
  have added := Binary64.abs_round_sub_le
    (Binary64.round (Binary64.round (quotientOf policy exactly) * policy.scale) + policy.offset)
  have least := Binary64.least_pos
  have small := least_le
  have tiny : Binary64.least * policy.scale ≤ policy.scale / 2 ^ 60 := by
    calc Binary64.least * policy.scale ≤ 1 / 2 ^ 60 * policy.scale :=
          mul_le_mul_of_nonneg_right small positive.le
      _ = policy.scale / 2 ^ 60 := by ring
  have pos : 0 ≤ |number| := abs_nonneg _
  have pos' : 0 ≤ |policy.offset| := abs_nonneg _
  unfold valueOf roundingSlack
  generalize Binary64.round (Binary64.round (exactly - policy.offset) / policy.scale) *
    policy.scale = quotient at *
  generalize Binary64.round (exactly - policy.offset) = difference at *
  generalize Binary64.round (quotientOf policy exactly) * policy.scale = product at *
  generalize (quotientOf policy exactly : ℚ) * policy.scale = steps at *
  generalize Binary64.round product = product' at *
  generalize Binary64.round (product' + policy.offset) = result at *
  have sizes : |exactly - policy.offset| ≤ |exactly| + |policy.offset| := abs_sub _ _
  have size := abs_le_of_near near
  have size' := abs_le_of_near subtracted
  have size'' := abs_le_of_near divided
  have size₃ := abs_le_of_near rounded
  have size₄ := abs_le_of_near converted
  have size₅ := abs_le_of_near multiplied
  have size₆ : |product' + policy.offset| ≤ |product'| + |policy.offset| := abs_add_le _ _
  refine ⟨by linarith, by linarith, ?_⟩
  obtain ⟨low, high⟩ := abs_le.mp near
  obtain ⟨low', high'⟩ := abs_le.mp subtracted
  obtain ⟨low'', high''⟩ := abs_le.mp divided
  obtain ⟨low₃, high₃⟩ := abs_le.mp rounded
  obtain ⟨low₄, high₄⟩ := abs_le.mp converted
  obtain ⟨low₅, high₅⟩ := abs_le.mp multiplied
  obtain ⟨low₆, high₆⟩ := abs_le.mp added
  rw [abs_le]
  constructor
  · linarith
  · linarith

end Scaled

/-- The range of sums that stay finite. -/
theorem lt_limit {size sum : ℚ} (below : size ≤ 9 / 4 * sum + 2) (range : sum ≤ 2 ^ 1022) :
    size < PyFloat.limit := by
  have limit : (PyFloat.limit : ℚ) = 4 * 2 ^ 1022 - 2 ^ 970 := by
    have power : (2 : ℚ) ^ 1024 = 2 ^ 1022 * 2 ^ 2 := pow_add 2 1022 2
    unfold PyFloat.limit
    rw [Int.cast_sub, Int.cast_pow, Int.cast_pow, Int.cast_ofNat, power, mul_comm]
    norm_num only
  have less : (2 : ℚ) ^ 970 ≤ 2 ^ 1022 := pow_le_pow_right₀ (by norm_num) (by norm_num)
  have large : (2 : ℚ) ^ 4 ≤ 2 ^ 1022 := pow_le_pow_right₀ (by norm_num) (by norm_num)
  rw [limit]
  generalize (2 : ℚ) ^ 1022 = most at *
  generalize (2 : ℚ) ^ 970 = spare at *
  linarith

/-- An unscaled integer channel carries the number itself. -/
theorem wireInteger_unscaled_ok {value : SampleValue} {policy : ChannelPolicy} {wire : Int}
    (unscaled : policy.scale = 0) (encoded : Batcher.wireInteger value policy = .ok wire) :
    value.number? = some (.finite wire) := by
  unfold Batcher.wireInteger at encoded
  rw [if_neg (not_not.mpr unscaled)] at encoded
  unfold Batcher.requireNumber at encoded
  cases numeric : value.number? with
  | none =>
    rw [numeric] at encoded
    cases encoded
  | some number =>
    rw [numeric] at encoded
    dsimp only at encoded
    cases number with
    | finite exactly =>
      dsimp only at encoded
      split at encoded
      · rename_i whole
        cases encoded
        rw [(Rat.den_eq_one_iff exactly).mp whole]
      · cases encoded
    | posInf => cases encoded
    | negInf => cases encoded
    | nan => cases encoded

theorem wireInteger_scaled_ok {value : SampleValue} {policy : ChannelPolicy} {wire : Int}
    (scaled : policy.scale ≠ 0) (encoded : Batcher.wireInteger value policy = .ok wire) :
    ∃ exactly : ℚ, TakenAs value (.finite exactly) ∧ wire = quotientOf policy exactly := by
  unfold Batcher.wireInteger at encoded
  rw [if_pos scaled] at encoded
  split at encoded
  · cases encoded
  · rename_i number taken
    obtain ⟨exactly, rfl, made⟩ := unscale_round encoded
    exact ⟨exactly, requireFloat_takenAs taken, made⟩

theorem decodeValue_unscaled {channel : Channel} (unscaled : channel.scale = 0)
    (value : SampleValue) : RegistryCache.decodeValue channel value = value := by
  unfold RegistryCache.decodeValue
  split
  · rfl
  · rw [if_neg (not_not.mpr unscaled)]

/-- An integer of 64 bits decoded through its own channel. -/
theorem decodeValue_integer {policy : ChannelPolicy} {channel : Channel} {value : SampleValue}
    {wire : Int} (nonneg : 0 ≤ policy.scale) (scale : channel.scale = policy.scale)
    (offset : channel.offset = policy.offset) (fits : |wire| ≤ 2 ^ 64)
    (encoded : Batcher.wireInteger value policy = .ok wire) :
    if policy.scale = 0 then
      ∃ number : Int, value.number? = some (.finite number) ∧
        RegistryCache.decodeValue channel (.int wire) = .int number
    else
      ∃ number : ℚ, value.number? = some (.finite number) ∧
        (|number| + |policy.offset| + policy.scale ≤ 2 ^ 1022 → ∃ back : ℚ,
          RegistryCache.decodeValue channel (.int wire) = .float (.finite back) ∧
            |back - number| ≤ policy.scale / 2 + roundingSlack policy number) := by
  split
  · rename_i unscaled
    exact ⟨wire, wireInteger_unscaled_ok unscaled encoded,
      decodeValue_unscaled (scale.trans unscaled) _⟩
  · rename_i scaled
    obtain ⟨exactly, taken, made⟩ := wireInteger_scaled_ok scaled encoded
    obtain ⟨number, numeric, near⟩ := taken.near
    refine ⟨number, numeric, ?_⟩
    intro range
    have positive : 0 < policy.scale := lt_of_le_of_ne nonneg (Ne.symm scaled)
    have sum : 0 ≤ |number| + |policy.offset| + policy.scale := by positivity
    obtain ⟨product, shifted, close⟩ := scaled_near positive near
    rw [← made] at product shifted close
    have whole : |(wire : ℚ)| < PyFloat.limit := by
      have bits : |(wire : ℚ)| ≤ 2 ^ 64 := by exact_mod_cast fits
      have large : (2 : ℚ) ^ 64 ≤ 2 ^ 1022 := pow_le_pow_right₀ (by norm_num) (by norm_num)
      have most : |(wire : ℚ)| ≤ 9 / 4 * 2 ^ 1022 + 2 := by
        generalize (2 : ℚ) ^ 1022 = range at *
        linarith
      exact lt_limit most le_rfl
    refine ⟨valueOf policy wire, ?_, close⟩
    have physical : RegistryCache.physical channel (.finite wire) = .finite (valueOf policy wire) := by
      unfold RegistryCache.physical
      rw [scale, offset, PyFloat.rounded_inside whole, PyFloat.mul,
        PyFloat.rounded_inside (lt_limit (by linarith) range), PyFloat.add,
        PyFloat.rounded_inside (lt_limit shifted range)]
      rfl
    simp only [RegistryCache.decodeValue, SampleValue.number?, scale, ne_eq, scaled,
      not_false_eq_true, ↓reduceIte, physical]

/-- Decoding under the channel a value was encoded for keeps the value. -/
theorem decodeValue_encodeValue {f32 : PyFloat → PyFloat} {row : Row} (coherent : Coherent row)
    {value : SampleValue} {wire : WireValue}
    (encoded : Batcher.encodeValue f32 value row.2 = .ok wire) :
    ValueKept f32 row.2 value
      (RegistryCache.decodeValue row.1 (RegistryCache.wireValue wire)) := by
  have plain : row.2.valueType ≠ .int64 → row.2.valueType ≠ .uint → ∀ other,
      RegistryCache.decodeValue row.1 other = other := fun notInt notUint other =>
    decodeValue_unscaled (coherent.scale.trans (coherent.integral notInt notUint)) other
  unfold Batcher.encodeValue at encoded
  unfold ValueKept
  cases kind : row.2.valueType with
  | double | float =>
    rw [kind] at encoded
    dsimp only at encoded ⊢
    split at encoded
    · cases encoded
    · rename_i number numeric
      cases encoded
      exact ⟨number, requireFloat_takenAs numeric, plain (by simp [kind]) (by simp [kind]) _⟩
  | int64 =>
    rw [kind] at encoded
    dsimp only at encoded ⊢
    split at encoded
    · cases encoded
    · rename_i number integer
      split at encoded
      · rename_i range
        cases encoded
        have fits : |number| ≤ 2 ^ 64 := abs_le.mpr ⟨by omega, by omega⟩
        exact decodeValue_integer coherent.nonneg coherent.scale coherent.offset fits integer
      · cases encoded
  | uint =>
    rw [kind] at encoded
    dsimp only at encoded ⊢
    split at encoded
    · cases encoded
    · rename_i number integer
      split at encoded
      · cases encoded
      · rename_i natural
        split at encoded
        · rename_i range
          cases encoded
          have fits : |number| ≤ 2 ^ 64 := abs_le.mpr ⟨by omega, by omega⟩
          have same : RegistryCache.wireValue (.u number.toNat) = .int number := by
            change SampleValue.int number.toNat = .int number
            rw [Int.toNat_of_nonneg (show 0 ≤ number by omega)]
          rw [same]
          exact decodeValue_integer coherent.nonneg coherent.scale coherent.offset fits integer
        · cases encoded
  | bool =>
    rw [kind] at encoded
    dsimp only at encoded ⊢
    unfold Batcher.wireBool at encoded
    split at encoded
    · rename_i flag
      cases encoded
      exact ⟨flag, plain (by simp [kind]) (by simp [kind]) _, Or.inl rfl⟩
    · split at encoded
      · rename_i exactly numeric
        split at encoded
        · rename_i binary
          cases encoded
          refine ⟨decide (exactly ≠ 0), plain (by simp [kind]) (by simp [kind]) _, Or.inr ?_⟩
          rw [numeric]
          rcases binary with rfl | rfl <;> simp
        · cases encoded
      · cases encoded
  | string =>
    rw [kind] at encoded
    dsimp only at encoded ⊢
    split at encoded
    · rename_i text
      cases encoded
      exact ⟨text, rfl, plain (by simp [kind]) (by simp [kind]) _⟩
    · cases encoded
  | unspecified =>
    rw [kind] at encoded
    cases encoded

end OpenLaps
