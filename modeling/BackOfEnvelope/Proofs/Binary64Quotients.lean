import BackOfEnvelope.Proofs.Binary64Values

/-!
# Rounded quotients

Rounding never carries a number past a whole number below `2 ^ 53`: all of these are binary64
numbers themselves.  So a quotient that lies below or above such a number before it is rounded
still does so behind it, where both may now be equal.
-/

namespace BackOfEnvelope

namespace Binary64

open Float.Model (Format UnpackedFloat totalExponent)
open Float.Model.UnpackedFloat

/-- A mantissa holds the whole part of a value, and its two more digits tell if that is all. -/
structure Truncates (extended : ExtendedMantissa) (value : ℚ) : Prop where
  le : (extended.mantissa : ℚ) ≤ value
  lt : value < extended.mantissa + 1
  exact_of_eq : value = extended.mantissa → extended.roundBit = false ∧ extended.stickyBit = false

variable {extended : ExtendedMantissa} {value : ℚ}

theorem Truncates.shiftRightOne (truncates : Truncates extended value) :
    Truncates extended.shiftRightOne (value / 2) := by
  obtain ⟨le, lt, exact_of_eq⟩ := truncates
  have halved : extended.mantissa % 2 + 2 * (extended.mantissa / 2) = extended.mantissa :=
    Nat.mod_add_div _ 2
  have bit : extended.mantissa % 2 < 2 := Nat.mod_lt _ (by decide)
  have halvedExactly :
      ((extended.mantissa % 2 : Nat) : ℚ) + 2 * (extended.mantissa / 2 : Nat) =
        extended.mantissa := by exact_mod_cast halved
  have bitExactly : ((extended.mantissa % 2 : Nat) : ℚ) ≤ 1 := by
    exact_mod_cast Nat.le_of_lt_succ bit
  have bitNonneg : (0 : ℚ) ≤ (extended.mantissa % 2 : Nat) := Nat.cast_nonneg _
  refine ⟨?_, ?_, ?_⟩
  · change ((extended.mantissa / 2 : Nat) : ℚ) ≤ value / 2
    linarith
  · change value / 2 < ((extended.mantissa / 2 : Nat) : ℚ) + 1
    linarith
  · intro same
    change value / 2 = ((extended.mantissa / 2 : Nat) : ℚ) at same
    -- Nothing is dropped: the mantissa is even, and the value was the mantissa before.
    have even : ((extended.mantissa % 2 : Nat) : ℚ) = 0 := by linarith
    have evenNat : extended.mantissa % 2 = 0 := by exact_mod_cast even
    obtain ⟨noRound, noSticky⟩ := exact_of_eq (by linarith)
    simp [ExtendedMantissa.shiftRightOne, evenNat, noRound, noSticky]

theorem Truncates.shiftRight (truncates : Truncates extended value) (count : Nat) :
    Truncates (extended >>> count) (value / 2 ^ count) := by
  induction count with
  | zero =>
      rw [pow_zero, div_one]
      exact truncates
  | succ count ih =>
      have next : extended >>> (count + 1) = (extended >>> count).shiftRightOne := rfl
      rw [next, pow_succ, ← div_div]
      exact ih.shiftRightOne

theorem mantissa_le_roundedMantissa (extended : ExtendedMantissa) :
    extended.mantissa ≤ extended.roundedMantissa := by
  unfold ExtendedMantissa.roundedMantissa
  cases extended.accuracy with
  | exact => exact Nat.le_refl _
  | inexact order =>
      cases order with
      | lt => exact Nat.le_refl _
      | eq => exact Nat.le_add_right _ _
      | gt => exact Nat.le_succ _

theorem Truncates.le_roundedMantissa (truncates : Truncates extended value) {bound : Nat}
    (below : (bound : ℚ) ≤ value) : bound ≤ extended.roundedMantissa := by
  have whole : bound < extended.mantissa + 1 := by
    exact_mod_cast lt_of_le_of_lt below truncates.lt
  exact Nat.le_trans (Nat.le_of_lt_succ whole) (mantissa_le_roundedMantissa extended)

theorem Truncates.roundedMantissa_le (truncates : Truncates extended value) {bound : Nat}
    (above : value ≤ bound) : extended.roundedMantissa ≤ bound := by
  rcases truncates.le.lt_or_eq with fraction | whole
  · have next : extended.mantissa < bound := by exact_mod_cast lt_of_lt_of_le fraction above
    exact Nat.le_trans (Binary64.roundedMantissa_le extended) next
  · -- Without a fraction nothing is rounded.
    obtain ⟨noRound, noSticky⟩ := truncates.exact_of_eq whole.symm
    have unchanged : extended.roundedMantissa = extended.mantissa := by
      obtain ⟨mantissa, round, sticky⟩ := extended
      subst noRound noSticky
      rfl
    rw [unchanged]
    exact_mod_cast whole.le.trans above

theorem truncates_ofFraction (numerator : Nat) {denominator : Nat} (positive : 0 < denominator) :
    Truncates (.ofMantissaAndAccuracy (numerator / denominator)
      (accuracyOfFraction (numerator % denominator) denominator))
        ((numerator : ℚ) / denominator) := by
  have parts : (numerator % denominator) + denominator * (numerator / denominator) = numerator :=
    Nat.mod_add_div _ _
  have small : numerator % denominator < denominator := Nat.mod_lt _ positive
  have mantissa : (ExtendedMantissa.ofMantissaAndAccuracy (numerator / denominator)
      (accuracyOfFraction (numerator % denominator) denominator)).mantissa =
        numerator / denominator := mantissa_ofMantissaAndAccuracy _ _
  have positiveExactly : (0 : ℚ) < denominator := by exact_mod_cast positive
  refine ⟨?_, ?_, ?_⟩
  · rw [mantissa]
    exact Nat.cast_div_le
  · rw [mantissa, div_lt_iff₀ positiveExactly]
    have bound : numerator < (numerator / denominator + 1) * denominator := by
      rw [Nat.mul_comm, Nat.mul_add, Nat.mul_one]
      omega
    exact_mod_cast bound
  · intro same
    rw [mantissa, div_eq_iff positiveExactly.ne'] at same
    have whole : numerator = numerator / denominator * denominator := by exact_mod_cast same
    have noRemainder : numerator % denominator = 0 := by
      rw [Nat.mul_comm] at whole
      omega
    rw [noRemainder]
    exact ⟨rfl, rfl⟩

section Rounding

variable {mantissa : Nat} {exponent : ℤ}

theorem shiftToTargetExponent_small (short : mantissa < 2 ^ 53) (least : -1074 ≤ exponent) :
    shiftToTargetExponent Format.binary64 mantissa exponent .exact =
      (⟨mantissa, false, false⟩, exponent) := by
  have digits : mantissa.log2 ≤ 52 := by
    by_cases zero : mantissa = 0
    · subst zero
      decide
    · exact Nat.le_of_lt_succ ((Nat.log2_lt zero).mpr short)
  have noShift : (max (totalExponent mantissa exponent - 53) (-1074) - exponent).toNat = 0 := by
    unfold totalExponent
    omega
  simp only [shiftToTargetExponent, shiftToExponent, targetExponent_binary64, noShift]
  rw [Nat.cast_zero, add_zero]
  rfl

theorem shiftToTargetExponent_carry (least : -1074 ≤ exponent) :
    shiftToTargetExponent Format.binary64 (2 ^ 53) exponent .exact =
      (⟨2 ^ 52, false, false⟩, exponent + 1) := by
  have oneShift :
      (max (totalExponent (2 ^ 53) exponent - 53) (-1074) - exponent).toNat = 1 := by
    have logarithm : Nat.log2 (2 ^ 53) = 53 := Nat.log2_two_pow
    unfold totalExponent
    omega
  simp only [shiftToTargetExponent, shiftToExponent, targetExponent_binary64, oneShift]
  rfl

/-- A rounded mantissa is brought back to 53 digits without a loss. -/
theorem exists_shiftToTargetExponent_exact (bounded : mantissa ≤ 2 ^ 53) (least : -1074 ≤ exponent)
    (long : 2 ^ 52 ≤ mantissa ∨ exponent = -1074) :
    ∃ digits unit, shiftToTargetExponent Format.binary64 mantissa exponent .exact =
        (⟨digits, false, false⟩, unit) ∧
      digits < 2 ^ 53 ∧ -1074 ≤ unit ∧ (2 ^ 52 ≤ digits ∨ unit = -1074) ∧
      (digits * 2 ^ unit : ℚ) = mantissa * 2 ^ exponent := by
  rcases bounded.lt_or_eq with short | rfl
  · exact ⟨mantissa, exponent, shiftToTargetExponent_small short least, short, least, long, rfl⟩
  · refine ⟨2 ^ 52, exponent + 1, shiftToTargetExponent_carry least, by decide, by omega,
      .inl (Nat.le_refl _), ?_⟩
    rw [zpow_add_one₀ (by norm_num)]
    push_cast
    ring

/-- How far a mantissa with enough digits is shifted: to 53 digits or to the least exponent. -/
theorem shift_bounds (wide : 52 ≤ mantissa.log2 ∨ exponent ≤ -1074) :
    ∃ count : Nat, (max (totalExponent mantissa exponent - 53) (-1074) - exponent).toNat = count ∧
      -1074 ≤ exponent + count ∧ mantissa.log2 ≤ 52 + count ∧
      (mantissa.log2 = 52 + count ∨ exponent + count = -1074) := by
  refine ⟨_, rfl, ?_⟩
  unfold totalExponent
  omega

theorem shiftRight_lt {count : Nat} (digits : mantissa.log2 ≤ 52 + count) :
    mantissa / 2 ^ count < 2 ^ 53 := by
  rw [Nat.div_lt_iff_lt_mul (Nat.two_pow_pos count), ← Nat.pow_add]
  exact Nat.lt_of_lt_of_le Nat.lt_log2_self (Nat.pow_le_pow_right (by decide) (by omega))

theorem le_shiftRight {count : Nat} (digits : mantissa.log2 = 52 + count) :
    2 ^ 52 ≤ mantissa / 2 ^ count := by
  have nonzero : mantissa ≠ 0 := by
    rintro rfl
    rw [Nat.log2_zero] at digits
    omega
  rw [Nat.le_div_iff_mul_le (Nat.two_pow_pos count), ← Nat.pow_add, ← digits]
  exact Nat.log2_self_le nonzero

/-- Rounding gives a number in the form of the stored ones, whose magnitude is the rounded
mantissa in the unit of its last place. -/
theorem roundWithAccuracy_spec (sign : Sign) (accuracy : Accuracy)
    (wide : 52 ≤ mantissa.log2 ∨ exponent ≤ -1074) :
    let shifted := shiftToTargetExponent Format.binary64 mantissa exponent accuracy
    (2 ^ 52 ≤ shifted.1.mantissa ∨ shifted.2 = -1074) ∧
      IsNormalized (roundWithAccuracy Format.binary64 sign mantissa exponent accuracy) ∧
      unpackedMagnitude (roundWithAccuracy Format.binary64 sign mantissa exponent accuracy) =
        shifted.1.roundedMantissa * 2 ^ shifted.2 := by
  intro shifted
  obtain ⟨count, shift, least, atMost, filled⟩ := shift_bounds wide
  have unit : shifted.2 = exponent + count := by
    rw [← shift]
    rfl
  have whole : shifted.1.mantissa = mantissa / 2 ^ count := by
    rw [← shift]
    exact (mantissa_shiftRight _ _).trans
      (congrArg (· / _) (mantissa_ofMantissaAndAccuracy mantissa accuracy))
  have long : 2 ^ 52 ≤ shifted.1.mantissa ∨ shifted.2 = -1074 := by
    rw [whole, unit]
    exact filled.imp_left le_shiftRight
  have short : shifted.1.mantissa < 2 ^ 53 := whole ▸ shiftRight_lt atMost
  have above := mantissa_le_roundedMantissa shifted.1
  have below := roundedMantissa_le shifted.1
  obtain ⟨digits, place, settled, fewer, atLeast, full, same⟩ :=
    @exists_shiftToTargetExponent_exact shifted.1.roundedMantissa shifted.2 (by omega) (by omega)
      (by omega)
  refine ⟨long, ?_⟩
  have rounded : roundWithAccuracy Format.binary64 sign mantissa exponent accuracy =
      if zero : digits = 0 then .zero sign
      else .finite sign digits place (Nat.pos_of_ne_zero zero) := by
    simp only [shifted] at settled
    simp only [roundWithAccuracy, settled]
  rw [rounded, ← same]
  split
  next zero =>
    rw [zero]
    exact ⟨trivial, by simp [unpackedMagnitude]⟩
  next => exact ⟨⟨fewer, atLeast, full⟩, rfl⟩

end Rounding

section Division

variable {mantissa other : Nat} {exponent otherExponent : ℤ}

/-- The dividend gets so many digits more that the whole part of the quotient has 53. -/
theorem exists_divCore (positive : 0 < mantissa) (otherPositive : 0 < other) :
    ∃ shift : Nat, divCore Format.binary64 mantissa exponent other otherExponent =
        (mantissa * 2 ^ shift / other, exponent - otherExponent - shift,
          accuracyOfFraction (mantissa * 2 ^ shift % other) other) ∧
      (52 ≤ (mantissa * 2 ^ shift / other).log2 ∨ exponent - otherExponent - shift ≤ -1074) := by
  obtain ⟨target, targetValue⟩ : ∃ target, min (exponent - otherExponent)
      (max (totalExponent mantissa exponent - totalExponent other otherExponent - 53) (-1074)) =
        target := ⟨_, rfl⟩
  obtain ⟨shift, shiftValue⟩ : ∃ shift : Nat, exponent - otherExponent - target = shift :=
    ⟨(exponent - otherExponent - target).toNat, by omega⟩
  have unit : target = exponent - otherExponent - shift := by omega
  refine ⟨shift, ?_, ?_⟩
  · rw [← unit]
    simp only [divCore, targetExponent_binary64, targetValue, shiftValue, Int.toNat_natCast,
      Nat.shiftLeft_eq]
  · rw [or_iff_not_imp_right]
    intro notLeast
    have digits : 53 + other.log2 ≤ mantissa.log2 + shift := by
      unfold totalExponent at targetValue
      omega
    have dividend : 2 ^ (mantissa.log2 + shift) ≤ mantissa * 2 ^ shift := by
      rw [Nat.pow_add]
      exact Nat.mul_le_mul_right _ (Nat.log2_self_le (Nat.ne_of_gt positive))
    have divisor : other < 2 ^ (other.log2 + 1) := Nat.lt_log2_self
    have long : 2 ^ 52 ≤ mantissa * 2 ^ shift / other := by
      rw [Nat.le_div_iff_mul_le otherPositive]
      calc 2 ^ 52 * other ≤ 2 ^ 52 * 2 ^ (other.log2 + 1) := Nat.mul_le_mul_left _ divisor.le
        _ = 2 ^ (53 + other.log2) := by rw [← Nat.pow_add]; congr 1; omega
        _ ≤ 2 ^ (mantissa.log2 + shift) := Nat.pow_le_pow_right (by decide) digits
        _ ≤ mantissa * 2 ^ shift := dividend
    exact (Nat.le_log2 (by omega)).mpr long

end Division

variable {a b : Float}

/-- A quotient in units of the last place of its mantissa. -/
theorem exact_quotient_units {mantissa other shift count : Nat} {exponent otherExponent : ℤ}
    (otherPositive : 0 < other) :
    (mantissa * 2 ^ exponent / (other * 2 ^ otherExponent) /
        2 ^ (exponent - otherExponent - shift + count) : ℚ) =
      ((mantissa * 2 ^ shift : Nat) : ℚ) / other / 2 ^ count := by
  have two : (2 : ℚ) ≠ 0 := by norm_num
  have divisor : (other : ℚ) ≠ 0 := by exact_mod_cast Nat.ne_of_gt otherPositive
  rw [zpow_add₀ two, zpow_sub₀ two, zpow_sub₀ two, zpow_natCast, zpow_natCast]
  push_cast
  field_simp

/-- The magnitude of a quotient is the rounded one of the exact quotient. -/
theorem exists_magnitude_div (finite : a.isFinite) (large : AtLeastTwo b.toModel.unpack) :
    ∃ (extended : ExtendedMantissa) (unit : ℤ),
      Truncates extended (magnitude a / magnitude b / 2 ^ unit) ∧
      (2 ^ 52 ≤ extended.mantissa ∨ unit = -1074) ∧
      magnitude (a / b) = extended.roundedMantissa * 2 ^ unit := by
  have fits := fits_of_isFinite finite
  obtain ⟨otherSign, other, otherExponent, otherPositive, divisor, two⟩ := large.exists_finite
  have quotient : (a / b).toModel.unpack =
      (Float.Model.pack (.div Format.binary64 a.toModel.unpack b.toModel.unpack)).unpack := rfl
  rw [magnitude, magnitude, magnitude, quotient, divisor]
  cases dividend : a.toModel.unpack with
  | infinity _ | notANumber =>
      rw [dividend] at fits
      exact fits.elim
  | zero sign =>
      refine ⟨⟨0, false, false⟩, -1074, ?_, .inr rfl, ?_⟩
      · constructor <;> simp [unpackedMagnitude]
      · rw [UnpackedFloat.div, @unpack_pack (.zero _) trivial trivial]
        simp only [unpackedMagnitude]
        exact (mul_eq_zero_of_left Nat.cast_zero _).symm
  | finite sign mantissa exponent positive =>
      obtain ⟨shift, core, wide⟩ :=
        @exists_divCore mantissa other exponent otherExponent positive otherPositive
      obtain ⟨long, normalized, rounded⟩ := roundWithAccuracy_spec (sign / otherSign)
        (accuracyOfFraction (mantissa * 2 ^ shift % other) other) wide
      have divided : UnpackedFloat.div Format.binary64 (.finite sign mantissa exponent positive)
          (.finite otherSign other otherExponent otherPositive) =
            roundWithAccuracy Format.binary64 (sign / otherSign) (mantissa * 2 ^ shift / other)
              (exponent - otherExponent - shift)
              (accuracyOfFraction (mantissa * 2 ^ shift % other) other) := by
        simp only [UnpackedFloat.div, core]
      have room := fits_div finite large
      rw [dividend, divisor, divided] at room
      rw [divided, unpack_pack normalized room, rounded]
      refine ⟨_, _, ?_, long, rfl⟩
      change Truncates (_ >>> _) (mantissa * 2 ^ exponent / (other * 2 ^ otherExponent) /
        2 ^ (exponent - otherExponent - shift + (_ : Nat) : ℤ))
      rw [exact_quotient_units otherPositive]
      exact (truncates_ofFraction (mantissa * 2 ^ shift) otherPositive).shiftRight _

/-- A number whose last place stands before the point is large. -/
theorem two_pow_le_of_coarse {digits : Nat} {unit : ℤ} (long : 2 ^ 52 ≤ digits ∨ unit = -1074)
    (coarse : 0 < unit) : (2 ^ 53 : ℚ) ≤ digits * 2 ^ unit := by
  have full : (2 ^ 52 : ℚ) ≤ digits := by exact_mod_cast long.resolve_right (by omega)
  have doubled : (2 : ℚ) ≤ 2 ^ unit := by
    have power : (2 : ℚ) ^ (1 : ℤ) ≤ 2 ^ unit := zpow_le_zpow_right₀ (by norm_num) coarse
    rwa [zpow_one] at power
  calc (2 ^ 53 : ℚ) = 2 ^ 52 * 2 := by norm_num
    _ ≤ digits * 2 ^ unit := by gcongr

/-- Rounding a quotient keeps it at or above a whole number. -/
theorem natCast_le_magnitude_div (finite : a.isFinite) (large : AtLeastTwo b.toModel.unpack)
    {bound : Nat} (small : bound < 2 ^ 53) (below : (bound : ℚ) ≤ magnitude a / magnitude b) :
    (bound : ℚ) ≤ magnitude (a / b) := by
  obtain ⟨extended, unit, truncates, long, rounded⟩ := exists_magnitude_div finite large
  rw [rounded]
  rcases le_or_gt unit 0 with whole | coarse
  · obtain ⟨count, rfl⟩ := Int.exists_eq_neg_ofNat whole
    rw [zpow_neg, zpow_natCast] at truncates ⊢
    rw [div_inv_eq_mul] at truncates
    have scaled : ((bound * 2 ^ count : Nat) : ℚ) ≤ magnitude a / magnitude b * 2 ^ count := by
      push_cast
      gcongr
    have kept := truncates.le_roundedMantissa scaled
    rw [le_mul_inv_iff₀ (by positivity)]
    exact_mod_cast kept
  · have digits : 2 ^ 52 ≤ extended.roundedMantissa ∨ unit = -1074 :=
      long.imp_left fun full => Nat.le_trans full (mantissa_le_roundedMantissa extended)
    have smallExactly : (bound : ℚ) ≤ 2 ^ 53 := by exact_mod_cast small.le
    exact smallExactly.trans (two_pow_le_of_coarse digits coarse)

/-- Rounding a quotient keeps it at or below a whole number. -/
theorem magnitude_div_le_natCast (finite : a.isFinite) (large : AtLeastTwo b.toModel.unpack)
    {bound : Nat} (small : bound < 2 ^ 53) (above : magnitude a / magnitude b ≤ bound) :
    magnitude (a / b) ≤ bound := by
  obtain ⟨extended, unit, truncates, long, rounded⟩ := exists_magnitude_div finite large
  rw [rounded]
  rcases le_or_gt unit 0 with whole | coarse
  · obtain ⟨count, rfl⟩ := Int.exists_eq_neg_ofNat whole
    rw [zpow_neg, zpow_natCast] at truncates ⊢
    rw [div_inv_eq_mul] at truncates
    have scaled : magnitude a / magnitude b * 2 ^ count ≤ ((bound * 2 ^ count : Nat) : ℚ) := by
      push_cast
      gcongr
    have kept := truncates.roundedMantissa_le scaled
    rw [mul_inv_le_iff₀ (by positivity)]
    exact_mod_cast kept
  · have large : (2 ^ 53 : ℚ) ≤ magnitude a / magnitude b :=
      (two_pow_le_of_coarse long coarse).trans ((le_div_iff₀ (by positivity)).mp truncates.le)
    have smallExactly : (bound : ℚ) < 2 ^ 53 := by exact_mod_cast small
    exact absurd (large.trans above) smallExactly.not_ge

end Binary64

end BackOfEnvelope
