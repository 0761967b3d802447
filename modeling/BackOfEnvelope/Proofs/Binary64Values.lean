import BackOfEnvelope.Proofs.Binary64Range

/-!
# Exact magnitudes of binary64 numbers

A finite number is a whole number of units in its last place, with 53 binary digits unless the
unit is the least.  In this form the order of two numbers is that of their exponents and then
that of their digits, and the exact magnitude can be read off the fields of the bits.
-/

namespace BackOfEnvelope

namespace Binary64

open Float.Model (Format UnpackedFloat totalExponent)
open Float.Model.UnpackedFloat

/-- The exact magnitude; what is not finite has none and counts as zero. -/
def unpackedMagnitude : UnpackedFloat → ℚ
  | .finite _ mantissa exponent _ => mantissa * 2 ^ exponent
  | .zero _ | .infinity _ | .notANumber => 0

/-- The exact magnitude of a finite number. -/
def magnitude (number : Float) : ℚ :=
  unpackedMagnitude number.toModel.unpack

/-- The form in which a finite number is stored: with 53 digits, or with fewer and the least
exponent. -/
def IsNormalized : UnpackedFloat → Prop
  | .zero _ => True
  | .finite _ mantissa exponent _ =>
      mantissa < 2 ^ 53 ∧ -1074 ≤ exponent ∧ (2 ^ 52 ≤ mantissa ∨ exponent = -1074)
  | .infinity _ | .notANumber => False

theorem toNat_leading_append (fraction : BitVec 52) :
    (1#1 ++ fraction).toNat = 2 ^ 52 + fraction.toNat := by
  rw [BitVec.toNat_append, ← Nat.shiftLeft_add_eq_or_of_lt fraction.isLt]
  rfl

/-- A finite number in terms of the fields of its bits. -/
theorem unpack_fields {bits : BitVec 64} (finite : (unpack Format.binary64 bits).isFinite) :
    IsNormalized (unpack Format.binary64 bits) ∧
      unpackedMagnitude (unpack Format.binary64 bits) =
        if (@unpackExponent Format.binary64 bits).toNat = 0 then
          ((@unpackMantissa Format.binary64 bits).toNat : ℚ) * 2 ^ (-1074 : ℤ)
        else
          (2 ^ 52 + (@unpackMantissa Format.binary64 bits).toNat : ℚ) *
            2 ^ ((@unpackExponent Format.binary64 bits).toNat - 1075 : ℤ) := by
  have notFull := (isFinite_unpack_iff bits).mp finite
  have fraction : (@unpackMantissa Format.binary64 bits).toNat < 2 ^ 52 :=
    (@unpackMantissa Format.binary64 bits).isLt
  have noSpecial : @unpackExponent Format.binary64 bits ≠ -1#11 := by
    intro full
    rw [full] at notFull
    exact absurd notFull (by decide)
  have empty : @unpackExponent Format.binary64 bits = 0#11 ↔
      (@unpackExponent Format.binary64 bits).toNat = 0 := BitVec.toNat_inj.symm
  have leading : (1#1 ++ @unpackMantissa Format.binary64 bits).toNat =
      2 ^ 52 + (@unpackMantissa Format.binary64 bits).toNat := toNat_leading_append _
  simp only [unpack, if_neg noSpecial, empty]
  split
  next subnormal =>
    split
    next zero =>
      have none : (@unpackMantissa Format.binary64 bits).toNat = 0 := congrArg BitVec.toNat zero
      rw [none]
      exact ⟨trivial, by simp [unpackedMagnitude]⟩
    next =>
      rw [subnormal]
      refine ⟨⟨by omega, by decide, .inr (by decide)⟩, rfl⟩
  next normal =>
    have unit : ((@unpackExponent Format.binary64 bits).toNat : ℤ) - (1023 + 52) =
        (@unpackExponent Format.binary64 bits).toNat - 1075 := by omega
    change IsNormalized (.finite _ _ (_ - (1023 + 52)) _) ∧
      unpackedMagnitude (.finite _ _ (_ - (1023 + 52)) _) = _
    simp only [IsNormalized, unpackedMagnitude, leading, unit]
    refine ⟨⟨by omega, by omega, .inl (by omega)⟩, ?_⟩
    push_cast
    rfl

theorem ofBitVec_toBitVec (sign : Sign) : Sign.ofBitVec sign.toBitVec = sign := by
  cases sign <;> rfl

theorem unpack_packComponents (sign : Sign) {field mantissa : Nat} (notEmpty : 0 < field)
    (notFull : field ≤ 2046) (long : 2 ^ 52 ≤ mantissa) (short : mantissa < 2 ^ 53) :
    unpack Format.binary64 (packComponents Format.binary64 sign (BitVec.ofNat 11 field)
        (BitVec.ofNat 52 mantissa)) =
      .finite sign mantissa (field - 1075) (Nat.lt_of_lt_of_le (by decide) long) := by
  have fieldValue : (BitVec.ofNat 11 field).toNat = field := Nat.mod_eq_of_lt (by omega)
  have noSpecial : BitVec.ofNat 11 field ≠ -1#11 := by
    rw [Ne, ← BitVec.toNat_inj, fieldValue]
    change field ≠ 2047
    omega
  have noSubnormal : BitVec.ofNat 11 field ≠ 0#11 := by
    rw [Ne, ← BitVec.toNat_inj, fieldValue]
    change field ≠ 0
    omega
  have fraction : (BitVec.ofNat 52 mantissa).toNat = mantissa - 2 ^ 52 := by
    change mantissa % 2 ^ 52 = _
    omega
  have restored : (1#1 ++ BitVec.ofNat 52 mantissa).toNat = mantissa := by
    rw [toNat_leading_append, fraction]
    omega
  have unit : (field : ℤ) - (1023 + 52) = field - 1075 := by omega
  simp only [unpack, unpackExponent_packComponents, unpackMantissa_packComponents,
    unpackSign_packComponents, if_neg noSpecial, if_neg noSubnormal, ofBitVec_toBitVec]
  change UnpackedFloat.finite _ _ (((BitVec.ofNat 11 field).toNat : ℤ) - (1023 + 52)) _ = _
  simp only [restored, fieldValue, unit]

theorem unpack_packComponents_of_empty (sign : Sign) {mantissa : Nat} (positive : 0 < mantissa)
    (short : mantissa < 2 ^ 52) :
    unpack Format.binary64 (packComponents Format.binary64 sign (0#11) (BitVec.ofNat 52 mantissa)) =
      .finite sign mantissa (-1074) positive := by
  have restored : (BitVec.ofNat 52 mantissa).toNat = mantissa := Nat.mod_eq_of_lt short
  have notZero : BitVec.ofNat 52 mantissa ≠ 0#52 := by
    rw [Ne, ← BitVec.toNat_inj, restored]
    exact Nat.ne_of_gt positive
  have noSpecial : 0#11 ≠ -1#11 := by decide
  simp only [unpack, unpackExponent_packComponents, unpackMantissa_packComponents,
    unpackSign_packComponents, if_neg noSpecial, if_true, dif_neg notZero, ofBitVec_toBitVec,
    restored]
  rfl

/-- Packing a number in the form of the stored ones loses nothing if there is room for it. -/
theorem unpack_pack {number : UnpackedFloat} (normalized : IsNormalized number)
    (fits : Fits number) : (Float.Model.pack number).unpack = number := by
  cases number with
  | infinity _ | notANumber => exact fits.elim
  | zero sign => cases sign <;> rfl
  | finite sign mantissa exponent positive =>
      obtain ⟨short, least, digits⟩ := normalized
      simp only [Fits] at fits
      obtain ⟨field, biased⟩ : ∃ field : Nat, exponent = field - 1075 :=
        ⟨(exponent + 1075).toNat, by omega⟩
      have stored : (exponent + Format.binary64.exponentBias +
          Format.binary64.mantissaBitsWithoutImplicit).toNat = field := by
        change (exponent + (1023 : Nat) + (52 : Nat)).toNat = field
        omega
      have inRange : ¬ 2 ^ Format.binary64.exponentBits ≤ field + 1 := by
        change ¬ 2048 ≤ field + 1
        omega
      have full : mantissa.log2 + 1 = Format.binary64.mantissaBits ↔ 2 ^ 52 ≤ mantissa := by
        refine Nat.add_right_cancel_iff.trans ?_
        rw [Nat.log2_eq_iff (Nat.ne_of_gt positive), and_iff_left short]
      change unpack Format.binary64 (pack Format.binary64 _) = _
      simp only [pack, stored, if_neg inRange, full]
      split
      next long =>
        subst biased
        exact unpack_packComponents sign (by omega) (by omega) long short
      next fewer =>
        obtain rfl : exponent = -1074 := digits.resolve_left fewer
        exact unpack_packComponents_of_empty sign positive (Nat.lt_of_not_le fewer)

theorem isNormalized_of_isFinite {number : Float} (finite : number.isFinite) :
    IsNormalized number.toModel.unpack :=
  (unpack_fields finite).1

/-- A greater unit comes with 53 digits, so it outweighs all digits of a smaller one. -/
theorem magnitude_lt_of_exponent_lt {mantissa other : Nat} {exponent otherExponent : ℤ}
    (short : mantissa < 2 ^ 53) (long : 2 ^ 52 ≤ other) (before : exponent < otherExponent) :
    (mantissa * 2 ^ exponent : ℚ) < other * 2 ^ otherExponent := by
  have digits : (mantissa : ℚ) < 2 ^ 53 := by exact_mod_cast short
  have otherDigits : (2 ^ 52 : ℚ) ≤ other := by exact_mod_cast long
  have carried : exponent + 1 ≤ otherExponent := before
  calc (mantissa * 2 ^ exponent : ℚ) < 2 ^ 53 * 2 ^ exponent := by gcongr
    _ = 2 ^ 52 * 2 ^ (exponent + 1) := by rw [zpow_add_one₀ (by norm_num)]; ring
    _ ≤ other * 2 ^ otherExponent := by gcongr; norm_num

/-- Positive numbers are compared by their units first. -/
theorem le_of_positive_iff {mantissa other : Nat} {exponent otherExponent : ℤ}
    {positive : 0 < mantissa} {otherPositive : 0 < other}
    (normalized : IsNormalized (.finite .positive mantissa exponent positive))
    (otherNormalized : IsNormalized (.finite .positive other otherExponent otherPositive)) :
    UnpackedFloat.le (.finite .positive mantissa exponent positive)
        (.finite .positive other otherExponent otherPositive) ↔
      (mantissa * 2 ^ exponent : ℚ) ≤ other * 2 ^ otherExponent := by
  obtain ⟨short, least, digits⟩ := normalized
  obtain ⟨otherShort, otherLeast, otherDigits⟩ := otherNormalized
  have compared : UnpackedFloat.le (.finite .positive mantissa exponent positive)
      (.finite .positive other otherExponent otherPositive) =
        ((compare exponent otherExponent).then (compare mantissa other)).isLE := rfl
  rw [compared]
  rcases lt_trichotomy exponent otherExponent with before | rfl | after
  · rw [Int.compare_eq_lt.mpr before]
    have long : 2 ^ 52 ≤ other := otherDigits.resolve_right (by omega)
    exact iff_of_true rfl (magnitude_lt_of_exponent_lt short long before).le
  · have scale : (0 : ℚ) < 2 ^ exponent := by positivity
    rw [Int.compare_eq_eq.mpr rfl, mul_le_mul_iff_left₀ scale, Nat.cast_le]
    exact Nat.isLE_compare
  · rw [Int.compare_eq_gt.mpr after]
    have long : 2 ^ 52 ≤ mantissa := digits.resolve_right (by omega)
    exact iff_of_false nofun (magnitude_lt_of_exponent_lt otherShort long after).not_ge

/-- A number without its sign is compared with a unit by its magnitude. -/
theorem le_abs_iff {unit number : Float} {mantissa : Nat} {exponent : ℤ} {positive : 0 < mantissa}
    (unpacked : unit.toModel.unpack = .finite .positive mantissa exponent positive)
    (finite : number.isFinite) : unit ≤ number.abs ↔ magnitude unit ≤ magnitude number := by
  have unitFinite : unit.isFinite := congrArg UnpackedFloat.isFinite unpacked
  have unitNormalized := isNormalized_of_isFinite unitFinite
  have normalized := isNormalized_of_isFinite finite
  have fits := fits_of_isFinite finite
  have compared : unit ≤ number.abs ↔
      UnpackedFloat.le unit.toModel.unpack (Float.Model.pack number.toModel.unpack.abs).unpack :=
    decide_eq_true_iff
  rw [compared, magnitude, magnitude]
  rw [unpacked] at unitNormalized ⊢
  cases held : number.toModel.unpack with
  | infinity _ | notANumber =>
      rw [held] at fits
      exact fits.elim
  | zero sign =>
      have above : ¬ (mantissa * 2 ^ exponent : ℚ) ≤ 0 := by
        have digits : (0 : ℚ) < mantissa := by exact_mod_cast positive
        exact not_le.mpr (by positivity)
      rw [UnpackedFloat.abs, @unpack_pack (.zero .positive) trivial trivial]
      exact iff_of_false Bool.false_ne_true above
  | finite sign other otherExponent otherPositive =>
      rw [held] at normalized fits
      rw [UnpackedFloat.abs, @unpack_pack (.finite .positive _ _ _) normalized fits]
      exact le_of_positive_iff unitNormalized normalized

theorem toNat_unpackExponent (bits : BitVec 64) :
    (@unpackExponent Format.binary64 bits).toNat = bits.toNat / 2 ^ 52 % 2 ^ 11 := by
  have extracted : (@unpackExponent Format.binary64 bits).toNat =
      (bits.extractLsb 62 52).toNat := rfl
  rw [extracted, BitVec.extractLsb_toNat, Nat.shiftRight_eq_div_pow]

theorem toNat_unpackMantissa (bits : BitVec 64) :
    (@unpackMantissa Format.binary64 bits).toNat = bits.toNat % 2 ^ 52 := by
  have extracted : (@unpackMantissa Format.binary64 bits).toNat =
      (bits.extractLsb 51 0).toNat := rfl
  rw [extracted, BitVec.extractLsb_toNat, Nat.shiftRight_zero]

end Binary64

namespace Magnitude

/-- The exact value of the fields. -/
def value (m : Magnitude) : ℚ :=
  m.significand * 2 ^ (m.scale - 1074 : ℤ)

theorem fraction_pos (m : Magnitude) : 0 < m.fraction.2 := by
  unfold fraction
  split
  · exact Nat.one_pos
  · exact Nat.two_pow_pos _

theorem fraction_value (m : Magnitude) : (m.fraction.1 : ℚ) / m.fraction.2 = m.value := by
  unfold fraction value
  split
  next large =>
    obtain ⟨shift, scale⟩ := Nat.exists_eq_add_of_le large
    have unit : (m.scale : ℤ) - 1074 = shift := by omega
    rw [unit, scale, Nat.add_sub_cancel_left]
    simp [powerOfTwo]
  next small =>
    obtain ⟨shift, scale⟩ := Nat.exists_eq_add_of_le (Nat.le_of_not_le small)
    have unit : (m.scale : ℤ) - 1074 = -shift := by omega
    rw [unit, scale, Nat.add_sub_cancel_left]
    simp [powerOfTwo, div_eq_mul_inv]

/-- The fields of a finite number have its magnitude. -/
theorem classify_of_isFinite {number : Float} (finite : number.isFinite) :
    ∃ negative m, classify number = .finite negative m ∧ m.value = Binary64.magnitude number := by
  have stored := (Binary64.unpack_fields finite).2
  have notFull := (Binary64.isFinite_unpack_iff _).mp finite
  rw [Binary64.toNat_unpackExponent] at stored notFull
  rw [Binary64.toNat_unpackMantissa] at stored
  change number.toBits.toNat / powerOfTwo 52 % powerOfTwo 11 ≤ 2046 at notFull
  change Binary64.magnitude number =
    if number.toBits.toNat / powerOfTwo 52 % powerOfTwo 11 = 0 then
      ((number.toBits.toNat % powerOfTwo 52 : Nat) : ℚ) * 2 ^ (-1074 : ℤ)
    else
      (2 ^ 52 + (number.toBits.toNat % powerOfTwo 52 : Nat) : ℚ) *
        2 ^ ((number.toBits.toNat / powerOfTwo 52 % powerOfTwo 11 : Nat) - 1075 : ℤ) at stored
  rw [stored]
  dsimp only [classify]
  generalize number.toBits.toNat / powerOfTwo 52 % powerOfTwo 11 = field at notFull
  generalize number.toBits.toNat % powerOfTwo 52 = fraction
  have noSpecial : field ≠ 2047 := by omega
  by_cases subnormal : field = 0
  · simp only [subnormal, if_true]
    refine ⟨_, _, rfl, ?_⟩
    simp [value]
  · simp only [noSpecial, subnormal, if_false]
    refine ⟨_, _, rfl, ?_⟩
    have unit : ((field - 1 : Nat) : ℤ) - 1074 = field - 1075 := by omega
    simp only [value, unit]
    push_cast
    rfl

end Magnitude

end BackOfEnvelope
