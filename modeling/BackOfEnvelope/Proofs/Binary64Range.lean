import BackOfEnvelope.Proofs.Binary64Finiteness
import Mathlib

/-!
# The range of binary64

A result is packed into a finite number exactly if its exponent is at most 971, and
rounding raises the exponent by one at most.  So a quotient is finite if its dividend is
and its divisor is at least two, and a product of finite numbers can only become infinite,
but never fail to be a number.  The number nearest to a natural number tells the length of
that number in binary digits, up to a carry, by its exponent field alone.
-/

namespace BackOfEnvelope

namespace Binary64

open Float.Model (Format UnpackedFloat totalExponent)
open Float.Model.UnpackedFloat

/-- A number for which binary64 has room.  The largest exponent is that of the largest
exponent field 2046, which counts from -1075. -/
def Fits : UnpackedFloat → Prop
  | .zero _ => True
  | .finite _ _ exponent _ => exponent ≤ 971
  | .infinity _ | .notANumber => False

theorem isFinite_unpack_iff (bits : BitVec 64) :
    (unpack Format.binary64 bits).isFinite ↔
      (@unpackExponent Format.binary64 bits).toNat ≤ 2046 := by
  have below : (@unpackExponent Format.binary64 bits).toNat < 2048 :=
    (@unpackExponent Format.binary64 bits).isLt
  have full : @unpackExponent Format.binary64 bits = -1#11 ↔
      (@unpackExponent Format.binary64 bits).toNat = 2047 := BitVec.toNat_inj.symm
  simp only [unpack]
  split
  · next infinite =>
      rw [full.mp infinite]
      split <;> simp [UnpackedFloat.isFinite]
  · next finite =>
      have bounded : (@unpackExponent Format.binary64 bits).toNat ≤ 2046 := by
        rw [full] at finite
        omega
      refine iff_of_true ?_ bounded
      split
      · split <;> rfl
      · rfl

theorem fits_unpack {bits : BitVec 64} (finite : (unpack Format.binary64 bits).isFinite) :
    Fits (unpack Format.binary64 bits) := by
  have bounded := (isFinite_unpack_iff bits).mp finite
  simp only [unpack] at finite ⊢
  split at finite
  · split at finite <;> cases finite
  · next notFull =>
      rw [if_neg notFull]
      split
      · next subnormal =>
          rw [subnormal]
          split
          · trivial
          · change ((0 : Nat) : Int) - (1023 + 52) + 1 ≤ 971
            decide
      · change ((@unpackExponent Format.binary64 bits).toNat : Int) - (1023 + 52) ≤ 971
        omega

theorem isFinite_pack {number : UnpackedFloat} (fits : Fits number) :
    (Float.Model.pack number).isFinite := by
  change (unpack Format.binary64 (pack Format.binary64 number)).isFinite
  rw [isFinite_unpack_iff]
  cases number with
  | infinity _ | notANumber => exact fits.elim
  | zero sign => simp [pack, packedZero]
  | finite sign mantissa exponent positive =>
      have biased : (exponent + (1023 : Nat) + (52 : Nat)).toNat ≤ 2046 := by
        simp only [Fits] at fits
        omega
      have inRange : ¬ 2 ^ Format.binary64.exponentBits ≤
          (exponent + Format.binary64.exponentBias +
            Format.binary64.mantissaBitsWithoutImplicit).toNat + 1 := by
        change ¬ 2048 ≤ (exponent + (1023 : Nat) + (52 : Nat)).toNat + 1
        omega
      simp only [pack, if_neg inRange]
      split
      · rw [unpackExponent_packComponents]
        change (exponent + (1023 : Nat) + (52 : Nat)).toNat % 2048 ≤ 2046
        omega
      · rw [unpackExponent_packComponents]
        decide

variable {a b : Float}

theorem fits_of_isFinite (finite : a.isFinite) : Fits a.toModel.unpack :=
  fits_unpack finite

theorem isFinite_neg (finite : a.isFinite) : (-a).isFinite := by
  refine @isFinite_pack a.toModel.unpack.neg ?_
  have fits := fits_of_isFinite finite
  cases unpacked : a.toModel.unpack <;> rw [unpacked] at fits <;> exact fits

theorem mantissa_ofMantissaAndAccuracy (mantissa : Nat) (accuracy : Accuracy) :
    (ExtendedMantissa.ofMantissaAndAccuracy mantissa accuracy).mantissa = mantissa := by
  cases accuracy with
  | exact => rfl
  | inexact order => cases order <;> rfl

theorem mantissa_shiftRight (extended : ExtendedMantissa) (count : Nat) :
    (extended >>> count).mantissa = extended.mantissa / 2 ^ count := by
  induction count with
  | zero => simp; rfl
  | succ count ih =>
      have next : extended >>> (count + 1) = (extended >>> count).shiftRightOne := rfl
      rw [next, ExtendedMantissa.shiftRightOne, ih, Nat.div_div_eq_div_mul, Nat.pow_succ]

theorem roundedMantissa_le (extended : ExtendedMantissa) :
    extended.roundedMantissa ≤ extended.mantissa + 1 := by
  unfold ExtendedMantissa.roundedMantissa
  generalize extended.accuracy = accuracy
  cases accuracy with
  | exact => exact Nat.le_succ _
  | inexact order =>
      cases order with
      | lt => exact Nat.le_succ _
      | gt => exact Nat.le_refl _
      | eq =>
        simp only [Accuracy.roundToNearestEven]
        omega

/-- Dropping binary digits and rounding up lengthens a number by one digit at most. -/
theorem log2_add_le {rounded mantissa count : Nat} (le : rounded ≤ mantissa / 2 ^ count + 1) :
    rounded.log2 + count ≤ max (mantissa.log2 + 1) count := by
  by_cases zero : rounded = 0
  · subst zero
    exact Nat.le_trans (Nat.le_of_eq (Nat.zero_add count)) (Nat.le_max_right _ _)
  have below : mantissa < 2 ^ (mantissa.log2 + 1) := Nat.lt_log2_self
  by_cases short : count ≤ mantissa.log2 + 1
  · have quotient : mantissa / 2 ^ count < 2 ^ (mantissa.log2 + 1 - count) := by
      rw [Nat.div_lt_iff_lt_mul (Nat.two_pow_pos count), ← Nat.pow_add, Nat.sub_add_cancel short]
      exact below
    have bounded : rounded.log2 < mantissa.log2 + 1 - count + 1 := by
      rw [Nat.log2_lt zero, Nat.pow_succ]
      omega
    omega
  · have vanishes : mantissa / 2 ^ count = 0 :=
      Nat.div_eq_of_lt (Nat.lt_trans below (Nat.pow_lt_pow_right Nat.one_lt_two (by omega)))
    obtain rfl : rounded = 1 := by omega
    have single : Nat.log2 1 = 0 := rfl
    omega

theorem targetExponent_binary64 (total : Int) :
    Format.binary64.targetExponent total = max (total - 53) (-1074) :=
  rfl

/-- A number whose digits all stand below `2 ^ 1023` stays finite when it is rounded, even if
the rounding carries over into one digit more. -/
theorem fits_roundWithAccuracy (sign : Sign) {mantissa : Nat} {exponent : Int}
    (accuracy : Accuracy) (total : totalExponent mantissa exponent ≤ 1023)
    (bounded : exponent ≤ 970) :
    Fits (roundWithAccuracy Format.binary64 sign mantissa exponent accuracy) := by
  unfold totalExponent at total
  simp only [roundWithAccuracy]
  split
  · trivial
  · simp only [Fits, shiftToTargetExponent, shiftToExponent, targetExponent_binary64,
      totalExponent]
    generalize target : max ((mantissa.log2 : Int) + 1 + exponent - 53) (-1074) = unit
    generalize shift : (unit - exponent).toNat = count
    have rounded :=
      roundedMantissa_le (ExtendedMantissa.ofMantissaAndAccuracy mantissa accuracy >>> count)
    rw [mantissa_shiftRight, mantissa_ofMantissaAndAccuracy] at rounded
    have growth := log2_add_le rounded
    omega

/-- The exponent field of a number. -/
def exponentField (number : Float) : Nat :=
  (@unpackExponent Format.binary64 number.toModel.toBits.toBitVec).toNat

theorem isFinite_iff_exponentField : a.isFinite ↔ exponentField a ≤ 2046 :=
  isFinite_unpack_iff _

/-- Of a number whose exponent field is neither empty nor full, the field tells the magnitude. -/
theorem unpack_normal {bits : BitVec 64} {field : Nat}
    (stored : (@unpackExponent Format.binary64 bits).toNat = field) (notEmpty : 0 < field)
    (notFull : field ≤ 2046) :
    ∃ sign mantissa exponent positive,
      unpack Format.binary64 bits = .finite sign mantissa exponent positive ∧
        mantissa.log2 = 52 ∧ exponent = field - 1075 := by
  have noSpecial : @unpackExponent Format.binary64 bits ≠ -1#11 := by
    intro full
    rw [full] at stored
    change 2047 = field at stored
    omega
  have noSubnormal : @unpackExponent Format.binary64 bits ≠ 0#11 := by
    intro empty
    rw [empty] at stored
    change 0 = field at stored
    omega
  have lower : 2 ^ 52 ≤ (1#1 ++ @unpackMantissa Format.binary64 bits).toNat := by
    rw [BitVec.toNat_append]
    exact Nat.left_le_or
  have upper : (1#1 ++ @unpackMantissa Format.binary64 bits).toNat < 2 ^ 53 :=
    (1#1 ++ @unpackMantissa Format.binary64 bits).isLt
  have positive : 0 < (1#1 ++ @unpackMantissa Format.binary64 bits).toNat := by omega
  simp only [unpack, if_neg noSpecial, if_neg noSubnormal]
  refine ⟨_, _, _, positive, rfl, (Nat.log2_eq_iff (by omega)).mpr ⟨lower, upper⟩, ?_⟩
  rw [stored]
  rfl

theorem unpackExponent_ofNat (bits : Nat) :
    (@unpackExponent Format.binary64 (UInt64.ofNat bits).toBitVec).toNat =
      bits / 2 ^ 52 % 2 ^ 11 := by
  have extracted : (@unpackExponent Format.binary64 (UInt64.ofNat bits).toBitVec).toNat =
      ((UInt64.ofNat bits).toBitVec.extractLsb 62 52).toNat := rfl
  have whole : (UInt64.ofNat bits).toBitVec.toNat = bits % 2 ^ 64 := rfl
  rw [extracted, BitVec.extractLsb_toNat, Nat.shiftRight_eq_div_pow, whole]
  omega

theorem exponentField_ofBits {bits : Nat} (notFull : bits / 2 ^ 52 ≤ 2046) :
    exponentField (Float.ofBits (UInt64.ofNat bits)) = bits / 2 ^ 52 := by
  have stored : (@unpackExponent Format.binary64 (UInt64.ofNat bits).toBitVec).toNat =
      bits / 2 ^ 52 := by
    rw [unpackExponent_ofNat]
    exact Nat.mod_eq_of_lt (Nat.lt_of_le_of_lt notFull (by decide))
  have notFullField : @unpackExponent Format.binary64 (UInt64.ofNat bits).toBitVec ≠ -1#11 := by
    intro full
    rw [full] at stored
    change 2047 = _ at stored
    omega
  have repacked : (Float.ofBits (UInt64.ofNat bits)).toModel.toBits.toBitVec =
      (UInt64.ofNat bits).toBitVec := by
    refine (@pack_unpack Format.binary64 _ (by decide)).trans (if_neg fun special => ?_)
    exact notFullField (of_decide_eq_true special).1
  rw [exponentField, repacked, stored]

theorem roundHalfEven_bounds (numerator denominator : Nat) :
    numerator / denominator ≤ roundHalfEven numerator denominator ∧
      roundHalfEven numerator denominator ≤ numerator / denominator + 1 := by
  simp only [roundHalfEven]
  split
  · omega
  · split
    · omega
    · split <;> omega

/-- A natural number in units of its 53rd binary digit, rounded. -/
def leadingDigits (number : Nat) : Nat :=
  if (0 : Int) ≤ number.log2 - 52 then
    roundHalfEven number (1 * powerOfTwo ((number.log2 : Int) - 52).toNat)
  else roundHalfEven (number * powerOfTwo (-((number.log2 : Int) - 52)).toNat) 1

/-- The leading digits are 53 digits, or the next power of two if the rounding carries. -/
theorem leadingDigits_bounds {number : Nat} (positive : 0 < number) :
    2 ^ 52 ≤ leadingDigits number ∧ leadingDigits number ≤ 2 ^ 53 := by
  obtain ⟨lower, upper⟩ := (Nat.log2_eq_iff (Nat.ne_of_gt positive)).mp (@rfl _ number.log2)
  unfold leadingDigits
  split
  · next long =>
      obtain ⟨shift, digits⟩ : ∃ shift, number.log2 = 52 + shift :=
        ⟨number.log2 - 52, by omega⟩
      have scale : ((number.log2 : Int) - 52).toNat = shift := by omega
      rw [digits] at lower upper
      have quotientLower : 2 ^ 52 ≤ number / 2 ^ shift := by
        rwa [Nat.le_div_iff_mul_le (Nat.two_pow_pos shift), ← Nat.pow_add]
      have quotientUpper : number / 2 ^ shift < 2 ^ 53 := by
        rwa [Nat.div_lt_iff_lt_mul (Nat.two_pow_pos shift), ← Nat.pow_add,
          Nat.add_right_comm 52 1]
      obtain ⟨above, below⟩ := roundHalfEven_bounds number (2 ^ shift)
      rw [scale, Nat.one_mul]
      exact ⟨Nat.le_trans quotientLower above, Nat.le_trans below quotientUpper⟩
  · next short =>
      obtain ⟨shift, digits⟩ : ∃ shift, number.log2 + shift = 52 :=
        ⟨52 - number.log2, by omega⟩
      have scale : (-((number.log2 : Int) - 52)).toNat = shift := by omega
      have scaledLower : 2 ^ 52 ≤ number * 2 ^ shift := by
        rw [← digits, Nat.pow_add]
        exact Nat.mul_le_mul_right _ lower
      have scaledUpper : number * 2 ^ shift < 2 ^ 53 := by
        have split : (2 : Nat) ^ 53 = 2 ^ (number.log2 + 1) * 2 ^ shift := by
          rw [← Nat.pow_add, Nat.add_right_comm, digits]
        rw [split]
        exact Nat.mul_lt_mul_of_pos_right upper (Nat.two_pow_pos shift)
      obtain ⟨above, below⟩ := roundHalfEven_bounds (number * 2 ^ shift) 1
      rw [Nat.div_one] at above below
      rw [scale]
      exact ⟨Nat.le_trans scaledLower above, Nat.le_trans below scaledUpper⟩

/-- The bits count units of the last digit, so the first digit counts for the exponent. -/
theorem nearestBits_eq {number : Nat} (positive : 0 < number) :
    nearestBits number 1 =
      min ((number.log2 + 1022) * 2 ^ 52 + leadingDigits number) (2047 * 2 ^ 52) := by
  have nonzero : number ≠ 0 := Nat.ne_of_gt positive
  have estimate : ((number.log2 : Int) - (Nat.log2 1 : Nat)) = number.log2 := Int.sub_zero _
  have reaches : 1 * powerOfTwo number.log2 ≤ number := by
    rw [Nat.one_mul]
    exact ((Nat.log2_eq_iff nonzero).mp rfl).1
  have unit : ((number.log2 : Int) - 52 + 1074).toNat = number.log2 + 1022 := by omega
  simp only [nearestBits, nonzero, if_false, estimate, Int.natCast_nonneg, if_true,
    Int.toNat_natCast, reaches, decide_true]
  rw [Int.max_eq_left (by omega : (-1074 : Int) ≤ number.log2 - 52), unit]
  rfl

/-- The bits of a natural number tell its length in binary digits, up to a carry. -/
theorem nearestBits_div {number : Nat} (positive : 0 < number) (short : number.log2 ≤ 1022) :
    number.log2 + 1023 ≤ nearestBits number 1 / 2 ^ 52 ∧
      nearestBits number 1 / 2 ^ 52 ≤ number.log2 + 1024 := by
  obtain ⟨above, below⟩ := leadingDigits_bounds positive
  rw [nearestBits_eq positive, Nat.le_div_iff_mul_le (by decide),
    Nat.div_le_iff_le_mul_add_pred (by decide)]
  omega

/-- The exponent field of a natural number below half the range of binary64. -/
theorem exponentField_nearest {number : Nat} (positive : 0 < number)
    (short : number.log2 ≤ 1022) :
    number.log2 + 1023 ≤ exponentField (nearest false number 1) ∧
      exponentField (nearest false number 1) ≤ 2046 := by
  obtain ⟨lower, upper⟩ := nearestBits_div positive short
  simp only [nearest, Bool.false_eq_true, if_false]
  rw [exponentField_ofBits (by omega)]
  omega

theorem isFinite_nearest {number : Nat} (small : number < 2 ^ 64) :
    (nearest false number 1).isFinite := by
  rcases Nat.eq_zero_or_pos number with rfl | positive
  · rfl
  · have short : number.log2 < 64 := (Nat.log2_lt (Nat.ne_of_gt positive)).mpr small
    exact isFinite_iff_exponentField.mpr (exponentField_nearest positive (by omega)).2

/-- A finite number whose magnitude is at least two. -/
def AtLeastTwo : UnpackedFloat → Prop
  | .finite _ mantissa exponent _ => 2 ≤ totalExponent mantissa exponent
  | _ => False

theorem AtLeastTwo.exists_finite {number : UnpackedFloat} (large : AtLeastTwo number) :
    ∃ sign mantissa exponent positive, number = .finite sign mantissa exponent positive ∧
      2 ≤ totalExponent mantissa exponent := by
  cases number with
  | finite sign mantissa exponent positive => exact ⟨_, _, _, positive, rfl, large⟩
  | infinity _ | notANumber | zero _ => exact large.elim

theorem atLeastTwo_of_exponentField (large : 1024 ≤ exponentField a)
    (bounded : exponentField a ≤ 2046) : AtLeastTwo a.toModel.unpack := by
  obtain ⟨sign, mantissa, exponent, positive, unpacked, full, scale⟩ :=
    unpack_normal (@rfl _ (exponentField a)) (by omega) bounded
  change AtLeastTwo (unpack Format.binary64 _)
  rw [unpacked]
  change 2 ≤ (mantissa.log2 : Int) + 1 + exponent
  omega

theorem log2_mantissa_le {bits : BitVec 64} {sign : Sign} {mantissa : Nat} {exponent : Int}
    {positive : 0 < mantissa}
    (unpacked : unpack Format.binary64 bits = .finite sign mantissa exponent positive) :
    mantissa.log2 ≤ 52 := by
  refine Nat.le_of_lt_succ ((Nat.log2_lt (Nat.ne_of_gt positive)).mpr ?_)
  have fraction := (@unpackMantissa Format.binary64 bits).isLt
  simp only [unpack] at unpacked
  split at unpacked
  · split at unpacked <;> cases unpacked
  · split at unpacked
    · split at unpacked
      · cases unpacked
      · cases unpacked
        exact Nat.lt_trans fraction (by decide)
    · cases unpacked
      exact (1#1 ++ @unpackMantissa Format.binary64 bits).isLt

/-- The binary digits of a quotient without its fraction. -/
theorem log2_div_lt {dividend divisor : Nat} (positive : 0 < divisor) (shift : Nat)
    (nonzero : dividend * 2 ^ shift / divisor ≠ 0) :
    (dividend * 2 ^ shift / divisor).log2 + divisor.log2 < dividend.log2 + 1 + shift := by
  have quotient : 2 ^ (dividend * 2 ^ shift / divisor).log2 ≤ dividend * 2 ^ shift / divisor :=
    Nat.log2_self_le nonzero
  have lower : 2 ^ divisor.log2 ≤ divisor := Nat.log2_self_le (Nat.ne_of_gt positive)
  have upper : dividend < 2 ^ (dividend.log2 + 1) := Nat.lt_log2_self
  refine (Nat.pow_lt_pow_iff_right Nat.one_lt_two).mp ?_
  calc 2 ^ ((dividend * 2 ^ shift / divisor).log2 + divisor.log2)
      = 2 ^ (dividend * 2 ^ shift / divisor).log2 * 2 ^ divisor.log2 := Nat.pow_add ..
    _ ≤ dividend * 2 ^ shift / divisor * divisor := Nat.mul_le_mul quotient lower
    _ ≤ dividend * 2 ^ shift := Nat.div_mul_le_self _ _
    _ < 2 ^ (dividend.log2 + 1) * 2 ^ shift := Nat.mul_lt_mul_of_pos_right upper (Nat.two_pow_pos _)
    _ = 2 ^ (dividend.log2 + 1 + shift) := (Nat.pow_add ..).symm

/-- The length of a quotient before it is rounded: the divisor takes a digit away, and the
fraction of the mantissas may give one back. -/
theorem divCore_bounds {mantissa otherMantissa : Nat} {exponent otherExponent : Int}
    (positive : 0 < otherMantissa) (total : totalExponent mantissa exponent ≤ 1024)
    (large : 2 ≤ totalExponent otherMantissa otherExponent) :
    let quotient := divCore Format.binary64 mantissa exponent otherMantissa otherExponent
    totalExponent quotient.1 quotient.2.1 ≤ 1023 ∧ quotient.2.1 ≤ 970 := by
  unfold totalExponent at total large
  simp only [divCore, targetExponent_binary64, totalExponent, Nat.shiftLeft_eq]
  generalize target : min (exponent - otherExponent) _ = unit
  generalize shift : (exponent - otherExponent - unit).toNat = count
  refine ⟨?_, by omega⟩
  by_cases nonzero : mantissa * 2 ^ count / otherMantissa = 0
  · have empty : Nat.log2 0 = 0 := rfl
    rw [nonzero]
    omega
  · have length := log2_div_lt positive count nonzero
    omega

/-- There is room for the quotient of a finite number by one that is at least two. -/
theorem fits_div (finite : a.isFinite) (large : AtLeastTwo b.toModel.unpack) :
    Fits (.div Format.binary64 a.toModel.unpack b.toModel.unpack) := by
  have fits := fits_of_isFinite finite
  obtain ⟨otherSign, otherMantissa, otherExponent, otherPositive, divisor, two⟩ :=
    large.exists_finite
  rw [divisor]
  cases dividend : a.toModel.unpack with
  | infinity _ | notANumber =>
      rw [dividend] at fits
      exact fits.elim
  | zero sign => trivial
  | finite sign mantissa exponent positive =>
      have digits : mantissa.log2 ≤ 52 := log2_mantissa_le dividend
      rw [dividend, Fits] at fits
      have total : totalExponent mantissa exponent ≤ 1024 := by
        unfold totalExponent
        omega
      obtain ⟨length, bounded⟩ := divCore_bounds otherPositive total two
      exact fits_roundWithAccuracy _ _ length bounded

theorem isFinite_div (finite : a.isFinite) (large : AtLeastTwo b.toModel.unpack) :
    (a / b).isFinite :=
  isFinite_pack (fits_div finite large)

theorem isFinite_or_isInf_pack {number : UnpackedFloat} (finite : number.isFinite) :
    (Float.Model.pack number).isFinite ∨ (Float.Model.pack number).isInf := by
  by_cases fits : Fits number
  · exact .inl (isFinite_pack fits)
  cases number with
  | infinity _ | notANumber => cases finite
  | zero _ => exact absurd trivial fits
  | finite sign mantissa exponent positive =>
      right
      have overflow : 2 ^ Format.binary64.exponentBits ≤
          (exponent + Format.binary64.exponentBias +
            Format.binary64.mantissaBitsWithoutImplicit).toNat + 1 := by
        change 2048 ≤ (exponent + (1023 : Nat) + (52 : Nat)).toNat + 1
        simp only [Fits] at fits
        omega
      change (unpack Format.binary64 (pack Format.binary64 _)).isInf
      rw [pack, if_pos overflow]
      cases sign <;> rfl

/-- The product of finite numbers is finite or infinite. -/
theorem isFinite_mul (first : a.isFinite) (second : b.isFinite) (bounded : (a * b).isInf = false) :
    (a * b).isFinite := by
  have product :
      (UnpackedFloat.mul Format.binary64 a.toModel.unpack b.toModel.unpack).isFinite := by
    change a.toModel.unpack.isFinite at first
    change b.toModel.unpack.isFinite at second
    generalize a.toModel.unpack = x at first
    generalize b.toModel.unpack = y at second
    cases x with
    | infinity _ | notANumber => cases first
    | zero _ =>
        cases y with
        | infinity _ | notANumber => cases second
        | zero _ | finite _ _ _ _ => rfl
    | finite _ _ _ _ =>
        cases y with
        | infinity _ | notANumber => cases second
        | zero _ => rfl
        | finite _ _ _ _ =>
            simp only [UnpackedFloat.mul, roundWithAccuracy]
            split <;> rfl
  refine (isFinite_or_isInf_pack product).resolve_right fun infinite => ?_
  exact Bool.false_ne_true (bounded.symm.trans infinite)

/-- The powers of ten up to the largest of binary64. -/
theorem exponentField_powerOfTen {exponent : Nat} (positive : 0 < exponent)
    (bounded : exponent ≤ 308) :
    1024 ≤ exponentField (nearest false (powerOfTen exponent) 1) ∧
      exponentField (nearest false (powerOfTen exponent) 1) ≤ 2046 := by
  rcases Nat.lt_or_ge exponent 308 with below | top
  · have large : 2 ≤ powerOfTen exponent :=
      Nat.le_trans (by decide : 2 ≤ 10 ^ 1) (Nat.pow_le_pow_right (by decide) positive)
    have short : (powerOfTen exponent).log2 < 1023 := by
      rw [Nat.log2_lt (by omega)]
      refine Nat.lt_of_le_of_lt (Nat.pow_le_pow_right (by decide) (Nat.le_of_lt_succ below)) ?_
      decide +kernel
    have digits : 1 ≤ (powerOfTen exponent).log2 := (Nat.le_log2 (by omega)).mpr large
    obtain ⟨lower, upper⟩ := exponentField_nearest (by omega) (Nat.le_of_lt_succ short)
    omega
  · obtain rfl : exponent = 308 := by omega
    decide +kernel

theorem isFinite_powerOfTen {exponent : Nat} (bounded : exponent ≤ 308) :
    (nearest false (powerOfTen exponent) 1).isFinite := by
  rcases Nat.eq_zero_or_pos exponent with rfl | positive
  · exact isFinite_nearest (by decide)
  · exact isFinite_iff_exponentField.mpr (exponentField_powerOfTen positive bounded).2

theorem isFinite_div_powerOfTen {exponent : Nat} (finite : a.isFinite) (positive : 0 < exponent)
    (bounded : exponent ≤ 308) : (a / nearest false (powerOfTen exponent) 1).isFinite := by
  obtain ⟨large, notFull⟩ := exponentField_powerOfTen positive bounded
  exact isFinite_div finite (atLeastTwo_of_exponentField large notFull)

end Binary64

end BackOfEnvelope
