import BackOfEnvelope.NumberText
import BackOfEnvelope.Proofs.Binary64Values
import BackOfEnvelope.Proofs.NumeralGrammar

/-!
# Numbers with a fixed count of decimals

The text of a number with a fixed count of decimals is read back, without rounding, as the
multiple of the last place that is nearest to the number.  So it is on the same side of every
whole number as the number itself, and it reaches an even one from below exactly if the number
is at most half a unit of the last place away.
-/

namespace BackOfEnvelope

namespace DecimalLiteral

variable {whole fraction : List Char}

/-- The exact number that a literal spells. -/
def value (literal : DecimalLiteral) : ℚ :=
  digitsValue (literal.whole ++ literal.fraction) *
    10 ^ (literal.exponent - literal.fraction.length)

theorem read?_of_digits (digits : ∀ c ∈ whole, c.isDigit) (nonempty : whole ≠ []) :
    read? whole = some ⟨whole, [], 0⟩ := by
  have taken : whole.takeWhile Char.isDigit = whole := List.takeWhile_eq_self_iff.mpr digits
  have dropped : whole.dropWhile Char.isDigit = [] := List.dropWhile_eq_nil_iff.mpr digits
  simp only [read?, List.span_eq_takeWhile_dropWhile, taken, dropped]
  simp [nonempty, readExponent?]

theorem read?_of_point (digits : ∀ c ∈ whole, c.isDigit) (nonempty : whole ≠ [])
    (digitsBehind : ∀ c ∈ fraction, c.isDigit) :
    read? (whole ++ '.' :: fraction) = some ⟨whole, fraction, 0⟩ := by
  have taken : (whole ++ '.' :: fraction).takeWhile Char.isDigit = whole := by
    rw [List.takeWhile_append_of_pos digits, List.takeWhile_cons_of_neg (by decide),
      List.append_nil]
  have dropped : (whole ++ '.' :: fraction).dropWhile Char.isDigit = '.' :: fraction := by
    rw [List.dropWhile_append_of_pos digits, List.dropWhile_cons_of_neg (by decide)]
  have takenBehind : fraction.takeWhile Char.isDigit = fraction :=
    List.takeWhile_eq_self_iff.mpr digitsBehind
  have droppedBehind : fraction.dropWhile Char.isDigit = [] :=
    List.dropWhile_eq_nil_iff.mpr digitsBehind
  simp only [read?, List.span_eq_takeWhile_dropWhile, taken, dropped, takenBehind, droppedBehind]
  simp [nonempty, readExponent?]

end DecimalLiteral

/-- Read the whole text as a decimal number, without rounding it. -/
def readExactly? (text : List Char) : Option ℚ :=
  let (negative, unsigned) := splitSign text
  (DecimalLiteral.read? unsigned).map fun literal =>
    if negative then -literal.value else literal.value

theorem digitsValue_decimalSpelling (n : Nat) : digitsValue (decimalSpelling n) = n := by
  have spelled : decimalSpelling n = Nat.toDigits 10 n := Nat.toList_repr
  rw [spelled]
  exact Nat.ofDigitChars_ten_toDigits

theorem digitsValue_zeros_append (count : Nat) (digits : List Char) :
    digitsValue (List.replicate count '0' ++ digits) = digitsValue digits := by
  induction count with
  | zero => rfl
  | succ count ih => rw [List.replicate_succ, List.cons_append]; exact ih

/-- A number with a zero in front for every place that it does not reach. -/
def paddedSpelling (n places : Nat) : List Char :=
  List.replicate (places + 1 - (decimalSpelling n).length) '0' ++ decimalSpelling n

theorem isDigit_of_mem_paddedSpelling {n places : Nat} {c : Char}
    (member : c ∈ paddedSpelling n places) : c.isDigit := by
  rcases List.mem_append.mp member with zero | digit
  · rw [List.eq_of_mem_replicate zero]
    rfl
  · exact isDigit_of_mem_decimalSpelling digit

theorem lt_length_paddedSpelling (n places : Nat) : places < (paddedSpelling n places).length := by
  rw [paddedSpelling, List.length_append, List.length_replicate]
  omega

namespace Magnitude

/-- The number of units of the last place that is written. -/
def roundedUnits (m : Magnitude) (places : Nat) : Nat :=
  roundHalfEven (m.fraction.1 * powerOfTen places) m.fraction.2

/-- A magnitude is written with digits in front of the point, and as many behind it as there are
places. -/
theorem exists_fixedDecimals_eq (m : Magnitude) (places : Nat) :
    ∃ whole fraction, m.fixedDecimals places =
        whole ++ (if places = 0 then [] else '.' :: fraction) ∧
      whole ++ fraction = paddedSpelling (m.roundedUnits places) places ∧
      fraction.length = places ∧ whole ≠ [] ∧
      (∀ c ∈ whole, c.isDigit) ∧ ∀ c ∈ fraction, c.isDigit := by
  generalize padding : paddedSpelling (m.roundedUnits places) places = padded
  have long : places < padded.length := padding ▸ lt_length_paddedSpelling _ places
  have digits : ∀ c ∈ padded, c.isDigit := padding ▸ fun c => isDigit_of_mem_paddedSpelling
  refine ⟨padded.take (padded.length - places), padded.drop (padded.length - places), ?_,
    List.take_append_drop _ _, ?_, ?_, fun c member => digits c (List.mem_of_mem_take member),
    fun c member => digits c (List.mem_of_mem_drop member)⟩
  · have written : m.fixedDecimals places =
        if places = 0 then padded.take (padded.length - places)
        else padded.take (padded.length - places) ++
          '.' :: padded.drop (padded.length - places) := by
      subst padding
      rfl
    rw [written]
    split
    · rw [List.append_nil]
    · rfl
  · rw [List.length_drop]
    omega
  · rw [← List.length_pos_iff_ne_nil, List.length_take]
    omega

theorem exists_read?_fixedDecimals (m : Magnitude) (places : Nat) :
    ∃ literal, DecimalLiteral.read? (m.fixedDecimals places) = some literal ∧
      literal.value = m.roundedUnits places / 10 ^ places := by
  obtain ⟨whole, fraction, written, spelled, count, nonempty, before, behind⟩ :=
    m.exists_fixedDecimals_eq places
  have number : digitsValue (whole ++ fraction) = m.roundedUnits places := by
    rw [spelled, paddedSpelling, digitsValue_zeros_append, digitsValue_decimalSpelling]
  refine ⟨⟨whole, fraction, 0⟩, ?_, ?_⟩
  · rw [written]
    split
    next none =>
      obtain rfl : fraction = [] := List.eq_nil_of_length_eq_zero (count.trans none)
      rw [List.append_nil]
      exact DecimalLiteral.read?_of_digits before nonempty
    next => exact DecimalLiteral.read?_of_point before nonempty behind
  · rw [DecimalLiteral.value, number, count, zero_sub, zpow_neg, zpow_natCast, div_eq_mul_inv]

/-- A magnitude begins with a digit, and has digits and a point only. -/
theorem fixedDecimals_characters (m : Magnitude) (places : Nat) :
    (∃ c rest, m.fixedDecimals places = c :: rest ∧ c.isDigit) ∧
      ∀ c ∈ m.fixedDecimals places, c.isDigit ∨ c = '.' := by
  obtain ⟨whole, fraction, written, -, -, nonempty, before, behind⟩ :=
    m.exists_fixedDecimals_eq places
  obtain ⟨c, rest, rfl⟩ := List.exists_cons_of_ne_nil nonempty
  rw [written]
  refine ⟨⟨c, _, rfl, before c List.mem_cons_self⟩, ?_⟩
  intro other member
  rcases List.mem_append.mp member with inWhole | inRest
  · exact .inl (before other inWhole)
  · split at inRest
    · cases inRest
    · exact (List.mem_cons.mp inRest).symm.imp_left (behind other)

end Magnitude

section Rounding

variable {numerator denominator bound : Nat}

theorem le_roundHalfEven (positive : 0 < denominator) (below : denominator * bound ≤ numerator) :
    bound ≤ roundHalfEven numerator denominator := by
  rw [Nat.mul_comm] at below
  exact Nat.le_trans ((Nat.le_div_iff_mul_le positive).mpr below)
    (Binary64.roundHalfEven_bounds numerator denominator).1

/-- A half rounds up to an even number and not to its odd neighbour below. -/
theorem roundHalfEven_lt_iff (positive : 0 < denominator) (even : bound % 2 = 0) :
    roundHalfEven numerator denominator < bound ↔
      2 * numerator + denominator < 2 * (denominator * bound) := by
  have parts : numerator % denominator + denominator * (numerator / denominator) = numerator :=
    Nat.mod_add_div _ _
  have small : numerator % denominator < denominator := Nat.mod_lt _ positive
  obtain ⟨above, below⟩ := Binary64.roundHalfEven_bounds numerator denominator
  rcases Nat.lt_trichotomy (numerator / denominator + 1) bound with far | next | reached
  · have room : denominator * (numerator / denominator + 2) ≤ denominator * bound :=
      Nat.mul_le_mul_left _ far
    rw [Nat.mul_add] at room
    omega
  · -- The quotient is odd, so only a remainder below a half is dropped.
    have product : denominator * bound = denominator * (numerator / denominator) + denominator := by
      rw [← next, Nat.mul_add, Nat.mul_one]
    simp only [roundHalfEven]
    split
    · omega
    · split
      · omega
      · rw [if_neg (by omega)]
        omega
  · have product : denominator * bound ≤ denominator * (numerator / denominator) :=
      Nat.mul_le_mul_left _ (Nat.le_of_lt_succ reached)
    omega

theorem roundHalfEven_le (positive : 0 < denominator) (above : numerator ≤ denominator * bound) :
    roundHalfEven numerator denominator ≤ bound := by
  have parts : numerator % denominator + denominator * (numerator / denominator) = numerator :=
    Nat.mod_add_div _ _
  have bounded : numerator / denominator ≤ bound :=
    (Nat.div_le_div_right above).trans_eq (Nat.mul_div_cancel_left bound positive)
  rcases bounded.lt_or_eq with below | reached
  · exact Nat.le_trans (Binary64.roundHalfEven_bounds numerator denominator).2 below
  · have noRemainder : numerator % denominator = 0 := by
      rw [reached] at parts
      omega
    simp only [roundHalfEven, noRemainder, reached]
    rw [if_pos (by omega)]

/-- What is rounded off or added is at most a half. -/
theorem roundHalfEven_near (positive : 0 < denominator) :
    2 * (denominator * roundHalfEven numerator denominator) ≤ 2 * numerator + denominator ∧
      2 * numerator ≤ 2 * (denominator * roundHalfEven numerator denominator) + denominator := by
  have parts : numerator % denominator + denominator * (numerator / denominator) = numerator :=
    Nat.mod_add_div _ _
  have small : numerator % denominator < denominator := Nat.mod_lt _ positive
  have next : denominator * (numerator / denominator + 1) =
      denominator * (numerator / denominator) + denominator := Nat.mul_succ _ _
  simp only [roundHalfEven]
  split_ifs <;> omega

end Rounding

namespace Magnitude

variable {m : Magnitude} {places bound : Nat}

theorem le_roundedUnits (below : (bound : ℚ) ≤ m.value) :
    (bound : ℚ) ≤ m.roundedUnits places / 10 ^ places := by
  rw [← m.fraction_value, le_div_iff₀ (by exact_mod_cast m.fraction_pos)] at below
  rw [le_div_iff₀ (by positivity)]
  have whole : m.fraction.2 * bound ≤ m.fraction.1 := by
    rw [Nat.mul_comm]
    exact_mod_cast below
  have units : bound * powerOfTen places ≤ m.roundedUnits places := by
    refine le_roundHalfEven m.fraction_pos ?_
    rw [← Nat.mul_assoc]
    exact Nat.mul_le_mul_right _ whole
  exact_mod_cast units

theorem roundedUnits_le (above : m.value ≤ bound) :
    (m.roundedUnits places / 10 ^ places : ℚ) ≤ bound := by
  rw [← m.fraction_value, div_le_iff₀ (by exact_mod_cast m.fraction_pos)] at above
  rw [div_le_iff₀ (by positivity)]
  have whole : m.fraction.1 ≤ m.fraction.2 * bound := by
    rw [Nat.mul_comm]
    exact_mod_cast above
  have units : m.roundedUnits places ≤ bound * powerOfTen places := by
    refine roundHalfEven_le m.fraction_pos ?_
    rw [← Nat.mul_assoc]
    exact Nat.mul_le_mul_right _ whole
  exact_mod_cast units

/-- What is shown stays below an even number if more than half a unit of the last place is
missing. -/
theorem roundedUnits_lt_iff (even : bound % 2 = 0) :
    (m.roundedUnits places / 10 ^ places : ℚ) < bound ↔
      m.value + 1 / (2 * 10 ^ places) < bound := by
  have denominator : (0 : ℚ) < m.fraction.2 := by exact_mod_cast m.fraction_pos
  have evenUnits : bound * powerOfTen places % 2 = 0 := by
    rw [Nat.mul_mod, even, Nat.zero_mul, Nat.zero_mod]
  have units : m.roundedUnits places < bound * powerOfTen places ↔ _ :=
    roundHalfEven_lt_iff m.fraction_pos evenUnits
  rw [← @Nat.cast_lt ℚ, ← @Nat.cast_lt ℚ] at units
  push_cast [powerOfTen, Nat.pow_eq] at units
  rw [div_lt_iff₀ (by positivity), units, ← m.fraction_value,
    div_add_div _ _ denominator.ne' (by positivity), div_lt_iff₀ (by positivity)]
  ring_nf

/-- What is shown is the number to half a unit of the last place. -/
theorem abs_roundedUnits_sub_le (m : Magnitude) (places : Nat) :
    |m.roundedUnits places / 10 ^ places - m.value| ≤ 1 / (2 * 10 ^ places) := by
  have denominator : (0 : ℚ) < m.fraction.2 := by exact_mod_cast m.fraction_pos
  obtain ⟨above, below⟩ :=
    @roundHalfEven_near (m.fraction.1 * powerOfTen places) m.fraction.2 m.fraction_pos
  change 2 * (m.fraction.2 * m.roundedUnits places) ≤ _ at above
  change _ ≤ 2 * (m.fraction.2 * m.roundedUnits places) + _ at below
  rw [← @Nat.cast_le ℚ] at above below
  push_cast [powerOfTen, Nat.pow_eq] at above below
  rw [← m.fraction_value]
  have scaled : (m.roundedUnits places / 10 ^ places - m.fraction.1 / m.fraction.2 : ℚ) =
      (2 * (m.fraction.2 * m.roundedUnits places) - 2 * (m.fraction.1 * 10 ^ places)) /
        (2 * 10 ^ places * m.fraction.2) := by
    field_simp
  have half : (1 / (2 * 10 ^ places) : ℚ) = m.fraction.2 / (2 * 10 ^ places * m.fraction.2) := by
    field_simp
  rw [scaled, half, abs_div, abs_of_pos (by positivity : (0 : ℚ) < 2 * 10 ^ places * _)]
  gcongr
  exact abs_le.mpr ⟨by linarith, by linarith⟩

end Magnitude

/-- The text of a finite number has no space, and is read back as the written units. -/
theorem exists_readExactly?_fixedDecimalText {number : Float} (finite : number.isFinite)
    (places : Nat) :
    ∃ (m : Magnitude) (shown : ℚ), m.value = Binary64.magnitude number ∧
      readExactly? (fixedDecimalText number places).toList = some shown ∧
      |shown| = m.roundedUnits places / 10 ^ places ∧
      ' ' ∉ (fixedDecimalText number places).toList := by
  obtain ⟨negative, m, classified, value⟩ := Magnitude.classify_of_isFinite finite
  obtain ⟨literal, read, exactly⟩ := m.exists_read?_fixedDecimals places
  obtain ⟨⟨c, rest, written, digit⟩, characters⟩ := m.fixedDecimals_characters places
  have noSpace : ' ' ∉ m.fixedDecimals places := by
    intro member
    rcases characters ' ' member with isDigit | isPoint
    · cases isDigit
    · cases isPoint
  have nonnegative : (0 : ℚ) ≤ m.roundedUnits places / 10 ^ places := by positivity
  cases negative with
  | false =>
      have text : (fixedDecimalText number places).toList = m.fixedDecimals places := by
        simp [fixedDecimalText, classified]
      have unsigned : splitSign (m.fixedDecimals places) = (false, m.fixedDecimals places) := by
        rw [written]
        exact NumericValue.splitSign_of_ne (NumericValue.ne_of_isDigit digit rfl)
          (NumericValue.ne_of_isDigit digit rfl)
      refine ⟨m, literal.value, value, ?_, ?_, ?_⟩
      · simp [text, readExactly?, unsigned, read]
      · rw [exactly, abs_of_nonneg nonnegative]
      · rwa [text]
  | true =>
      have text : (fixedDecimalText number places).toList = '-' :: m.fixedDecimals places := by
        simp [fixedDecimalText, classified]
      refine ⟨m, -literal.value, value, ?_, ?_, ?_⟩
      · simp [text, readExactly?, splitSign, read]
      · rw [exactly, abs_neg, abs_of_nonneg nonnegative]
      · simp [text, noSpace]

end BackOfEnvelope
