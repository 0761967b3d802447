import BackOfEnvelope.NumberDisplay
import BackOfEnvelope.Proofs.Binary64Quotients
import BackOfEnvelope.Proofs.FixedDecimals

/-!
# Magnitude words and the digits in front of them

The word is chosen by the exact magnitude, and the digits are those of the number in units of
that word, rounded to the last place.  So the digits never fall below one in front of a word, and
they stay below a thousand unless the rounding carries: then they are exactly a thousand, and the
word is still the smaller one.
-/

namespace BackOfEnvelope

namespace NumberDisplay

open Binary64 (magnitude AtLeastTwo)

/-- The number that stands in front of the word, or alone. -/
def shownNumber? (text : String) : Option ℚ :=
  readExactly? (text.toList.takeWhile (· ≠ ' '))

/-- The word behind the number; empty if there is none. -/
def shownWord (text : String) : String :=
  String.ofList ((text.toList.dropWhile (· ≠ ' ')).drop 1)

/-- A number is read, it is below a thousand unless there is no larger word, and it is not below
one if there is a word. -/
def DigitsSuitWord (text : String) : Prop :=
  ∃ number, shownNumber? text = some number ∧
    (shownWord text ≠ "trillion" → |number| < 1000) ∧ (shownWord text ≠ "" → 1 ≤ |number|)

/-- The word for a magnitude. -/
def wordFor (size : ℚ) : String :=
  if 10 ^ 12 ≤ size then "trillion"
  else if 10 ^ 9 ≤ size then "billion"
  else if 10 ^ 6 ≤ size then "million"
  else if 10 ^ 3 ≤ size then "thousand"
  else ""

/-- The number whose digits are shown. -/
def inUnits (x : Float) : Float :=
  match magnitudeWord? x with
  | some (unit, _) => x / unit
  | none => x

theorem wordFor_eq_trillion_iff {size : ℚ} : wordFor size = "trillion" ↔ 10 ^ 12 ≤ size := by
  unfold wordFor
  split_ifs with trillion <;> simp [trillion]

variable {x unit : Float} {size : Nat}

/-- A number that holds the size of a unit exactly. -/
structure IsUnitOf (unit : Float) (size : Nat) : Prop where
  positive : 0 < size
  magnitude_eq : magnitude unit = size
  le_abs_iff : ∀ number : Float, number.isFinite → (unit ≤ number.abs ↔ size ≤ magnitude number)
  atLeastTwo : AtLeastTwo unit.toModel.unpack

theorem isUnitOf_of_unpack {mantissa places : Nat} {positive : 0 < mantissa}
    (unpacked : unit.toModel.unpack = .finite .positive mantissa (-places) positive)
    (exactly : mantissa = size * 2 ^ places) (large : 2 ≤ size) : IsUnitOf unit size := by
  have held : magnitude unit = size := by
    rw [magnitude, unpacked, Binary64.unpackedMagnitude, exactly, zpow_neg, zpow_natCast]
    push_cast
    rw [mul_assoc, mul_inv_cancel₀ (by positivity), mul_one]
  have long : places + 1 ≤ mantissa.log2 := by
    rw [Nat.le_log2 (Nat.ne_of_gt positive), exactly, Nat.pow_succ, Nat.mul_comm]
    exact Nat.mul_le_mul_right _ large
  refine ⟨Nat.zero_lt_of_lt large, held, fun number finite => ?_, ?_⟩
  · rw [Binary64.le_abs_iff unpacked finite, held]
  · rw [unpacked]
    change 2 ≤ (mantissa.log2 : ℤ) + 1 + -places
    omega

theorem isUnitOf_trillion : IsUnitOf 1e12 (10 ^ 12) :=
  @isUnitOf_of_unpack _ _ (10 ^ 12 * 2 ^ 13) 13 (by decide) rfl rfl (by decide)

theorem isUnitOf_billion : IsUnitOf 1e9 (10 ^ 9) :=
  @isUnitOf_of_unpack _ _ (10 ^ 9 * 2 ^ 23) 23 (by decide) rfl rfl (by decide)

theorem isUnitOf_million : IsUnitOf 1e6 (10 ^ 6) :=
  @isUnitOf_of_unpack _ _ (10 ^ 6 * 2 ^ 33) 33 (by decide) rfl rfl (by decide)

theorem isUnitOf_thousand : IsUnitOf 1e3 (10 ^ 3) :=
  @isUnitOf_of_unpack _ _ (10 ^ 3 * 2 ^ 43) 43 (by decide) rfl rfl (by decide)

theorem magnitudeWord?_eq (finite : x.isFinite) :
    magnitudeWord? x =
      if 10 ^ 12 ≤ magnitude x then some (1e12, "trillion")
      else if 10 ^ 9 ≤ magnitude x then some (1e9, "billion")
      else if 10 ^ 6 ≤ magnitude x then some (1e6, "million")
      else if 10 ^ 3 ≤ magnitude x then some (1e3, "thousand")
      else none := by
  have trillion := isUnitOf_trillion.le_abs_iff x finite
  have billion := isUnitOf_billion.le_abs_iff x finite
  have million := isUnitOf_million.le_abs_iff x finite
  have thousand := isUnitOf_thousand.le_abs_iff x finite
  simp only [Nat.cast_pow, Nat.cast_ofNat] at trillion billion million thousand
  simp only [magnitudeWord?, magnitudeWords, List.find?_cons, List.find?_nil, trillion, billion,
    million, thousand]
  split_ifs with isTrillion isBillion isMillion isThousand <;>
    simp only [decide_true, decide_false, *]

/-- Either the number is too small for a word, or it is counted in the unit of the word for its
magnitude. -/
theorem magnitudeWord?_cases (finite : x.isFinite) :
    (magnitudeWord? x = none ∧ wordFor (magnitude x) = "" ∧ magnitude x ≤ 1000) ∨
      ∃ unit size, magnitudeWord? x = some (unit, wordFor (magnitude x)) ∧ IsUnitOf unit size ∧
        size ≤ magnitude x ∧ wordFor (magnitude x) ≠ "" ∧
        (wordFor (magnitude x) ≠ "trillion" → magnitude x ≤ 1000 * size) := by
  rw [magnitudeWord?_eq finite]
  unfold wordFor
  -- Each unit but the first is chosen below the next larger one, a thousand times its size.
  split_ifs with trillion billion million thousand
  · exact .inr ⟨_, _, rfl, isUnitOf_trillion, by exact_mod_cast trillion, by decide, nofun⟩
  · refine .inr ⟨_, _, rfl, isUnitOf_billion, by exact_mod_cast billion, by decide, fun _ => ?_⟩
    push_cast
    linarith
  · refine .inr ⟨_, _, rfl, isUnitOf_million, by exact_mod_cast million, by decide, fun _ => ?_⟩
    push_cast
    linarith
  · refine .inr ⟨_, _, rfl, isUnitOf_thousand, by exact_mod_cast thousand, by decide, fun _ => ?_⟩
    push_cast
    linarith
  · exact .inl ⟨rfl, rfl, by linarith⟩

/-- The number in units is finite, and no rounding of the quotient takes it out of the range that
its word gives. -/
theorem magnitude_inUnits (finite : x.isFinite) :
    (inUnits x).isFinite ∧ (wordFor (magnitude x) ≠ "" → 1 ≤ magnitude (inUnits x)) ∧
      (wordFor (magnitude x) ≠ "trillion" → magnitude (inUnits x) ≤ 1000) := by
  unfold inUnits
  rcases magnitudeWord?_cases finite with
    ⟨chosen, noWord, small⟩ | ⟨unit, size, chosen, counted, reached, -, below⟩
  · rw [chosen]
    exact ⟨finite, fun word => absurd noWord word, fun _ => small⟩
  · rw [chosen]
    obtain ⟨nonzero, held, -, large⟩ := counted
    have positive : (0 : ℚ) < size := by exact_mod_cast nonzero
    refine ⟨Binary64.isFinite_div finite large, fun _ => ?_, fun word => ?_⟩
    · have atLeastOne : ((1 : Nat) : ℚ) ≤ magnitude x / magnitude unit := by
        rw [held, le_div_iff₀ positive, Nat.cast_one, one_mul]
        exact reached
      exact_mod_cast Binary64.natCast_le_magnitude_div finite large (by decide) atLeastOne
    · have atMost : magnitude x / magnitude unit ≤ (1000 : Nat) := by
        rw [held, div_le_iff₀ positive]
        exact_mod_cast below word
      exact_mod_cast Binary64.magnitude_div_le_natCast finite large (by decide) atMost

theorem toList_format (finite : x.isFinite) (precision : Nat) :
    (format (some x) precision).toList = (fixedDecimalText (inUnits x) precision).toList ++
      if wordFor (magnitude x) = "" then [] else ' ' :: (wordFor (magnitude x)).toList := by
  unfold format inUnits
  rcases magnitudeWord?_cases finite with
    ⟨chosen, noWord, -⟩ | ⟨unit, size, chosen, -, -, word, -⟩
  · simp only [chosen, noWord, if_true, List.append_nil]
  · simp only [chosen, if_neg word, String.toList_append, List.append_assoc]
    rfl

/-- A text is divided at its first space. -/
theorem shown_of_toList {text word : String} {digits : List Char} (noSpace : ' ' ∉ digits)
    (spelled : text.toList = digits ++ if word = "" then [] else ' ' :: word.toList) :
    shownNumber? text = readExactly? digits ∧ shownWord text = word := by
  have others : ∀ c ∈ digits, decide (c ≠ ' ') = true := by
    intro c member
    exact decide_eq_true (ne_of_mem_of_not_mem member noSpace)
  unfold shownNumber? shownWord
  rw [spelled, List.takeWhile_append_of_pos others, List.dropWhile_append_of_pos others]
  split
  next noWord => simp [noWord]
  next => simp

/-- What is read from the text of a finite number. -/
theorem exists_shownNumber?_format (finite : x.isFinite) (precision : Nat) :
    ∃ (m : Magnitude) (number : ℚ), shownNumber? (format (some x) precision) = some number ∧
      shownWord (format (some x) precision) = wordFor (magnitude x) ∧
      m.value = magnitude (inUnits x) ∧ |number| = m.roundedUnits precision / 10 ^ precision := by
  obtain ⟨m, number, value, read, rounded, noSpace⟩ :=
    exists_readExactly?_fixedDecimalText (magnitude_inUnits finite).1 precision
  obtain ⟨shown, word⟩ := shown_of_toList noSpace (toList_format finite precision)
  exact ⟨m, number, shown.trans read, word, value, rounded⟩

/-- What is shown is the number in units of its word, to half a unit of the last place.  The digits
suit the word, but where the rounding carries to a thousand and there is a larger word. -/
theorem digitsSuitWord_format_iff (finite : x.isFinite) (precision : Nat) :
    (DigitsSuitWord (format (some x) precision) ↔
        10 ^ 12 ≤ magnitude x ∨ magnitude (inUnits x) + 1 / (2 * 10 ^ precision) < 1000) ∧
      ∃ number, shownNumber? (format (some x) precision) = some number ∧
        shownWord (format (some x) precision) = wordFor (magnitude x) ∧
        abs (|number| - magnitude (inUnits x)) ≤ 1 / (2 * 10 ^ precision) ∧
        (wordFor (magnitude x) ≠ "" → 1 ≤ |number|) ∧
        (wordFor (magnitude x) ≠ "trillion" → |number| ≤ 1000) := by
  obtain ⟨-, atLeastOne, atMost⟩ := magnitude_inUnits finite
  obtain ⟨m, number, shown, word, value, rounded⟩ := exists_shownNumber?_format finite precision
  rw [← value] at atLeastOne atMost ⊢
  have near : abs (|number| - m.value) ≤ 1 / (2 * 10 ^ precision) := by
    rw [rounded]
    exact m.abs_roundedUnits_sub_le precision
  have reached : wordFor (magnitude x) ≠ "" → 1 ≤ |number| := by
    intro named
    rw [rounded]
    exact_mod_cast @Magnitude.le_roundedUnits m precision 1 (by exact_mod_cast atLeastOne named)
  have bounded : wordFor (magnitude x) ≠ "trillion" → |number| ≤ 1000 := by
    intro larger
    rw [rounded]
    exact_mod_cast @Magnitude.roundedUnits_le m precision 1000 (by exact_mod_cast atMost larger)
  have carries : |number| < 1000 ↔ m.value + 1 / (2 * 10 ^ precision) < 1000 := by
    rw [rounded]
    exact_mod_cast @Magnitude.roundedUnits_lt_iff m precision 1000 rfl
  refine ⟨?_, number, shown, word, near, reached, bounded⟩
  rw [← wordFor_eq_trillion_iff, ← carries]
  unfold DigitsSuitWord
  rw [shown, word]
  -- Only the bound from above can fail, and it is void for the last word.
  constructor
  · rintro ⟨other, same, suits, -⟩
    obtain rfl : number = other := Option.some.inj same
    exact or_iff_not_imp_left.mpr suits
  · intro suits
    exact ⟨number, rfl, or_iff_not_imp_left.mp suits, reached⟩

/-- A quarter above 999 is rounded down at no decimals. -/
theorem digitsSuitWord_format_below_carry :
    (999.25 : Float).isFinite ∧ DigitsSuitWord (format (some 999.25) 0) := by
  have finite : (999.25 : Float).isFinite := by decide
  have alone : magnitude (inUnits 999.25) = 999.25 := by
    have same : inUnits 999.25 = 999.25 := rfl
    have unpacked : (999.25 : Float).toModel.unpack =
        .finite .positive (3997 * 2 ^ 41) (-43) (by decide) := rfl
    rw [same, magnitude, unpacked, Binary64.unpackedMagnitude]
    norm_num
  refine ⟨finite, (digitsSuitWord_format_iff finite 0).1.mpr (.inr ?_)⟩
  rw [alone]
  norm_num

/-- What is missing to a thousand is less than half of the last place, and no word is shown. -/
theorem not_digitsSuitWord_format_of_carry :
    format (some 999.999) 2 = "1000.00" ∧ ¬ DigitsSuitWord (format (some 999.999) 2) := by
  have text : format (some 999.999) 2 = "1000.00" := by decide
  refine ⟨text, ?_⟩
  rw [text]
  rintro ⟨number, shown, below, -⟩
  have thousand : shownNumber? "1000.00" = some (100000 * 10 ^ (0 - 2 : ℤ)) := rfl
  have noWord : shownWord "1000.00" = "" := by decide
  rw [thousand] at shown
  rw [noWord, ← Option.some.inj shown] at below
  exact absurd (below (by decide)) (by norm_num)

end NumberDisplay

end BackOfEnvelope
