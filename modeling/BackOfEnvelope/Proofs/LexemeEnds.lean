import BackOfEnvelope.Proofs.ExpressionPlaces
import BackOfEnvelope.Proofs.TextPieces
import Mathlib.Data.Bool.AllAny

/-!
# Ends of lexemes

Where a lexeme ends depends on the characters behind it: an exponent belongs to a number only if it
has a digit, and a second star to the first.  So a lexeme can grow if something is put behind it,
but it stays as it is if what stands behind it is cut off somewhere or goes on with white space
there, because no lexeme holds white space.
-/

namespace BackOfEnvelope

namespace ExpressionToken

variable {first c mark : Char} {text rest tail after front more lead digits : List Char}

section WhiteSpace

/-- A text with nothing or white space in front of it. -/
def BeginsBlank (text : List Char) : Prop :=
  ∀ c, text.head? = some c → isWhiteSpace c

theorem isWhiteSpace_of_isNumeralCharacter (numeral : isNumeralCharacter c) :
    isWhiteSpace c = false := by
  by_cases point : c = '.'
  · subst point
    rfl
  · have digit : c.isDigit := by simpa [isNumeralCharacter, point] using numeral
    exact isWhiteSpace_of_isDigit digit

theorem isWhiteSpace_of_isNameCharacter (isName : isNameCharacter c) :
    isWhiteSpace c = false := by
  by_cases underscore : c = '_'
  · subst underscore
    rfl
  · have ascii : (65 ≤ c.toNat ∧ c.toNat ≤ 90 ∨ 97 ≤ c.toNat ∧ c.toNat ≤ 122) ∨
        48 ≤ c.toNat ∧ c.toNat ≤ 57 := by
      delta isNameCharacter Char.isAlphanum Char.isAlpha Char.isUpper Char.isLower at isName
      simpa [underscore, Char.isDigit, UInt32.le_iff_toNat_le] using isName
    exact isWhiteSpace_eq_false_of_ascii (by omega) (by omega)

/-- The character behind what was cut off, if there is one, either stood there before or is white
space. -/
theorem head?_cut (isFront : front <+: after) (blank : BeginsBlank more)
    (isHead : (front ++ more).head? = some c) : after.head? = some c ∨ isWhiteSpace c := by
  cases front with
  | nil => exact .inr (blank c isHead)
  | cons d front =>
      obtain ⟨cutOff, rfl⟩ := isFront
      exact .inl isHead

/-- What is visible reaches no further than the place of the cut. -/
theorem prefix_of_visible {opening : List Char} (visible : ∀ c ∈ opening, isWhiteSpace c = false)
    (blank : BeginsBlank more) (begins : opening <+: front ++ more) : opening <+: front := by
  obtain ⟨behind, same⟩ := begins
  obtain ⟨others, inFront, -⟩ | ⟨others, inOpening, inMore⟩ := List.append_eq_append_iff.mp same
  · exact ⟨others, inFront.symm⟩
  · cases others with
    | nil => simp [inOpening]
    | cons c others =>
        have white : isWhiteSpace c := blank c (by simp [inMore])
        rw [visible c (by simp [inOpening])] at white
        cases white

end WhiteSpace

section Exponents

/-- An exponent up to its digits. -/
inductive IsLead : List Char → Prop
  | unsigned {mark : Char} (isMark : mark = 'e' ∨ mark = 'E') : IsLead [mark]
  | signed {mark sign : Char} (isMark : mark = 'e' ∨ mark = 'E')
      (isSign : sign = '+' ∨ sign = '-') : IsLead [mark, sign]

theorem IsLead.visible (isLead : IsLead lead) : ∀ c ∈ lead, isWhiteSpace c = false := by
  cases isLead with
  | unsigned isMark =>
      obtain rfl | rfl := isMark <;> exact List.all_iff_forall_prop.mp (by decide)
  | signed isMark isSign =>
      obtain rfl | rfl := isMark <;> obtain rfl | rfl := isSign <;>
        exact List.all_iff_forall_prop.mp (by decide)

theorem takeWhile_eq_iff {p : Char → Bool} :
    (tail ++ after).takeWhile p = tail ↔
      (∀ c ∈ tail, p c) ∧ ∀ c, after.head? = some c → ¬ p c := by
  induction tail with
  | nil =>
      cases after with
      | nil => simp
      | cons d after => by_cases holds : p d <;> simp [holds]
  | cons d tail ih =>
      by_cases holds : p d
      · simp [holds, ih]
      · simp [holds]

/-- Digits behind a mark and maybe a sign are an exponent. -/
theorem leadingExponent_of_digits (isLead : IsLead lead) (someDigits : digits ≠ [])
    (all : ∀ c ∈ digits, c.isDigit) (stops : ∀ c, after.head? = some c → ¬ c.isDigit) :
    leadingExponent (lead ++ (digits ++ after)) = lead ++ digits := by
  have taken : (digits ++ after).takeWhile Char.isDigit = digits :=
    takeWhile_eq_iff.mpr ⟨all, stops⟩
  cases isLead with
  | unsigned isMark =>
      obtain ⟨d, digits, rfl⟩ := List.exists_cons_of_ne_nil someDigits
      have noSign : ¬ (d = '+' ∨ d = '-') := by
        rintro (rfl | rfl)
        · exact absurd (all '+' List.mem_cons_self) (by decide)
        · exact absurd (all '-' List.mem_cons_self) (by decide)
      rw [List.cons_append] at taken
      simp [leadingExponent, isMark, noSign, taken]
  | signed isMark isSign =>
      simp [leadingExponent, isMark, isSign, taken, someDigits]

theorem leadingExponent_cases (text : List Char) :
    leadingExponent text = [] ∨ ∃ lead digits after, text = lead ++ (digits ++ after) ∧
      IsLead lead ∧ digits ≠ [] ∧ (∀ c ∈ digits, c.isDigit) ∧
      ∀ c, after.head? = some c → ¬ c.isDigit := by
  have divided : ∀ lead rest, IsLead lead → rest.takeWhile Char.isDigit ≠ [] →
      ∃ digits after, lead ++ rest = lead ++ (digits ++ after) ∧ digits ≠ [] ∧
        (∀ c ∈ digits, c.isDigit) ∧ ∀ c, after.head? = some c → ¬ c.isDigit := by
    intro lead rest isLead someDigits
    have whole := List.takeWhile_append_dropWhile (p := Char.isDigit) (l := rest)
    obtain ⟨all, stops⟩ := takeWhile_eq_iff.mp (congrArg (List.takeWhile Char.isDigit) whole)
    exact ⟨_, _, congrArg (lead ++ ·) whole.symm, someDigits, all, stops⟩
  unfold leadingExponent
  split
  · next mark sign rest =>
      split
      · next isMark =>
          have isMark : mark = 'e' ∨ mark = 'E' := by simpa using isMark
          split
          · next isSign =>
              have isLead : IsLead [mark, sign] := .signed isMark (by simpa using isSign)
              dsimp only
              split
              · exact .inl rfl
              · next someDigits =>
                  obtain ⟨digits, after, same, found⟩ :=
                    divided _ rest isLead (by simpa using someDigits)
                  exact .inr ⟨_, digits, after, same, isLead, found⟩
          · have isLead : IsLead [mark] := .unsigned isMark
            dsimp only
            split
            · exact .inl rfl
            · next someDigits =>
                obtain ⟨digits, after, same, found⟩ :=
                  divided _ (sign :: rest) isLead (by simpa using someDigits)
                exact .inr ⟨_, digits, after, same, isLead, found⟩
      · exact .inl rfl
  · exact .inl rfl

/-- There is an exponent just if a digit follows a mark and maybe a sign. -/
theorem leadingExponent_ne_nil_iff :
    leadingExponent text ≠ [] ↔ ∃ lead digit, IsLead lead ∧ digit.isDigit ∧
      lead ++ [digit] <+: text := by
  constructor
  · intro someExponent
    obtain ⟨lead, digits, after, rfl, isLead, someDigits, all, -⟩ :=
      (leadingExponent_cases text).resolve_left someExponent
    obtain ⟨digit, digits, rfl⟩ := List.exists_cons_of_ne_nil someDigits
    exact ⟨lead, digit, isLead, all digit List.mem_cons_self, digits ++ after, by simp⟩
  · rintro ⟨lead, digit, isLead, isDigit, rest, rfl⟩
    have whole := List.takeWhile_append_dropWhile (p := Char.isDigit) (l := digit :: rest)
    have someDigits : (digit :: rest).takeWhile Char.isDigit ≠ [] := by simp [isDigit]
    obtain ⟨all, stops⟩ := takeWhile_eq_iff.mp (congrArg (List.takeWhile Char.isDigit) whole)
    have exponent := leadingExponent_of_digits isLead someDigits all stops
    rw [whole] at exponent
    rw [List.append_assoc, List.singleton_append, exponent]
    simp [someDigits]

theorem leadingExponent_visible : ∀ c ∈ leadingExponent text, isWhiteSpace c = false := by
  obtain none | ⟨lead, digits, after, rfl, isLead, someDigits, all, stops⟩ :=
    leadingExponent_cases text
  · rw [none]
    nofun
  · rw [leadingExponent_of_digits isLead someDigits all stops, List.forall_mem_append]
    exact ⟨isLead.visible, fun c member => isWhiteSpace_of_isDigit (all c member)⟩

/-- An exponent, or that there is none, stays as it is if the text behind it is cut off. -/
theorem leadingExponent_cut (same : leadingExponent (tail ++ after) = tail)
    (isFront : front <+: after) (blank : BeginsBlank more) :
    leadingExponent (tail ++ (front ++ more)) = tail := by
  obtain none | ⟨lead, digits, rest, divided, isLead, someDigits, all, stops⟩ :=
    leadingExponent_cases (tail ++ after)
  · obtain rfl : tail = [] := same.symm.trans none
    refine Classical.byContradiction fun someExponent => ?_
    obtain ⟨lead, digit, isLead, isDigit, begins⟩ := leadingExponent_ne_nil_iff.mp someExponent
    have visible : ∀ c ∈ lead ++ [digit], isWhiteSpace c = false := by
      rw [List.forall_mem_append, List.forall_mem_singleton]
      exact ⟨isLead.visible, isWhiteSpace_of_isDigit isDigit⟩
    have inAfter := (prefix_of_visible visible blank begins).trans isFront
    exact leadingExponent_ne_nil_iff.mpr ⟨lead, digit, isLead, isDigit, inAfter⟩ same
  · have exponent := leadingExponent_of_digits isLead someDigits all stops
    rw [← divided, same] at exponent
    obtain rfl := exponent
    obtain rfl : after = rest := by simpa using divided
    rw [List.append_assoc]
    refine leadingExponent_of_digits isLead someDigits all ?_
    intro c isHead isDigit
    obtain stood | white := head?_cut isFront blank isHead
    · exact stops c stood isDigit
    · rw [isWhiteSpace_of_isDigit isDigit] at white
      cases white

end Exponents

section Lexemes

/-- A run of characters of one class stays as it is if the text behind it is cut off. -/
theorem takeWhile_cut {p : Char → Bool} (same : (tail ++ after).takeWhile p = tail)
    (visible : ∀ c, p c → isWhiteSpace c = false) (isFront : front <+: after)
    (blank : BeginsBlank more) : (tail ++ (front ++ more)).takeWhile p = tail := by
  obtain ⟨all, stops⟩ := takeWhile_eq_iff.mp same
  refine takeWhile_eq_iff.mpr ⟨all, ?_⟩
  intro c isHead holds
  obtain stood | white := head?_cut isFront blank isHead
  · exact stops c stood holds
  · rw [visible c holds] at white
    cases white

/-- Numbers are numeral characters and an exponent. -/
theorem lexemeTail_numeral_iff (isNumeral : isNumeralCharacter first) :
    lexemeTail first (tail ++ after) = tail ↔ ∃ numeral exponent, tail = numeral ++ exponent ∧
      (numeral ++ (exponent ++ after)).takeWhile isNumeralCharacter = numeral ∧
      leadingExponent (exponent ++ after) = exponent := by
  rw [lexemeTail, if_pos isNumeral]
  constructor
  · intro same
    have whole := List.takeWhile_append_dropWhile (p := isNumeralCharacter) (l := tail ++ after)
    generalize taken : (tail ++ after).takeWhile isNumeralCharacter = numeral at same whole
    generalize (tail ++ after).dropWhile isNumeralCharacter = behind at whole
    have dropped : (tail ++ after).drop numeral.length = behind := by
      rw [← whole, List.drop_left]
    simp only [dropped] at same
    have divided : behind = leadingExponent behind ++ after := by
      rwa [← same, List.append_assoc, List.append_cancel_left_eq] at whole
    refine ⟨numeral, leadingExponent behind, same.symm, ?_, ?_⟩
    · rw [← divided, whole, taken]
    · rw [← divided]
  · rintro ⟨numeral, exponent, rfl, taken, isExponent⟩
    rw [List.append_assoc]
    simp only [taken, List.drop_left, isExponent]

theorem lexemeTail_visible : ∀ c ∈ lexemeTail first rest, isWhiteSpace c = false := by
  unfold lexemeTail
  split
  · dsimp only
    rw [List.forall_mem_append]
    refine ⟨?_, leadingExponent_visible⟩
    intro c member
    exact isWhiteSpace_of_isNumeralCharacter (List.all_eq_true.mp List.all_takeWhile c member)
  · split
    · intro c member
      exact isWhiteSpace_of_isNameCharacter (List.all_eq_true.mp List.all_takeWhile c member)
    · split <;> exact List.all_iff_forall_prop.mp (by decide)

/-- A lexeme stays as it is if the text behind it is cut off, or goes on with white space at the
place of the cut. -/
theorem lexemeTail_cut (same : lexemeTail first (tail ++ after) = tail)
    (isFront : front <+: after) (blank : BeginsBlank more) :
    lexemeTail first (tail ++ (front ++ more)) = tail := by
  by_cases isNumeral : isNumeralCharacter first
  · obtain ⟨numeral, exponent, rfl, taken, isExponent⟩ :=
      (lexemeTail_numeral_iff isNumeral).mp same
    refine (lexemeTail_numeral_iff isNumeral).mpr ⟨numeral, exponent, rfl, ?_, ?_⟩
    · rw [← List.append_assoc exponent]
      exact takeWhile_cut taken (fun _ => isWhiteSpace_of_isNumeralCharacter)
        ((List.prefix_append_right_inj exponent).mpr isFront) blank
    · exact leadingExponent_cut isExponent isFront blank
  · by_cases startsName : startsName first
    · simp only [lexemeTail, isNumeral, startsName] at same ⊢
      exact takeWhile_cut same (fun _ => isWhiteSpace_of_isNameCharacter) isFront blank
    · simp only [lexemeTail, isNumeral, startsName, Bool.false_eq_true, if_false] at same ⊢
      cases tail with
      | nil =>
          rw [List.nil_append, ite_eq_right_iff] at same ⊢
          intro stars
          simp only [Bool.and_eq_true, decide_eq_true_eq, beq_iff_eq] at same stars
          obtain stood | white := head?_cut isFront blank stars.2
          · cases same ⟨stars.1, stood⟩
          · cases white
      | cons c tail => simpa using same

end Lexemes

end ExpressionToken

end BackOfEnvelope
