import BackOfEnvelope.NumericValue
import BackOfEnvelope.Proofs.TextPieces
import Mathlib.Data.Bool.AllAny
import Mathlib.Data.List.TakeDrop

/-!
# The grammar of numerals

A text stands for a number if, without the white space at its ends, it is a numeral: an optional
sign with a word or with decimal digits behind it, where single underscores may separate the
digits.  Reading looks at the neighbours of the underscores first, takes the underscores away and
reads what is left.  The two steps together accept the numerals and nothing else, because taking
the underscores away keeps the division of a text into runs of digits.
-/

namespace BackOfEnvelope

namespace NumericValue

/-- Decimal digits with at most one underscore between two of them. -/
inductive IsDigits : List Char → Prop
  | single {c : Char} (digit : c.isDigit) : IsDigits [c]
  | cons {c : Char} {rest : List Char} (digit : c.isDigit) (others : IsDigits rest) :
      IsDigits (c :: rest)
  | separated {c : Char} {rest : List Char} (digit : c.isDigit) (others : IsDigits rest) :
      IsDigits (c :: '_' :: rest)

/-- A sign or nothing. -/
inductive IsSign : List Char → Prop
  | empty : IsSign []
  | plus : IsSign ['+']
  | minus : IsSign ['-']

/-- Digits with a point in front of them, behind them, between them or without one. -/
inductive IsMantissa : List Char → Prop
  | whole {digits : List Char} (isWhole : IsDigits digits) : IsMantissa digits
  | point {digits : List Char} (isWhole : IsDigits digits) : IsMantissa (digits ++ ['.'])
  | both {digits fraction : List Char} (isWhole : IsDigits digits)
      (isFraction : IsDigits fraction) : IsMantissa (digits ++ '.' :: fraction)
  | fraction {fraction : List Char} (isFraction : IsDigits fraction) :
      IsMantissa ('.' :: fraction)

/-- An exponent or nothing. -/
inductive IsExponent : List Char → Prop
  | empty : IsExponent []
  | marked {mark : Char} {sign digits : List Char} (isMark : mark = 'e' ∨ mark = 'E')
      (isSign : IsSign sign) (isDigits : IsDigits digits) : IsExponent (mark :: (sign ++ digits))

/-- One of the words for numbers without digits, in any case. -/
def IsWord (text : List Char) : Prop :=
  String.ofList (text.map Char.toLower) ∈ ["inf", "infinity", "nan"]

inductive IsNumeral : List Char → Prop
  | word {sign word : List Char} (isSign : IsSign sign) (isWord : IsWord word) :
      IsNumeral (sign ++ word)
  | decimal {sign mantissa exponent : List Char} (isSign : IsSign sign)
      (isMantissa : IsMantissa mantissa) (isExponent : IsExponent exponent) :
      IsNumeral (sign ++ (mantissa ++ exponent))

/-- A text without its underscores. -/
def withoutSeparators (text : List Char) : List Char :=
  text.filter fun c => c ≠ '_'

def isDigitOrSeparator (c : Char) : Bool :=
  c.isDigit || c = '_'

variable {c : Char} {behindDigit : Bool} {text rest run after word sign digits : List Char}

section Separators

theorem withoutSeparators_append (front back : List Char) :
    withoutSeparators (front ++ back) = withoutSeparators front ++ withoutSeparators back :=
  List.filter_append ..

theorem withoutSeparators_cons (other : c ≠ '_') :
    withoutSeparators (c :: rest) = c :: withoutSeparators rest := by
  simp [withoutSeparators, other]

theorem withoutSeparators_of_notMem (absent : '_' ∉ text) : withoutSeparators text = text := by
  apply List.filter_eq_self.mpr
  rintro c member
  simpa using ne_of_mem_of_not_mem member absent

theorem mem_withoutSeparators_iff : c ∈ withoutSeparators text ↔ c ∈ text ∧ c ≠ '_' := by
  simp [withoutSeparators]

theorem underscore_notMem_withoutSeparators (text : List Char) :
    '_' ∉ withoutSeparators text :=
  fun member => (mem_withoutSeparators_iff.mp member).2 rfl

theorem isDigit_of_mem_withoutSeparators (all : ∀ c ∈ text, isDigitOrSeparator c) :
    ∀ c ∈ withoutSeparators text, c.isDigit := by
  intro c member
  obtain ⟨inText, other⟩ := mem_withoutSeparators_iff.mp member
  simpa [isDigitOrSeparator, other] using all c inText

/-- A digit is no other sign of a numeral. -/
theorem ne_of_isDigit {other : Char} (digit : c.isDigit) (noDigit : other.isDigit = false) :
    c ≠ other := by
  rintro rfl
  rw [noDigit] at digit
  cases digit

theorem separatesDigits_cons (other : c ≠ '_') :
    separatesDigits behindDigit (c :: rest) = separatesDigits c.isDigit rest := by
  rw [separatesDigits, if_neg other]

theorem separatesDigits_underscore :
    separatesDigits behindDigit ('_' :: rest) ↔
      behindDigit ∧ (∃ c, rest.head? = some c ∧ c.isDigit) ∧ separatesDigits false rest := by
  cases rest <;> simp [separatesDigits, and_assoc]

/-- What stands in front of a text matters only for a digit or an underscore. -/
theorem separatesDigits_of_head? (stops : ∀ c, rest.head? = some c → ¬ isDigitOrSeparator c) :
    separatesDigits behindDigit rest = separatesDigits false rest := by
  cases rest with
  | nil => rfl
  | cons c rest =>
      have other : c ≠ '_' := by
        rintro rfl
        exact stops '_' rfl rfl
      rw [separatesDigits_cons other, separatesDigits_cons other]

theorem separatesDigits_of_notMem (absent : '_' ∉ text) : separatesDigits behindDigit text := by
  induction text generalizing behindDigit with
  | nil => rfl
  | cons c rest ih =>
      rw [List.mem_cons, not_or] at absent
      rw [separatesDigits_cons (Ne.symm absent.1)]
      exact ih absent.2

/-- Without digits there is nothing to separate. -/
theorem notMem_of_separatesDigits (noDigits : ∀ c ∈ text, c.isDigit = false)
    (separates : separatesDigits false text) : '_' ∉ text := by
  induction text with
  | nil => exact List.not_mem_nil
  | cons c rest ih =>
      rw [List.forall_mem_cons] at noDigits
      by_cases underscore : c = '_'
      · subst underscore
        cases (separatesDigits_underscore.mp separates).1
      · rw [separatesDigits_cons underscore, noDigits.1] at separates
        rw [List.mem_cons, not_or]
        exact ⟨Ne.symm underscore, ih noDigits.2 separates⟩

end Separators

section Runs

theorem isDigits_cons_iff (digit : c.isDigit) :
    IsDigits (c :: rest) ↔
      rest = [] ∨ IsDigits rest ∨ ∃ others, rest = '_' :: others ∧ IsDigits others := by
  constructor
  · rintro (_ | ⟨_, others⟩ | ⟨_, others⟩)
    · exact .inl rfl
    · exact .inr (.inl others)
    · exact .inr (.inr ⟨_, rfl, others⟩)
  · rintro (rfl | others | ⟨others, rfl, isDigits⟩)
    · exact .single digit
    · exact .cons digit others
    · exact .separated digit isDigits

theorem IsDigits.exists_cons (isDigits : IsDigits digits) :
    ∃ c rest, digits = c :: rest ∧ c.isDigit := by
  cases isDigits with
  | single digit => exact ⟨_, _, rfl, digit⟩
  | cons digit _ => exact ⟨_, _, rfl, digit⟩
  | separated digit _ => exact ⟨_, _, rfl, digit⟩

theorem IsDigits.ne_nil (isDigits : IsDigits digits) : digits ≠ [] := by
  obtain ⟨c, rest, rfl, -⟩ := isDigits.exists_cons
  exact List.cons_ne_nil c rest

theorem IsDigits.all (isDigits : IsDigits digits) :
    ∀ c ∈ digits, isDigitOrSeparator c := by
  have ofDigit : ∀ c : Char, c.isDigit → isDigitOrSeparator c := by
    intro c digit
    simp [isDigitOrSeparator, digit]
  induction isDigits with
  | single digit => simpa using ofDigit _ digit
  | cons digit _ ih => exact List.forall_mem_cons.mpr ⟨ofDigit _ digit, ih⟩
  | separated digit _ ih =>
      exact List.forall_mem_cons.mpr ⟨ofDigit _ digit, List.forall_mem_cons.mpr ⟨rfl, ih⟩⟩

/-- Digits are never only underscores. -/
theorem IsDigits.withoutSeparators_ne_nil (isDigits : IsDigits digits) :
    withoutSeparators digits ≠ [] := by
  obtain ⟨c, rest, rfl, digit⟩ := isDigits.exists_cons
  rw [withoutSeparators_cons (ne_of_isDigit digit rfl)]
  exact List.cons_ne_nil _ _

/-- Digits or nothing. -/
def IsRun (run : List Char) : Prop :=
  run = [] ∨ IsDigits run

theorem IsRun.withoutSeparators_ne_nil_iff (isRun : IsRun run) :
    withoutSeparators run ≠ [] ↔ run ≠ [] := by
  obtain rfl | isDigits := isRun
  · simp [withoutSeparators]
  · simp [isDigits.withoutSeparators_ne_nil, isDigits.ne_nil]

/-- A text is divided behind the digits and underscores with which it begins. -/
structure Leads (run rest : List Char) : Prop where
  all : ∀ c ∈ run, isDigitOrSeparator c
  stops : ∀ c, rest.head? = some c → ¬ isDigitOrSeparator c

theorem exists_leads (text : List Char) : ∃ run rest, text = run ++ rest ∧ Leads run rest := by
  refine ⟨text.takeWhile isDigitOrSeparator, text.dropWhile isDigitOrSeparator,
    List.takeWhile_append_dropWhile.symm, List.all_eq_true.mp List.all_takeWhile, ?_⟩
  intro c isHead
  have stopped := List.head?_dropWhile_not isDigitOrSeparator text
  rw [isHead] at stopped
  simpa using stopped

theorem IsDigits.leads (isDigits : IsDigits digits)
    (stops : ∀ c, rest.head? = some c → ¬ isDigitOrSeparator c) : Leads digits rest :=
  ⟨isDigits.all, stops⟩

theorem IsRun.leads (isRun : IsRun run)
    (stops : ∀ c, rest.head? = some c → ¬ isDigitOrSeparator c) : Leads run rest := by
  obtain rfl | isDigits := isRun
  · exact ⟨nofun, stops⟩
  · exact isDigits.leads stops

/-- Underscores separate digits just if they do so in the run in front and in the rest.  A run
behind a digit may begin with an underscore. -/
theorem Leads.separatesDigits_iff (leads : Leads run rest) :
    separatesDigits behindDigit (run ++ rest) ↔
      (IsRun run ∨ behindDigit ∧ ∃ others, run = '_' :: others ∧ IsDigits others) ∧
        separatesDigits false rest := by
  obtain ⟨all, stops⟩ := leads
  induction run generalizing behindDigit with
  | nil => simp [separatesDigits_of_head? stops, IsRun]
  | cons c run ih =>
      obtain ⟨here, others⟩ := List.forall_mem_cons.mp all
      by_cases digit : c.isDigit
      · have other : c ≠ '_' := ne_of_isDigit digit rfl
        rw [List.cons_append, separatesDigits_cons other, digit, ih others]
        simp [IsRun, isDigits_cons_iff digit, other, or_assoc]
      · obtain rfl : c = '_' := by simpa [isDigitOrSeparator, digit] using here
        have noRun : ¬ IsRun ('_' :: run) := by
          rintro (empty | isDigits)
          · cases empty
          · obtain ⟨c, rest, same, digit⟩ := isDigits.exists_cons
            cases same
            cases digit
        have digitBehind : (∃ c, (run ++ rest).head? = some c ∧ c.isDigit) ∧ IsRun run ↔
            IsDigits run := by
          constructor
          · rintro ⟨⟨c, isHead, digit⟩, rfl | isDigits⟩
            · exact absurd (by simp [isDigitOrSeparator, digit]) (stops c isHead)
            · exact isDigits
          · intro isDigits
            obtain ⟨c, others, rfl, digit⟩ := isDigits.exists_cons
            exact ⟨⟨c, rfl, digit⟩, .inr isDigits⟩
        rw [List.cons_append, separatesDigits_underscore, ih others]
        simp only [noRun, Bool.false_eq_true, false_and, or_false, false_or, ← digitBehind,
          List.cons.injEq, true_and, exists_eq_left', and_assoc]

theorem Leads.separatesDigits_false_iff (leads : Leads run rest) :
    separatesDigits false (run ++ rest) ↔ IsRun run ∧ separatesDigits false rest := by
  simp [leads.separatesDigits_iff]

/-- Without underscores the text is divided at the same place. -/
theorem Leads.span_withoutSeparators (leads : Leads run rest) :
    (withoutSeparators (run ++ rest)).span Char.isDigit =
      (withoutSeparators run, withoutSeparators rest) := by
  obtain ⟨all, stops⟩ := leads
  have digits : ∀ c ∈ withoutSeparators run, c.isDigit := isDigit_of_mem_withoutSeparators all
  have stopsBare : (withoutSeparators rest).takeWhile Char.isDigit = [] ∧
      (withoutSeparators rest).dropWhile Char.isDigit = withoutSeparators rest := by
    cases rest with
    | nil => exact ⟨rfl, rfl⟩
    | cons c rest =>
        have neither : c.isDigit = false ∧ c ≠ '_' := by
          simpa [isDigitOrSeparator] using stops c rfl
        simp [withoutSeparators_cons neither.2, neither.1]
  rw [List.span_eq_takeWhile_dropWhile, withoutSeparators_append,
    List.takeWhile_append_of_pos digits, List.dropWhile_append_of_pos digits, stopsBare.1,
    stopsBare.2, List.append_nil]

end Runs

section Signs

theorem splitSign_of_ne (notMinus : c ≠ '-') (notPlus : c ≠ '+') :
    splitSign (c :: rest) = (false, c :: rest) := by
  unfold splitSign
  split
  · next same => exact absurd (List.cons.inj same).1 notMinus
  · next same => exact absurd (List.cons.inj same).1 notPlus
  · rfl

/-- A sign is split off if the rest does not look like one. -/
theorem IsSign.exists_splitSign (isSign : IsSign sign) (notMinus : c ≠ '-') (notPlus : c ≠ '+')
    (rest : List Char) :
    ∃ negative, splitSign (sign ++ c :: rest) = (negative, c :: rest) := by
  cases isSign with
  | empty => exact ⟨false, splitSign_of_ne notMinus notPlus⟩
  | plus => exact ⟨false, rfl⟩
  | minus => exact ⟨true, rfl⟩

theorem IsSign.withoutSeparators_append (isSign : IsSign sign) (rest : List Char) :
    withoutSeparators (sign ++ rest) = sign ++ withoutSeparators rest := by
  cases isSign <;> rfl

theorem IsSign.separatesDigits_append (isSign : IsSign sign) (rest : List Char) :
    separatesDigits false (sign ++ rest) = separatesDigits false rest := by
  cases isSign with
  | empty => rfl
  | plus => exact separatesDigits_cons (by decide)
  | minus => exact separatesDigits_cons (by decide)

/-- A text whose underscores separate digits has none in front, so its sign stays in its place
without them. -/
theorem exists_sign (separates : separatesDigits false text) :
    ∃ sign rest negative, text = sign ++ rest ∧ IsSign sign ∧ separatesDigits false rest ∧
      splitSign (withoutSeparators text) = (negative, withoutSeparators rest) := by
  cases text with
  | nil => exact ⟨[], [], false, rfl, .empty, rfl, rfl⟩
  | cons c rest =>
      by_cases underscore : c = '_'
      · subst underscore
        cases (separatesDigits_underscore.mp separates).1
      · by_cases minus : c = '-'
        · subst minus
          exact ⟨['-'], rest, true, rfl, .minus, separates, rfl⟩
        · by_cases plus : c = '+'
          · subst plus
            exact ⟨['+'], rest, false, rfl, .plus, separates, rfl⟩
          · refine ⟨[], c :: rest, false, rfl, .empty, separates, ?_⟩
            rw [withoutSeparators_cons underscore]
            exact splitSign_of_ne minus plus

end Signs

section Words

/-- The letters of the words for numbers. -/
def wordLetters : List Char :=
  ['i', 'n', 'f', 't', 'y', 'a']

theorem IsWord.mem_wordLetters (isWord : IsWord word) : ∀ c ∈ word, c.toLower ∈ wordLetters := by
  intro c member
  have lower : c.toLower ∈ word.map Char.toLower := List.mem_map_of_mem member
  have inWord : ∀ text ∈ ["inf", "infinity", "nan"], text.toList.all (· ∈ wordLetters) := by
    decide
  exact List.all_iff_forall_prop.mp (inWord _ isWord) _ (by rwa [String.toList_ofList])

theorem IsWord.notMem (isWord : IsWord word) (other : c.toLower ∉ wordLetters) : c ∉ word :=
  fun member => other (isWord.mem_wordLetters c member)

theorem IsWord.exists_cons (isWord : IsWord word) : ∃ c rest, word = c :: rest := by
  cases word with
  | nil =>
      unfold IsWord at isWord
      exact absurd isWord (by decide)
  | cons c rest => exact ⟨c, rest, rfl⟩

theorem toLower_of_range (outside : ¬ (65 ≤ c.toNat ∧ c.toNat ≤ 90)) : c.toLower = c := by
  refine dif_neg fun upper => outside ?_
  exact ⟨UInt32.le_iff_toNat_le.mp upper.1, UInt32.le_iff_toNat_le.mp upper.2⟩

theorem toLower_of_isDigit (digit : c.isDigit) : c.toLower = c := by
  simp only [Char.isDigit, Bool.and_eq_true, decide_eq_true_eq, UInt32.le_iff_toNat_le] at digit
  have atMost : c.toNat ≤ 57 := digit.2
  exact toLower_of_range (by omega)

theorem IsWord.isDigit_eq_false (isWord : IsWord word) : ∀ c ∈ word, c.isDigit = false := by
  intro c member
  have lower := isWord.mem_wordLetters c member
  by_contra digit
  rw [Bool.not_eq_false] at digit
  rw [toLower_of_isDigit digit] at lower
  have noDigits : ∀ c ∈ wordLetters, c.isDigit = false := List.all_iff_forall_prop.mp (by decide)
  rw [noDigits c lower] at digit
  cases digit

theorem isSome_readNumberWord?_iff (negative : Bool) :
    (readNumberWord? negative text).isSome ↔ IsWord text := by
  simp only [readNumberWord?, IsWord, Bool.or_eq_true, decide_eq_true_eq, List.mem_cons,
    List.not_mem_nil, or_false]
  split
  · next isInfinity => simp [← or_assoc, isInfinity]
  · split <;> simp_all

/-- Underscores would need digits next to them, and a word has none. -/
theorem isWord_withoutSeparators_iff :
    IsWord (withoutSeparators text) ∧ separatesDigits false text ↔ IsWord text := by
  constructor
  · rintro ⟨isWord, separates⟩
    have noDigits : ∀ c ∈ text, c.isDigit = false := by
      intro c member
      by_cases underscore : c = '_'
      · subst underscore
        rfl
      · exact isWord.isDigit_eq_false c (mem_withoutSeparators_iff.mpr ⟨member, underscore⟩)
    rwa [withoutSeparators_of_notMem (notMem_of_separatesDigits noDigits separates)] at isWord
  · intro isWord
    have absent : '_' ∉ text := isWord.notMem (by decide)
    rw [withoutSeparators_of_notMem absent]
    exact ⟨isWord, separatesDigits_of_notMem absent⟩

end Words

section Decimals

/-- What is nothing but digits without its underscores is a run of digits. -/
theorem isDigits_of_withoutSeparators (separates : separatesDigits false text)
    (someDigits : withoutSeparators text ≠ [])
    (all : ∀ c ∈ withoutSeparators text, c.isDigit) : IsDigits text := by
  have leads : Leads text [] := by
    refine ⟨?_, nofun⟩
    intro c member
    by_cases underscore : c = '_'
    · simp [isDigitOrSeparator, underscore]
    · have digit := all c (mem_withoutSeparators_iff.mpr ⟨member, underscore⟩)
      simp [isDigitOrSeparator, digit]
  have isRun : IsRun text := by
    rw [← List.append_nil text, leads.separatesDigits_false_iff] at separates
    exact separates.1
  refine isRun.resolve_left ?_
  rintro rfl
  exact someDigits rfl

theorem IsDigits.separatesDigits (isDigits : IsDigits digits) : separatesDigits false digits := by
  have leads : Leads digits [] := isDigits.leads nofun
  rw [← List.append_nil digits, leads.separatesDigits_false_iff]
  exact ⟨.inr isDigits, rfl⟩

theorem readExponent?_withoutSeparators_iff :
    (DecimalLiteral.readExponent? (withoutSeparators text)).isSome ∧ separatesDigits false text ↔
      IsExponent text := by
  constructor
  · rintro ⟨reads, separates⟩
    cases text with
    | nil => exact .empty
    | cons mark rest =>
        by_cases underscore : mark = '_'
        · subst underscore
          cases (separatesDigits_underscore.mp separates).1
        · rw [withoutSeparators_cons underscore, DecimalLiteral.readExponent?] at reads
          split at reads
          · next isMark =>
              have isMark : mark = 'e' ∨ mark = 'E' := by simpa using isMark
              have noDigit : mark.isDigit = false := by
                obtain rfl | rfl := isMark <;> rfl
              rw [separatesDigits_cons underscore, noDigit] at separates
              obtain ⟨sign, digits, negative, rfl, isSign, separates, divided⟩ :=
                exists_sign separates
              simp only [divided] at reads
              split at reads
              · cases reads
              · next someDigits =>
                  simp only [Bool.or_eq_true, List.isEmpty_iff, Bool.not_eq_true', not_or,
                    Bool.not_eq_false, List.all_eq_true] at someDigits
                  exact .marked isMark isSign
                    (isDigits_of_withoutSeparators separates someDigits.1 someDigits.2)
          · cases reads
  · rintro (_ | ⟨isMark, isSign, isDigits⟩)
    · exact ⟨rfl, rfl⟩
    · next mark sign digits =>
        have other : mark ≠ '_' ∧ mark.isDigit = false := by
          obtain rfl | rfl := isMark <;> decide
        obtain ⟨c, rest, bare⟩ := List.exists_cons_of_ne_nil isDigits.withoutSeparators_ne_nil
        have all := isDigit_of_mem_withoutSeparators isDigits.all
        rw [bare] at all
        have digit : c.isDigit := all c List.mem_cons_self
        obtain ⟨negative, divided⟩ := isSign.exists_splitSign
          (ne_of_isDigit digit rfl) (ne_of_isDigit digit rfl) rest
        rw [withoutSeparators_cons other.1, separatesDigits_cons other.1, other.2,
          isSign.withoutSeparators_append, isSign.separatesDigits_append, bare]
        refine ⟨?_, isDigits.separatesDigits⟩
        have allDigits : (c :: rest).all Char.isDigit := List.all_eq_true.mpr all
        simp [DecimalLiteral.readExponent?, isMark, divided, allDigits]

/-- An exponent continues neither digits nor a point. -/
theorem IsExponent.stops {exponent : List Char} (isExponent : IsExponent exponent) :
    ∀ c, exponent.head? = some c → ¬ isDigitOrSeparator c ∧ c ≠ '.' := by
  cases isExponent with
  | empty => nofun
  | marked isMark _ _ =>
      rintro c same
      obtain rfl := Option.some.inj same
      obtain rfl | rfl := isMark <;> decide

theorem isMantissa_iff :
    IsMantissa text ↔ IsDigits text ∨ ∃ run digits, text = run ++ '.' :: digits ∧
      IsRun run ∧ IsRun digits ∧ (run ≠ [] ∨ digits ≠ []) := by
  constructor
  · rintro (isWhole | isWhole | ⟨isWhole, isFraction⟩ | isFraction)
    · exact .inl isWhole
    · exact .inr ⟨_, [], rfl, .inr isWhole, .inl rfl, .inl isWhole.ne_nil⟩
    · exact .inr ⟨_, _, rfl, .inr isWhole, .inr isFraction, .inl isWhole.ne_nil⟩
    · exact .inr ⟨[], _, rfl, .inl rfl, .inr isFraction, .inr isFraction.ne_nil⟩
  · rintro (isWhole | ⟨run, digits, rfl, isRun, isFraction, someDigits⟩)
    · exact .whole isWhole
    · obtain rfl | isWhole := isRun
      · exact .fraction (isFraction.resolve_left (someDigits.resolve_left (absurd rfl)))
      · obtain rfl | isFraction := isFraction
        · exact .point isWhole
        · exact .both isWhole isFraction

theorem isSome_read?_of_no_point (divided : text.span Char.isDigit = (run, rest))
    (noPoint : rest.head? ≠ some '.') :
    (DecimalLiteral.read? text).isSome ↔
      run ≠ [] ∧ (DecimalLiteral.readExponent? rest).isSome := by
  unfold DecimalLiteral.read?
  simp only [divided]
  split
  · exact absurd rfl noPoint
  · cases run <;> simp

theorem isSome_read?_of_point (divided : text.span Char.isDigit = (run, '.' :: after))
    (dividedBehind : after.span Char.isDigit = (digits, rest)) :
    (DecimalLiteral.read? text).isSome ↔
      (run ≠ [] ∨ digits ≠ []) ∧ (DecimalLiteral.readExponent? rest).isSome := by
  unfold DecimalLiteral.read?
  simp only [divided, dividedBehind]
  cases run <;> cases digits <;> simp

/-- Behind its digits a number without a point has only an exponent. -/
theorem Leads.read?_iff (leads : Leads run rest) (noPoint : rest.head? ≠ some '.') :
    (DecimalLiteral.read? (withoutSeparators (run ++ rest))).isSome ∧
        separatesDigits false (run ++ rest) ↔ IsDigits run ∧ IsExponent rest := by
  have noPointBare : (withoutSeparators rest).head? ≠ some '.' := by
    cases rest with
    | nil => nofun
    | cons c rest =>
        have other : c ≠ '_' := by
          rintro rfl
          exact leads.stops '_' rfl rfl
        rwa [withoutSeparators_cons other]
  rw [isSome_read?_of_no_point leads.span_withoutSeparators noPointBare,
    leads.separatesDigits_false_iff, ← readExponent?_withoutSeparators_iff]
  constructor
  · rintro ⟨⟨someDigits, reads⟩, isRun, separates⟩
    refine ⟨isRun.resolve_left ?_, reads, separates⟩
    rintro rfl
    exact someDigits rfl
  · rintro ⟨isDigits, reads, separates⟩
    exact ⟨⟨isDigits.withoutSeparators_ne_nil, reads⟩, .inr isDigits, separates⟩

/-- A point has digits on one side of it at least, and behind those an exponent. -/
theorem Leads.read?_point_iff (leads : Leads run ('.' :: (digits ++ rest)))
    (leadsFraction : Leads digits rest) :
    (DecimalLiteral.read? (withoutSeparators (run ++ '.' :: (digits ++ rest)))).isSome ∧
        separatesDigits false (run ++ '.' :: (digits ++ rest)) ↔
      (IsRun run ∧ IsRun digits ∧ (run ≠ [] ∨ digits ≠ [])) ∧ IsExponent rest := by
  have divided := leads.span_withoutSeparators
  rw [withoutSeparators_cons (by decide)] at divided
  have separates : separatesDigits false ('.' :: (digits ++ rest)) =
      separatesDigits false (digits ++ rest) := separatesDigits_cons (by decide)
  rw [isSome_read?_of_point divided leadsFraction.span_withoutSeparators,
    leads.separatesDigits_false_iff, separates, leadsFraction.separatesDigits_false_iff,
    ← readExponent?_withoutSeparators_iff]
  constructor
  · rintro ⟨⟨someDigits, reads⟩, isRun, isFraction, separates⟩
    rw [isRun.withoutSeparators_ne_nil_iff, isFraction.withoutSeparators_ne_nil_iff] at someDigits
    exact ⟨⟨isRun, isFraction, someDigits⟩, reads, separates⟩
  · rintro ⟨⟨isRun, isFraction, someDigits⟩, reads, separates⟩
    rw [← isRun.withoutSeparators_ne_nil_iff, ← isFraction.withoutSeparators_ne_nil_iff]
      at someDigits
    exact ⟨⟨someDigits, reads⟩, isRun, isFraction, separates⟩

/-- A number in decimal without a sign. -/
def IsDecimal (text : List Char) : Prop :=
  ∃ mantissa exponent, text = mantissa ++ exponent ∧ IsMantissa mantissa ∧ IsExponent exponent

theorem read?_withoutSeparators_iff :
    (DecimalLiteral.read? (withoutSeparators text)).isSome ∧ separatesDigits false text ↔
      IsDecimal text := by
  constructor
  · intro reads
    obtain ⟨run, rest, rfl, leads⟩ := exists_leads text
    by_cases point : ∃ behind, rest = '.' :: behind
    · obtain ⟨behind, rfl⟩ := point
      obtain ⟨digits, rest, rfl, leadsFraction⟩ := exists_leads behind
      obtain ⟨mantissa, isExponent⟩ := (leads.read?_point_iff leadsFraction).mp reads
      exact ⟨run ++ '.' :: digits, rest, by simp,
        isMantissa_iff.mpr (.inr ⟨run, digits, rfl, mantissa⟩), isExponent⟩
    · have noPoint : rest.head? ≠ some '.' := by
        intro isHead
        obtain ⟨behind, same⟩ := List.head?_eq_some_iff.mp isHead
        exact point ⟨behind, same⟩
      obtain ⟨isDigits, isExponent⟩ := (leads.read?_iff noPoint).mp reads
      exact ⟨run, rest, rfl, .whole isDigits, isExponent⟩
  · rintro ⟨mantissa, exponent, rfl, isMantissa, isExponent⟩
    have stops := isExponent.stops
    obtain isDigits | ⟨run, digits, rfl, isRun, isFraction, someDigits⟩ :=
      isMantissa_iff.mp isMantissa
    · have leads : Leads mantissa exponent := isDigits.leads fun c isHead => (stops c isHead).1
      exact (leads.read?_iff fun isHead => (stops '.' isHead).2 rfl).mpr ⟨isDigits, isExponent⟩
    · have leads : Leads run ('.' :: (digits ++ exponent)) := by
        refine isRun.leads ?_
        rintro c ⟨⟩
        decide
      have leadsFraction : Leads digits exponent :=
        isFraction.leads fun c isHead => (stops c isHead).1
      rw [List.append_assoc, List.cons_append]
      exact (leads.read?_point_iff leadsFraction).mpr
        ⟨⟨isRun, isFraction, someDigits⟩, isExponent⟩

end Decimals

section Numerals

theorem isSome_readNumber?_iff {negative : Bool} (divided : splitSign text = (negative, rest)) :
    (readNumber? text).isSome ↔ IsWord rest ∨ (DecimalLiteral.read? rest).isSome := by
  simp only [readNumber?, divided, ← isSome_readNumberWord?_iff negative]
  cases readNumberWord? negative rest <;> simp

/-- Neither a word nor a number in decimal without a sign begins like one with a sign. -/
theorem exists_cons_of_unsigned (unsigned : IsWord text ∨ IsDecimal text) :
    ∃ c rest, text = c :: rest ∧ c ≠ '_' ∧ c ≠ '-' ∧ c ≠ '+' := by
  obtain isWord | ⟨mantissa, exponent, rfl, isMantissa, -⟩ := unsigned
  · obtain ⟨c, rest, rfl⟩ := isWord.exists_cons
    refine ⟨c, rest, rfl, ?_, ?_, ?_⟩
    all_goals
      rintro rfl
      exact isWord.notMem (by decide) List.mem_cons_self
  · have digitOrPoint : ∃ c rest, mantissa = c :: rest ∧ (c.isDigit ∨ c = '.') := by
      obtain isDigits | ⟨run, digits, rfl, rfl | isDigits, -⟩ := isMantissa_iff.mp isMantissa
      · obtain ⟨c, rest, rfl, digit⟩ := isDigits.exists_cons
        exact ⟨c, rest, rfl, .inl digit⟩
      · exact ⟨'.', digits, rfl, .inr rfl⟩
      · obtain ⟨c, rest, rfl, digit⟩ := isDigits.exists_cons
        exact ⟨c, rest ++ '.' :: digits, rfl, .inl digit⟩
    obtain ⟨c, rest, rfl, digit | rfl⟩ := digitOrPoint
    · exact ⟨c, rest ++ exponent, rfl, ne_of_isDigit digit rfl, ne_of_isDigit digit rfl,
        ne_of_isDigit digit rfl⟩
    · exact ⟨'.', rest ++ exponent, rfl, by decide, by decide, by decide⟩

theorem reads_of_unsigned (unsigned : IsWord text ∨ IsDecimal text) :
    (IsWord (withoutSeparators text) ∨ (DecimalLiteral.read? (withoutSeparators text)).isSome) ∧
      separatesDigits false text := by
  obtain isWord | isDecimal := unsigned
  · obtain ⟨bare, separates⟩ := isWord_withoutSeparators_iff.mpr isWord
    exact ⟨.inl bare, separates⟩
  · obtain ⟨bare, separates⟩ := read?_withoutSeparators_iff.mpr isDecimal
    exact ⟨.inr bare, separates⟩

theorem isNumeral_iff_signed : IsNumeral text ↔
    ∃ sign rest, text = sign ++ rest ∧ IsSign sign ∧ (IsWord rest ∨ IsDecimal rest) := by
  constructor
  · rintro (⟨isSign, isWord⟩ | ⟨isSign, isMantissa, isExponent⟩)
    · exact ⟨_, _, rfl, isSign, .inl isWord⟩
    · exact ⟨_, _, rfl, isSign, .inr ⟨_, _, rfl, isMantissa, isExponent⟩⟩
  · rintro ⟨sign, rest, rfl, isSign, isWord | ⟨mantissa, exponent, rfl, isMantissa, isExponent⟩⟩
    · exact .word isSign isWord
    · exact .decimal isSign isMantissa isExponent

/-- The numerals are the texts whose underscores separate digits and which are read as a number
without them. -/
theorem isNumeral_iff :
    IsNumeral text ↔
      separatesDigits false text ∧ (readNumber? (withoutSeparators text)).isSome := by
  rw [isNumeral_iff_signed]
  constructor
  · rintro ⟨sign, rest, rfl, isSign, unsigned⟩
    obtain ⟨reads, separates⟩ := reads_of_unsigned unsigned
    obtain ⟨c, rest, rfl, underscore, minus, plus⟩ := exists_cons_of_unsigned unsigned
    rw [withoutSeparators_cons underscore] at reads
    obtain ⟨negative, divided⟩ :=
      isSign.exists_splitSign minus plus (withoutSeparators rest)
    rw [isSign.separatesDigits_append, isSign.withoutSeparators_append,
      withoutSeparators_cons underscore, isSome_readNumber?_iff divided]
    exact ⟨separates, reads⟩
  · rintro ⟨separates, reads⟩
    obtain ⟨sign, rest, negative, rfl, isSign, separates, divided⟩ := exists_sign separates
    obtain isWord | isDecimal := (isSome_readNumber?_iff divided).mp reads
    · exact ⟨sign, rest, rfl, isSign,
        .inl (isWord_withoutSeparators_iff.mp ⟨isWord, separates⟩)⟩
    · exact ⟨sign, rest, rfl, isSign,
        .inr (read?_withoutSeparators_iff.mp ⟨isDecimal, separates⟩)⟩

end Numerals

section Trimming

theorem isWhiteSpace_of_isDigitOrSeparator (isIn : isDigitOrSeparator c) :
    isWhiteSpace c = false := by
  by_cases digit : c.isDigit
  · exact isWhiteSpace_of_isDigit digit
  · obtain rfl : c = '_' := by simpa [isDigitOrSeparator, digit] using isIn
    rfl

theorem IsDigits.visible (isDigits : IsDigits digits) :
    ∀ c ∈ digits, isWhiteSpace c = false :=
  fun c member => isWhiteSpace_of_isDigitOrSeparator (isDigits.all c member)

theorem IsSign.visible (isSign : IsSign sign) : ∀ c ∈ sign, isWhiteSpace c = false := by
  cases isSign <;> exact List.all_iff_forall_prop.mp (by decide)

theorem IsWord.visible (isWord : IsWord word) : ∀ c ∈ word, isWhiteSpace c = false := by
  intro c member
  have lower := isWord.mem_wordLetters c member
  by_cases upper : 65 ≤ c.toNat ∧ c.toNat ≤ 90
  · exact isWhiteSpace_eq_false_of_ascii (by omega) (by omega)
  · rw [toLower_of_range upper] at lower
    have visible : ∀ c ∈ wordLetters, isWhiteSpace c = false :=
      List.all_iff_forall_prop.mp (by decide)
    exact visible c lower

theorem IsMantissa.visible {mantissa : List Char} (isMantissa : IsMantissa mantissa) :
    ∀ c ∈ mantissa, isWhiteSpace c = false := by
  have point : isWhiteSpace '.' = false := rfl
  cases isMantissa with
  | whole isWhole => exact isWhole.visible
  | point isWhole =>
      rw [List.forall_mem_append]
      exact ⟨isWhole.visible, by simpa using point⟩
  | both isWhole isFraction =>
      rw [List.forall_mem_append, List.forall_mem_cons]
      exact ⟨isWhole.visible, point, isFraction.visible⟩
  | fraction isFraction =>
      rw [List.forall_mem_cons]
      exact ⟨point, isFraction.visible⟩

theorem IsExponent.visible {exponent : List Char} (isExponent : IsExponent exponent) :
    ∀ c ∈ exponent, isWhiteSpace c = false := by
  cases isExponent with
  | empty => nofun
  | marked isMark isSign isDigits =>
      rw [List.forall_mem_cons, List.forall_mem_append]
      refine ⟨?_, isSign.visible, isDigits.visible⟩
      obtain rfl | rfl := isMark <;> rfl

/-- There is no white space inside of a numeral. -/
theorem IsNumeral.visible (isNumeral : IsNumeral text) : ∀ c ∈ text, isWhiteSpace c = false := by
  cases isNumeral with
  | word isSign isWord =>
      rw [List.forall_mem_append]
      exact ⟨isSign.visible, isWord.visible⟩
  | decimal isSign isMantissa isExponent =>
      rw [List.forall_mem_append, List.forall_mem_append]
      exact ⟨isSign.visible, isMantissa.visible, isExponent.visible⟩

theorem IsNumeral.isTrimmed (isNumeral : IsNumeral text) {front back : List Char}
    (whiteFront : ∀ c ∈ front, isWhiteSpace c) (whiteBack : ∀ c ∈ back, isWhiteSpace c) :
    IsTrimmed (front ++ text ++ back) text := by
  refine ⟨front, back, rfl, whiteFront, whiteBack, ?_, ?_⟩
  · intro c isHead
    simp [isNumeral.visible c (List.mem_of_head? isHead)]
  · intro c isLast
    simp [isNumeral.visible c (List.mem_of_getLast? isLast)]

/-- A numeral stays one without its underscores. -/
theorem IsNumeral.withoutSeparators (isNumeral : IsNumeral text) :
    IsNumeral (withoutSeparators text) := by
  have absent := underscore_notMem_withoutSeparators text
  obtain ⟨-, reads⟩ := isNumeral_iff.mp isNumeral
  rw [isNumeral_iff, withoutSeparators_of_notMem absent]
  exact ⟨separatesDigits_of_notMem absent, reads⟩

end Trimming

/-- A text is accepted just if it is a numeral without the white space at its ends. -/
theorem readText?_eq_some_iff {number : Float} :
    readText? text = some number ↔ ∃ trimmed, IsTrimmed text trimmed ∧ IsNumeral trimmed ∧
      readNumber? (withoutSeparators trimmed) = some number := by
  have reads : readText? text = if separatesDigits false (trimCharacters text) then
      readNumber? (withoutSeparators (trimCharacters text)) else none := rfl
  rw [reads, Option.ite_none_right_eq_some]
  constructor
  · rintro ⟨separates, read⟩
    refine ⟨_, isTrimmed_trimCharacters text, isNumeral_iff.mpr ⟨separates, ?_⟩, read⟩
    rw [read]
    rfl
  · rintro ⟨trimmed, isTrimmed, isNumeral, read⟩
    rw [isTrimmed.trimCharacters_eq]
    exact ⟨(isNumeral_iff.mp isNumeral).1, read⟩

theorem ofText_eq_ok_iff {text : String} {number : Float} :
    ofText text = .ok number ↔ readText? text.toList = some number := by
  unfold ofText
  cases readText? text.toList <;> simp

theorem ofText_eq_error_iff {text : String} :
    ofText text = .error (.notNumeric text) ↔ readText? text.toList = none := by
  unfold ofText
  cases readText? text.toList <;> simp

/-- A string is accepted just if it is a numeral without the white space at its ends.  Its number
is the one that is read there without the underscores, and the string has it without them, too.
Any other string is reported as it is. -/
theorem ofOption_accepts_numerals (text : String) :
    (∀ number, ofOption (some (.text text)) = .ok number ↔
      ∃ trimmed, IsTrimmed text.toList trimmed ∧ IsNumeral trimmed ∧
        readNumber? (withoutSeparators trimmed) = some number) ∧
    (∀ trimmed, IsTrimmed text.toList trimmed → IsNumeral trimmed →
      ∃ number, ofOption (some (.text text)) = .ok number ∧
        ofOption (some (.text (String.ofList (withoutSeparators text.toList)))) = .ok number) ∧
    ((¬ ∃ trimmed, IsTrimmed text.toList trimmed ∧ IsNumeral trimmed) ↔
      ofOption (some (.text text)) = .error (.notNumeric text)) := by
  simp only [ofOption, ofYaml, ofText_eq_ok_iff, ofText_eq_error_iff, String.toList_ofList]
  refine ⟨fun number => readText?_eq_some_iff, ?accepted, ?refused⟩
  case accepted =>
    intro trimmed isTrimmed isNumeral
    obtain ⟨number, read⟩ := Option.isSome_iff_exists.mp (isNumeral_iff.mp isNumeral).2
    refine ⟨number, readText?_eq_some_iff.mpr ⟨trimmed, isTrimmed, isNumeral, read⟩, ?_⟩
    obtain ⟨front, back, same, whiteFront, whiteBack, -, -⟩ := isTrimmed
    have underscore : isWhiteSpace '_' = false := rfl
    have bareFront : withoutSeparators front = front := by
      refine withoutSeparators_of_notMem fun member => ?_
      simpa [underscore] using whiteFront '_' member
    have bareBack : withoutSeparators back = back := by
      refine withoutSeparators_of_notMem fun member => ?_
      simpa [underscore] using whiteBack '_' member
    rw [same, withoutSeparators_append, withoutSeparators_append, bareFront, bareBack]
    refine readText?_eq_some_iff.mpr ⟨withoutSeparators trimmed, ?_, ?_, ?_⟩
    · exact isNumeral.withoutSeparators.isTrimmed whiteFront whiteBack
    · exact isNumeral.withoutSeparators
    · rwa [withoutSeparators_of_notMem (underscore_notMem_withoutSeparators trimmed)]
  case refused =>
    rw [Option.eq_none_iff_forall_ne_some]
    constructor
    · rintro noNumeral number read
      obtain ⟨trimmed, isTrimmed, isNumeral, -⟩ := readText?_eq_some_iff.mp read
      exact noNumeral ⟨trimmed, isTrimmed, isNumeral⟩
    · rintro unread ⟨trimmed, isTrimmed, isNumeral⟩
      obtain ⟨number, read⟩ := Option.isSome_iff_exists.mp (isNumeral_iff.mp isNumeral).2
      exact unread number (readText?_eq_some_iff.mpr ⟨trimmed, isTrimmed, isNumeral, read⟩)

/-- Underscores stand in front of the point and in the exponent, and an ideographic space is white
space; two underscores in a row are one too many. -/
theorem ofOption_of_separated_digits :
    let text := " -1_0.5e+0_1\u3000"
    let trimmed := "-1_0.5e+0_1".toList
    IsTrimmed text.toList trimmed ∧ IsNumeral trimmed ∧
      (∃ number, ofOption (some (.text text)) = .ok number ∧
        ofOption (some (.text " -10.5e+01\u3000")) = .ok number) ∧
      (¬ ∃ trimmed, IsTrimmed "1__0".toList trimmed ∧ IsNumeral trimmed) ∧
      ofOption (some (.text "1__0")) = .error (.notNumeric "1__0") := by
  intro text trimmed
  have one : IsDigits ['1'] := .single rfl
  have ten : IsDigits ['1', '_', '0'] := .separated rfl (.single rfl)
  have isNumeral : IsNumeral trimmed :=
    .decimal .minus (.both ten (.single (c := '5') rfl))
      (.marked (.inl rfl) .plus (.separated (c := '0') rfl one))
  have isTrimmed : IsTrimmed text.toList trimmed := by
    have same : text.toList = [' '] ++ trimmed ++ ['\u3000'] := by decide
    rw [same]
    exact isNumeral.isTrimmed (List.forall_mem_singleton.mpr rfl)
      (List.forall_mem_singleton.mpr rfl)
  have bare : String.ofList (withoutSeparators text.toList) = " -10.5e+01\u3000" := by decide
  have unseparated : separatesDigits false "1__0".toList = false := by decide
  have noNumeral : ¬ ∃ trimmed, IsTrimmed "1__0".toList trimmed ∧ IsNumeral trimmed := by
    rintro ⟨trimmed, isTrimmed, isNumeral⟩
    obtain rfl := isTrimmed.trimCharacters_eq
    have separates := (isNumeral_iff.mp isNumeral).1
    have whole : trimCharacters "1__0".toList = "1__0".toList := by decide
    rw [whole, unseparated] at separates
    cases separates
  refine ⟨isTrimmed, isNumeral, ?_, noNumeral, ?_⟩
  · rw [← bare]
    exact (ofOption_accepts_numerals text).2.1 trimmed isTrimmed isNumeral
  · exact (ofOption_accepts_numerals "1__0").2.2.mp noNumeral

end NumericValue

end BackOfEnvelope
