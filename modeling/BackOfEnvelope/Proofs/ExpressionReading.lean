import BackOfEnvelope.Proofs.ExpressionClimbing

/-!
# Reading expressions by the grammar

Climbing along the powers of operators accepts exactly the expressions of the
grammar, each with the one tree that the grammar gives it.

Every phrase is read, whatever may follow it.  A phrase with operators need not
end where a climb ends, so it is said to leave the climb in the state in which
it can take the next operator.
-/

namespace BackOfEnvelope

open PlacedToken

namespace Expression

variable {parse : Nat → List PlacedToken → Parsed Expression}

/-- A climb stops in front of anything that is no operator of its power. -/
theorem climb_of_stops {power : Nat} (bound : Nat) (left : Expression)
    {tokens : List PlacedToken} (stops : StopsBelow power (bare tokens)) :
    climb parse power bound left tokens = .ok (left, tokens) := by
  cases bound with
  | zero => rfl
  | succ bound =>
      cases tokens with
      | nil => rfl
      | cons next rest =>
          simp only [climb]
          split
          · next operator isOperator =>
              rw [bare_cons, isOperator] at stops
              exact if_pos stops
          · rfl

/-- What a reader takes from some tokens: the expression, and the tokens behind it. -/
def Takes (result : Parsed Expression) (expression : Expression)
    (rest : List ExpressionToken) : Prop :=
  ∃ behind, bare behind = rest ∧ result = .ok (expression, behind)

/-- Reading comes to an expression in front of a rest, and goes on from there as the climb
does that has this expression. -/
def ClimbsTo (depth power : Nat) (placed : List PlacedToken) (expression : Expression)
    (rest : List ExpressionToken) : Prop :=
  ∃ behind bound, bare behind = rest ∧ rest.length ≤ bound ∧
    parseWithin (depth + 1) power placed =
      climb (parseWithin depth) power bound expression behind

namespace ClimbsTo

variable {depth power : Nat} {placed : List PlacedToken}
variable {middle rest : List ExpressionToken} {left right expression : Expression}

theorem of_parseOperand
    (operand : Takes (parseOperand (parseWithin depth) placed) expression rest) :
    ClimbsTo depth power placed expression rest := by
  obtain ⟨behind, same, parsed⟩ := operand
  have measured : rest.length = behind.length := by rw [← same, length_bare]
  exact ⟨behind, behind.length, same, Nat.le_of_eq measured, by simp only [parseWithin, parsed]⟩

theorem takes (climbs : ClimbsTo depth power placed expression rest)
    (stops : StopsBelow power rest) :
    Takes (parseWithin (depth + 1) power placed) expression rest := by
  obtain ⟨behind, bound, same, _, reached⟩ := climbs
  refine ⟨behind, same, ?_⟩
  rw [reached]
  exact climb_of_stops bound expression (same ▸ stops)

/-- An operator is taken with the right operand behind it. -/
theorem extend {operator : BinaryOperator}
    (climbs : ClimbsTo depth power placed left (.operator operator :: middle))
    (binds : power ≤ operator.leftPower)
    (operand : ∀ inner, bare inner = middle →
      Takes (parseWithin depth operator.rightPower inner) right rest)
    (shorter : rest.length < middle.length) :
    ClimbsTo depth power placed (.binary operator left right) rest := by
  obtain ⟨between, bound, betweenSame, enough, reached⟩ := climbs
  obtain ⟨next, inner, rfl, isOperator, innerSame⟩ := bare_eq_cons betweenSame
  obtain ⟨behind, same, parsed⟩ := operand inner innerSame
  simp only [List.length_cons] at enough
  obtain ⟨bound, rfl⟩ : ∃ below, bound = below + 1 := ⟨bound - 1, by omega⟩
  refine ⟨behind, bound, same, by omega, ?_⟩
  rw [reached]
  simp only [climb, isOperator, if_neg (Nat.not_lt_of_le binds), parsed]

end ClimbsTo

/-- How a phrase is read with a depth.  A phrase with operators is one that a climb comes
to if its power admits them, and if none stands behind that its last operand takes. -/
def ReadAs (depth : Nat) (placed : List PlacedToken) (rest : List ExpressionToken) :
    Phrase → Prop
  | .atom expression => Takes (parseOperand (parseWithin depth) placed) expression rest
  | .power expression | .signed expression =>
      ∀ power ≤ 7, StopsBelow 7 rest → ClimbsTo depth power placed expression rest
  | .product expression =>
      ∀ power ≤ 3, StopsBelow 7 rest → ClimbsTo depth power placed expression rest
  | .sum expression =>
      ∀ power ≤ 1, StopsBelow 3 rest → ClimbsTo depth power placed expression rest
  | .arguments expressions =>
      ∀ after, rest = .rightParenthesis :: after → ∀ bound, placed.length ≤ bound →
        ∃ behind, bare behind = after ∧
          parseArguments (parseWithin (depth + 1)) bound placed = .ok (expressions, behind)

/-- A phrase is read wherever its tokens stand, with any depth that covers them. -/
def Readable (phrase : Phrase) (tokens rest : List ExpressionToken) : Prop :=
  ∀ depth placed, bare placed = tokens → tokens.length ≤ depth → ReadAs depth placed rest phrase

namespace Readable

variable {tokens middle rest : List ExpressionToken}
variable {expression left right : Expression} {arguments : List Expression}

/-- A phrase of a power is read as a whole with this power, if no operator of the power
stands behind it. -/
theorem takes {power : Nat} (readable : Readable (.ofPower power expression) tokens rest)
    (small : power ≤ 7) (stops : StopsBelow power rest) {depth : Nat}
    (enough : tokens.length < depth) {placed : List PlacedToken} (same : bare placed = tokens) :
    Takes (parseWithin depth power placed) expression rest := by
  obtain ⟨depth, rfl⟩ : ∃ below, depth = below + 1 := ⟨depth - 1, by omega⟩
  have read := readable depth placed same (by omega)
  apply ClimbsTo.takes _ stops
  unfold Phrase.ofPower at read
  split at read
  · exact read power (by assumption) (stops.mono (by omega))
  · split at read
    · exact read power (by assumption) (stops.mono (by omega))
    · exact read power small (stops.mono small)

theorem number (value : Float) (rest : List ExpressionToken) :
    Readable (.atom (.number value)) (.number value :: rest) rest := by
  intro depth placed same _
  obtain ⟨first, others, rfl, isNumber, othersSame⟩ := bare_eq_cons same
  exact ⟨others, othersSame, by simp only [parseOperand, isNumber]⟩

theorem plainName (name : String) (noCall : rest.head? ≠ some .leftParenthesis) :
    Readable (.atom (.variable name)) (.name name :: rest) rest := by
  intro depth placed same _
  obtain ⟨first, others, rfl, isName, rfl⟩ := bare_eq_cons same
  refine ⟨others, rfl, ?_⟩
  simp only [parseOperand, isName]
  unfold parseName
  split
  · rfl
  · next next behind =>
      split
      · next opening => exact absurd (by simp [opening]) noCall
      · rfl

theorem emptyCall (name : String) (rest : List ExpressionToken) :
    Readable (.atom (.call name []))
      (.name name :: .leftParenthesis :: .rightParenthesis :: rest) rest := by
  intro depth placed same _
  obtain ⟨first, afterName, rfl, isName, nameSame⟩ := bare_eq_cons same
  obtain ⟨second, afterOpening, rfl, isOpening, openingSame⟩ := bare_eq_cons nameSame
  obtain ⟨third, others, rfl, isClosing, othersSame⟩ := bare_eq_cons openingSame
  refine ⟨others, othersSame, ?_⟩
  simp only [parseOperand, isName, parseName, isOpening, isClosing]

theorem call (name : String)
    (inside : Readable (.arguments arguments) tokens (.rightParenthesis :: rest))
    (noClosing : tokens.head? ≠ some .rightParenthesis) (shorter : rest.length < tokens.length) :
    Readable (.atom (.call name arguments)) (.name name :: .leftParenthesis :: tokens) rest := by
  intro depth placed same enough
  simp only [List.length_cons] at enough
  obtain ⟨depth, rfl⟩ : ∃ below, depth = below + 1 := ⟨depth - 1, by omega⟩
  obtain ⟨first, afterName, rfl, isName, nameSame⟩ := bare_eq_cons same
  obtain ⟨second, inner, rfl, isOpening, innerSame⟩ := bare_eq_cons nameSame
  have read := inside depth inner innerSame (by omega) rest rfl
  obtain ⟨behind, behindSame, parsed⟩ := read inner.length (Nat.le_refl _)
  refine ⟨behind, behindSame, ?_⟩
  cases inner with
  | nil => simp [← innerSame] at shorter
  | cons third others =>
      have noEmpty : third.token ≠ .rightParenthesis := by
        simpa [← innerSame] using noClosing
      simp only [parseOperand, isName, parseName, isOpening, parsed]

theorem parenthesized (inside : Readable (.sum expression) tokens (.rightParenthesis :: rest)) :
    Readable (.atom expression) (.leftParenthesis :: tokens) rest := by
  intro depth placed same enough
  obtain ⟨first, inner, rfl, isOpening, innerSame⟩ := bare_eq_cons same
  have whole : Readable (.ofPower 0 expression) tokens (.rightParenthesis :: rest) := inside
  obtain ⟨behind, behindSame, parsed⟩ := whole.takes (by decide) trivial enough innerSame
  obtain ⟨closing, after, rfl, isClosing, afterSame⟩ := bare_eq_cons behindSame
  refine ⟨after, afterSame, ?_⟩
  simp only [parseOperand, isOpening, parseParenthesized, parsed, isClosing]

theorem lastArgument (last : Readable (.sum expression) tokens rest)
    (shorter : rest.length < tokens.length) :
    Readable (.arguments [expression]) tokens rest := by
  rintro depth placed same enough after rfl bound covers
  have whole : Readable (.ofPower 0 expression) tokens (.rightParenthesis :: after) := last
  obtain ⟨behind, behindSame, parsed⟩ :=
    whole.takes (by decide) trivial (Nat.lt_succ_of_le enough) same
  obtain ⟨closing, others, rfl, isClosing, othersSame⟩ := bare_eq_cons behindSame
  rw [← length_bare, same] at covers
  obtain ⟨bound, rfl⟩ : ∃ below, bound = below + 1 := ⟨bound - 1, by omega⟩
  refine ⟨others, othersSame, ?_⟩
  simp only [parseArguments, parsed, isClosing]

theorem moreArguments (first : Readable (.sum expression) tokens (.comma :: middle))
    (others : Readable (.arguments arguments) middle rest)
    (taken : middle.length + 1 < tokens.length) :
    Readable (.arguments (expression :: arguments)) tokens rest := by
  intro depth placed same enough after closes bound covers
  have whole : Readable (.ofPower 0 expression) tokens (.comma :: middle) := first
  obtain ⟨separated, separatedSame, parsed⟩ :=
    whole.takes (by decide) trivial (Nat.lt_succ_of_le enough) same
  obtain ⟨comma, inner, rfl, isComma, innerSame⟩ := bare_eq_cons separatedSame
  rw [← length_bare, same] at covers
  obtain ⟨bound, rfl⟩ : ∃ below, bound = below + 1 := ⟨bound - 1, by omega⟩
  have innerCovers : inner.length ≤ bound := by
    rw [← length_bare, innerSame]
    omega
  obtain ⟨behind, behindSame, remaining⟩ :=
    others depth inner innerSame (by omega) after closes bound innerCovers
  refine ⟨behind, behindSame, ?_⟩
  simp only [parseArguments, parsed, isComma, remaining]

theorem base (atom : Readable (.atom expression) tokens rest) :
    Readable (.power expression) tokens rest := by
  intro depth placed same enough power _ _
  exact .of_parseOperand (atom depth placed same enough)

/-- An operator behind a phrase is taken with its right operand. -/
theorem climbsTo_binary {operator : BinaryOperator} {depth power : Nat}
    {placed : List PlacedToken}
    (before : ClimbsTo depth power placed left (.operator operator :: middle))
    (binds : power ≤ operator.leftPower)
    (last : Readable (.ofPower operator.rightPower right) middle rest)
    (stops : StopsBelow operator.rightPower rest)
    (enough : middle.length < depth) (shorter : rest.length < middle.length) :
    ClimbsTo depth power placed (.binary operator left right) rest := by
  have small : operator.rightPower ≤ 7 := by cases operator <;> decide
  exact before.extend binds (fun inner same => last.takes small stops enough same) shorter

theorem raised (atom : Readable (.atom left) tokens (.operator .power :: middle))
    (above : Readable (.signed right) middle rest)
    (taken : middle.length + 1 < tokens.length) (shorter : rest.length < middle.length) :
    Readable (.power (.binary .power left right)) tokens rest := by
  intro depth placed same enough power small stops
  have reached : ClimbsTo depth power placed left _ :=
    .of_parseOperand (atom depth placed same enough)
  exact climbsTo_binary reached small above (stops.four_of_seven.mono (by decide)) (by omega)
    shorter

theorem takes_behind_sign (behind : Readable (.signed expression) tokens rest)
    (stops : StopsBelow 7 rest) {depth : Nat} (enough : tokens.length < depth)
    {placed : List PlacedToken} (same : bare placed = tokens) :
    Takes (parseWithin depth signPower placed) expression rest := by
  have operand : Readable (.ofPower signPower expression) tokens rest := behind
  exact operand.takes (by decide) (stops.four_of_seven.mono (by decide)) enough same

theorem minus (behind : Readable (.signed expression) tokens rest) :
    Readable (.signed (.negate expression)) (.operator .subtract :: tokens) rest := by
  intro depth placed same enough power _ stops
  obtain ⟨first, inner, rfl, isMinus, innerSame⟩ := bare_eq_cons same
  obtain ⟨after, afterSame, parsed⟩ := behind.takes_behind_sign stops enough innerSame
  apply ClimbsTo.of_parseOperand
  exact ⟨after, afterSame, by simp only [parseOperand, isMinus, parsed]⟩

theorem plus (behind : Readable (.signed expression) tokens rest) :
    Readable (.signed expression) (.operator .add :: tokens) rest := by
  intro depth placed same enough power _ stops
  obtain ⟨first, inner, rfl, isPlus, innerSame⟩ := bare_eq_cons same
  obtain ⟨after, afterSame, parsed⟩ := behind.takes_behind_sign stops enough innerSame
  apply ClimbsTo.of_parseOperand
  exact ⟨after, afterSame, by simp only [parseOperand, isPlus, parsed]⟩

theorem times {operator : BinaryOperator} (multiplicative : operator.isMultiplicative)
    (before : Readable (.product left) tokens (.operator operator :: middle))
    (last : Readable (.signed right) middle rest)
    (taken : middle.length + 1 < tokens.length) (shorter : rest.length < middle.length) :
    Readable (.product (.binary operator left right)) tokens rest := by
  intro depth placed same enough power small stops
  obtain ⟨leftPower, rightPower⟩ := BinaryOperator.powers_of_isMultiplicative multiplicative
  have reached := before depth placed same enough power small (by simp [StopsBelow, leftPower])
  apply climbsTo_binary reached (leftPower ▸ small) _ _ (by omega) shorter
  · rw [rightPower]
    exact last
  · rw [rightPower]
    exact stops.four_of_seven

theorem added {operator : BinaryOperator} (additive : operator.isAdditive)
    (before : Readable (.sum left) tokens (.operator operator :: middle))
    (last : Readable (.product right) middle rest)
    (taken : middle.length + 1 < tokens.length) (shorter : rest.length < middle.length) :
    Readable (.sum (.binary operator left right)) tokens rest := by
  intro depth placed same enough power small stops
  obtain ⟨leftPower, rightPower⟩ := BinaryOperator.powers_of_isAdditive additive
  have reached := before depth placed same enough power small (by simp [StopsBelow, leftPower])
  apply climbsTo_binary reached (leftPower ▸ small) _ _ (by omega) shorter
  · rw [rightPower]
    exact last
  · rw [rightPower]
    exact stops.two_of_three

end Readable

/-- Every phrase of the grammar is read. -/
theorem readable_of_spells {phrase : Phrase} {tokens rest : List ExpressionToken}
    (spelled : Spells phrase tokens rest) : Readable phrase tokens rest := by
  induction spelled with
  | number value rest => exact .number value rest
  | plainName name noCall => exact .plainName name noCall
  | emptyCall name rest => exact .emptyCall name rest
  | call name inside ih =>
      have shorter := inside.length_rest_lt
      simp only [List.length_cons] at shorter
      exact .call name ih inside.head?_ne_rightParenthesis (by omega)
  | parenthesized inside ih => exact .parenthesized ih
  | lastArgument last ih => exact .lastArgument ih last.length_rest_lt
  | moreArguments first others firstIH othersIH =>
      exact .moreArguments firstIH othersIH first.length_rest_lt
  | base atom ih => exact .base ih
  | raised atom above atomIH aboveIH =>
      exact .raised atomIH aboveIH atom.length_rest_lt above.length_rest_lt
  | unsigned power ih => exact ih
  | minus behind ih => exact .minus ih
  | plus behind ih => exact .plus ih
  | factor only ih =>
      intro depth placed same enough power small stops
      exact ih depth placed same enough power (by omega) stops
  | times multiplicative before last beforeIH lastIH =>
      exact .times multiplicative beforeIH lastIH before.length_rest_lt last.length_rest_lt
  | term only ih =>
      intro depth placed same enough power small stops
      exact ih depth placed same enough power (by omega) (stops.mono (by decide))
  | added additive before last beforeIH lastIH =>
      exact .added additive beforeIH lastIH before.length_rest_lt last.length_rest_lt

/-- With a power, exactly the phrases of this power are read that no operator of the power
follows. -/
theorem parseWithin_takes_iff {power depth : Nat} (small : power ≤ 7)
    {tokens : List PlacedToken} (enough : tokens.length < depth) (expression : Expression)
    (rest : List ExpressionToken) :
    Takes (parseWithin depth power tokens) expression rest ↔
      Spells (.ofPower power expression) (bare tokens) rest ∧ StopsBelow power rest := by
  constructor
  · rintro ⟨behind, rfl, parsed⟩
    exact readsPhrases_parseWithin depth power tokens expression behind parsed
  · rintro ⟨spelled, stops⟩
    exact (readable_of_spells spelled).takes small stops (by rwa [length_bare]) rfl

/-- All tokens are read as an expression exactly if they spell it as a sum. -/
theorem ofTokens_eq_ok_iff (tokens : List PlacedToken) (expression : Expression) :
    ofTokens tokens = .ok expression ↔ Spells (.sum expression) (bare tokens) [] := by
  have exact_iff := parseWithin_takes_iff (by decide : 0 ≤ 7) (Nat.lt_succ_self tokens.length)
    expression []
  have whole : ofTokens tokens = .ok expression ↔
      Takes (parseWithin (tokens.length + 1) 0 tokens) expression [] := by
    unfold ofTokens Takes
    constructor
    · intro parsed
      split at parsed
      · simp at parsed
      · next read =>
          simp only [Except.ok.injEq] at parsed
          exact ⟨[], rfl, parsed ▸ read⟩
      · simp at parsed
    · rintro ⟨behind, noneLeft, read⟩
      have : behind = [] := List.map_eq_nil_iff.mp noneLeft
      subst this
      rw [read]
  rw [whole, exact_iff]
  exact ⟨fun spelled => spelled.1, fun spelled => ⟨spelled, trivial⟩⟩

/-- A list of tokens spells at most one expression. -/
theorem eq_of_spells {tokens : List ExpressionToken} {first second : Expression}
    (firstSpelled : Spells (.sum first) tokens [])
    (secondSpelled : Spells (.sum second) tokens []) : first = second := by
  let placed : List PlacedToken := tokens.map fun token => ⟨token, 0, []⟩
  have same : bare placed = tokens := by simp [placed, bare, Function.comp_def]
  rw [← same, ← ofTokens_eq_ok_iff] at firstSpelled secondSpelled
  rw [firstSpelled] at secondSpelled
  exact Except.ok.inj secondSpelled

/-- A text is read as an expression exactly if it divides into tokens that spell the
expression by the grammar, which is true of one expression at most. -/
theorem ofText_eq_ok_iff_spells :
    (∀ text expression, ofText text = .ok expression ↔
      ∃ tokens, ExpressionToken.ofText text = .ok tokens ∧
        Spells (.sum expression) (bare tokens) []) ∧
    (∀ tokens expression, ofTokens tokens = .ok expression ↔
      Spells (.sum expression) (bare tokens) []) ∧
    (∀ tokens first second,
      Spells (.sum first) tokens [] → Spells (.sum second) tokens [] → first = second) := by
  refine ⟨fun text expression => ?_, ofTokens_eq_ok_iff, fun _ _ _ => eq_of_spells⟩
  unfold ofText
  cases divided : ExpressionToken.ofText text with
  | error error => simp
  | ok tokens => simp [ofTokens_eq_ok_iff]

/-- A sign in front of a power is the sign of the power, as in `-a ** b`. -/
example (a b : Float) :
    ofTokens ([.operator .subtract, .number a, .operator .power, .number b].map (⟨·, 0, []⟩)) =
      .ok (.negate (.binary .power (.number a) (.number b))) :=
  rfl

end Expression

end BackOfEnvelope
