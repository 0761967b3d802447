import BackOfEnvelope.ExpressionParsing

/-!
# The grammar of expressions

Expressions are spelled in strata.  A sum is made of products, a product of
signed operands, a signed operand of powers, and a power of an atom and maybe a
signed exponent.  Sums and products group to the left; a power takes all of its
exponent, so powers group to the right.

`Spells phrase tokens rest` says that the tokens in front of `rest` spell a
phrase.  The rest is part of the relation because a name is a variable only if
no parenthesis opens behind it.
-/

namespace BackOfEnvelope

namespace BinaryOperator

/-- The operators between the terms of a sum. -/
def isAdditive : BinaryOperator → Bool
  | .add | .subtract => true
  | _ => false

/-- The operators between the factors of a product. -/
def isMultiplicative : BinaryOperator → Bool
  | .multiply | .divide | .remainder => true
  | _ => false

theorem powers_of_isAdditive {operator : BinaryOperator} (additive : operator.isAdditive) :
    operator.leftPower = 1 ∧ operator.rightPower = 2 := by
  cases operator <;> simp_all [isAdditive, leftPower, rightPower]

theorem powers_of_isMultiplicative {operator : BinaryOperator}
    (multiplicative : operator.isMultiplicative) :
    operator.leftPower = 3 ∧ operator.rightPower = 4 := by
  cases operator <;> simp_all [isMultiplicative, leftPower, rightPower]

end BinaryOperator

/-- A part of an expression, with the tree that it stands for. -/
inductive Phrase where
  /-- Products with plus and minus between them. -/
  | sum (expression : Expression)
  /-- Signed operands with `*`, `/` and `%` between them. -/
  | product (expression : Expression)
  /-- A power behind any number of signs. -/
  | signed (expression : Expression)
  /-- An atom, maybe raised to a signed exponent. -/
  | power (expression : Expression)
  /-- A number, a variable, a call, or a sum in parentheses. -/
  | atom (expression : Expression)
  /-- Sums with commas between them, at least one. -/
  | arguments (expressions : List Expression)

/-- The tokens in front of a rest spell a phrase. -/
inductive Spells : Phrase → List ExpressionToken → List ExpressionToken → Prop
  | number (value : Float) (rest : List ExpressionToken) :
      Spells (.atom (.number value)) (.number value :: rest) rest
  | plainName (name : String) {rest : List ExpressionToken}
      (noCall : rest.head? ≠ some .leftParenthesis) :
      Spells (.atom (.variable name)) (.name name :: rest) rest
  | emptyCall (name : String) (rest : List ExpressionToken) :
      Spells (.atom (.call name []))
        (.name name :: .leftParenthesis :: .rightParenthesis :: rest) rest
  | call (name : String) {arguments : List Expression} {tokens rest : List ExpressionToken}
      (inside : Spells (.arguments arguments) tokens (.rightParenthesis :: rest)) :
      Spells (.atom (.call name arguments)) (.name name :: .leftParenthesis :: tokens) rest
  | parenthesized {expression : Expression} {tokens rest : List ExpressionToken}
      (inside : Spells (.sum expression) tokens (.rightParenthesis :: rest)) :
      Spells (.atom expression) (.leftParenthesis :: tokens) rest
  | lastArgument {argument : Expression} {tokens rest : List ExpressionToken}
      (last : Spells (.sum argument) tokens rest) :
      Spells (.arguments [argument]) tokens rest
  | moreArguments {argument : Expression} {arguments : List Expression}
      {tokens middle rest : List ExpressionToken}
      (first : Spells (.sum argument) tokens (.comma :: middle))
      (others : Spells (.arguments arguments) middle rest) :
      Spells (.arguments (argument :: arguments)) tokens rest
  | base {expression : Expression} {tokens rest : List ExpressionToken}
      (atom : Spells (.atom expression) tokens rest) :
      Spells (.power expression) tokens rest
  | raised {base exponent : Expression} {tokens middle rest : List ExpressionToken}
      (atom : Spells (.atom base) tokens (.operator .power :: middle))
      (above : Spells (.signed exponent) middle rest) :
      Spells (.power (.binary .power base exponent)) tokens rest
  | unsigned {expression : Expression} {tokens rest : List ExpressionToken}
      (power : Spells (.power expression) tokens rest) :
      Spells (.signed expression) tokens rest
  | minus {expression : Expression} {tokens rest : List ExpressionToken}
      (behind : Spells (.signed expression) tokens rest) :
      Spells (.signed (.negate expression)) (.operator .subtract :: tokens) rest
  | plus {expression : Expression} {tokens rest : List ExpressionToken}
      (behind : Spells (.signed expression) tokens rest) :
      Spells (.signed expression) (.operator .add :: tokens) rest
  | factor {expression : Expression} {tokens rest : List ExpressionToken}
      (only : Spells (.signed expression) tokens rest) :
      Spells (.product expression) tokens rest
  | times {operator : BinaryOperator} {left right : Expression}
      {tokens middle rest : List ExpressionToken}
      (multiplicative : operator.isMultiplicative)
      (before : Spells (.product left) tokens (.operator operator :: middle))
      (last : Spells (.signed right) middle rest) :
      Spells (.product (.binary operator left right)) tokens rest
  | term {expression : Expression} {tokens rest : List ExpressionToken}
      (only : Spells (.product expression) tokens rest) :
      Spells (.sum expression) tokens rest
  | added {operator : BinaryOperator} {left right : Expression}
      {tokens middle rest : List ExpressionToken}
      (additive : operator.isAdditive)
      (before : Spells (.sum left) tokens (.operator operator :: middle))
      (last : Spells (.product right) middle rest) :
      Spells (.sum (.binary operator left right)) tokens rest

namespace Spells

/-- Every phrase is spelled by at least one token. -/
theorem length_rest_lt {phrase : Phrase} {tokens rest : List ExpressionToken}
    (spelled : Spells phrase tokens rest) : rest.length < tokens.length := by
  induction spelled with
  | number | plainName | emptyCall => simp only [List.length_cons]; omega
  | call _ _ ih | parenthesized _ ih =>
      simp only [List.length_cons] at ih ⊢
      omega
  | lastArgument _ ih | base _ ih | unsigned _ ih | factor _ ih | term _ ih => exact ih
  | minus _ ih | plus _ ih =>
      simp only [List.length_cons]
      omega
  | moreArguments _ _ firstIH othersIH | raised _ _ firstIH othersIH
  | times _ _ _ firstIH othersIH | added _ _ _ firstIH othersIH =>
      simp only [List.length_cons] at firstIH
      omega

/-- No phrase begins with a closing parenthesis, so a call that opens and closes at once
has no arguments. -/
theorem head?_ne_rightParenthesis {phrase : Phrase} {tokens rest : List ExpressionToken}
    (spelled : Spells phrase tokens rest) : tokens.head? ≠ some .rightParenthesis := by
  induction spelled with
  | number | plainName | emptyCall | call | parenthesized | minus | plus => simp
  | lastArgument _ ih | base _ ih | unsigned _ ih | factor _ ih | term _ ih => exact ih
  | moreArguments _ _ ih _ | raised _ _ ih _ | times _ _ _ ih _ | added _ _ _ ih _ => exact ih

theorem signed_of_atom {expression : Expression} {tokens rest : List ExpressionToken}
    (spelled : Spells (.atom expression) tokens rest) :
    Spells (.signed expression) tokens rest :=
  .unsigned (.base spelled)

end Spells

namespace Phrase

/-- The phrase that is read with operators of at least a given power. -/
def ofPower (power : Nat) (expression : Expression) : Phrase :=
  if power ≤ 1 then .sum expression
  else if power ≤ 3 then .product expression
  else .signed expression

end Phrase

namespace PlacedToken

def bare (placed : List PlacedToken) : List ExpressionToken :=
  placed.map token

@[simp]
theorem bare_nil : bare [] = [] :=
  rfl

@[simp]
theorem bare_cons (first : PlacedToken) (others : List PlacedToken) :
    bare (first :: others) = first.token :: bare others :=
  rfl

@[simp]
theorem bare_append (front behind : List PlacedToken) :
    bare (front ++ behind) = bare front ++ bare behind :=
  List.map_append

@[simp]
theorem length_bare (placed : List PlacedToken) : (bare placed).length = placed.length := by
  simp [bare]

theorem bare_eq_cons {placed : List PlacedToken} {token : ExpressionToken}
    {rest : List ExpressionToken} (same : bare placed = token :: rest) :
    ∃ first others, placed = first :: others ∧ first.token = token ∧ bare others = rest :=
  List.map_eq_cons_iff.mp same

end PlacedToken

/-- No operator of the given power or a greater one stands in front. -/
def StopsBelow (power : Nat) : List ExpressionToken → Prop
  | .operator operator :: _ => operator.leftPower < power
  | _ => True

namespace StopsBelow

theorem mono {low high : Nat} (le : low ≤ high) {tokens : List ExpressionToken}
    (stops : StopsBelow low tokens) : StopsBelow high tokens := by
  match tokens with
  | [] => trivial
  | .operator operator :: _ => exact Nat.lt_of_lt_of_le stops le
  | .number _ :: _ | .name _ :: _ | .leftParenthesis :: _ | .rightParenthesis :: _
  | .comma :: _ => trivial

/-- Only the power operator binds more strongly than the operators of products. -/
theorem four_of_seven {tokens : List ExpressionToken} (stops : StopsBelow 7 tokens) :
    StopsBelow 4 tokens := by
  unfold StopsBelow at stops ⊢
  split
  · next operator _ =>
      cases operator <;> simp_all [BinaryOperator.leftPower]
  · trivial

/-- Every operator that binds more strongly than sums binds at least as products do. -/
theorem two_of_three {tokens : List ExpressionToken} (stops : StopsBelow 3 tokens) :
    StopsBelow 2 tokens := by
  unfold StopsBelow at stops ⊢
  split
  · next operator _ =>
      cases operator <;> simp_all [BinaryOperator.leftPower]
  · trivial

end StopsBelow

end BackOfEnvelope
