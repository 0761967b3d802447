import BackOfEnvelope.ExpressionParsing
import BackOfEnvelope.Namespace

/-!
# Evaluating expressions

Evaluation is strict.  A variable without a value, an unknown function, a wrong
count of arguments, a divisor of zero, the square root of a negative number and
a result that is not finite are errors, and no part of an expression is skipped.
-/

namespace BackOfEnvelope

namespace Binary64

def truncate (x : Float) : Float :=
  if x < 0.0 then x.ceil else x.floor

/-- The number one with the sign of a number. -/
def signOf (x : Float) : Float :=
  if x < 0.0 then -1.0 else 1.0

/-- The integer nearest to a number; a half goes to the even neighbour. -/
def roundToEven (x : Float) : Float :=
  let rounded := x.round
  if (x - truncate x).abs == 0.5 && (rounded / 2.0).floor * 2.0 != rounded then
    rounded - signOf x
  else rounded

/-- The lesser of two numbers; not a number gives way to the other one, and of
equal numbers the first counts. -/
def lesser (x y : Float) : Float :=
  if x.isNaN then y else if y < x then y else x

/-- The greater of two numbers; not a number gives way to the other one, and of
equal numbers the first counts. -/
def greater (x y : Float) : Float :=
  if x.isNaN then y else if x < y then y else x

end Binary64

namespace BinaryOperator

/-- The value of an operator on two numbers. -/
def apply (operator : BinaryOperator) (a b : Float) : Except ExpressionError Float :=
  match operator with
  | .add => .ok (a + b)
  | .subtract => .ok (a - b)
  | .multiply => .ok (a * b)
  | .divide => if b == 0.0 then .error .divisionByZero else .ok (a / b)
  | .remainder =>
      if b == 0.0 then .error .divisionByZero else .ok (a - b * (a / b).floor)
  | .power =>
      if a == 0.0 && b < 0.0 then .error .divisionByZero else .ok (Float.pow a b)

end BinaryOperator

namespace Expression

/-- The value of a function on a list of numbers. -/
def applyFunction (function : String) (arguments : List Float) :
    Except ExpressionError Float :=
  let wrongCount (expected : ArgumentCount) : Except ExpressionError Float :=
    .error (.arity function expected arguments.length)
  if function = "sqrt" then
    match arguments with
    | [x] => if x < 0.0 then .error (.negativeSquareRoot x) else .ok x.sqrt
    | _ => wrongCount .one
  else if function = "abs" then
    match arguments with
    | [x] => .ok x.abs
    | _ => wrongCount .one
  else if function = "pow" then
    match arguments with
    | [base, exponent] => .ok (Float.pow base exponent)
    | _ => wrongCount .two
  else if function = "round" then
    match arguments with
    | [x] => .ok (Binary64.roundToEven x)
    | [x, places] =>
        let factor := Float.pow 10.0 (Binary64.truncate places)
        .ok (Binary64.roundToEven (x * factor) / factor)
    | _ => wrongCount .oneOrTwo
  else if function = "min" then
    match arguments with
    | first :: rest => .ok (rest.foldl Binary64.lesser first)
    | [] => wrongCount .oneOrMore
  else if function = "max" then
    match arguments with
    | first :: rest => .ok (rest.foldl Binary64.greater first)
    | [] => wrongCount .oneOrMore
  else .error (.unknownFunction function)

def lookUp (names : Namespace) (name : String) : Except ExpressionError Float :=
  match names.binding name with
  | some (some value) => .ok value
  | some none => .error (.noValue name)
  | none => .error (.unknownVariable name)

mutual

/-- The value of an expression, which may still be infinite or not a number. -/
def value (names : Namespace) : Expression → Except ExpressionError Float
  | .number constant => .ok constant
  | .variable name => lookUp names name
  | .negate operand =>
      match value names operand with
      | .error error => .error error
      | .ok a => .ok (-a)
  | .binary operator left right =>
      match value names left with
      | .error error => .error error
      | .ok a =>
          match value names right with
          | .error error => .error error
          | .ok b => operator.apply a b
  | .call function arguments =>
      match argumentValues names arguments with
      | .error error => .error error
      | .ok numbers => applyFunction function numbers

/-- The values of the arguments of a call, from left to right. -/
def argumentValues (names : Namespace) : List Expression → Except ExpressionError (List Float)
  | [] => .ok []
  | argument :: rest =>
      match value names argument with
      | .error error => .error error
      | .ok first =>
          match argumentValues names rest with
          | .error error => .error error
          | .ok others => .ok (first :: others)

end

def evaluate (expression : Expression) (names : Namespace) : Except ExpressionError Float :=
  match expression.value names with
  | .error error => .error error
  | .ok result => if result.isFinite then .ok result else .error .notFinite

/-- The finite value of the expression that a text spells. -/
def evaluateText (text : String) (names : Namespace) : Except ExpressionError Float :=
  match ofText text with
  | .error error => .error error
  | .ok expression => expression.evaluate names

end Expression

end BackOfEnvelope
