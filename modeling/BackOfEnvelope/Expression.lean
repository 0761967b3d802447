import BackOfEnvelope.NumberText

/-!
# Arithmetic expressions

An expression is built from numbers, named variables, arithmetic operators and
function calls.  This file holds the tree, the list of its variables, and the
ways in which reading or evaluating an expression can fail.
-/

namespace BackOfEnvelope

inductive BinaryOperator where
  /-- Addition, `+`. -/
  | add
  /-- Subtraction, `-`. -/
  | subtract
  /-- Multiplication, `*`. -/
  | multiply
  /-- Division, `/`. -/
  | divide
  /-- The remainder with the sign of the divisor, `%`. -/
  | remainder
  /-- Power, `**` or `^`. -/
  | power
deriving DecidableEq

namespace BinaryOperator

def symbol : BinaryOperator → String
  | .add => "+"
  | .subtract => "-"
  | .multiply => "*"
  | .divide => "/"
  | .remainder => "%"
  | .power => "**"

end BinaryOperator

inductive Expression where
  | number (value : Float)
  | variable (name : String)
  | negate (operand : Expression)
  | binary (operator : BinaryOperator) (left right : Expression)
  | call (function : String) (arguments : List Expression)

instance : Inhabited Expression := ⟨.number 0.0⟩

namespace Expression

/-- Add a name at the end of a list unless it is there already. -/
def addName (names : List String) (name : String) : List String :=
  if name ∈ names then names else names ++ [name]

mutual

/-- Add the variables of an expression to a list of names. -/
def addVariables (names : List String) : Expression → List String
  | .number _ => names
  | .variable name => addName names name
  | .negate operand => addVariables names operand
  | .binary _ left right => addVariables (addVariables names left) right
  | .call _ arguments => addArgumentVariables names arguments

/-- Add the variables of several expressions, from left to right. -/
def addArgumentVariables (names : List String) : List Expression → List String
  | [] => names
  | argument :: rest => addArgumentVariables (addVariables names argument) rest

end

/-- The variables of an expression, each once, in the order in which they first
occur from left to right. -/
def variableNames (expression : Expression) : List String :=
  addVariables [] expression

end Expression

inductive ArgumentCount where
  | one
  | two
  | oneOrTwo
  | oneOrMore

namespace ArgumentCount

/-- The count in words of a message. -/
def description : ArgumentCount → String
  | .one => "1"
  | .two => "2"
  | .oneOrTwo => "1 or 2"
  | .oneOrMore => "at least 1"

end ArgumentCount

/-- Why an expression could not be read or evaluated. -/
inductive ExpressionError where
  | unexpectedCharacter (character : Char) (position : Nat)
  | invalidNumber (literal : String)
  | unexpectedEnd
  | unexpectedToken (token : String) (position : Nat)
  | unknownVariable (name : String)
  | noValue (name : String)
  | unknownFunction (name : String)
  | arity (function : String) (expected : ArgumentCount) (found : Nat)
  /-- A divisor that is zero, or zero to a negative power. -/
  | divisionByZero
  | negativeSquareRoot (value : Float)
  | notFinite

namespace ExpressionError

def message : ExpressionError → String
  | .unexpectedCharacter character position =>
      "unexpected character '" ++ character.toString ++ "' at position " ++ toString position
  | .invalidNumber literal => "invalid number '" ++ literal ++ "'"
  | .unexpectedEnd => "unexpected end of expression"
  | .unexpectedToken token position =>
      "unexpected '" ++ token ++ "' at position " ++ toString position
  | .unknownVariable name => "name '" ++ name ++ "' is not defined"
  | .noValue name => "name '" ++ name ++ "' has no value"
  | .unknownFunction name => "unknown function '" ++ name ++ "'"
  | .arity function expected found =>
      function ++ "() takes " ++ expected.description ++ " argument(s), got " ++ toString found
  | .divisionByZero => "division by zero"
  | .negativeSquareRoot value =>
      "square root of negative number " ++ NumberLayout.message.write value
  | .notFinite => "result is not a finite number"

end ExpressionError

end BackOfEnvelope
