import BackOfEnvelope.CharacterClasses
import BackOfEnvelope.Expression
import BackOfEnvelope.NumberReading

/-!
# Tokens of expressions

An expression is divided into lexemes, and every lexeme is one token: a number,
a name, an operator, a parenthesis or a comma.  White space separates lexemes
and belongs to none.  A token remembers its lexeme and where it starts, counted
in characters, so the lexemes together with the white space between them are
the whole text.
-/

namespace BackOfEnvelope

inductive ExpressionToken where
  | number (value : Float)
  | name (name : String)
  /-- An operator; plus and minus are also signs. -/
  | operator (operator : BinaryOperator)
  | leftParenthesis
  | rightParenthesis
  | comma

/-- A token with its place in the text. -/
structure PlacedToken where
  token : ExpressionToken
  position : Nat
  lexeme : List Char

namespace ExpressionToken

/-- A token as a message shows it: numbers in the fewest digits, and the power
operator as two stars. -/
def shown : ExpressionToken → String
  | .number value => NumberLayout.message.write value
  | .name spelling => spelling
  | .operator binary => binary.symbol
  | .leftParenthesis => "("
  | .rightParenthesis => ")"
  | .comma => ","

/-- The characters of numbers, apart from their exponents. -/
def isNumeralCharacter (c : Char) : Bool :=
  c.isDigit || c = '.'

def startsName (c : Char) : Bool :=
  c.isAlpha || c = '_'

def isNameCharacter (c : Char) : Bool :=
  c.isAlphanum || c = '_'

/-- The exponent with which a text begins: its mark, an optional sign and at
least one digit, or nothing. -/
def leadingExponent : List Char → List Char
  | mark :: sign :: rest =>
      if mark = 'e' || mark = 'E' then
        if sign = '+' || sign = '-' then
          let digits := rest.takeWhile Char.isDigit
          if digits.isEmpty then [] else mark :: sign :: digits
        else
          let digits := (sign :: rest).takeWhile Char.isDigit
          if digits.isEmpty then [] else mark :: digits
      else []
  | _ => []

/-- The characters that belong to one lexeme with the character `c` before
them. -/
def lexemeTail (c : Char) (rest : List Char) : List Char :=
  if isNumeralCharacter c then
    let numeral := rest.takeWhile isNumeralCharacter
    numeral ++ leadingExponent (rest.drop numeral.length)
  else if startsName c then rest.takeWhile isNameCharacter
  else if c = '*' && rest.head? == some '*' then ['*']
  else []

/-- The token of a lexeme that is neither a number nor a name. -/
def ofSymbol? (lexeme : List Char) : Option ExpressionToken :=
  match lexeme with
  | ['+'] => some (.operator .add)
  | ['-'] => some (.operator .subtract)
  | ['*'] => some (.operator .multiply)
  | ['/'] => some (.operator .divide)
  | ['%'] => some (.operator .remainder)
  | ['^'] | ['*', '*'] => some (.operator .power)
  | ['('] => some .leftParenthesis
  | [')'] => some .rightParenthesis
  | [','] => some .comma
  | _ => none

/-- The token of the lexeme `c :: tail`. -/
def ofLexeme (c : Char) (tail : List Char) (position : Nat) :
    Except ExpressionError ExpressionToken :=
  let lexeme := c :: tail
  if isNumeralCharacter c then
    match readNumber? lexeme with
    | some value => .ok (.number value)
    | none => .error (.invalidNumber (String.ofList lexeme))
  else if startsName c then .ok (.name (String.ofList lexeme))
  else
    match ofSymbol? lexeme with
    | some token => .ok token
    | none => .error (.unexpectedCharacter c position)

/-- The tokens of a text that stands behind `position` characters. -/
def readFrom (position : Nat) (text : List Char) : Except ExpressionError (List PlacedToken) :=
  match text with
  | [] => .ok []
  | c :: rest =>
      if isWhiteSpace c then readFrom (position + 1) rest
      else
        let tail := lexemeTail c rest
        match ofLexeme c tail position with
        | .error error => .error error
        | .ok token =>
            match readFrom (position + 1 + tail.length) (rest.drop tail.length) with
            | .error error => .error error
            | .ok others => .ok (⟨token, position, c :: tail⟩ :: others)
termination_by text.length
decreasing_by
  · simp
  · simp only [List.length_drop, List.length_cons]
    omega

def ofText (text : String) : Except ExpressionError (List PlacedToken) :=
  readFrom 0 text.toList

end ExpressionToken

end BackOfEnvelope
