import BackOfEnvelope.ExpressionToken

/-!
# Reading expressions

Operators bind by their power.  Sums bind least, then products, then signs, and
`**` most; all group to the left except `**`, which groups to the right.  An
operator also admits a sign in front of its right operand, so `2 ** -1` is an
expression and `-2 ** 2` is the negative of a power.

`climb` takes the operators that bind at least as strongly as a given power and
leaves the others to the caller.  How deep an expression is nested is bounded
by the count of its tokens, since every operand inside another one stands
behind a token of its own.
-/

namespace BackOfEnvelope

namespace BinaryOperator

/-- How strongly an operator binds its left operand. -/
def leftPower : BinaryOperator → Nat
  | .add | .subtract => 1
  | .multiply | .divide | .remainder => 3
  | .power => 7

/-- How strongly the operators of the right operand have to bind. -/
def rightPower : BinaryOperator → Nat
  | .add | .subtract => 2
  | .multiply | .divide | .remainder => 4
  | .power => 6

end BinaryOperator

namespace Expression

/-- How strongly the operators behind a sign have to bind to belong to its
operand. -/
def signPower : Nat := 5

/-- What a reader of tokens answers: what it read and the tokens behind. -/
abbrev Parsed (α : Type) := Except ExpressionError (α × List PlacedToken)

/-- Report a token that does not fit. -/
def unexpected {α : Type} (placed : PlacedToken) : Parsed α :=
  .error (.unexpectedToken placed.token.shown placed.position)

/-- Read the arguments of a call behind its opening parenthesis, at least one,
up to and with the closing one.  The first argument bounds their count. -/
def parseArguments (parse : Nat → List PlacedToken → Parsed Expression) :
    Nat → List PlacedToken → Parsed (List Expression)
  | 0, _ => .error .unexpectedEnd
  | bound + 1, tokens =>
      match parse 0 tokens with
      | .error error => .error error
      | .ok (argument, behind) =>
          match behind with
          | [] => .error .unexpectedEnd
          | next :: rest =>
              match next.token with
              | .comma =>
                  match parseArguments parse bound rest with
                  | .error error => .error error
                  | .ok (arguments, behind) => .ok (argument :: arguments, behind)
              | .rightParenthesis => .ok ([argument], rest)
              | _ => unexpected next

/-- Read what stands behind a name: the arguments of a call, or nothing if the
name is a variable. -/
def parseName (parse : Nat → List PlacedToken → Parsed Expression) (name : String)
    (tokens : List PlacedToken) : Parsed Expression :=
  match tokens with
  | [] => .ok (.variable name, [])
  | next :: rest =>
      match next.token with
      | .leftParenthesis =>
          match rest with
          | [] => .error .unexpectedEnd
          | first :: behind =>
              match first.token with
              | .rightParenthesis => .ok (.call name [], behind)
              | _ =>
                  match parseArguments parse (first :: behind).length (first :: behind) with
                  | .error error => .error error
                  | .ok (arguments, behind) => .ok (.call name arguments, behind)
      | _ => .ok (.variable name, next :: rest)

/-- Read an expression behind an opening parenthesis, up to and with the closing
one. -/
def parseParenthesized (parse : Nat → List PlacedToken → Parsed Expression)
    (tokens : List PlacedToken) : Parsed Expression :=
  match parse 0 tokens with
  | .error error => .error error
  | .ok (inner, behind) =>
      match behind with
      | [] => .error .unexpectedEnd
      | next :: rest =>
          match next.token with
          | .rightParenthesis => .ok (inner, rest)
          | _ => unexpected next

/-- Read an operand: a number, a variable, a call, an expression in parentheses,
or an operand behind a sign. -/
def parseOperand (parse : Nat → List PlacedToken → Parsed Expression) :
    List PlacedToken → Parsed Expression
  | [] => .error .unexpectedEnd
  | next :: rest =>
      match next.token with
      | .number value => .ok (.number value, rest)
      | .name name => parseName parse name rest
      | .operator .subtract =>
          match parse signPower rest with
          | .error error => .error error
          | .ok (operand, behind) => .ok (.negate operand, behind)
      | .operator .add => parse signPower rest
      | .leftParenthesis => parseParenthesized parse rest
      | _ => unexpected next

/-- Extend an expression by the operators behind it that bind with at least the
given power.  The second argument bounds their count. -/
def climb (parse : Nat → List PlacedToken → Parsed Expression) (power : Nat) :
    Nat → Expression → List PlacedToken → Parsed Expression
  | 0, left, tokens => .ok (left, tokens)
  | _ + 1, left, [] => .ok (left, [])
  | bound + 1, left, next :: rest =>
      match next.token with
      | .operator operator =>
          if operator.leftPower < power then .ok (left, next :: rest)
          else
            match parse operator.rightPower rest with
            | .error error => .error error
            | .ok (right, behind) =>
                climb parse power bound (.binary operator left right) behind
      | _ => .ok (left, next :: rest)

/-- Read an expression whose operators bind with at least the given power.  The
first argument bounds how deep expressions stand inside each other. -/
def parseWithin : Nat → Nat → List PlacedToken → Parsed Expression
  | 0, _, _ => .error .unexpectedEnd
  | depth + 1, power, tokens =>
      match parseOperand (parseWithin depth) tokens with
      | .error error => .error error
      | .ok (first, behind) => climb (parseWithin depth) power behind.length first behind

/-- The expression that a whole list of tokens spells. -/
def ofTokens (tokens : List PlacedToken) : Except ExpressionError Expression :=
  match parseWithin (tokens.length + 1) 0 tokens with
  | .error error => .error error
  | .ok (expression, []) => .ok expression
  | .ok (_, next :: _) => .error (.unexpectedToken next.token.shown next.position)

def ofText (text : String) : Except ExpressionError Expression :=
  match ExpressionToken.ofText text with
  | .error error => .error error
  | .ok tokens => ofTokens tokens

end Expression

end BackOfEnvelope
