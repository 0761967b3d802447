import BackOfEnvelope.NumberReading
import BackOfEnvelope.Yaml

/-!
# Values of YAML scalars

A plain scalar is null, a truth value, an integer, a number or else a string,
by its spelling.  Integers have to fit into 64 bits, with sign or without; a
document with an integer of up to 128 bits beyond that is refused, and a still
larger one is read as a number.  A standard tag asks for one of these kinds.
-/

namespace BackOfEnvelope

namespace YamlScalar

/-- The spellings of null that are not empty. -/
def isNullWord (text : String) : Bool :=
  text = "null" || text = "Null" || text = "NULL" || text = "~"

def truth? (text : String) : Option Bool :=
  if text = "true" || text = "True" || text = "TRUE" then some true
  else if text = "false" || text = "False" || text = "FALSE" then some false
  else none

/-- The value of digits in a base. -/
def digitsInBase? (base : Nat) (digits : List Char) : Option Nat :=
  if digits.isEmpty then none
  else
    digits.foldl (fun soFar c =>
      match soFar, hexDigitValue? c with
      | some value, some digit => if digit < base then some (base * value + digit) else none
      | _, _ => none) (some 0)

/-- The base that stands in front of digits, and the digits behind it. -/
def splitBase? : List Char → Option (Nat × List Char)
  | '0' :: 'x' :: digits => some (16, digits)
  | '0' :: 'o' :: digits => some (8, digits)
  | '0' :: 'b' :: digits => some (2, digits)
  | _ => none

/-- Whether a text consists of digits with a leading zero, so that it is no
number. -/
def isPadded (text : List Char) : Bool :=
  match (splitSign text).2 with
  | '0' :: c :: rest => (c :: rest).all Char.isDigit
  | _ => false

/-- The integer of a spelling without a sign, in base ten or behind the sign of
another base. -/
def magnitude? (text : List Char) : Option Nat :=
  match splitBase? text with
  | some (base, digits) => digitsInBase? base digits
  | none => digitsInBase? 10 text

def integer? (text : List Char) : Option Int :=
  if isPadded text then none
  else
    match text with
    | '+' :: rest => (magnitude? rest).map fun magnitude => (magnitude : Int)
    | '-' :: rest => (magnitude? rest).map fun magnitude => -(magnitude : Int)
    | _ => (magnitude? text).map fun magnitude => (magnitude : Int)

/-- Integers of at most 128 bits, with sign or without. -/
def isWideInteger (n : Int) : Bool :=
  decide (-(powerOfTwo 127 : Int) ≤ n) && decide (n < (powerOfTwo 128 : Int))

/-- The number of a spelling.  The words for infinities and for not a number
start with a point; other numbers have to be finite. -/
def float? (text : List Char) : Option Float :=
  let unsigned? :=
    match text with
    | '+' :: '+' :: _ | '+' :: '-' :: _ => none
    | '+' :: rest => some rest
    | _ => some text
  unsigned?.bind fun unsigned =>
    let word := String.ofList unsigned
    let whole := String.ofList text
    if word = ".inf" || word = ".Inf" || word = ".INF" then some (Binary64.infinity false)
    else if whole = "-.inf" || whole = "-.Inf" || whole = "-.INF" then some (Binary64.infinity true)
    else if whole = ".nan" || whole = ".NaN" || whole = ".NAN" then some Binary64.notANumber
    else
      match readNumber? unsigned with
      | some number => if number.isFinite then some number else none
      | none => none

/-- The value of an integer, where a wide one is refused. -/
def ofInteger? (n : Int) : Option (Option Yaml) :=
  if isSmallInteger n then some (some (.integer n))
  else if isWideInteger n then none
  else some none

def ofPlain? (text : String) : Option Yaml :=
  if text.isEmpty || isNullWord text then some .null
  else
    match truth? text with
    | some value => some (.boolean value)
    | none =>
        let characters := text.toList
        match (integer? characters).map ofInteger? with
        | some none => none
        | some (some (some value)) => some value
        | _ =>
            if isPadded characters then some (.text text)
            else
              match float? characters with
              | some number => some (.float number)
              | none => some (.text text)

/-- The value of a scalar that has to be an integer. -/
def ofIntegerTag? (text : String) : Option Yaml :=
  match integer? text.toList with
  | some n => if isSmallInteger n then some (.integer n) else none
  | none => none

end YamlScalar

end BackOfEnvelope
