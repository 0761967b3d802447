import BackOfEnvelope.Binary64

/-!
# Reading numbers written in decimal

`readNumber?` accepts an optional sign followed by either one of the words
`inf`, `infinity` and `nan` in any case, or by decimal digits with an optional
point and an optional exponent.  At least one digit must stand before the
exponent, on either side of the point.  The result is the nearest number; what
is too large becomes an infinity.
-/

namespace BackOfEnvelope

/-- Split off an optional sign; the flag tells whether it was a minus. -/
def splitSign : List Char → Bool × List Char
  | '-' :: rest => (true, rest)
  | '+' :: rest => (false, rest)
  | rest => (false, rest)

/-- The natural number spelled by decimal digits. -/
def digitsValue (digits : List Char) : Nat :=
  digits.foldl (fun value digit => 10 * value + (digit.toNat - '0'.toNat)) 0

def hexDigitValue? (c : Char) : Option Nat :=
  if '0' ≤ c && c ≤ '9' then some (c.toNat - '0'.toNat)
  else if 'a' ≤ c && c ≤ 'f' then some (c.toNat - 'a'.toNat + 10)
  else if 'A' ≤ c && c ≤ 'F' then some (c.toNat - 'A'.toNat + 10)
  else none

structure DecimalLiteral where
  whole : List Char
  fraction : List Char
  /-- The exponent of ten, zero when none is written. -/
  exponent : Int

namespace DecimalLiteral

/-- Read an exponent mark, an optional sign and at least one digit, up to the
end of the text. -/
def readExponent? : List Char → Option Int
  | mark :: rest =>
      if mark = 'e' || mark = 'E' then
        let (negative, digits) := splitSign rest
        if digits.isEmpty || !digits.all Char.isDigit then none
        else some (if negative then -(digitsValue digits : Int) else digitsValue digits)
      else none
  | [] => some 0

/-- Read the whole text as an unsigned decimal number. -/
def read? (text : List Char) : Option DecimalLiteral :=
  let (whole, afterWhole) := text.span Char.isDigit
  let (fraction, afterFraction) :=
    match afterWhole with
    | '.' :: rest => rest.span Char.isDigit
    | rest => ([], rest)
  if whole.isEmpty && fraction.isEmpty then none
  else
    (readExponent? afterFraction).map fun exponent => ⟨whole, fraction, exponent⟩

def toFloat (negative : Bool) (literal : DecimalLiteral) : Float :=
  Binary64.ofDecimal negative (digitsValue (literal.whole ++ literal.fraction))
    (literal.exponent - literal.fraction.length)

end DecimalLiteral

/-- A word that stands for a number without digits. -/
def readNumberWord? (negative : Bool) (text : List Char) : Option Float :=
  let word := String.ofList (text.map Char.toLower)
  if word = "inf" || word = "infinity" then some (Binary64.infinity negative)
  else if word = "nan" then some Binary64.notANumber
  else none

/-- Read the whole text as a number. -/
def readNumber? (text : List Char) : Option Float :=
  let (negative, unsigned) := splitSign text
  match readNumberWord? negative unsigned with
  | some number => some number
  | none => (DecimalLiteral.read? unsigned).map (DecimalLiteral.toFloat negative)

end BackOfEnvelope
