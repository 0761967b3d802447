import BackOfEnvelope.Json
import BackOfEnvelope.NumberReading

/-!
# Reading JSON

Reading goes through a syntax tree that keeps what a text says without judging
it: numbers as written, strings as sequences of code units, and the fields of
an object in order with repetitions.  `JsonSyntax.toJson?` then turns a tree
into a value.  It refuses numbers beyond the range of binary64, strings with
half of a surrogate pair, and nesting beyond 127 levels.  A reader that ignores
a part of a text ignores these faults in that part, which is why the two steps
are separate.
-/

namespace BackOfEnvelope

structure JsonNumeral where
  negative : Bool
  whole : List Char
  /-- The digits after the point, none without a point. -/
  fraction : List Char
  exponent : Option (Bool × List Char)

inductive JsonSyntax where
  /-- The word `null`. -/
  | null
  | boolean (value : Bool)
  | number (numeral : JsonNumeral)
  | text (units : List Nat)
  | array (items : List JsonSyntax)
  /-- Fields in the order of the text. -/
  | object (fields : List (List Nat × JsonSyntax))

namespace JsonNumeral

/-- The largest natural number of 64 bits. -/
def largestSignificand : Nat := powerOfTwo 64 - 1

/-- Append digits to a significand as long as it fits into 64 bits.  The result
holds the significand and the digits that are left over. -/
def accumulate (significand : Nat) : List Char → Nat × List Char
  | [] => (significand, [])
  | digit :: rest =>
      let longer := 10 * significand + (digit.toNat - '0'.toNat)
      if longer ≤ largestSignificand then accumulate longer rest
      else (significand, digit :: rest)

/-- The largest exponent that is read digit by digit. -/
def largestExponent : Nat := powerOfTwo 31 - 1

/-- Scale a number by powers of ten that are themselves binary64 numbers.
`none` means that the result is out of range. -/
def scaleByPowersOfTen : Nat → Float → Int → Option Float
  | 0, value, _ => some value
  | steps + 1, value, exponent =>
      if exponent.natAbs ≤ 308 then
        let power := Binary64.nearest false (powerOfTen exponent.natAbs) 1
        if 0 ≤ exponent then
          let scaled := value * power
          if scaled.isInf then none else some scaled
        else some (value / power)
      else if value == 0.0 then some value
      else if 0 ≤ exponent then none
      else
        let power := Binary64.nearest false (powerOfTen 308) 1
        scaleByPowersOfTen steps (value / power) (exponent + 308)

/-- The binary64 number of a numeral with fraction, exponent or too many
digits.  The significand has at most 64 bits; further digits before the point
only count as powers of ten, and further digits after the point not at all. -/
def toFloat? (numeral : JsonNumeral) : Option Float :=
  let (wholePart, moreWhole) := accumulate 0 numeral.whole
  let (significand, moreFraction) := accumulate wholePart numeral.fraction
  let pointExponent : Int :=
    moreWhole.length - ((numeral.fraction.length - moreFraction.length : Nat) : Int)
  let start := Binary64.nearest false significand 1
  let unsigned :=
    match numeral.exponent with
    | none => scaleByPowersOfTen 4 start pointExponent
    | some (negativeExponent, digits) =>
        let exponent := digitsValue digits
        if largestExponent < exponent then
          if significand ≠ 0 && !negativeExponent then none else some (Binary64.nearest false 0 1)
        else
          scaleByPowersOfTen 4 start
            (pointExponent + if negativeExponent then -(exponent : Int) else exponent)
  unsigned.map fun value => if numeral.negative then -value else value

/-- The value of a numeral: an integer of 64 bits if it is written as one, and
a binary64 number otherwise.  Minus zero is not an integer. -/
def toJson? (numeral : JsonNumeral) : Option Json :=
  let magnitude := digitsValue numeral.whole
  let value : Int := if numeral.negative then -(magnitude : Int) else magnitude
  if numeral.fraction.isEmpty && numeral.exponent.isNone && isSmallInteger value &&
      !(numeral.negative && magnitude = 0) then
    some (.integer value)
  else numeral.toFloat?.map .float

end JsonNumeral

namespace JsonSyntax

def isSpace (c : Char) : Bool :=
  c = ' ' || c = '\n' || c = '\t' || c = '\r'

/-- The rest of a text behind spaces. -/
def skipSpaces (text : List Char) : List Char :=
  text.dropWhile isSpace

/-- The code unit of four hexadecimal digits. -/
def codeUnit? (a b c d : Char) : Option Nat := do
  let a ← hexDigitValue? a
  let b ← hexDigitValue? b
  let c ← hexDigitValue? c
  let d ← hexDigitValue? d
  return ((a * 16 + b) * 16 + c) * 16 + d

/-- The character behind a backslash that stands for one code unit. -/
def simpleEscape? (c : Char) : Option Nat :=
  match c with
  | '"' => some 34
  | '\\' => some 92
  | '/' => some 47
  | 'b' => some 8
  | 'f' => some 12
  | 'n' => some 10
  | 'r' => some 13
  | 't' => some 9
  | _ => none

/-- Read a string behind its opening quotation mark, up to and with the closing
one. -/
def readString? : List Char → Option (List Nat × List Char)
  | '"' :: rest => some ([], rest)
  | '\\' :: 'u' :: a :: b :: c :: d :: rest =>
      match codeUnit? a b c d, readString? rest with
      | some unit, some (units, behind) => some (unit :: units, behind)
      | _, _ => none
  | '\\' :: c :: rest =>
      match simpleEscape? c, readString? rest with
      | some unit, some (units, behind) => some (unit :: units, behind)
      | _, _ => none
  | c :: rest =>
      if c.toNat < 32 || c = '\\' then none
      else
        match readString? rest with
        | some (units, behind) => some (c.toNat :: units, behind)
        | none => none
  | [] => none

/-- Read the exponent of a number, if there is one. -/
def readNumeralExponent? : List Char → Option (Option (Bool × List Char) × List Char)
  | mark :: rest =>
      if mark = 'e' || mark = 'E' then
        let (negative, behindSign) := splitSign rest
        let (digits, behind) := behindSign.span Char.isDigit
        if digits.isEmpty then none else some (some (negative, digits), behind)
      else some (none, mark :: rest)
  | [] => some (none, [])

/-- Read a number.  A leading zero stands alone, and digits follow a point. -/
def readNumeral? (text : List Char) : Option (JsonNumeral × List Char) :=
  let (negative, unsigned) :=
    match text with
    | '-' :: rest => (true, rest)
    | rest => (false, rest)
  let (whole, behindWhole) := unsigned.span Char.isDigit
  if whole.isEmpty || (whole.head? == some '0' && whole.length ≠ 1) then none
  else
    let fraction? :=
      match behindWhole with
      | '.' :: rest =>
          let (digits, behind) := rest.span Char.isDigit
          if digits.isEmpty then none else some (digits, behind)
      | rest => some ([], rest)
    match fraction? with
    | none => none
    | some (fraction, behindFraction) =>
        (readNumeralExponent? behindFraction).map fun (exponent, behind) =>
          (⟨negative, whole, fraction, exponent⟩, behind)

mutual

/-- Read a value at the start of a text.  The first argument bounds how many
values, items and fields are read one inside or behind the other. -/
def readValue? : Nat → List Char → Option (JsonSyntax × List Char)
  | 0, _ => none
  | bound + 1, input =>
      match skipSpaces input with
      | 'n' :: 'u' :: 'l' :: 'l' :: rest => some (.null, rest)
      | 't' :: 'r' :: 'u' :: 'e' :: rest => some (.boolean true, rest)
      | 'f' :: 'a' :: 'l' :: 's' :: 'e' :: rest => some (.boolean false, rest)
      | '"' :: rest => (readString? rest).map fun (units, behind) => (.text units, behind)
      | '[' :: rest =>
          match skipSpaces rest with
          | ']' :: behind => some (.array [], behind)
          | _ => (readItems? bound rest).map fun (items, behind) => (.array items, behind)
      | '{' :: rest =>
          match skipSpaces rest with
          | '}' :: behind => some (.object [], behind)
          | _ => (readFields? bound rest).map fun (fields, behind) => (.object fields, behind)
      | start => (readNumeral? start).map fun (numeral, behind) => (.number numeral, behind)

/-- Read at least one item, up to and with the closing bracket. -/
def readItems? : Nat → List Char → Option (List JsonSyntax × List Char)
  | 0, _ => none
  | bound + 1, input =>
      match readValue? bound input with
      | none => none
      | some (item, behind) =>
          match skipSpaces behind with
          | ']' :: rest => some ([item], rest)
          | ',' :: rest =>
              (readItems? bound rest).map fun (items, behind) => (item :: items, behind)
          | _ => none

/-- Read at least one field, up to and with the closing brace. -/
def readFields? : Nat → List Char → Option (List (List Nat × JsonSyntax) × List Char)
  | 0, _ => none
  | bound + 1, input =>
      match skipSpaces input with
      | '"' :: nameText =>
          match readString? nameText with
          | none => none
          | some (name, behindName) =>
              match skipSpaces behindName with
              | ':' :: valueText =>
                  match readValue? bound valueText with
                  | none => none
                  | some (value, behind) =>
                      match skipSpaces behind with
                      | '}' :: rest => some ([(name, value)], rest)
                      | ',' :: rest =>
                          (readFields? bound rest).map fun (fields, behind) =>
                            ((name, value) :: fields, behind)
                      | _ => none
              | _ => none
      | _ => none

end

/-- Read a whole text.  Every value, item and field takes a character at least,
so twice the length bounds the reading. -/
def ofText? (text : String) : Option JsonSyntax :=
  match readValue? (2 * text.length + 2) text.toList with
  | some (value, behind) => if (skipSpaces behind).isEmpty then some value else none
  | none => none

/-- The text of code points and code units; surrogates have to come in
pairs. -/
def decodeUnits? : List Nat → Option (List Char)
  | [] => some []
  | unit :: rest =>
      if 0xD800 ≤ unit && unit < 0xDC00 then
        match rest with
        | low :: rest =>
            if 0xDC00 ≤ low && low < 0xE000 then
              (decodeUnits? rest).map
                (Char.ofNat (0x10000 + (unit - 0xD800) * 0x400 + (low - 0xDC00)) :: ·)
            else none
        | [] => none
      else if 0xDC00 ≤ unit && unit < 0xE000 then none
      else (decodeUnits? rest).map (Char.ofNat unit :: ·)

/-- The string of code points and code units. -/
def toText? (units : List Nat) : Option String :=
  (decodeUnits? units).map String.ofList

mutual

/-- The value of a tree in which `levels` further levels of nesting are
allowed. -/
def toJsonWithin? (levels : Nat) : JsonSyntax → Option Json
  | .null => some .null
  | .boolean value => some (.boolean value)
  | .number numeral => numeral.toJson?
  | .text units => (toText? units).map .text
  | .array items =>
      if levels = 0 then none
      else (itemsToJson? (levels - 1) items).map .array
  | .object fields =>
      if levels = 0 then none
      else (fieldsToJson? (levels - 1) fields).map fun fields => .object (Fields.sortFields fields)

/-- The values of the items of a list. -/
def itemsToJson? (levels : Nat) : List JsonSyntax → Option (List Json)
  | [] => some []
  | item :: rest => do
      let item ← toJsonWithin? levels item
      let rest ← itemsToJson? levels rest
      return item :: rest

/-- The names and values of the fields of an object, in the order of the
text. -/
def fieldsToJson? (levels : Nat) : List (List Nat × JsonSyntax) → Option (List (String × Json))
  | [] => some []
  | (name, value) :: rest => do
      let name ← toText? name
      let value ← toJsonWithin? levels value
      let rest ← fieldsToJson? levels rest
      return (name, value) :: rest

end

/-- Lists and objects stand at most this deep inside each other. -/
def deepestNesting : Nat := 127

def toJson? (tree : JsonSyntax) : Option Json :=
  tree.toJsonWithin? deepestNesting

end JsonSyntax

/-- Read a whole text as one JSON value. -/
def Json.ofText? (text : String) : Option Json :=
  (JsonSyntax.ofText? text).bind JsonSyntax.toJson?

end BackOfEnvelope
