import BackOfEnvelope.NumberReading
import BackOfEnvelope.Text
import BackOfEnvelope.Yaml

/-!
# Numeric values

The number that a field of a document stands for.  Numbers and truth values
stand for themselves, and a string for the number that it spells; a single
underscore may separate two digits there.
-/

namespace BackOfEnvelope

/-- Why a value is not a number. -/
inductive NumericValueError where
  | missing
  | notNumeric (text : String)
  | sequence
  | mapping

namespace NumericValueError

def message : NumericValueError → String
  | .missing => "no value"
  | .notNumeric text => "'" ++ text ++ "' is not a number"
  | .sequence => "a sequence cannot be used as a number"
  | .mapping => "a mapping cannot be used as a number"

end NumericValueError

namespace NumericValue

/-- Whether every underscore stands between two digits.  The flag tells whether
a digit stands before the text. -/
def separatesDigits (behindDigit : Bool) : List Char → Bool
  | [] => true
  | c :: rest =>
      if c = '_' then
        behindDigit && (rest.head?.map Char.isDigit).getD false && separatesDigits false rest
      else separatesDigits c.isDigit rest

def readText? (text : List Char) : Option Float :=
  let trimmed := trimCharacters text
  if separatesDigits false trimmed then readNumber? (trimmed.filter fun c => c ≠ '_') else none

def ofText (text : String) : Except NumericValueError Float :=
  match readText? text.toList with
  | some number => .ok number
  | none => .error (.notNumeric text)

def ofYaml : Yaml → Except NumericValueError Float
  | .null => .error .missing
  | .boolean value => .ok (if value then 1.0 else 0.0)
  | .integer value => .ok (Binary64.ofInt value)
  | .float value => .ok value
  | .text value => ofText value
  | .sequence _ => .error .sequence
  | .mapping _ => .error .mapping
  | .tagged _ value => ofYaml value

/-- The number of a value that may be absent. -/
def ofOption : Option Yaml → Except NumericValueError Float
  | some value => ofYaml value
  | none => .error .missing

/-- The number of a value that may be absent, zero if it is not a number. -/
def orZero (value : Option Yaml) : Float :=
  match ofOption value with
  | .ok number => number
  | .error _ => 0.0

end NumericValue

end BackOfEnvelope
