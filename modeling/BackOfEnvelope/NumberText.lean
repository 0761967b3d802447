import BackOfEnvelope.DecimalDigits

/-!
# Number texts

One writer for the fewest digits of a number, and one record of decisions for
each format that the calculator writes: messages, YAML and JSON.
A fixed number of decimals has a writer of its own.
-/

namespace BackOfEnvelope

/-- The decisions of a format that writes the fewest digits of a number. -/
structure NumberLayout where
  tie : DigitTie
  /-- Numbers from `10 ^ leastPositional` on are written without an exponent. -/
  leastPositional : Option Int
  /-- Numbers below `10 ^ positionalBound` are written without an exponent. -/
  positionalBound : Option Int
  /-- An integral number without exponent still ends in `.0`. -/
  marksIntegral : Bool
  /-- What stands between `e` and a positive exponent. -/
  positiveExponent : String
  notANumber : String
  /-- What stands for an infinity; the argument tells whether it is negative. -/
  infinity : Bool → String

namespace NumberLayout

/-- Messages never use an exponent and write integral numbers as integers. -/
def message : NumberLayout where
  tie := .up
  leastPositional := none
  positionalBound := none
  marksIntegral := false
  positiveExponent := ""
  notANumber := "NaN"
  infinity := fun negative => if negative then "-inf" else "inf"

/-- YAML numbers have an exponent below `0.00001` and from `10 ^ 16` on. -/
def yaml : NumberLayout where
  tie := .toEven
  leastPositional := some (-5)
  positionalBound := some 16
  marksIntegral := true
  positiveExponent := ""
  notANumber := ".nan"
  infinity := fun negative => if negative then "-.inf" else ".inf"

/-- JSON numbers are like YAML ones with a sign at positive exponents, and JSON
has no text but `null` for what is not finite. -/
def json : NumberLayout where
  tie := .toEven
  leastPositional := some (-5)
  positionalBound := some 16
  marksIntegral := true
  positiveExponent := "+"
  notANumber := "null"
  infinity := fun _ => "null"

/-- Digits with the decimal point among them, zeros filled in on either side. -/
def positional (layout : NumberLayout) (decimal : DecimalDigits) : List Char :=
  let count : Int := decimal.digits.length
  if decimal.point ≤ 0 then
    '0' :: '.' :: (List.replicate (-decimal.point).toNat '0' ++ decimal.digits)
  else if count ≤ decimal.point then
    decimal.digits ++ List.replicate (decimal.point - count).toNat '0' ++
      (if layout.marksIntegral then ['.', '0'] else [])
  else
    decimal.digits.take decimal.point.toNat ++
      '.' :: decimal.digits.drop decimal.point.toNat

/-- One digit before the point, the others after it, and the exponent. -/
def scientific (layout : NumberLayout) (decimal : DecimalDigits) : List Char :=
  let exponent := decimal.point - 1
  let tail := decimal.digits.drop 1
  decimal.digits.take 1 ++ (if tail.isEmpty then [] else '.' :: tail) ++
    'e' :: ((if 0 < exponent then layout.positiveExponent else "") ++ toString exponent).toList

/-- Whether a number with this decimal point is written without exponent. -/
def isPositional (layout : NumberLayout) (point : Int) : Bool :=
  (match layout.leastPositional with
    | some least => decide (least < point)
    | none => true) &&
  (match layout.positionalBound with
    | some bound => decide (point ≤ bound)
    | none => true)

/-- The text of a number in a format. -/
def write (layout : NumberLayout) (x : Float) : String :=
  match Magnitude.classify x with
  | .notANumber => layout.notANumber
  | .infinite negative => layout.infinity negative
  | .finite negative m =>
      let unsigned :=
        if m.significand = 0 then (if layout.marksIntegral then "0.0" else "0")
        else
          let decimal := m.shortestDigits layout.tie
          String.ofList
            (if layout.isPositional decimal.point then layout.positional decimal
            else layout.scientific decimal)
      if negative then "-" ++ unsigned else unsigned

end NumberLayout

/-- A number with exactly `places` decimals. -/
def fixedDecimalText (x : Float) (places : Nat) : String :=
  match Magnitude.classify x with
  | .notANumber => "NaN"
  | .infinite negative => if negative then "-inf" else "inf"
  | .finite negative m =>
      let unsigned := String.ofList (m.fixedDecimals places)
      if negative then "-" ++ unsigned else unsigned

end BackOfEnvelope
