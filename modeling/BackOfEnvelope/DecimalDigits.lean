import BackOfEnvelope.Binary64

/-!
# Decimal digits of a binary64 number

Two ways to write a finite number in decimal: with the fewest digits that read
back as the same number, and with a fixed count of decimal places.

The fewest digits are found by trying one digit, two digits, and so on.  On
each decimal grid only the two neighbours of the exact value need a look: if
any point of a grid rounds to the number, one of those two does.
-/

namespace BackOfEnvelope

/-- A positive decimal `0.d₁d₂… * 10 ^ point`, where `digits` spells `d₁d₂…`
and neither starts nor ends with a zero. -/
structure DecimalDigits where
  /-- The digits as characters, most significant first. -/
  digits : List Char
  /-- How many of the digits stand before the decimal point; negative for
  zeros after the point. -/
  point : Int

/-- Which of two equally near decimals with the fewest digits is written. -/
inductive DigitTie where
  | up
  /-- The one whose last digit is even. -/
  | toEven

/-- The digits of a natural number, most significant first. -/
def decimalSpelling (n : Nat) : List Char :=
  (toString n).toList

theorem isDigit_of_mem_decimalSpelling {n : Nat} {c : Char} (member : c ∈ decimalSpelling n) :
    c.isDigit := by
  have spelled : decimalSpelling n = Nat.toDigits 10 n := Nat.toList_repr
  rw [spelled] at member
  exact Nat.isDigit_of_mem_toDigits (by decide) (by decide) member

/-- How many decimal digits a natural number has. -/
def decimalLength (n : Nat) : Nat :=
  (decimalSpelling n).length

/-- The least `point` with `numerator / denominator < 10 ^ point`. -/
def decimalPoint (numerator denominator : Nat) : Int :=
  if denominator ≤ numerator then decimalLength (numerator / denominator)
  else 1 - (decimalLength ((denominator - 1) / numerator) : Int)

/-- Compare `coefficient * 10 ^ exponent` with `numerator / denominator`. -/
def compareDecimal (coefficient : Nat) (exponent : Int) (numerator denominator : Nat) :
    Ordering :=
  if 0 ≤ exponent then
    compare (coefficient * powerOfTen exponent.toNat * denominator) numerator
  else
    compare (coefficient * denominator) (numerator * powerOfTen (-exponent).toNat)

namespace Magnitude

/-- Whether `coefficient * 10 ^ exponent` rounds to `m`.  In quarters of the
unit in the last place, the numbers that do lie between `4 s - 2` (or `4 s - 1`
for a power of two) and `4 s + 2`, ends included exactly for an even
significand `s`. -/
def isRoundedFrom (m : Magnitude) (coefficient : Nat) (exponent : Int) : Bool :=
  let (_, denominator) := m.fraction
  let unit := if 1074 ≤ m.scale then powerOfTwo (m.scale - 1074) else 1
  let quarters := 4 * m.significand
  let low := (if m.isPowerOfTwo then quarters - 1 else quarters - 2) * unit
  let high := (quarters + 2) * unit
  let aboveLow := compareDecimal coefficient exponent low (4 * denominator)
  let belowHigh := compareDecimal coefficient exponent high (4 * denominator)
  if m.significand % 2 = 0 then aboveLow != .lt && belowHigh != .gt
  else aboveLow == .gt && belowHigh == .lt

/-- Of two neighbours on a grid, the lower of which is given, the one nearer to
a value.  The order is that of their middle and the value. -/
def nearerOf (tie : DigitTie) (below : Nat) (middle : Ordering) : Nat :=
  match middle with
  | .gt => below
  | .lt => below + 1
  | .eq =>
      match tie with
      | .up => below + 1
      | .toEven => if below % 2 = 0 then below else below + 1

/-- The point of the grid of `10 ^ exponent` that rounds to `m`, of two the
nearer one. -/
def gridPoint? (tie : DigitTie) (m : Magnitude) (exponent : Int) : Option Nat :=
  let (numerator, denominator) := m.fraction
  let below :=
    if 0 ≤ exponent then numerator / (denominator * powerOfTen exponent.toNat)
    else numerator * powerOfTen (-exponent).toNat / denominator
  match m.isRoundedFrom below exponent, m.isRoundedFrom (below + 1) exponent with
  | true, true =>
      some (nearerOf tie below
        (compareDecimal (2 * below + 1) exponent (2 * numerator) denominator))
  | true, false => some below
  | false, true => some (below + 1)
  | false, false => none

/-- Try grids of ever more digits, at most `remaining` of them. -/
def shortestFrom (tie : DigitTie) (m : Magnitude) : Nat → Int → Nat × Int
  | 0, exponent => ((m.gridPoint? tie exponent).getD 0, exponent)
  | remaining + 1, exponent =>
      match m.gridPoint? tie exponent with
      | some coefficient => (coefficient, exponent)
      | none => shortestFrom tie m remaining (exponent - 1)

/-- The fewest digits that read back as the positive magnitude `m`; of those,
the nearest.  Seventeen digits always suffice. -/
def shortestDigits (tie : DigitTie) (m : Magnitude) : DecimalDigits :=
  let (numerator, denominator) := m.fraction
  let point := decimalPoint numerator denominator
  let (coefficient, exponent) := m.shortestFrom tie 16 (point - 1)
  let spelled := decimalSpelling coefficient
  let kept := (spelled.reverse.dropWhile (· == '0')).reverse
  ⟨kept, spelled.length + exponent⟩

/-- The magnitude with exactly `places` digits after the decimal point, a half
in the last place going to the even digit. -/
def fixedDecimals (m : Magnitude) (places : Nat) : List Char :=
  let (numerator, denominator) := m.fraction
  let scaled := roundHalfEven (numerator * powerOfTen places) denominator
  let spelled := decimalSpelling scaled
  let padded := List.replicate (places + 1 - spelled.length) '0' ++ spelled
  let whole := padded.take (padded.length - places)
  if places = 0 then whole
  else whole ++ '.' :: padded.drop (padded.length - places)

end Magnitude

end BackOfEnvelope
