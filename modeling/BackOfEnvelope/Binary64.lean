/-!
# Exact values of binary64 numbers

Every number the calculator computes with is a binary64 `Float`.  This file
reads a finite magnitude as an exact fraction of natural numbers, and goes the
other way by rounding a fraction to the nearest binary64 number.  Writing and
reading numbers in decimal, in any of the formats of this library, is built on
these two functions and on `roundHalfEven`, so no rounding is left to chance.
-/

namespace BackOfEnvelope

/-- Two to the power of an exponent. -/
def powerOfTwo (exponent : Nat) : Nat :=
  Nat.pow 2 exponent

/-- Ten to the power of an exponent. -/
def powerOfTen (exponent : Nat) : Nat :=
  Nat.pow 10 exponent

/-- The integer nearest to `numerator / denominator`; a half goes to the even
neighbour. -/
def roundHalfEven (numerator denominator : Nat) : Nat :=
  let quotient := numerator / denominator
  let twiceRemainder := 2 * (numerator % denominator)
  if twiceRemainder < denominator then quotient
  else if denominator < twiceRemainder then quotient + 1
  else if quotient % 2 = 0 then quotient
  else quotient + 1

/-- A finite magnitude `significand * 2 ^ (scale - 1074)`, as its fields store
it.  `isPowerOfTwo` marks the magnitudes whose lower neighbour is only half as
far away as the upper one. -/
structure Magnitude where
  /-- The integer in front of the power of two, below `2 ^ 53`. -/
  significand : Nat
  /-- How far the unit in the last place lies above `2 ^ (-1074)`. -/
  scale : Nat
  /-- The gap below is half the gap above. -/
  isPowerOfTwo : Bool

/-- A number split into what decides its text. -/
inductive Magnitude.Class where
  | notANumber
  | infinite (negative : Bool)
  /-- A finite number of the given sign; zero has significand zero. -/
  | finite (negative : Bool) (magnitude : Magnitude)

/-- Read the three fields of a binary64 number. -/
def Magnitude.classify (x : Float) : Magnitude.Class :=
  let bits := x.toBits.toNat
  let negative := decide (powerOfTwo 63 ≤ bits)
  let exponentField := bits / powerOfTwo 52 % powerOfTwo 11
  let fraction := bits % powerOfTwo 52
  if exponentField = 2047 then
    if fraction = 0 then .infinite negative else .notANumber
  else if exponentField = 0 then
    .finite negative ⟨fraction, 0, false⟩
  else
    .finite negative
      ⟨powerOfTwo 52 + fraction, exponentField - 1, fraction = 0 && exponentField ≠ 1⟩

/-- The exact value as a fraction, the denominator a power of two. -/
def Magnitude.fraction (m : Magnitude) : Nat × Nat :=
  if 1074 ≤ m.scale then (m.significand * powerOfTwo (m.scale - 1074), 1)
  else (m.significand, powerOfTwo (1074 - m.scale))

namespace Binary64

def infinityBits : Nat := 2047 * powerOfTwo 52

/-- The bits of the nonnegative number nearest to `numerator / denominator`, a
tie going to the even significand; what is too large becomes infinity.

The unit in the last place is `2 ^ unit`, where `unit` is at least `-1074`, and
counting units already gives the bits up to the exponent field: a significand
that rounds up to the next power of two carries into that field by itself. -/
def nearestBits (numerator denominator : Nat) : Nat :=
  if numerator = 0 then 0
  else
    let estimate : Int := (Nat.log2 numerator : Int) - (Nat.log2 denominator : Int)
    let reachesEstimate : Bool :=
      if 0 ≤ estimate then denominator * powerOfTwo estimate.toNat ≤ numerator
      else denominator ≤ numerator * powerOfTwo (-estimate).toNat
    let exponent : Int := if reachesEstimate then estimate else estimate - 1
    let unit : Int := max (exponent - 52) (-1074)
    let significand :=
      if 0 ≤ unit then roundHalfEven numerator (denominator * powerOfTwo unit.toNat)
      else roundHalfEven (numerator * powerOfTwo (-unit).toNat) denominator
    min ((unit + 1074).toNat * powerOfTwo 52 + significand) infinityBits

/-- The number nearest to a signed fraction. -/
def nearest (negative : Bool) (numerator denominator : Nat) : Float :=
  let bits := nearestBits numerator denominator
  Float.ofBits (UInt64.ofNat (if negative then powerOfTwo 63 + bits else bits))

def ofInt (n : Int) : Float :=
  nearest (n < 0) n.natAbs 1

/-- The quiet number that is not a number, with a clear sign. -/
def notANumber : Float :=
  Float.ofBits (UInt64.ofNat (infinityBits + powerOfTwo 51))

def infinity (negative : Bool) : Float :=
  Float.ofBits (UInt64.ofNat (if negative then powerOfTwo 63 + infinityBits else infinityBits))

/-- The number nearest to `coefficient * 10 ^ exponent`.  Powers that are sure
to overflow or to vanish are never computed. -/
def ofDecimal (negative : Bool) (coefficient : Nat) (exponent : Int) : Float :=
  let leading : Int := ((toString coefficient).length : Int) + exponent
  if coefficient = 0 then nearest negative 0 1
  else if 310 < leading then infinity negative
  else if leading < -330 then nearest negative 0 1
  else if 0 ≤ exponent then nearest negative (coefficient * powerOfTen exponent.toNat) 1
  else nearest negative coefficient (powerOfTen (-exponent).toNat)

end Binary64

end BackOfEnvelope
