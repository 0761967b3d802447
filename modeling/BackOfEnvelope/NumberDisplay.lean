import BackOfEnvelope.NumberText

/-!
# Numbers as readers see them

A result is shown with a fixed count of decimals, and from a thousand on with
the word for its magnitude.
-/

namespace BackOfEnvelope

namespace NumberDisplay

/-- The magnitudes that have a word, the largest first. -/
def magnitudeWords : List (Float × String) :=
  [(1e12, "trillion"), (1e9, "billion"), (1e6, "million"), (1e3, "thousand")]

/-- The word and the unit for a number, if it is large enough. -/
def magnitudeWord? (x : Float) : Option (Float × String) :=
  magnitudeWords.find? fun magnitude => magnitude.1 ≤ x.abs

def format (value : Option Float) (precision : Nat) : String :=
  match value with
  | none => "N/A"
  | some x =>
      match magnitudeWord? x with
      | some (unit, word) => fixedDecimalText (x / unit) precision ++ " " ++ word
      | none => fixedDecimalText x precision

/-- A number in units of a scale; without a scale, or with a scale of zero, it
stays as it is. -/
def applyScale (x : Float) (scale : Option Float) : Float :=
  match scale with
  | some unit => if unit != 0.0 then x / unit else x
  | none => x

end NumberDisplay

end BackOfEnvelope
