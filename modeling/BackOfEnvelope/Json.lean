import BackOfEnvelope.Binary64
import BackOfEnvelope.SortedFields

/-!
# JSON values

A JSON value as the calculator keeps it.  Integers stay exact as long as they
fit into 64 bits; every other number is a binary64 number.  The fields of an
object that was read are sorted by name and no name occurs twice.
-/

namespace BackOfEnvelope

inductive Json where
  /-- The value `null`. -/
  | null
  | boolean (value : Bool)
  | integer (value : Int)
  | float (value : Float)
  | text (value : String)
  | array (items : List Json)
  /-- An object with its fields in order. -/
  | object (fields : List (String × Json))

instance : Inhabited Json := ⟨.null⟩

/-- Integers that a JSON value keeps exactly: those of 64 bits, with sign or
without. -/
def isSmallInteger (n : Int) : Bool :=
  decide (-(powerOfTwo 63 : Int) ≤ n) && decide (n < (powerOfTwo 64 : Int))

end BackOfEnvelope
