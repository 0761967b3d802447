import BackOfEnvelope.Json
import BackOfEnvelope.NumberText
import BackOfEnvelope.JsonText

/-!
# YAML values

A YAML value as documents contain it, with the views on it that the rest of the
library uses: the text of a scalar, its truth, equality of mapping keys, and
two ways to JSON.  Integers and binary64 numbers are different kinds of values,
and a local tag stays with its value.
-/

namespace BackOfEnvelope

inductive Yaml where
  | null
  | boolean (value : Bool)
  | integer (value : Int)
  | float (value : Float)
  | text (value : String)
  | sequence (items : List Yaml)
  /-- Keys with their values, in the order of the document. -/
  | mapping (entries : List (Yaml × Yaml))
  /-- A value with a local tag, whose name includes the exclamation mark. -/
  | tagged (tag : String) (value : Yaml)

instance : Inhabited Yaml := ⟨.null⟩

namespace Yaml

/-- The text of a scalar.  Sequences, mappings and null have none. -/
def scalarText? : Yaml → Option String
  | .text value => some value
  | .integer value => some (toString value)
  | .float value => some (NumberLayout.yaml.write value)
  | .boolean value => some (if value then "true" else "false")
  | .tagged _ value => scalarText? value
  | .null | .sequence _ | .mapping _ => none

/-- Whether a value counts as true: what is empty, zero, false or not a value
does not, and not a number counts as true. -/
def isTruthy : Yaml → Bool
  | .null => false
  | .boolean value => value
  | .integer value => value != 0
  | .float value => value != 0.0
  | .text value => !value.isEmpty
  | .sequence items => !items.isEmpty
  | .mapping entries => !entries.isEmpty
  | .tagged _ value => isTruthy value

/-- Equality of numbers as keys: zeros of both signs are equal, and not a number
is equal to itself. -/
def sameFloat (x y : Float) : Bool :=
  x == y || (x.isNaN && y.isNaN)

mutual

/-- Equality of values as keys of a mapping.  The order of the entries of a
mapping does not count. -/
def same : Yaml → Yaml → Bool
  | .null, .null => true
  | .boolean a, .boolean b => a == b
  | .integer a, .integer b => a == b
  | .float a, .float b => sameFloat a b
  | .text a, .text b => a == b
  | .sequence a, .sequence b => sameItems a b
  | .mapping a, .mapping b => a.length == b.length && containsAll a b
  | .tagged tag a, .tagged otherTag b => tag == otherTag && same a b
  | _, _ => false

def sameItems : List Yaml → List Yaml → Bool
  | [], [] => true
  | a :: rest, b :: others => same a b && sameItems rest others
  | _, _ => false

/-- Whether each of the first entries is among the second ones. -/
def containsAll : List (Yaml × Yaml) → List (Yaml × Yaml) → Bool
  | [], _ => true
  | (key, value) :: rest, others =>
      others.any (fun other => same key other.1 && same value other.2) && containsAll rest others

end

/-- The value of a key that is a string. -/
def lookup? (name : String) : List (Yaml × Yaml) → Option Yaml
  | [] => none
  | (.text present, value) :: rest => if present = name then some value else lookup? name rest
  | _ :: rest => lookup? name rest

/-- The fields of a mapping, sorted by name.  Keys that are not strings count by
their text, and keys without text are left out. -/
def namedFields (entries : List (Yaml × Yaml)) : Fields Yaml :=
  Fields.sortFields (entries.filterMap fun entry =>
    (scalarText? entry.1).map fun name => (name, entry.2))

/-- The string that a value is, apart from its tags. -/
def untaggedText? : Yaml → Option String
  | .text value => some value
  | .tagged _ value => untaggedText? value
  | _ => none

mutual

/-- The JSON value of a value without tags whose keys are strings, where keys may
have tags that do not count.  A number that is not finite becomes null, and the
fields of objects are sorted. -/
def toJson? : Yaml → Option Json
  | .null => some .null
  | .boolean value => some (.boolean value)
  | .integer value => some (.integer value)
  | .float value => some (if value.isFinite then .float value else .null)
  | .text value => some (.text value)
  | .sequence items => (itemsToJson? items).map .array
  | .mapping entries =>
      (entriesToJson? entries).map fun fields => .object (Fields.sortFields fields)
  | .tagged _ _ => none

/-- The JSON values of the items of a sequence. -/
def itemsToJson? : List Yaml → Option (List Json)
  | [] => some []
  | item :: rest => do
      let item ← toJson? item
      let rest ← itemsToJson? rest
      return item :: rest

/-- The fields of a mapping whose keys are strings. -/
def entriesToJson? : List (Yaml × Yaml) → Option (List (String × Json))
  | [] => some []
  | (key, value) :: rest => do
      let name ← untaggedText? key
      let value ← toJson? value
      let rest ← entriesToJson? rest
      return (name, value) :: rest

end

/-- The name of a field for a key.  Truth values and numbers are written as
text; null, sequences, mappings and tagged keys have no name. -/
def keyName? : Yaml → Option String
  | .text value => some value
  | .integer value => some (toString value)
  | .boolean value => some (if value then "true" else "false")
  | .float value => if value.isFinite then some (NumberLayout.json.write value) else none
  | .null | .sequence _ | .mapping _ | .tagged _ _ => none

mutual

/-- The JSON value that shows a value with its tags, in the order of the
document. -/
def displayJson? : Yaml → Option Json
  | .null => some .null
  | .boolean value => some (.boolean value)
  | .integer value => some (.integer value)
  | .float value => some (if value.isFinite then .float value else .null)
  | .text value => some (.text value)
  | .sequence items => (displayItems? items).map .array
  | .mapping entries => (displayEntries? entries).map .object
  | .tagged tag value => (displayJson? value).map fun shown => .object [(tag, shown)]

/-- The JSON values that show the items of a sequence. -/
def displayItems? : List Yaml → Option (List Json)
  | [] => some []
  | item :: rest => do
      let item ← displayJson? item
      let rest ← displayItems? rest
      return item :: rest

/-- The fields that show the entries of a mapping. -/
def displayEntries? : List (Yaml × Yaml) → Option (List (String × Json))
  | [] => some []
  | (key, value) :: rest => do
      let name ← keyName? key
      let value ← displayJson? value
      let rest ← displayEntries? rest
      return (name, value) :: rest

end

/-- The text of a value in a table cell: that of a scalar as it is, and compact
JSON for sequences and mappings.  Null and what JSON cannot show have none. -/
def cellText? : Yaml → Option String
  | .null => none
  | .sequence items => (displayItems? items).map fun shown => (Json.array shown).compact
  | .mapping entries => (displayEntries? entries).map fun shown => (Json.object shown).compact
  | value => value.scalarText?

end Yaml

end BackOfEnvelope
