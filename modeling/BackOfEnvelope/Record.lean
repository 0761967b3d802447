import BackOfEnvelope.Yaml

/-!
# Records

A record holds the named values of a document's front matter or of an entry in a
data file, sorted by name.
-/

namespace BackOfEnvelope

/-- Named YAML values, sorted by name. -/
abbrev Record := Fields Yaml

namespace Record

def get? (record : Record) (name : String) : Option Yaml :=
  Fields.find? name record

/-- Whether a field is present, be it null. -/
def has (record : Record) (name : String) : Bool :=
  (record.get? name).isSome

/-- The text of a field that is a scalar. -/
def text? (record : Record) (name : String) : Option String :=
  (record.get? name).bind Yaml.scalarText?

/-- The record of a mapping; any other value has no fields. -/
def ofYaml : Yaml → Record
  | .mapping entries => Yaml.namedFields entries
  | _ => []

end Record

end BackOfEnvelope
