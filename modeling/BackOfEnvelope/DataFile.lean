import BackOfEnvelope.FileSystem
import BackOfEnvelope.Record
import BackOfEnvelope.YamlDocument

/-!
# Data files

A data file collects inputs and calculations in one YAML mapping.  Its entries
keep their fields as they are written, so that a missing field differs from an
empty one.
-/

namespace BackOfEnvelope

structure InputEntry where
  fields : Record

namespace InputEntry

def variableName? (entry : InputEntry) : Option String :=
  entry.fields.text? "variable"

end InputEntry

structure CalculationEntry where
  fields : Record

namespace CalculationEntry

def title? (entry : CalculationEntry) : Option String :=
  entry.fields.text? "title"

def explanation? (entry : CalculationEntry) : Option String :=
  entry.fields.text? "explanation"

/-- The names of the inputs, if they are given as a list.  What is no scalar
counts as an empty name. -/
def inputNames? (entry : CalculationEntry) : Option (List String) :=
  match entry.fields.get? "inputs" with
  | some (.sequence items) => some (items.map fun item => item.scalarText?.getD "")
  | _ => none

def resultField? (entry : CalculationEntry) (name : String) : Option Yaml :=
  match entry.fields.get? "result" with
  | some (.mapping entries) => Yaml.lookup? name entries
  | _ => none

end CalculationEntry

/-- The two sections of a data file; a section that is not a list is missing. -/
structure DataFile where
  inputs : Option (List InputEntry)
  calculations : Option (List CalculationEntry)

/-- Why a data file cannot be used. -/
inductive DataFileError where
  | unreadable (path : String) (reason : FileError)
  | invalidYaml
  | notAMapping

namespace DataFileError

def message : DataFileError → String
  | .unreadable path reason => "failed to read data file " ++ path ++ ": " ++ reason.message
  | .invalidYaml => "failed to parse YAML"
  | .notAMapping => "data file must be a mapping at the top level"

end DataFileError

namespace DataFile

def empty : DataFile :=
  ⟨none, none⟩

/-- The inputs, none if their section is missing. -/
def inputEntries (data : DataFile) : List InputEntry :=
  data.inputs.getD []

/-- The calculations, none if their section is missing. -/
def calculationEntries (data : DataFile) : List CalculationEntry :=
  data.calculations.getD []

def section? (name : String) (entries : List (Yaml × Yaml)) : Option (List Record) :=
  match Yaml.lookup? name entries with
  | some (.sequence items) => some (items.map Record.ofYaml)
  | _ => none

/-- The data file of a YAML value; null has no sections. -/
def ofYaml : Yaml → Except DataFileError DataFile
  | .null => .ok empty
  | .mapping entries =>
      .ok ⟨(section? "inputs" entries).map fun records => records.map InputEntry.mk,
        (section? "calculations" entries).map fun records => records.map CalculationEntry.mk⟩
  | _ => .error .notAMapping

def ofText (text : String) : Except DataFileError DataFile :=
  match Yaml.ofText? text with
  | none => .error .invalidYaml
  | some value => ofYaml value

/-- Read the data file at a path. -/
def load (files : FileSystem) (path : String) : Except DataFileError DataFile :=
  match files.readText path with
  | .error reason => .error (.unreadable path reason)
  | .ok text => ofText text

end DataFile

end BackOfEnvelope
