import BackOfEnvelope.Content
import BackOfEnvelope.DataFile
import BackOfEnvelope.ValidationReport
import BackOfEnvelope.VariableName

/-!
# Validation of inputs

An input of a data file needs a set of fields, a name whose parts agree with its
entity and its units, a value, an assumption and a source.  A variable of a
content directory needs only the name, and is compared with the fields that it
has.  Every entry is looked at by itself.
-/

namespace BackOfEnvelope

namespace InputValidation

def mandatoryFields : List String :=
  ["variable", "variable_type", "entity", "units", "value", "scale", "display_units"]

/-- The text that stands for a source to be found. -/
def placeholderSource : String := "source needed"

/-- The string of a value, with a tag or without. -/
def string? : Yaml → Option String
  | .text value => some value
  | .tagged _ value => string? value
  | _ => none

/-- A field as a message shows it. -/
def shown (value : Option Yaml) : String :=
  (value.bind Yaml.scalarText?).getD "None"

/-- Compare a field with a part of the name.  A field that is absent counts only
if it is required. -/
def mismatch (required : Bool) (fields : Record) (field expected : String)
    (problem : String → ValidationProblem) : List ValidationProblem :=
  if (required || fields.has field) && (fields.get? field).bind string? != some expected then
    [problem (shown (fields.get? field))]
  else []

def nameProblems (required : Bool) (name : String) (fields : Record) :
    List ValidationProblem :=
  match VariableName.ofText? name with
  | none => [.badName name]
  | some parts =>
      mismatch required fields "entity" parts.entity (.entityMismatch name parts.entity) ++
        mismatch required fields "units" parts.units (.unitsMismatch name parts.units)

/-- Whether a value is missing, or no value. -/
def isInvalidValue : Option Yaml → Bool
  | none | some .null => true
  | some (.text value) => value.isEmpty || value = ".nan"
  | some (.float value) => value.isNaN
  | some _ => false

/-- Whether a field is missing or null. -/
def isMissing : Option Yaml → Bool
  | none | some .null => true
  | some _ => false

def isSource : Option Yaml → Bool
  | none => false
  | some value => value.isTruthy && string? value != some placeholderSource

/-- The problem, if the condition holds. -/
def problemIf (condition : Bool) (problem : ValidationProblem) : List ValidationProblem :=
  if condition then [problem] else []

def entryProblems (entry : InputEntry) : List ValidationProblem :=
  let fields := entry.fields
  let shownName := entry.variableName?.getD "unknown"
  let name := entry.variableName?.getD ""
  (mandatoryFields.filter fun field => !fields.has field).map
      (fun field => .missingField field shownName) ++
    nameProblems true name fields ++
    problemIf (isInvalidValue (fields.get? "value")) (.invalidValue name) ++
    problemIf (isMissing (fields.get? "scale") || isMissing (fields.get? "display_units"))
      (.missingScaleOrDisplayUnits name) ++
    problemIf (!((fields.get? "key_assumption").map Yaml.isTruthy).getD false)
      (.missingKeyAssumption name) ++
    problemIf (!isSource (fields.get? "source_url")) (.missingSource name)

/-- Validate the inputs of a data file. -/
def validate (data : DataFile) : ValidationReport :=
  ⟨data.inputEntries.flatMap entryProblems, []⟩

def validateNames (set : VariableSet) : ValidationReport :=
  ⟨set.values.flatMap fun item => nameProblems false item.name item.fields, []⟩

end InputValidation

end BackOfEnvelope
