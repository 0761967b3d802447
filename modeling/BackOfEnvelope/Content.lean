import BackOfEnvelope.FrontMatter
import BackOfEnvelope.NumericValue
import BackOfEnvelope.Pipeline
import BackOfEnvelope.Placeholder

/-!
# Variables and scenarios

A content directory holds documents: variables, which give names to numbers, and
scenarios, which compute a result from them.  Both keep all fields of their
front matter.
-/

namespace BackOfEnvelope

/-- A variable from a document whose front matter names one. -/
structure Variable where
  name : String
  fields : Record
  body : String
  /-- The category of its directory, empty for a document outside of all. -/
  category : String
  path : String

namespace Variable

def value? (item : Variable) : Option Yaml :=
  item.fields.get? "value"

def scale? (item : Variable) : Option Yaml :=
  item.fields.get? "scale"

/-- The text shown in place of a placeholder. -/
def displayName (item : Variable) : String :=
  Placeholder.displayText item.fields item.name

/-- The type, if there is one. -/
def type? (item : Variable) : Option String :=
  item.fields.text? "variable_type"

/-- The units, if there are any. -/
def units? (item : Variable) : Option String :=
  item.fields.text? "units"

/-- The fields together with body, category and path. -/
def toRecord (item : Variable) : Record :=
  [("content", item.body), ("category", item.category), ("path", item.path)].foldl
    (fun record field => Fields.insertSorted field.1 (.text field.2) record) item.fields

end Variable

/-- Variables by name, in the order in which the names were first loaded. -/
abbrev VariableSet := OrderedDictionary String Variable

namespace VariableSet

/-- The number of every variable; one whose value is not a number counts as
zero. -/
def toNamespace (set : VariableSet) : Namespace :=
  set.mapValues fun _ item => some (NumericValue.orZero item.value?)

/-- The text shown in place of a placeholder with a name. -/
def displayText? (set : VariableSet) (name : String) : Option String :=
  (set.find? name).map fun item => Placeholder.displayText item.fields name

end VariableSet

/-- A scenario.  It has no key; its place among the others tells it apart. -/
structure Scenario where
  fields : Record
  body : String
  /-- The category in the front matter, or else that of the directory. -/
  category : String
  path : String
  filename : String

namespace Scenario

/-- The names of the variables that a scenario lists, as a sequence or as a text
with commas. -/
def inputVariables (scenario : Scenario) : List String :=
  match scenario.fields.get? "input_variables" with
  | some (.sequence items) => items.filterMap Yaml.scalarText?
  | some (.text names) =>
      ((splitText ',' names).map trim).filter fun name => !name.isEmpty
  | _ => []

/-- The field that holds the pipeline. -/
def pipeline? (scenario : Scenario) : Option Yaml :=
  scenario.fields.get? "operations"

/-- Run the pipeline of a scenario.  What it binds stays bound. -/
def run (scenario : Scenario) (names : Namespace) : PipelineRun :=
  Pipeline.runField scenario.pipeline? names

/-- The fields together with body, category, path and name of the file. -/
def toRecord (scenario : Scenario) : Record :=
  [("content", scenario.body), ("category", scenario.category), ("path", scenario.path),
    ("filename", scenario.filename)].foldl
    (fun record field => Fields.insertSorted field.1 (.text field.2) record) scenario.fields

/-- Run scenarios one after the other with one namespace, which each of them may
change.  The answer holds the outcome of each. -/
def runAll (names : Namespace) : List Scenario → List (Scenario × PipelineRun)
  | [] => []
  | scenario :: rest =>
      let outcome := scenario.run names
      (scenario, outcome) :: runAll outcome.names rest

end Scenario

end BackOfEnvelope
