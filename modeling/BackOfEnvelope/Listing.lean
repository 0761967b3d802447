import BackOfEnvelope.Content
import BackOfEnvelope.ContentQueries
import BackOfEnvelope.JsonText
import BackOfEnvelope.NumberDisplay
import BackOfEnvelope.TextTable

/-!
# Listings of variables and scenarios

What the commands show: for each variable its value and its units, and for each
scenario its result.  Either kind of listing is a table or a JSON text.
-/

namespace BackOfEnvelope

namespace Listing

/-- The number of a field, if it has one. -/
def number? (value : Option Yaml) : Option Float :=
  match NumericValue.ofOption value with
  | .ok number => number
  | .error _ => none

/-- The header of a table of variables. -/
def variableHeader : List String :=
  ["Variable", "Category", "Type", "Value", "Units"]

/-- A variable in a table: its value is scaled, and shown with the units for
display if there are any. -/
def variableRow (precision : Nat) (item : Variable) : List String :=
  let scale := number? item.scale?
  let value := (number? item.value?).map fun value => NumberDisplay.applyScale value scale
  let units := ((item.fields.text? "display_units").orElse fun _ => item.units?).getD ""
  [item.name, item.category, item.type?.getD "", NumberDisplay.format value precision, units]

/-- A field that is left out if there is no text. -/
def optionalField (name : String) (text : Option String) : List (String × Json) :=
  (text.map fun text => (name, Json.text text)).toList

def jsonNumber (value : Option Float) : Json :=
  (value.map Json.float).getD .null

/-- A variable in a JSON text: its value is not scaled. -/
def variableJson (item : Variable) : Json :=
  .object
    ([("variable", .text item.name), ("category", .text item.category)] ++
      optionalField "variable_type" item.type? ++
      [("value", jsonNumber (number? item.value?))] ++
      optionalField "units" item.units? ++
      [("display_name", .text item.displayName)])

/-- The variables of a type, or all of them. -/
def selectVariables (set : VariableSet) (type : Option String) : List Variable :=
  match type with
  | some type => (set.byType.find? type).getD []
  | none => set.values

structure ScenarioResult where
  title : String
  description : Option String
  category : String
  resultLabel : Option String
  result : Option Float
  formatted : String
  resultUnits : Option String

/-- What is shown for a scenario.  One without a title goes by its file. -/
def scenarioResult (set : VariableSet) (precision : Nat) (scenario : Scenario)
    (run : PipelineRun) : ScenarioResult :=
  let substitute := Placeholder.substitute set.displayText?
  { title := substitute ((scenario.fields.text? "title").getD scenario.filename)
    description := (scenario.fields.text? "description").map substitute
    category := scenario.category
    resultLabel := scenario.fields.text? "result_label"
    result := run.value
    formatted := NumberDisplay.format run.value precision
    resultUnits := scenario.fields.text? "result_units" }

/-- The results of the scenarios of a category, which run one after the other
with the numbers of the variables and the given settings. -/
def scenarioResults (set : VariableSet) (scenarios : List Scenario)
    (settings : List (String × Float)) (category : String) (precision : Nat) :
    List ScenarioResult :=
  let names := set.toNamespace.setAll settings
  (Scenario.runAll names (Scenario.inCategory scenarios category)).map fun (scenario, run) =>
    scenarioResult set precision scenario run

/-- The header of a table of scenarios. -/
def scenarioHeader : List String :=
  ["Scenario", "Category", "Result", "Units"]

def scenarioRow (shown : ScenarioResult) : List String :=
  [shown.title, shown.category, shown.formatted, shown.resultUnits.getD ""]

def scenarioJson (shown : ScenarioResult) : Json :=
  .object
    ([("title", .text shown.title)] ++ optionalField "description" shown.description ++
      [("category", .text shown.category)] ++ optionalField "result_label" shown.resultLabel ++
      [("result", jsonNumber shown.result), ("formatted", .text shown.formatted)] ++
      optionalField "result_units" shown.resultUnits)

/-- A table, or a line in its place if there are no rows. -/
def table (header : List String) (rows : List (List String)) (emptyLine : String) : String :=
  if rows.isEmpty then emptyLine ++ "\n" else TextTable.draw header rows ++ "\n"

/-- A JSON text with its line end. -/
def jsonLines (items : List Json) : String :=
  (Json.array items).pretty ++ "\n"

end Listing

end BackOfEnvelope
