import BackOfEnvelope.DataFile
import BackOfEnvelope.ExpressionEvaluation
import BackOfEnvelope.NumericValue
import BackOfEnvelope.ValidationReport

/-!
# Validation of calculations

A calculation needs a title, an explanation and a list of inputs, each of which
has to be an input of the data file with a number for its value.  The explanation
is then evaluated with exactly these inputs.
-/

namespace BackOfEnvelope

namespace CalculationValidation

abbrev InputValues := OrderedDictionary String Yaml

/-- The problem of an input that lacks its name or its value. -/
def inputProblem? (entry : InputEntry) : Option ValidationProblem :=
  match entry.variableName?, entry.fields.get? "value" with
  | some _, some _ => none
  | some name, none => some (.invalidInputEntry name)
  | none, _ => some (.invalidInputEntry "Unknown Variable")

/-- The name and the value of an input that has both. -/
def inputValue? (entry : InputEntry) : Option (String × Yaml) := do
  let name ← entry.variableName?
  let value ← entry.fields.get? "value"
  return (name, value)

/-- The values of all inputs; of inputs with one name the last counts. -/
def inputValues (inputs : List InputEntry) : InputValues :=
  OrderedDictionary.ofList (inputs.filterMap inputValue?)

/-- The number of an input, or else the problem of the calculation that lists
it. -/
def inputNumber (values : InputValues) (title name : String) :
    Except ValidationProblem Float :=
  match values.find? name with
  | none | some .null => .error (.missingInputValue name title)
  | some value =>
      match NumericValue.ofYaml value with
      | .ok number => .ok number
      | .error error =>
          .error (.evaluationFailed title ("input '" ++ name ++ "': " ++ error.message))

/-- The namespace of the listed inputs and the problems with them. -/
def bindInputs (values : InputValues) (title : String) :
    List String → Namespace × List ValidationProblem → Namespace × List ValidationProblem
  | [], bound => bound
  | name :: rest, (names, problems) =>
      bindInputs values title rest
        (match inputNumber values title name with
        | .ok number => (names.set name number, problems)
        | .error problem => (names, problems ++ [problem]))

def validateEntry (values : InputValues) (entry : CalculationEntry) : ValidationReport :=
  match entry.title?, entry.explanation?, entry.inputNames? with
  | some title, some explanation, some inputs =>
      match bindInputs values title inputs (Namespace.empty, []) with
      | (names, []) =>
          match Expression.evaluateText explanation names with
          | .ok value => ⟨[], [⟨title, value⟩]⟩
          | .error error => ⟨[.evaluationFailed title error.message], []⟩
      | (_, problems) => ⟨problems, []⟩
  | title, _, _ => ⟨[.invalidCalculationEntry (title.getD "Unknown Title")], []⟩

/-- Validate the calculations of a data file. -/
def validate (data : DataFile) : ValidationReport :=
  match data.inputs, data.calculations with
  | some inputs, some calculations =>
      let values := inputValues inputs
      (calculations.map (validateEntry values)).foldl ValidationReport.append
        ⟨inputs.filterMap inputProblem?, []⟩
  | _, _ => ⟨[.invalidStructure], []⟩

end CalculationValidation

end BackOfEnvelope
