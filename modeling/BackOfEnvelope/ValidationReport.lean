/-!
# Validation reports

Validation collects every problem that it finds, in the order in which it finds
them, together with the calculations that it could evaluate.
-/

namespace BackOfEnvelope

/-- A problem of a data file or of a variable. -/
inductive ValidationProblem where
  | missingField (field name : String)
  | badName (name : String)
  /-- The entity differs from that of the name. -/
  | entityMismatch (name expected actual : String)
  | unitsMismatch (name expected actual : String)
  /-- The value is missing, or no value. -/
  | invalidValue (name : String)
  | missingScaleOrDisplayUnits (name : String)
  | missingKeyAssumption (name : String)
  /-- The source is missing, or to be found. -/
  | missingSource (name : String)
  | invalidStructure
  | invalidInputEntry (name : String)
  /-- A calculation lacks its title, its explanation or its list of inputs. -/
  | invalidCalculationEntry (title : String)
  | missingInputValue (name title : String)
  | evaluationFailed (title reason : String)

namespace ValidationProblem

def message : ValidationProblem → String
  | .missingField field name =>
      "Missing mandatory field '" ++ field ++ "' in variable '" ++ name ++ "'"
  | .badName name =>
      "Variable name '" ++ name ++
        "' does not match the naming convention 'description__entity__units'."
  | .entityMismatch name expected actual =>
      "Entity mismatch in variable '" ++ name ++ "': expected '" ++ expected ++ "', got '" ++
        actual ++ "'."
  | .unitsMismatch name expected actual =>
      "Units mismatch in variable '" ++ name ++ "': expected '" ++ expected ++ "', got '" ++
        actual ++ "'."
  | .invalidValue name => "Invalid or missing value for variable '" ++ name ++ "'."
  | .missingScaleOrDisplayUnits name =>
      "Missing 'scale' or 'display_units' for variable '" ++ name ++ "'."
  | .missingKeyAssumption name => "Missing key assumption for variable '" ++ name ++ "'."
  | .missingSource name => "Missing or placeholder source URL for variable '" ++ name ++ "'."
  | .invalidStructure =>
      "Invalid YAML structure. Expected \"inputs\" and \"calculations\" fields as lists."
  | .invalidInputEntry name => "Invalid input entry: " ++ name
  | .invalidCalculationEntry title => "Invalid calculation entry: " ++ title
  | .missingInputValue name title =>
      "Missing input value for key: " ++ name ++ " in calculation: " ++ title
  | .evaluationFailed title reason =>
      "Error evaluating calculation '" ++ title ++ "': " ++ reason

end ValidationProblem

structure EvaluatedCalculation where
  title : String
  value : Float

structure ValidationReport where
  /-- The problems in the order in which they were found. -/
  problems : List ValidationProblem
  evaluated : List EvaluatedCalculation

namespace ValidationReport

def empty : ValidationReport :=
  ⟨[], []⟩

def isValid (report : ValidationReport) : Bool :=
  report.problems.isEmpty

/-- Two reports, one after the other. -/
def append (report other : ValidationReport) : ValidationReport :=
  ⟨report.problems ++ other.problems, report.evaluated ++ other.evaluated⟩

end ValidationReport

end BackOfEnvelope
