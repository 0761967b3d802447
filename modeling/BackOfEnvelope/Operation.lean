import BackOfEnvelope.JsonText

/-!
# Operations

One step of a pipeline is an operation: a function, its operands, and maybe a
name for the result.  This file holds the type and its JSON form.  A step is
read from an object with the fields `func`, `args` and `name`, or from a list of
their values in this order; what is missing has a default, and what else an
object holds is ignored.  Functions that do not exist are kept by name.
-/

namespace BackOfEnvelope

/-- The functions of pipeline steps. -/
inductive StepFunction where
  | add
  | subtract
  | multiply
  /-- The quotient of two numbers, zero if the divisor is. -/
  | divide
  | power
  | squareRoot
  | percent
  /-- How many percent one number is of another, zero if that one is. -/
  | percentOf
deriving DecidableEq

namespace StepFunction

def all : List StepFunction :=
  [.add, .subtract, .multiply, .divide, .power, .squareRoot, .percent, .percentOf]

def name : StepFunction → String
  | .add => "add"
  | .subtract => "subtract"
  | .multiply => "multiply"
  | .divide => "divide"
  | .power => "power"
  | .squareRoot => "sqrt"
  | .percent => "percent"
  | .percentOf => "percentOf"

def arity : StepFunction → Nat
  | .squareRoot => 1
  | _ => 2

def ofName? (name : String) : Option StepFunction :=
  all.find? fun function => function.name = name

end StepFunction

/-- What a step says about its function. -/
inductive StepAction where
  | known (function : StepFunction)
  /-- A function that does not exist, which leaves the result as it is. -/
  | unknown (name : String)
  /-- No function, which leaves the result as it is. -/
  | missing
deriving DecidableEq

namespace StepAction

def name : StepAction → String
  | .known function => function.name
  | .unknown name => name
  | .missing => ""

def arity : StepAction → Nat
  | .known function => function.arity
  | .unknown _ | .missing => 0

/-- Read the function of a step.  A value that is no string counts by its JSON
text. -/
def ofJson : Json → StepAction
  | .text name =>
      match StepFunction.ofName? name with
      | some function => .known function
      | none => .unknown name
  | .null => .missing
  | other => .unknown other.compact

/-- The JSON form of the function of a step. -/
def toJson : StepAction → Json
  | .known function => .text function.name
  | .unknown name => .text name
  | .missing => .null

end StepAction

inductive Operand where
  /-- The result of the step before, written `"result"`. -/
  | previousResult
  /-- The number of a name, written `"\x7bname\x7d"`. -/
  | variable (name : String)
  /-- Any other value, as it is written. -/
  | literal (value : Json)

namespace Operand

def bracedName? (text : String) : Option String :=
  match text.toList with
  | '{' :: rest =>
      if rest.getLast? = some '}' then some (String.ofList rest.dropLast) else none
  | _ => none

def ofJson : Json → Operand
  | .text text =>
      if text = "result" then .previousResult
      else
        match bracedName? text with
        | some name => .variable name
        | none => .literal (.text text)
  | other => .literal other

def toJson : Operand → Json
  | .previousResult => .text "result"
  | .variable name => .text ("\x7b" ++ name ++ "\x7d")
  | .literal value => value

end Operand

/-- A step of a pipeline. -/
structure Operation where
  action : StepAction
  /-- The operands, of which some may be too many. -/
  operands : List Operand
  name : Option String

namespace Operation

def operandsOfJson? : Json → Option (List Operand)
  | .array items => some (items.map Operand.ofJson)
  | _ => none

/-- Read the name of a result, where null stands for none. -/
def nameOfJson? : Json → Option (Option String)
  | .null => some none
  | .text name => some (some name)
  | _ => none

/-- Put a step together from its fields, some of which may be missing. -/
def ofFields? (function operands name : Option Json) : Option Operation := do
  let operands ← (operands.map operandsOfJson?).getD (some [])
  let name ← (name.map nameOfJson?).getD (some none)
  return ⟨(function.map StepAction.ofJson).getD .missing, operands, name⟩

def ofJson? : Json → Option Operation
  | .object fields =>
      ofFields? (Fields.find? "func" fields) (Fields.find? "args" fields)
        (Fields.find? "name" fields)
  | .array [] => ofFields? none none none
  | .array [function] => ofFields? (some function) none none
  | .array [function, operands] => ofFields? (some function) (some operands) none
  | .array [function, operands, name] => ofFields? (some function) (some operands) (some name)
  | _ => none

def toJson (operation : Operation) : Json :=
  .object (("func", operation.action.toJson) ::
    ("args", .array (operation.operands.map Operand.toJson)) ::
      (operation.name.map fun name => ("name", Json.text name)).toList)

end Operation

end BackOfEnvelope
