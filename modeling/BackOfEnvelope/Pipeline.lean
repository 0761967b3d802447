import BackOfEnvelope.JsonReading
import BackOfEnvelope.Namespace
import BackOfEnvelope.Operation
import BackOfEnvelope.Text
import BackOfEnvelope.Yaml

/-!
# Pipelines

A pipeline is a list of steps that run one after the other.  A step sees the
result of the step before and the numbers of a namespace, and a step with a name
binds its result there, so later steps and later pipelines can use it.

A pipeline runs in two forms: from operations, and from steps that are decoded
just before they run.  Both stop at the first step that fails, and the bindings
of the steps before stay.
-/

namespace BackOfEnvelope

/-- Why a pipeline could not be computed.  Steps count from zero. -/
inductive PipelineError where
  /-- The text or the structure of the pipeline cannot be read. -/
  | undecodable
  /-- The pipeline is not a list of steps. -/
  | notAList (found : Json)
  | malformedStep (step : Nat)
  | missingArgument (step : Nat) (function : StepFunction) (index : Nat)
  | notANumber (step : Nat) (function : StepFunction) (index : Nat) (shown : String)
  | negativeSquareRoot (step : Nat) (value : Float)
  | powerDomain (step : Nat) (base exponent : Float)

namespace PipelineError

/-- The message of an error; what cannot be read has none of its own. -/
def message? : PipelineError → Option String
  | .undecodable | .malformedStep _ => none
  | .notAList found =>
      some ("malformed operations: expected a list of steps, got " ++ found.compact)
  | .missingArgument step function index =>
      some ("step " ++ toString step ++ " (" ++ function.name ++ "): missing argument " ++
        toString index)
  | .notANumber step function index shown =>
      some ("step " ++ toString step ++ " (" ++ function.name ++ "): argument " ++
        toString index ++ " is not a number: " ++ shown)
  | .negativeSquareRoot step value =>
      some ("step " ++ toString step ++ " (sqrt): square root of negative number " ++
        NumberLayout.message.write value)
  | .powerDomain step base exponent =>
      some ("step " ++ toString step ++ " (power): " ++ NumberLayout.message.write base ++
        " ** " ++ NumberLayout.message.write exponent ++ " is not a finite number")

end PipelineError

/-- What an operand stands for when its step runs. -/
inductive ResolvedOperand where
  | number (value : Float)
  | nothing
  | other (value : Json)

namespace ResolvedOperand

/-- Whether the operand is the number zero, of either sign. -/
def isZero : ResolvedOperand → Bool
  | .number value => value == 0.0
  | _ => false

/-- An operand as a message shows it. -/
def shown : ResolvedOperand → String
  | .number value => NumberLayout.message.write value
  | .nothing => "null"
  | .other value => value.compact

end ResolvedOperand

namespace Operand

/-- What an operand stands for.  A name that is absent counts as zero, and a
truth value as one or zero. -/
def resolve (previous : Option Float) (names : Namespace) : Operand → ResolvedOperand
  | .previousResult =>
      match previous with
      | some value => .number value
      | none => .nothing
  | .variable name =>
      match names.binding name with
      | some (some value) => .number value
      | some none => .nothing
      | none => .number 0.0
  | .literal (.integer value) => .number (Binary64.ofInt value)
  | .literal (.float value) => .number value
  | .literal (.boolean value) => .number (if value then 1.0 else 0.0)
  | .literal .null => .nothing
  | .literal value => .other value

end Operand

namespace StepFunction

/-- The number that an operand stands for, or else an error. -/
def needNumber (step : Nat) (function : StepFunction) (index : Nat) :
    ResolvedOperand → Except PipelineError Float
  | .number value => .ok value
  | operand => .error (.notANumber step function index operand.shown)

/-- The value of a function of two numbers. -/
def applyNumbers (step : Nat) (function : StepFunction) (a b : Float) :
    Except PipelineError Float :=
  match function with
  | .add => .ok (a + b)
  | .subtract => .ok (a - b)
  | .multiply => .ok (a * b)
  | .divide => .ok (a / b)
  | .percent => .ok (a * b / 100.0)
  | .percentOf => .ok (a / b * 100.0)
  | .squareRoot => .ok a.sqrt
  | .power =>
      let value := Float.pow a b
      if !value.isFinite && a.isFinite && b.isFinite then .error (.powerDomain step a b)
      else .ok value

/-- Whether a function yields zero when its second operand is zero. -/
def guardsZero : StepFunction → Bool
  | .divide | .percentOf => true
  | _ => false

/-- The value of a function of two operands.  A divisor of zero is noticed before
anything else. -/
def applyTwo (step : Nat) (function : StepFunction) (first second : ResolvedOperand) :
    Except PipelineError Float :=
  if function.guardsZero && second.isZero then .ok 0.0
  else
    match needNumber step function 0 first with
    | .error error => .error error
    | .ok a =>
        match needNumber step function 1 second with
        | .error error => .error error
        | .ok b => applyNumbers step function a b

def applyRoot (step : Nat) (operand : ResolvedOperand) : Except PipelineError Float :=
  match needNumber step .squareRoot 0 operand with
  | .error error => .error error
  | .ok a => if a < 0.0 then .error (.negativeSquareRoot step a) else .ok a.sqrt

/-- The value of a function of the first operands of a list. -/
def apply (step : Nat) (function : StepFunction) (operands : List ResolvedOperand) :
    Except PipelineError Float :=
  match operands with
  | [] => .error (.missingArgument step function 0)
  | first :: others =>
      if function = .squareRoot then applyRoot step first
      else
        match others with
        | [] => .error (.missingArgument step function 1)
        | second :: _ => applyTwo step function first second

end StepFunction

namespace Operation

/-- The result of a step.  Without a function that exists it is the result of
the step before. -/
def result (step : Nat) (operation : Operation) (previous : Option Float) (names : Namespace) :
    Except PipelineError (Option Float) :=
  match operation.action with
  | .unknown _ | .missing => .ok previous
  | .known function =>
      match function.apply step (operation.operands.map (Operand.resolve previous names)) with
      | .error error => .error error
      | .ok value => .ok (some value)

/-- Bind the result of a step to its name. -/
def bindResult (operation : Operation) (value : Option Float) (names : Namespace) : Namespace :=
  match operation.name with
  | some name => names.bind name value
  | none => names

end Operation

/-- The outcome of a pipeline and the namespace that it leaves. -/
structure PipelineRun where
  /-- The result of the last step, or the first error. -/
  outcome : Except PipelineError (Option Float)
  names : Namespace

namespace PipelineRun

/-- The result, where an error counts as no value. -/
def value (run : PipelineRun) : Option Float :=
  match run.outcome with
  | .ok value => value
  | .error _ => none

end PipelineRun

namespace Pipeline

/-- Run operations behind `step` others, the last of which had the result
`previous`. -/
def runFrom (step : Nat) (previous : Option Float) (names : Namespace) :
    List Operation → PipelineRun
  | [] => ⟨.ok previous, names⟩
  | operation :: rest =>
      match operation.result step previous names with
      | .error error => ⟨.error error, names⟩
      | .ok value => runFrom (step + 1) value (operation.bindResult value names) rest

def run (operations : List Operation) (names : Namespace) : PipelineRun :=
  runFrom 0 none names operations

def decodeStep (step : Nat) (raw : Json) : Except PipelineError Operation :=
  match Operation.ofJson? raw with
  | some operation => .ok operation
  | none => .error (.malformedStep step)

/-- Run steps behind `step` others, decoding each just before it runs. -/
def runStepsFrom (step : Nat) (previous : Option Float) (names : Namespace) :
    List Json → PipelineRun
  | [] => ⟨.ok previous, names⟩
  | raw :: rest =>
      match decodeStep step raw with
      | .error error => ⟨.error error, names⟩
      | .ok operation =>
          match operation.result step previous names with
          | .error error => ⟨.error error, names⟩
          | .ok value => runStepsFrom (step + 1) value (operation.bindResult value names) rest

/-- Run steps, decoding each just before it runs. -/
def runSteps (steps : List Json) (names : Namespace) : PipelineRun :=
  runStepsFrom 0 none names steps

/-- The JSON value of the field that holds a pipeline: a JSON text, or the
structure itself.  A field that is absent, null or blank holds no pipeline. -/
def rawSteps? (field : Option Yaml) : Except PipelineError (Option Json) :=
  match field with
  | none | some .null => .ok none
  | some (.text text) =>
      if (trim text).isEmpty then .ok none
      else
        match Json.ofText? text with
        | some raw => .ok (some raw)
        | none => .error .undecodable
  | some other =>
      match other.toJson? with
      | some raw => .ok (some raw)
      | none => .error .undecodable

/-- The steps of the field that holds a pipeline, at least one if there are any,
none of them decoded. -/
def steps (field : Option Yaml) : Except PipelineError (Option (List Json)) :=
  match rawSteps? field with
  | .error error => .error error
  | .ok none => .ok none
  | .ok (some (.array [])) => .ok none
  | .ok (some (.array steps)) => .ok (some steps)
  | .ok (some other) => .error (.notAList other)

/-- Decode steps behind `step` others up to the first that fails. -/
def decodeFrom (step : Nat) : List Json → Except PipelineError (List Operation)
  | [] => .ok []
  | raw :: rest =>
      match decodeStep step raw with
      | .error error => .error error
      | .ok operation =>
          match decodeFrom (step + 1) rest with
          | .error error => .error error
          | .ok operations => .ok (operation :: operations)

/-- The operations of the field that holds a pipeline, at least one if there are
any. -/
def operations (field : Option Yaml) : Except PipelineError (Option (List Operation)) :=
  match steps field with
  | .error error => .error error
  | .ok none => .ok none
  | .ok (some steps) =>
      match decodeFrom 0 steps with
      | .error error => .error error
      | .ok operations => .ok (some operations)

/-- Run the field that holds a pipeline.  Without steps there is no value. -/
def runField (field : Option Yaml) (names : Namespace) : PipelineRun :=
  match steps field with
  | .error error => ⟨.error error, names⟩
  | .ok none => ⟨.ok none, names⟩
  | .ok (some steps) => runSteps steps names

/-- Run a pipeline that is given as a JSON text. -/
def runText (text : String) (names : Namespace) : PipelineRun :=
  runField (some (.text text)) names

end Pipeline

end BackOfEnvelope
