import BackOfEnvelope.Pipeline

/-!
# Runs of pipelines

A run of some steps and others behind them is a run of the first steps, and, if
that succeeds, a run of the others from the result and the namespace it leaves.
Every error of a step says which step it is, so a run that fails divides at the
failing step: the steps before it succeed, and those behind it do not matter.
-/

namespace BackOfEnvelope

namespace PipelineError

/-- The step that an error is about, if it is about one. -/
def step? : PipelineError → Option Nat
  | .undecodable | .notAList _ => none
  | .malformedStep step | .missingArgument step _ _ | .notANumber step _ _ _
  | .negativeSquareRoot step _ | .powerDomain step _ _ => some step

end PipelineError

/-- Any error of an outcome is about the given step. -/
def FailsOnlyAt {α : Type} (step : Nat) (outcome : Except PipelineError α) : Prop :=
  ∀ error, outcome = .error error → error.step? = some step

namespace FailsOnlyAt

variable {α : Type} {step : Nat}

@[simp]
theorem ok (value : α) : FailsOnlyAt step (.ok value) := by
  intro error failed
  cases failed

theorem of_step {error : PipelineError} (same : error.step? = some step) :
    FailsOnlyAt (α := α) step (.error error) := by
  intro other failed
  cases failed
  exact same

end FailsOnlyAt

namespace StepFunction

variable (step : Nat) (function : StepFunction)

theorem failsOnlyAt_needNumber (index : Nat) (operand : ResolvedOperand) :
    FailsOnlyAt step (needNumber step function index operand) := by
  cases operand with
  | number value => exact .ok value
  | nothing | other _ => exact .of_step rfl

theorem failsOnlyAt_applyNumbers (a b : Float) :
    FailsOnlyAt step (applyNumbers step function a b) := by
  cases function with
  | power =>
      simp only [applyNumbers]
      split
      · exact .of_step rfl
      · exact .ok _
  | add | subtract | multiply | divide | squareRoot | percent | percentOf => exact .ok _

theorem failsOnlyAt_applyTwo (first second : ResolvedOperand) :
    FailsOnlyAt step (applyTwo step function first second) := by
  unfold applyTwo
  split
  · exact .ok _
  · have firstFails := failsOnlyAt_needNumber step function 0 first
    have secondFails := failsOnlyAt_needNumber step function 1 second
    split
    · next error failed => exact .of_step (firstFails error failed)
    · split
      · next error failed => exact .of_step (secondFails error failed)
      · exact failsOnlyAt_applyNumbers step function _ _

theorem failsOnlyAt_applyRoot (operand : ResolvedOperand) :
    FailsOnlyAt step (applyRoot step operand) := by
  have fails := failsOnlyAt_needNumber step .squareRoot 0 operand
  unfold applyRoot
  split
  · next error failed => exact .of_step (fails error failed)
  · split
    · exact .of_step rfl
    · exact .ok _

theorem failsOnlyAt_apply (operands : List ResolvedOperand) :
    FailsOnlyAt step (apply step function operands) := by
  match operands with
  | [] => exact .of_step rfl
  | [first] =>
      simp only [apply]
      split
      · exact failsOnlyAt_applyRoot step first
      · exact .of_step rfl
  | first :: second :: _ =>
      simp only [apply]
      split
      · exact failsOnlyAt_applyRoot step first
      · exact failsOnlyAt_applyTwo step function first second

end StepFunction

namespace Operation

theorem failsOnlyAt_result (step : Nat) (operation : Operation) (previous : Option Float)
    (names : Namespace) : FailsOnlyAt step (operation.result step previous names) := by
  unfold result
  split
  · exact .ok _
  · exact .ok _
  · next function _ =>
      have fails := StepFunction.failsOnlyAt_apply step function
        (operation.operands.map (Operand.resolve previous names))
      split
      · next error failed => exact .of_step (fails error failed)
      · exact .ok _

end Operation

namespace PipelineRun

/-- Go on from the result and the namespace of a run, unless it failed. -/
def andThen (run : PipelineRun) (next : Option Float → Namespace → PipelineRun) : PipelineRun :=
  match run.outcome with
  | .ok value => next value run.names
  | .error _ => run

theorem andThen_of_ok {run : PipelineRun} {value : Option Float}
    (succeeded : run.outcome = .ok value) (next : Option Float → Namespace → PipelineRun) :
    run.andThen next = next value run.names := by
  simp [andThen, succeeded]

theorem andThen_of_error {run : PipelineRun} {error : PipelineError}
    (failed : run.outcome = .error error) (next : Option Float → Namespace → PipelineRun) :
    run.andThen next = run := by
  simp [andThen, failed]

/-- Only a run that succeeded itself can go on to a success. -/
theorem exists_ok_of_andThen {run : PipelineRun} {next : Option Float → Namespace → PipelineRun}
    {value : Option Float} (succeeded : (run.andThen next).outcome = .ok value) :
    ∃ before, run.outcome = .ok before := by
  cases outcome : run.outcome with
  | ok before => exact ⟨before, rfl⟩
  | error error =>
      rw [andThen_of_error outcome, outcome] at succeeded
      cases succeeded

end PipelineRun

namespace Pipeline

variable {step : Nat} {previous value : Option Float} {names : Namespace}
variable {operation : Operation} {operations : List Operation} {error : PipelineError}

theorem runFrom_cons_of_ok (succeeded : operation.result step previous names = .ok value)
    (rest : List Operation) :
    runFrom step previous names (operation :: rest) =
      runFrom (step + 1) value (operation.bindResult value names) rest := by
  simp only [runFrom, succeeded]

theorem runFrom_cons_of_error (failed : operation.result step previous names = .error error)
    (rest : List Operation) :
    runFrom step previous names (operation :: rest) = ⟨.error error, names⟩ := by
  simp only [runFrom, failed]

theorem runFrom_append (step : Nat) (previous : Option Float) (names : Namespace)
    (first second : List Operation) :
    runFrom step previous names (first ++ second) =
      (runFrom step previous names first).andThen fun value left =>
        runFrom (step + first.length) value left second := by
  induction first generalizing step previous names with
  | nil => rfl
  | cons operation rest ih =>
      rw [List.cons_append]
      cases result : operation.result step previous names with
      | error error =>
          rw [runFrom_cons_of_error result, runFrom_cons_of_error result]
          rfl
      | ok value =>
          rw [runFrom_cons_of_ok result, runFrom_cons_of_ok result, ih]
          simp only [List.length_cons, Nat.add_assoc, Nat.add_comm 1]

/-- A run that fails divides at the failing step. -/
theorem exists_failing_step
    (failed : (runFrom step previous names operations).outcome = .error error) :
    ∃ before failing after value, operations = before ++ failing :: after ∧
      (runFrom step previous names before).outcome = .ok value ∧
      failing.result (step + before.length) value (runFrom step previous names before).names =
        .error error := by
  induction operations generalizing step previous names with
  | nil => cases failed
  | cons operation rest ih =>
      cases result : operation.result step previous names with
      | error other =>
          rw [runFrom_cons_of_error result] at failed
          cases failed
          exact ⟨[], operation, rest, previous, rfl, rfl, result⟩
      | ok value =>
          rw [runFrom_cons_of_ok result] at failed
          obtain ⟨before, failing, after, last, rfl, succeeded, fails⟩ := ih failed
          refine ⟨operation :: before, failing, after, last, rfl, ?_, ?_⟩
          · rw [runFrom_cons_of_ok result]
            exact succeeded
          · rw [runFrom_cons_of_ok result, List.length_cons, Nat.add_comm before.length,
              ← Nat.add_assoc]
            exact fails

/-- Whatever stands behind a failing step, the run ends there and leaves what the steps
before have bound. -/
theorem runFrom_of_failing_step {before : List Operation} {failing : Operation}
    (succeeded : (runFrom step previous names before).outcome = .ok value)
    (failed : failing.result (step + before.length) value
      (runFrom step previous names before).names = .error error) (after : List Operation) :
    runFrom step previous names (before ++ failing :: after) =
      ⟨.error error, (runFrom step previous names before).names⟩ := by
  rw [runFrom_append, PipelineRun.andThen_of_ok succeeded, runFrom_cons_of_error failed]

/-- If a run succeeds, so does every run of its first steps alone. -/
theorem exists_ok_of_append {first second : List Operation}
    (succeeded : (runFrom step previous names (first ++ second)).outcome = .ok value) :
    ∃ before, (runFrom step previous names first).outcome = .ok before := by
  rw [runFrom_append] at succeeded
  exact PipelineRun.exists_ok_of_andThen succeeded

end Pipeline

end BackOfEnvelope
