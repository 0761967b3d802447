import BackOfEnvelope.Proofs.PipelineRuns

/-!
# Steps without a function

A step whose function does not exist, or that has none, passes on the result of the
step before.  Without a name it changes nothing, so it can stand at any place of a
pipeline: only the errors of the steps behind it count one step more.  With names or
without, such steps alone make up the pipelines that succeed without a value.
-/

namespace BackOfEnvelope

namespace PipelineError

/-- The same error one step later.  Errors that are about no step stay as they are. -/
def later : PipelineError → PipelineError
  | .undecodable => .undecodable
  | .notAList found => .notAList found
  | .malformedStep step => .malformedStep (step + 1)
  | .missingArgument step function index => .missingArgument (step + 1) function index
  | .notANumber step function index shown => .notANumber (step + 1) function index shown
  | .negativeSquareRoot step value => .negativeSquareRoot (step + 1) value
  | .powerDomain step base exponent => .powerDomain (step + 1) base exponent

/-- An error after one step more has been put in at a place: it comes one step later if
its step stands there or behind. -/
def afterInsertion (place : Nat) (error : PipelineError) : PipelineError :=
  match error.step? with
  | some step => if place ≤ step then error.later else error
  | none => error

variable {error : PipelineError} {place step : Nat}

theorem afterInsertion_of_le (about : error.step? = some step) (behind : place ≤ step) :
    error.afterInsertion place = error.later := by
  simp only [afterInsertion, about, if_pos behind]

theorem afterInsertion_of_lt (about : error.step? = some step) (before : step < place) :
    error.afterInsertion place = error := by
  simp only [afterInsertion, about, if_neg (Nat.not_le.mpr before)]

end PipelineError

namespace StepFunction

variable (step : Nat) (function : StepFunction)

theorem needNumber_succ (index : Nat) (operand : ResolvedOperand) :
    needNumber (step + 1) function index operand =
      (needNumber step function index operand).mapError PipelineError.later := by
  cases operand <;> rfl

theorem applyNumbers_succ (a b : Float) :
    applyNumbers (step + 1) function a b =
      (applyNumbers step function a b).mapError PipelineError.later := by
  cases function with
  | power =>
      simp only [applyNumbers]
      split <;> rfl
  | add | subtract | multiply | divide | squareRoot | percent | percentOf => rfl

theorem applyTwo_succ (first second : ResolvedOperand) :
    applyTwo (step + 1) function first second =
      (applyTwo step function first second).mapError PipelineError.later := by
  unfold applyTwo
  rw [needNumber_succ, needNumber_succ]
  split
  · rfl
  · cases needNumber step function 0 first with
    | error error => rfl
    | ok a =>
        cases needNumber step function 1 second with
        | error error => rfl
        | ok b => exact applyNumbers_succ step function a b

theorem applyRoot_succ (operand : ResolvedOperand) :
    applyRoot (step + 1) operand = (applyRoot step operand).mapError PipelineError.later := by
  unfold applyRoot
  rw [needNumber_succ]
  cases needNumber step .squareRoot 0 operand with
  | error error => rfl
  | ok a =>
      change (if a < 0.0 then .error (.negativeSquareRoot (step + 1) a) else .ok a.sqrt) =
        Except.mapError PipelineError.later
          (if a < 0.0 then .error (.negativeSquareRoot step a) else .ok a.sqrt)
      split <;> rfl

theorem apply_succ (operands : List ResolvedOperand) :
    apply (step + 1) function operands =
      (apply step function operands).mapError PipelineError.later := by
  match operands with
  | [] => rfl
  | [first] =>
      simp only [apply]
      split
      · exact applyRoot_succ step first
      · rfl
  | first :: second :: _ =>
      simp only [apply]
      split
      · exact applyRoot_succ step first
      · exact applyTwo_succ step function first second

end StepFunction

namespace Operation

theorem result_succ (step : Nat) (operation : Operation) (previous : Option Float)
    (names : Namespace) :
    operation.result (step + 1) previous names =
      (operation.result step previous names).mapError PipelineError.later := by
  unfold result
  cases operation.action with
  | unknown _ | missing => rfl
  | known function =>
      simp only [StepFunction.apply_succ]
      cases function.apply step (operation.operands.map (Operand.resolve previous names)) <;> rfl

end Operation

/-- There is no function that exists. -/
def StepAction.IsIdle : StepAction → Prop
  | .known _ => False
  | .unknown _ | .missing => True

namespace Operation

variable {operation : Operation} {step : Nat} {previous : Option Float} {names : Namespace}

theorem result_of_isIdle (idle : operation.action.IsIdle) :
    operation.result step previous names = .ok previous := by
  unfold result
  cases action : operation.action with
  | known function =>
      rw [action] at idle
      exact idle.elim
  | unknown _ | missing => rfl

theorem isSome_of_result {value : Option Float} (busy : ¬ operation.action.IsIdle)
    (succeeded : operation.result step previous names = .ok value) : value.isSome := by
  unfold result at succeeded
  split at succeeded
  · next action => exact absurd (action ▸ trivial) busy
  · next action => exact absurd (action ▸ trivial) busy
  · split at succeeded
    · cases succeeded
    · cases succeeded
      rfl

end Operation

/-- A run that has its error changed, if it failed. -/
def PipelineRun.mapError (change : PipelineError → PipelineError) (run : PipelineRun) :
    PipelineRun :=
  ⟨run.outcome.mapError change, run.names⟩

namespace PipelineRun

variable {run : PipelineRun} {change other : PipelineError → PipelineError}

theorem mapError_of_ok {value : Option Float} (succeeded : run.outcome = .ok value) :
    run.mapError change = run := by
  obtain ⟨outcome, names⟩ := run
  cases succeeded
  rfl

theorem mapError_congr
    (same : ∀ error, run.outcome = .error error → change error = other error) :
    run.mapError change = run.mapError other := by
  cases outcome : run.outcome with
  | ok value => rw [mapError_of_ok outcome, mapError_of_ok outcome]
  | error error =>
      simp only [mapError, outcome]
      exact congrArg (fun changed => (⟨.error changed, run.names⟩ : PipelineRun))
        (same error outcome)

theorem mapError_of_unchanged
    (same : ∀ error, run.outcome = .error error → change error = error) :
    run.mapError change = run := by
  calc run.mapError change
      = run.mapError id := mapError_congr same
    _ = run := by
        obtain ⟨outcome, names⟩ := run
        cases outcome <;> rfl

end PipelineRun

namespace Pipeline

variable {step : Nat} {previous : Option Float} {names : Namespace} {operations : List Operation}

theorem runFrom_succ (step : Nat) (previous : Option Float) (names : Namespace)
    (operations : List Operation) :
    runFrom (step + 1) previous names operations =
      (runFrom step previous names operations).mapError PipelineError.later := by
  induction operations generalizing step previous names with
  | nil => rfl
  | cons operation rest ih =>
      have next := operation.result_succ step previous names
      cases result : operation.result step previous names with
      | error error =>
          rw [result] at next
          rw [runFrom_cons_of_error result, runFrom_cons_of_error next]
          rfl
      | ok value =>
          rw [result] at next
          rw [runFrom_cons_of_ok result, runFrom_cons_of_ok next, ih]

/-- An error of a run is about one of its steps. -/
theorem exists_step_of_error {error : PipelineError}
    (failed : (runFrom step previous names operations).outcome = .error error) :
    ∃ place, error.step? = some place ∧ step ≤ place ∧ place < step + operations.length := by
  obtain ⟨before, failing, after, value, rfl, -, fails⟩ := exists_failing_step failed
  refine ⟨step + before.length, Operation.failsOnlyAt_result _ _ _ _ _ fails, by omega, ?_⟩
  rw [List.length_append, List.length_cons]
  omega

/-- At the front of a run, a step that is idle and unnamed only delays the others. -/
theorem runFrom_cons_of_isIdle {idle : Operation} (isIdle : idle.action.IsIdle)
    (unnamed : idle.name = none) (rest : List Operation) :
    runFrom step previous names (idle :: rest) =
      (runFrom step previous names rest).mapError PipelineError.later := by
  rw [runFrom_cons_of_ok (Operation.result_of_isIdle isIdle), runFrom_succ]
  simp only [Operation.bindResult, unnamed]

/-- A run has no value exactly if it started with none and no step had a function. -/
theorem outcome_runFrom_eq_none_iff :
    (runFrom step previous names operations).outcome = .ok none ↔
      previous = none ∧ ∀ operation ∈ operations, operation.action.IsIdle := by
  induction operations generalizing step previous names with
  | nil => simp [runFrom]
  | cons operation rest ih =>
      rw [List.forall_mem_cons]
      by_cases idle : operation.action.IsIdle
      · rw [runFrom_cons_of_ok (Operation.result_of_isIdle idle), ih]
        simp only [idle, true_and]
      · -- A function yields a number or an error, and a number is never lost again.
        simp only [idle, false_and, and_false, iff_false]
        cases result : operation.result step previous names with
        | error error =>
            rw [runFrom_cons_of_error result]
            intro succeeded
            cases succeeded
        | ok value =>
            rw [runFrom_cons_of_ok result, ih]
            rintro ⟨rfl, -⟩
            cases Operation.isSome_of_result idle result

/-- An unnamed step without a function can stand at any place of a pipeline: the outcome and
the namespace are those of the pipeline without it, where an error at this place or behind it
comes one step later.  And a pipeline succeeds without a value exactly if no step has a
function. -/
theorem run_of_idle_steps :
    (∀ (before after : List Operation) (idle : Operation) (names : Namespace),
      idle.action.IsIdle → idle.name = none →
        run (before ++ idle :: after) names =
          (run (before ++ after) names).mapError (PipelineError.afterInsertion before.length)) ∧
    ∀ (operations : List Operation) (names : Namespace),
      (run operations names).outcome = .ok none ↔
        ∀ operation ∈ operations, operation.action.IsIdle := by
  refine ⟨?_, ?_⟩
  · intro before after idle names isIdle unnamed
    unfold run
    rw [runFrom_append, runFrom_append]
    cases outcome : (runFrom 0 none names before).outcome with
    | error error =>
        rw [PipelineRun.andThen_of_error outcome, PipelineRun.andThen_of_error outcome]
        refine (PipelineRun.mapError_of_unchanged ?_).symm
        intro other failed
        obtain ⟨place, about, -, bounded⟩ := exists_step_of_error failed
        exact PipelineError.afterInsertion_of_lt about (by omega)
    | ok value =>
        rw [PipelineRun.andThen_of_ok outcome, PipelineRun.andThen_of_ok outcome,
          runFrom_cons_of_isIdle isIdle unnamed]
        apply PipelineRun.mapError_congr
        intro error failed
        obtain ⟨place, about, behind, -⟩ := exists_step_of_error failed
        exact (PipelineError.afterInsertion_of_le about (by omega)).symm
  · intro operations names
    exact outcome_runFrom_eq_none_iff.trans (by simp)

/-- The idle step stands between a sum and the step that refers to its result.  The last step
fails, as the third one instead of the second. -/
theorem run_of_median_behind_sum :
    let sum : Operation :=
      ⟨.known .add, [.literal (.float 2.0), .literal (.float 3.0)], some "sum"⟩
    let median : Operation := ⟨.unknown "median", [.literal (.text "all")], none⟩
    let root : Operation := ⟨.known .squareRoot, [.previousResult], some "root"⟩
    let failing : Operation := ⟨.known .squareRoot, [], none⟩
    median.action.IsIdle ∧ median.name = none ∧
      (run [sum, root, failing] Namespace.empty).outcome =
        .error (.missingArgument 2 .squareRoot 0) ∧
      (run [sum, median, root, failing] Namespace.empty).outcome =
        .error (.missingArgument 3 .squareRoot 0) ∧
      (run [sum, median, root, failing] Namespace.empty).names =
        (run [sum, root, failing] Namespace.empty).names := by
  intro sum median root failing
  have inserted := run_of_idle_steps.1 [sum] [root, failing] median Namespace.empty trivial rfl
  have outcome : (run [sum, root, failing] Namespace.empty).outcome =
      .error (.missingArgument 2 .squareRoot 0) := rfl
  refine ⟨trivial, rfl, outcome, ?_, ?_⟩
  · calc (run [sum, median, root, failing] Namespace.empty).outcome
        = (run [sum, root, failing] Namespace.empty).outcome.mapError
            (PipelineError.afterInsertion 1) := congrArg PipelineRun.outcome inserted
      _ = .error (.missingArgument 3 .squareRoot 0) := by
          rw [outcome]
          rfl
  · have left := congrArg PipelineRun.names inserted
    exact left

end Pipeline

end BackOfEnvelope
