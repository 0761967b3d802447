import BackOfEnvelope.Proofs.DictionaryHistory
import BackOfEnvelope.Proofs.PipelineRuns

/-!
# Bindings that a run leaves

A run binds exactly what its completed steps carry.  The steps that are
completed are all of them, or those before the one that failed; the last
completed step of a name decides what it is bound to, and the first one where a
new name stands among the others.
-/

namespace BackOfEnvelope

namespace Operation

variable {operation : Operation} {name : String}

theorem binding_bindResult_of_ne (other : operation.name ≠ some name) (value : Option Float)
    (names : Namespace) :
    (operation.bindResult value names).binding name = names.binding name := by
  unfold bindResult
  split
  · next bound carried =>
      have different : bound ≠ name := fun same => other (carried.trans (congrArg some same))
      rw [Namespace.binding_bind, if_neg different]
  · rfl

theorem binding_bindResult_of_eq (carried : operation.name = some name) (value : Option Float)
    (names : Namespace) : (operation.bindResult value names).binding name = some value := by
  simp only [bindResult, carried, Namespace.binding_bind, if_pos]

end Operation

namespace Pipeline

variable {step : Nat} {previous value : Option Float} {names : Namespace}

/-- A name that no step carries keeps its binding. -/
theorem binding_runFrom_of_untouched {name : String} {operations : List Operation}
    (untouched : ∀ operation ∈ operations, operation.name ≠ some name) :
    (runFrom step previous names operations).names.binding name = names.binding name := by
  induction operations generalizing step previous names with
  | nil => rfl
  | cons operation rest ih =>
      cases result : operation.result step previous names with
      | error error => rw [runFrom_cons_of_error result]
      | ok value =>
          rw [runFrom_cons_of_ok result,
            ih fun later member => untouched later (List.mem_cons_of_mem _ member)]
          exact Operation.binding_bindResult_of_ne (untouched operation List.mem_cons_self) _ _

/-- If a run succeeds, a name holds the result of the last step that carries it. -/
theorem binding_runFrom_of_last {name : String} {before after : List Operation}
    {operation : Operation} (carried : operation.name = some name)
    (last : ∀ later ∈ after, later.name ≠ some name)
    (succeeded : (runFrom step previous names (before ++ operation :: after)).outcome = .ok value) :
    ∃ result, (runFrom step previous names (before ++ [operation])).outcome = .ok result ∧
      (runFrom step previous names (before ++ operation :: after)).names.binding name =
        some result := by
  obtain ⟨earlier, beforeSucceeded⟩ := exists_ok_of_append succeeded
  rw [runFrom_append, PipelineRun.andThen_of_ok beforeSucceeded] at succeeded
  rw [runFrom_append, PipelineRun.andThen_of_ok beforeSucceeded, runFrom_append,
    PipelineRun.andThen_of_ok beforeSucceeded]
  cases result : operation.result (step + before.length) earlier
      (runFrom step previous names before).names with
  | error error =>
      rw [runFrom_cons_of_error result] at succeeded
      cases succeeded
  | ok computed =>
      rw [runFrom_cons_of_ok result, runFrom_cons_of_ok result]
      refine ⟨computed, rfl, ?_⟩
      rw [binding_runFrom_of_untouched last]
      exact Operation.binding_bindResult_of_eq carried _ _

/-- If a run succeeds, its new names stand behind the others in the order in which they
were first bound. -/
theorem keys_runFrom_of_ok {operations : List Operation}
    (succeeded : (runFrom step previous names operations).outcome = .ok value) :
    (runFrom step previous names operations).names.keys =
      names.keys ++ ((operations.filterMap Operation.name).filter (· ∉ names.keys)).eraseDups := by
  induction operations generalizing step previous names with
  | nil => simp [runFrom]
  | cons operation rest ih =>
      cases result : operation.result step previous names with
      | error error =>
          rw [runFrom_cons_of_error result] at succeeded
          cases succeeded
      | ok computed =>
          rw [runFrom_cons_of_ok result] at succeeded ⊢
          rw [ih succeeded]
          cases carried : operation.name with
          | none => simp [Operation.bindResult, carried]
          | some name =>
              rw [List.filterMap_cons_some carried, append_new_cons]
              simp only [Operation.bindResult, carried, Namespace.keys_bind]

/-- The steps of a run that are completed: all of them, or those before the one that
fails. -/
def completed (operations : List Operation) (names : Namespace) : List Operation :=
  match (run operations names).outcome with
  | .ok _ => operations
  | .error error => operations.take (error.step?.getD operations.length)

/-- The completed steps alone succeed, and leave what the whole run leaves. -/
theorem run_completed (operations : List Operation) (names : Namespace) :
    (∃ value, (run (completed operations names) names).outcome = .ok value) ∧
      (run operations names).names = (run (completed operations names) names).names := by
  unfold completed
  cases outcome : (run operations names).outcome with
  | ok value => exact ⟨⟨value, outcome⟩, rfl⟩
  | error error =>
      obtain ⟨before, failing, after, value, rfl, succeeded, failed⟩ := exists_failing_step outcome
      have position := Operation.failsOnlyAt_result _ _ _ _ _ failed
      rw [Nat.zero_add] at position
      simp only [position, Option.getD_some, List.take_left]
      refine ⟨⟨value, succeeded⟩, ?_⟩
      unfold run
      rw [runFrom_of_failing_step succeeded failed]

/-- A run that fails does so at the first step that fails, whose place the error tells. -/
theorem exists_first_failure {operations : List Operation} {error : PipelineError}
    (outcome : (run operations names).outcome = .error error) :
    ∃ position < operations.length, error.step? = some position ∧
      completed operations names = operations.take position ∧
      (∀ count ≤ position, ∃ value, (run (operations.take count) names).outcome = .ok value) ∧
      ∀ following, run (operations.take (position + 1) ++ following) names =
        ⟨.error error, (run (operations.take position) names).names⟩ := by
  have isCompleted : completed operations names =
      operations.take (error.step?.getD operations.length) := by
    simp only [completed, outcome]
  obtain ⟨before, failing, after, value, rfl, succeeded, failed⟩ := exists_failing_step outcome
  have position := Operation.failsOnlyAt_result _ _ _ _ _ failed
  rw [Nat.zero_add] at position
  refine ⟨before.length, by simp, position, ?_, ?_, ?_⟩
  · rw [isCompleted, position, Option.getD_some]
  · intro count bounded
    rw [List.take_append_of_le_length bounded]
    rw [← List.take_append_drop count before] at succeeded
    exact exists_ok_of_append succeeded
  · intro following
    have throughFailing : (before ++ failing :: after).take (before.length + 1) =
        before ++ [failing] := by
      rw [List.take_length_add_append, List.take_succ_cons, List.take_zero]
    rw [throughFailing, List.take_left, List.append_assoc]
    exact runFrom_of_failing_step succeeded failed following

/-- A run fails at its first failing step, and nothing behind that step matters.  In any
case it leaves the bindings of the completed steps: other names keep theirs, a name of
these steps holds the result of the last one, and new names stand behind the old ones in
the order in which they were first bound. -/
theorem run_failure_and_bindings (operations : List Operation) (names : Namespace) :
    (∀ error, (run operations names).outcome = .error error →
      ∃ position < operations.length, error.step? = some position ∧
        completed operations names = operations.take position ∧
        (∀ count ≤ position, ∃ value, (run (operations.take count) names).outcome = .ok value) ∧
        (run (operations.take (position + 1)) names).outcome = .error error ∧
        (∀ following,
          run (operations.take (position + 1) ++ following) names = run operations names) ∧
        (run operations names).names = (run (operations.take position) names).names) ∧
    (∀ value, (run operations names).outcome = .ok value →
      completed operations names = operations) ∧
    (∀ name, (∀ operation ∈ completed operations names, operation.name ≠ some name) →
      (run operations names).names.binding name = names.binding name) ∧
    (∀ before operation after name,
      completed operations names = before ++ operation :: after →
      operation.name = some name → (∀ later ∈ after, later.name ≠ some name) →
      ∃ result, (run (before ++ [operation]) names).outcome = .ok result ∧
        (run operations names).names.binding name = some result) ∧
    (run operations names).names.keys = names.keys ++
      (((completed operations names).filterMap Operation.name).filter
        (· ∉ names.keys)).eraseDups := by
  obtain ⟨⟨value, succeeded⟩, sameNames⟩ := run_completed operations names
  refine ⟨?_, ?_, ?_, ?_, ?_⟩
  · intro error outcome
    obtain ⟨position, bounded, told, isCompleted, prefixes, ends⟩ := exists_first_failure outcome
    have whole : run operations names =
        ⟨.error error, (run (operations.take position) names).names⟩ := by
      rw [← ends (operations.drop (position + 1)), List.take_append_drop]
    refine ⟨position, bounded, told, isCompleted, prefixes, ?_, ?_, ?_⟩
    · rw [← List.append_nil (operations.take (position + 1)), ends]
    · intro following
      rw [ends, whole]
    · rw [whole]
  · intro value outcome
    simp only [completed, outcome]
  · intro name untouched
    rw [sameNames]
    exact binding_runFrom_of_untouched untouched
  · intro before operation after name divided carried last
    rw [divided] at succeeded
    rw [sameNames, divided]
    exact binding_runFrom_of_last carried last succeeded
  · rw [sameNames]
    exact keys_runFrom_of_ok succeeded

/-- The second of three steps has no operand.  The first one keeps its binding, and the
names of the others are bound to what they were before. -/
theorem run_of_missing_operand :
    let operations : List Operation :=
      [⟨.known .squareRoot, [.literal (.float 4.0)], some "x"⟩, ⟨.known .squareRoot, [], some "y"⟩,
        ⟨.missing, [], some "z"⟩]
    let names := Namespace.empty.set "y" 1.0
    (run operations names).outcome = .error (.missingArgument 1 .squareRoot 0) ∧
      (run operations names).names = (run (operations.take 1) names).names ∧
      (run operations names).names.binding "y" = some (some 1.0) ∧
      (run operations names).names.binding "x" = some (some (Float.sqrt 4.0)) ∧
      (run operations names).names.keys = ["y", "x"] := by
  intro operations names
  obtain ⟨failure, _, untouched, last, keys⟩ := run_failure_and_bindings operations names
  have outcome : (run operations names).outcome =
      .error (.missingArgument 1 .squareRoot 0) := rfl
  obtain ⟨position, _, told, _, _, _, _, sameNames⟩ := failure _ outcome
  obtain rfl : 1 = position := Option.some.inj told
  refine ⟨outcome, sameNames, untouched "y" ?_, ?_, keys⟩
  · simp [completed, outcome, PipelineError.step?, operations]
  · obtain ⟨result, succeeded, bound⟩ :=
      last [] ⟨.known .squareRoot, [.literal (.float 4.0)], some "x"⟩ [] "x" rfl rfl (by simp)
    obtain rfl : some (Float.sqrt 4.0) = result := Except.ok.inj succeeded
    exact bound

end Pipeline

end BackOfEnvelope
