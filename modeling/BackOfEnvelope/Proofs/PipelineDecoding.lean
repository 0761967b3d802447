import BackOfEnvelope.Proofs.PipelineRuns

/-!
# Decoding steps while they run

A pipeline may be decoded as a whole before it runs, or step by step while it
runs.  The two differ only if a step does not decode: then the steps before it
have run, and if they succeeded, the run fails at that step.
-/

namespace BackOfEnvelope

namespace Pipeline

theorem decodeFrom_cons_eq_ok {step : Nat} {raw : Json} {rest : List Json}
    {operations : List Operation} (decoded : decodeFrom step (raw :: rest) = .ok operations) :
    ∃ operation others, operations = operation :: others ∧
      decodeStep step raw = .ok operation ∧ decodeFrom (step + 1) rest = .ok others := by
  simp only [decodeFrom] at decoded
  split at decoded
  · cases decoded
  · next operation first =>
      split at decoded
      · cases decoded
      · next others remaining =>
          cases decoded
          exact ⟨operation, others, rfl, first, remaining⟩

/-- Steps that decode run as the operations that they decode to, whatever steps follow. -/
theorem runStepsFrom_append {step : Nat} {before : List Json} {operations : List Operation}
    (decoded : decodeFrom step before = .ok operations) (previous : Option Float)
    (names : Namespace) (after : List Json) :
    runStepsFrom step previous names (before ++ after) =
      (runFrom step previous names operations).andThen fun value left =>
        runStepsFrom (step + before.length) value left after := by
  induction before generalizing step previous names operations with
  | nil =>
      cases decoded
      rfl
  | cons raw rest ih =>
      obtain ⟨operation, others, rfl, first, remaining⟩ := decodeFrom_cons_eq_ok decoded
      simp only [List.cons_append, runStepsFrom, first]
      cases result : operation.result step previous names with
      | error error =>
          rw [runFrom_cons_of_error result]
          rfl
      | ok value =>
          rw [runFrom_cons_of_ok result]
          simp only [ih remaining, List.length_cons, Nat.add_assoc, Nat.add_comm 1]

/-- Steps decode to operations, or there is a first one among them that does not decode. -/
theorem decodeFrom_cases (step : Nat) (steps : List Json) :
    (∃ operations, decodeFrom step steps = .ok operations) ∨
      ∃ before raw after operations, steps = before ++ raw :: after ∧
        decodeFrom step before = .ok operations ∧ Operation.ofJson? raw = none := by
  induction steps generalizing step with
  | nil => exact .inl ⟨[], rfl⟩
  | cons raw rest ih =>
      cases first : Operation.ofJson? raw with
      | none => exact .inr ⟨[], raw, rest, [], rfl, rfl, first⟩
      | some operation =>
          rcases ih (step + 1) with
            ⟨others, decoded⟩ | ⟨before, bad, after, others, rfl, decoded, undecodable⟩
          · exact .inl ⟨operation :: others, by simp only [decodeFrom, decodeStep, first, decoded]⟩
          · refine .inr ⟨raw :: before, bad, after, operation :: others, rfl, ?_, undecodable⟩
            simp only [decodeFrom, decodeStep, first, decoded]

theorem runSteps_of_decodeFrom {steps : List Json} {operations : List Operation}
    (decoded : decodeFrom 0 steps = .ok operations) (names : Namespace) :
    runSteps steps names = run operations names := by
  have whole := runStepsFrom_append decoded none names []
  rw [List.append_nil] at whole
  unfold runSteps run
  rw [whole]
  cases outcome : (runFrom 0 none names operations).outcome with
  | ok value =>
      rw [PipelineRun.andThen_of_ok outcome]
      exact congrArg (PipelineRun.mk · _) outcome.symm
  | error error => rw [PipelineRun.andThen_of_error outcome]

/-- Running steps that are decoded just before they run is running the operations before
the first step that does not decode, and then failing there. -/
theorem runSteps_refines_run (steps : List Json) (names : Namespace) :
    (∀ operations, decodeFrom 0 steps = .ok operations →
      runSteps steps names = run operations names) ∧
    (∀ before raw after operations, steps = before ++ raw :: after →
      decodeFrom 0 before = .ok operations → Operation.ofJson? raw = none →
      (∀ error, (run operations names).outcome = .error error →
        runSteps steps names = run operations names) ∧
      (∀ value, (run operations names).outcome = .ok value →
        runSteps steps names =
          ⟨.error (.malformedStep before.length), (run operations names).names⟩)) ∧
    ((∃ operations, decodeFrom 0 steps = .ok operations) ∨
      ∃ before raw after operations, steps = before ++ raw :: after ∧
        decodeFrom 0 before = .ok operations ∧ Operation.ofJson? raw = none) ∧
    (∀ field operations, Pipeline.operations field = .ok (some operations) →
      runField field names = run operations names) := by
  refine ⟨fun operations decoded => runSteps_of_decodeFrom decoded names, ?_,
    decodeFrom_cases 0 steps, ?_⟩
  · rintro before raw after operations rfl decoded undecodable
    have divided := runStepsFrom_append decoded none names (raw :: after)
    constructor
    · intro error failed
      exact divided.trans (PipelineRun.andThen_of_error failed _)
    · intro value succeeded
      refine divided.trans ((PipelineRun.andThen_of_ok succeeded _).trans ?_)
      simp only [runStepsFrom, decodeStep, undecodable, Nat.zero_add, run]
  · intro field operations decoded
    unfold Pipeline.operations at decoded
    split at decoded
    · cases decoded
    · cases decoded
    · next steps given =>
        split at decoded
        · cases decoded
        · next others whole =>
            cases decoded
            simp only [runField, given]
            exact runSteps_of_decodeFrom whole names

/-- The first step decodes and has run when the second turns out to be no step. -/
theorem runSteps_of_second_undecodable :
    decodeFrom 0 [.array [.text "sqrt", .array [.float 4.0], .text "x"]] =
      .ok [⟨.known .squareRoot, [.literal (.float 4.0)], some "x"⟩] ∧
    Operation.ofJson? (.text "garbage") = none ∧
    runSteps [.array [.text "sqrt", .array [.float 4.0], .text "x"], .text "garbage"]
        Namespace.empty =
      ⟨.error (.malformedStep 1), Namespace.empty.bind "x" (some (Float.sqrt 4.0))⟩ ∧
    runField (some (.sequence [.sequence [.text "sqrt", .sequence [.float 4.0], .text "x"]]))
        Namespace.empty =
      run [⟨.known .squareRoot, [.literal (.float 4.0)], some "x"⟩] Namespace.empty := by
  have decoded : decodeFrom 0 [.array [.text "sqrt", .array [.float 4.0], .text "x"]] =
      .ok [⟨.known .squareRoot, [.literal (.float 4.0)], some "x"⟩] := rfl
  refine ⟨decoded, rfl, ?_, ?_⟩
  · exact ((runSteps_refines_run _ Namespace.empty).2.1 _ (.text "garbage") [] _ rfl decoded rfl).2
      (some (Float.sqrt 4.0)) rfl
  · exact (runSteps_refines_run [] Namespace.empty).2.2.2 _ _ rfl

end Pipeline

end BackOfEnvelope
