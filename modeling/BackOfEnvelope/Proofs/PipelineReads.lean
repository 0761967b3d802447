import BackOfEnvelope.Proofs.PipelineBindings

/-!
# What a pipeline reads

A step reads the names among the operands that its function uses, and a pipeline
the names that a step reads before an earlier step of the pipeline binds them.
Nothing else in the namespace matters to a run, and of those names only what is
found under them, where an absent name counts as zero: with two namespaces that
differ in other names only, it has the same outcome, and what it leaves differs
in those names only.
-/

namespace BackOfEnvelope

namespace Namespace

/-- Two namespaces bind every name alike, except for some. -/
def AgreeExcept (leaked : List String) (names others : Namespace) : Prop :=
  ∀ name, name ∉ leaked → names.binding name = others.binding name

/-- What a step finds under a name: a name that is absent counts as zero. -/
def found (names : Namespace) (name : String) : Option Float :=
  (names.binding name).getD (some 0.0)

theorem found_congr {names others : Namespace} {name : String}
    (same : names.binding name = others.binding name) : names.found name = others.found name := by
  simp only [found, same]

end Namespace

namespace Operand

/-- The name that an operand stands for. -/
def reads : Operand → List String
  | .variable name => [name]
  | .previousResult | .literal _ => []

theorem resolve_variable (previous : Option Float) (names : Namespace) (name : String) :
    (Operand.variable name).resolve previous names =
      match names.found name with
      | some value => .number value
      | none => .nothing := by
  cases bound : names.binding name with
  | none => simp [resolve, Namespace.found, bound]
  | some value => cases value <;> simp [resolve, Namespace.found, bound]

theorem resolve_congr {operand : Operand} {names others : Namespace}
    (alike : ∀ name ∈ operand.reads, names.found name = others.found name)
    (previous : Option Float) :
    operand.resolve previous names = operand.resolve previous others := by
  cases operand with
  | «variable» name => rw [resolve_variable, resolve_variable, alike name List.mem_cons_self]
  | previousResult => rfl
  | literal value => cases value <;> rfl

end Operand

theorem StepFunction.apply_take (step : Nat) (function : StepFunction)
    (operands : List ResolvedOperand) :
    function.apply step (operands.take function.arity) = function.apply step operands := by
  match operands with
  | [] => cases function <;> rfl
  | [first] => cases function <;> rfl
  | first :: second :: others => cases function <;> rfl

namespace Operation

def reads (operation : Operation) : List String :=
  (operation.operands.take operation.action.arity).flatMap Operand.reads

/-- What the operands stand for that the function uses settles the result of a step. -/
theorem result_of_resolved {operation other : Operation} {names others : Namespace}
    {previous : Option Float} (sameAction : other.action = operation.action)
    (resolved : (other.operands.take operation.action.arity).map (Operand.resolve previous others) =
      (operation.operands.take operation.action.arity).map (Operand.resolve previous names))
    (step : Nat) : other.result step previous others = operation.result step previous names := by
  unfold result
  rw [sameAction]
  cases action : operation.action with
  | unknown _ | missing => rfl
  | known function =>
      rw [action] at resolved
      have applied : function.apply step (other.operands.map (Operand.resolve previous others)) =
          function.apply step (operation.operands.map (Operand.resolve previous names)) := by
        rw [← function.apply_take, ← function.apply_take _ (operation.operands.map _),
          ← List.map_take, ← List.map_take]
        exact congrArg (function.apply step) resolved
      simp only [applied]

theorem result_congr {operation : Operation} {names others : Namespace}
    (alike : ∀ name ∈ operation.reads, names.found name = others.found name) (step : Nat)
    (previous : Option Float) :
    operation.result step previous names = operation.result step previous others := by
  refine result_of_resolved rfl ?_ step
  apply List.map_congr_left
  intro operand used
  apply Operand.resolve_congr
  intro name read
  exact alike name (List.mem_flatMap.mpr ⟨operand, used, read⟩)

/-- A name that a step carries is found alike behind it, and any other one if it was so before. -/
theorem found_bindResult_congr {operation : Operation} {names others : Namespace} {name : String}
    (alike : operation.name ≠ some name → names.found name = others.found name)
    (value : Option Float) :
    (operation.bindResult value names).found name =
      (operation.bindResult value others).found name := by
  by_cases carried : operation.name = some name
  · apply Namespace.found_congr
    rw [binding_bindResult_of_eq carried, binding_bindResult_of_eq carried]
  · have before := alike carried
    simp only [Namespace.found, binding_bindResult_of_ne carried] at before ⊢
    exact before

end Operation

namespace Pipeline

/-- The names that operations read before they bind them. -/
def reads : List Operation → List String
  | [] => []
  | operation :: rest =>
      operation.reads ++ (reads rest).filter fun name => operation.name ≠ some name

/-- If a run finds the same under all names that it reads, it has the same outcome, and if it
succeeds, it binds what its steps carry alike. -/
theorem runFrom_congr {operations : List Operation} {names others : Namespace}
    (alike : ∀ name ∈ reads operations, names.found name = others.found name) (step : Nat)
    (previous : Option Float) :
    (runFrom step previous names operations).outcome =
        (runFrom step previous others operations).outcome ∧
      ∀ value, (runFrom step previous names operations).outcome = .ok value →
        ∀ name, (∃ operation ∈ operations, operation.name = some name) →
          (runFrom step previous names operations).names.binding name =
            (runFrom step previous others operations).names.binding name := by
  induction operations generalizing names others step previous with
  | nil =>
      refine ⟨rfl, ?_⟩
      rintro value - name ⟨operation, member, -⟩
      cases member
  | cons operation rest ih =>
      have same : operation.result step previous names = operation.result step previous others := by
        apply Operation.result_congr
        intro name read
        exact alike name (List.mem_append_left _ read)
      cases result : operation.result step previous names with
      | error error =>
          rw [runFrom_cons_of_error result, runFrom_cons_of_error (same.symm.trans result)]
          refine ⟨rfl, ?_⟩
          intro value succeeded
          cases succeeded
      | ok value =>
          rw [runFrom_cons_of_ok result, runFrom_cons_of_ok (same.symm.trans result)]
          -- What this step binds is the same in both from here on, so later steps may read it.
          have remaining : ∀ name ∈ reads rest, (operation.bindResult value names).found name =
              (operation.bindResult value others).found name := by
            intro name read
            apply Operation.found_bindResult_congr
            intro uncarried
            refine alike name (List.mem_append_right _ ?_)
            simpa [uncarried] using read
          obtain ⟨outcome, bindings⟩ := ih remaining (step + 1) value
          refine ⟨outcome, ?_⟩
          rintro last succeeded name ⟨carrying, member, carried⟩
          by_cases later : ∃ operation ∈ rest, operation.name = some name
          · exact bindings last succeeded name later
          · have untouched : ∀ operation ∈ rest, operation.name ≠ some name :=
              fun operation member carried => later ⟨operation, member, carried⟩
            obtain rfl : carrying = operation := by
              rcases List.mem_cons.mp member with same | inRest
              · exact same
              · exact absurd carried (untouched carrying inRest)
            rw [binding_runFrom_of_untouched untouched, binding_runFrom_of_untouched untouched,
              Operation.binding_bindResult_of_eq carried,
              Operation.binding_bindResult_of_eq carried]

theorem mem_reads_of_take {operations : List Operation} {name : String} {count : Nat}
    (read : name ∈ reads (operations.take count)) : name ∈ reads operations := by
  induction operations generalizing count with
  | nil => simpa using read
  | cons operation rest ih =>
      cases count with
      | zero => cases read
      | succ count =>
          rw [List.take_succ_cons, reads, List.mem_append, List.mem_filter] at read
          rw [reads, List.mem_append, List.mem_filter]
          rcases read with here | ⟨later, uncarried⟩
          · exact .inl here
          · exact .inr ⟨ih later, uncarried⟩

theorem mem_reads_of_completed {operations : List Operation} {names : Namespace} {name : String}
    (read : name ∈ reads (completed operations names)) : name ∈ reads operations := by
  unfold completed at read
  split at read
  · exact read
  · exact mem_reads_of_take read

/-- If a run finds the same under all names that it reads, the same steps complete, and what they
carry is bound alike. -/
theorem run_congr {operations : List Operation} {names others : Namespace}
    (alike : ∀ name ∈ reads operations, names.found name = others.found name) :
    (run operations names).outcome = (run operations others).outcome ∧
      completed operations names = completed operations others ∧
      ∀ name, (∃ operation ∈ completed operations names, operation.name = some name) →
        (run operations names).names.binding name = (run operations others).names.binding name := by
  have outcome := (runFrom_congr alike 0 none).1
  have sameCompleted : completed operations names = completed operations others := by
    simp only [completed, run, outcome]
  refine ⟨outcome, sameCompleted, ?_⟩
  intro name carried
  obtain ⟨⟨value, succeeded⟩, left⟩ := run_completed operations names
  obtain ⟨-, othersLeft⟩ := run_completed operations others
  have alikeCompleted : ∀ name ∈ reads (completed operations names),
      names.found name = others.found name :=
    fun name read => alike name (mem_reads_of_completed read)
  rw [left, othersLeft, ← sameCompleted]
  exact (runFrom_congr alikeCompleted 0 none).2 value succeeded name carried

theorem binding_run_of_not_completed {operations : List Operation} {names : Namespace}
    {name : String}
    (untouched : ¬ ∃ operation ∈ completed operations names, operation.name = some name) :
    (run operations names).names.binding name = names.binding name := by
  rw [(run_completed operations names).2]
  apply binding_runFrom_of_untouched
  intro operation member carried
  exact untouched ⟨operation, member, carried⟩

/-- Names that are not read change neither the outcome nor the bindings of other names. -/
theorem run_agreeExcept {operations : List Operation} {leaked : List String}
    {names others : Namespace} (alike : names.AgreeExcept leaked others)
    (unread : ∀ name ∈ reads operations, name ∉ leaked) :
    (run operations names).outcome = (run operations others).outcome ∧
      (run operations names).names.AgreeExcept leaked (run operations others).names := by
  obtain ⟨outcome, sameCompleted, bindings⟩ :=
    run_congr fun name read => Namespace.found_congr (alike name (unread name read))
  refine ⟨outcome, ?_⟩
  intro name outside
  by_cases carried : ∃ operation ∈ completed operations names, operation.name = some name
  · exact bindings name carried
  · have otherwise := carried
    rw [sameCompleted] at otherwise
    rw [binding_run_of_not_completed carried, binding_run_of_not_completed otherwise]
    exact alike name outside

/-- The operations of steps before the first one that does not decode. -/
def decodable : List Json → List Operation
  | [] => []
  | raw :: rest =>
      match Operation.ofJson? raw with
      | some operation => operation :: decodable rest
      | none => []

/-- The operations of a field that can come to run. -/
def runnable (field : Option Yaml) : List Operation :=
  match steps field with
  | .ok (some steps) => decodable steps
  | .ok none | .error _ => []

/-- Behind the operations that can run, a run only settles its outcome, and does so
whatever the namespace. -/
theorem exists_ending_of_runStepsFrom (step : Nat) (steps : List Json) :
    ∃ ending : Option Float → Except PipelineError (Option Float), ∀ previous names,
      runStepsFrom step previous names steps =
        (runFrom step previous names (decodable steps)).andThen fun value left =>
          ⟨ending value, left⟩ := by
  induction steps generalizing step with
  | nil => exact ⟨.ok, fun previous names => rfl⟩
  | cons raw rest ih =>
      cases decoded : Operation.ofJson? raw with
      | none =>
          refine ⟨fun _ => .error (.malformedStep step), fun previous names => ?_⟩
          simp [runStepsFrom, decodeStep, decodable, decoded, runFrom, PipelineRun.andThen]
      | some operation =>
          obtain ⟨ending, ends⟩ := ih (step + 1)
          refine ⟨ending, fun previous names => ?_⟩
          simp only [runStepsFrom, decodeStep, decodable, decoded]
          cases result : operation.result step previous names with
          | error error => rw [runFrom_cons_of_error result, PipelineRun.andThen_of_error rfl]
          | ok value => rw [runFrom_cons_of_ok result, ← ends]

theorem exists_ending_of_runField (field : Option Yaml) :
    ∃ ending : Option Float → Except PipelineError (Option Float), ∀ names,
      runField field names =
        (run (runnable field) names).andThen fun value left => ⟨ending value, left⟩ := by
  cases given : steps field with
  | error error =>
      refine ⟨fun _ => .error error, fun names => ?_⟩
      simp [runField, runnable, given, run, runFrom, PipelineRun.andThen]
  | ok found =>
      cases found with
      | none =>
          refine ⟨.ok, fun names => ?_⟩
          simp [runField, runnable, given, run, runFrom, PipelineRun.andThen]
      | some steps =>
          obtain ⟨ending, ends⟩ := exists_ending_of_runStepsFrom 0 steps
          refine ⟨ending, fun names => ?_⟩
          simp only [runField, runnable, given]
          exact ends none names

theorem names_andThen_ending (run : PipelineRun)
    (ending : Option Float → Except PipelineError (Option Float)) :
    (run.andThen fun value left => ⟨ending value, left⟩).names = run.names := by
  cases outcome : run.outcome with
  | ok value => rw [PipelineRun.andThen_of_ok outcome]
  | error error => rw [PipelineRun.andThen_of_error outcome]

theorem runField_congr {field : Option Yaml} {leaked : List String} {names others : Namespace}
    (alike : names.AgreeExcept leaked others)
    (unread : ∀ name ∈ reads (runnable field), name ∉ leaked) :
    (runField field names).outcome = (runField field others).outcome ∧
      (runField field names).names.AgreeExcept leaked (runField field others).names := by
  obtain ⟨ending, ends⟩ := exists_ending_of_runField field
  obtain ⟨outcome, left⟩ := run_agreeExcept alike unread
  rw [ends, ends, names_andThen_ending, names_andThen_ending]
  refine ⟨?_, left⟩
  simp only [PipelineRun.andThen, outcome]
  split
  · rfl
  · exact outcome

/-- The names that the steps of a field can bind. -/
def binds (field : Option Yaml) : List String :=
  (runnable field).filterMap Operation.name

theorem agreeExcept_runField (field : Option Yaml) (names : Namespace) :
    names.AgreeExcept (binds field) (runField field names).names := by
  obtain ⟨ending, ends⟩ := exists_ending_of_runField field
  intro name unbound
  rw [ends, names_andThen_ending]
  apply Eq.symm
  apply binding_runFrom_of_untouched
  intro operation member carried
  exact unbound (List.mem_filterMap.mpr ⟨operation, member, carried⟩)

end Pipeline

end BackOfEnvelope
