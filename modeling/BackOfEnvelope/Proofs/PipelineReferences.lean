import BackOfEnvelope.Proofs.PipelineReads

/-!
# References to earlier steps

A step can use the result of the step before as such, or refer to it by name.  If
every step has a name, be it one that nothing else reads, each use of the result of the
step before can be written as a reference to its name.  The pipeline then has the same
outcome, and the names that steps had before are bound as before.
-/

namespace BackOfEnvelope

namespace Operand

/-- Refer by name to the step before. -/
def referTo (name : String) : Operand → Operand
  | .previousResult => .variable name
  | .variable other => .variable other
  | .literal value => .literal value

variable {operand : Operand} {previous : Option Float} {leaked : List String}
variable {names others : Namespace} {name : String}

/-- A name that holds the result of the step before stands for it. -/
theorem resolve_referTo (alike : names.AgreeExcept leaked others)
    (unread : ∀ read ∈ operand.reads, read ∉ leaked)
    (holds : others.binding name = some previous) :
    (operand.referTo name).resolve previous others = operand.resolve previous names := by
  cases operand with
  | previousResult => cases previous <;> simp only [referTo, resolve, holds]
  | «variable» other =>
      have same := alike other (unread other List.mem_cons_self)
      simp only [referTo, resolve, same]
  | literal value => cases value <;> rfl

end Operand

namespace Operation

/-- The name of a step, or else a new one. -/
def nameOr (fresh : String) (operation : Operation) : String :=
  operation.name.getD fresh

/-- A step that refers by name to the step before, if there is one, and has a name itself. -/
def refer (before : Option String) (fresh : String) (operation : Operation) : Operation where
  action := operation.action
  operands :=
    match before with
    | some name => operation.operands.map (Operand.referTo name)
    | none => operation.operands
  name := some (operation.nameOr fresh)

variable {operation : Operation} {previous : Option Float} {leaked : List String}
variable {names others : Namespace} {before : Option String} {fresh : String}

theorem result_refer (fresh : String) (alike : names.AgreeExcept leaked others)
    (unread : ∀ read ∈ operation.reads, read ∉ leaked)
    (holds : ∀ name, before = some name → others.binding name = some previous) (step : Nat) :
    (operation.refer before fresh).result step previous others =
      operation.result step previous names := by
  have usedUnread : ∀ operand ∈ operation.operands.take operation.action.arity,
      ∀ read ∈ operand.reads, read ∉ leaked := by
    intro operand used read reads
    exact unread read (List.mem_flatMap.mpr ⟨operand, used, reads⟩)
  have sameAction : (operation.refer before fresh).action = operation.action := rfl
  refine result_of_resolved sameAction ?_ step
  cases before with
  | none =>
      apply List.map_congr_left
      intro operand used
      apply Operand.resolve_congr
      intro read reads
      exact Namespace.found_congr (alike read (usedUnread operand used read reads)).symm
  | some name =>
      simp only [refer, ← List.map_take, List.map_map]
      apply List.map_congr_left
      intro operand used
      exact Operand.resolve_referTo alike (usedUnread operand used) (holds name rfl)

/-- A new name may be bound, and no other binding differs. -/
theorem agreeExcept_bindResult_refer (alike : names.AgreeExcept leaked others)
    (given : operation.name = none → fresh ∈ leaked) (value : Option Float) :
    (operation.bindResult value names).AgreeExcept leaked
      ((operation.refer before fresh).bindResult value others) := by
  intro name outside
  cases carried : operation.name with
  | none =>
      have different : fresh ≠ name := fun same => outside (same ▸ given carried)
      simp only [bindResult, refer, nameOr, carried, Option.getD_none, Namespace.binding_bind,
        different, if_false]
      exact alike name outside
  | some bound =>
      simp only [bindResult, refer, nameOr, carried, Option.getD_some, Namespace.binding_bind]
      split
      · rfl
      · exact alike name outside

end Operation

namespace Pipeline

/-- Steps behind `step` others, each with a name and referring by name to the one before. -/
def referFrom (fresh : Nat → String) (step : Nat) (before : Option String) :
    List Operation → List Operation
  | [] => []
  | operation :: rest =>
      operation.refer before (fresh step) ::
        referFrom fresh (step + 1) (some (operation.nameOr (fresh step))) rest

/-- The pipeline in which steps without a name get new ones, which depend on the step, and
each step but the first refers by name to the one before. -/
def refer (fresh : Nat → String) (operations : List Operation) : List Operation :=
  referFrom fresh 0 none operations

/-- The new names of steps behind `step` others. -/
def givenFrom (fresh : Nat → String) (step : Nat) : List Operation → List String
  | [] => []
  | operation :: rest =>
      (if operation.name = none then [fresh step] else []) ++ givenFrom fresh (step + 1) rest

/-- The new names that steps without a name get. -/
def given (fresh : Nat → String) (operations : List Operation) : List String :=
  givenFrom fresh 0 operations

variable {fresh : Nat → String} {operations : List Operation} {leaked : List String}
variable {names others : Namespace} {step : Nat} {before : Option String}
variable {previous : Option Float}

theorem runFrom_referFrom (alike : names.AgreeExcept leaked others)
    (holds : ∀ name, before = some name → others.binding name = some previous)
    (leaks : ∀ name ∈ givenFrom fresh step operations, name ∈ leaked)
    (unread : ∀ operation ∈ operations, ∀ name ∈ operation.reads, name ∉ leaked) :
    (runFrom step previous others (referFrom fresh step before operations)).outcome =
        (runFrom step previous names operations).outcome ∧
      (runFrom step previous names operations).names.AgreeExcept leaked
        (runFrom step previous others (referFrom fresh step before operations)).names := by
  induction operations generalizing names others step before previous with
  | nil => exact ⟨rfl, alike⟩
  | cons operation rest ih =>
      have same : (operation.refer before (fresh step)).result step previous others =
          operation.result step previous names :=
        Operation.result_refer _ alike (unread operation List.mem_cons_self) holds step
      rw [referFrom]
      cases result : operation.result step previous names with
      | error error =>
          rw [runFrom_cons_of_error result, runFrom_cons_of_error (same.trans result)]
          exact ⟨rfl, alike⟩
      | ok value =>
          rw [runFrom_cons_of_ok result, runFrom_cons_of_ok (same.trans result)]
          apply ih
          · apply Operation.agreeExcept_bindResult_refer alike
            intro unnamed
            exact leaks _ (List.mem_append_left _ (by simp [unnamed]))
          · -- The next step refers to this one by the name that it has just bound.
            intro name bound
            exact Operation.binding_bindResult_of_eq bound value others
          · intro name later
            exact leaks name (List.mem_append_right _ later)
          · intro later member
            exact unread later (List.mem_cons_of_mem _ member)

/-- References by name do what uses of the result of the step before do, if no step reads a
new name: the outcome is the same, and so are the bindings of all names that are not new.
The new names need not differ from each other, nor be absent from the namespace. -/
theorem outcome_and_binding_of_refer (fresh : Nat → String) (operations : List Operation)
    (names : Namespace)
    (unread : ∀ operation ∈ operations, ∀ name ∈ operation.reads,
      name ∉ given fresh operations) :
    (run (refer fresh operations) names).outcome = (run operations names).outcome ∧
      ∀ name, name ∉ given fresh operations →
        (run (refer fresh operations) names).names.binding name =
          (run operations names).names.binding name := by
  have start : names.AgreeExcept (given fresh operations) names := fun name _ => rfl
  have noneBefore : ∀ name, none = some name → names.binding name = some none := by
    intro name impossible
    cases impossible
  obtain ⟨outcome, left⟩ :=
    runFrom_referFrom start noneBefore (fun name member => member) unread
  exact ⟨outcome, fun name old => (left name old).symm⟩

/-- A sum without a name is used by the step behind it, which also reads another name. -/
theorem outcome_and_binding_of_unnamed_sum :
    let operations : List Operation :=
      [⟨.known .add, [.literal (.float 2.0), .literal (.float 3.0)], none⟩,
        ⟨.known .multiply, [.previousResult, .variable "rate"], some "total"⟩]
    let fresh : Nat → String := fun _ => "sum"
    let names := Namespace.empty.set "rate" 10.0
    refer fresh operations =
        [⟨.known .add, [.literal (.float 2.0), .literal (.float 3.0)], some "sum"⟩,
          ⟨.known .multiply, [.variable "sum", .variable "rate"], some "total"⟩] ∧
      (∀ operation ∈ operations, ∀ name ∈ operation.reads, name ∉ given fresh operations) ∧
      (run (refer fresh operations) names).outcome = .ok (some ((2.0 + 3.0) * 10.0)) ∧
      (run (refer fresh operations) names).names.binding "total" =
        some (some ((2.0 + 3.0) * 10.0)) := by
  intro operations fresh names
  have unread : ∀ operation ∈ operations, ∀ name ∈ operation.reads,
      name ∉ given fresh operations := by decide
  obtain ⟨outcome, bindings⟩ := outcome_and_binding_of_refer fresh operations names unread
  refine ⟨rfl, unread, outcome.trans rfl, ?_⟩
  exact (bindings "total" (by decide)).trans rfl

end Pipeline

end BackOfEnvelope
