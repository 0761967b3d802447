import BackOfEnvelope.Proofs.PipelineOrder

/-!
# What a pipeline sees of a namespace

A pipeline sees a namespace through the names that it reads, and it cannot tell whether such a
name is absent or bound to zero.  So namespaces that look alike under the names it reads give the
same outcome, and behind the run they bind alike what the completed steps carry.  A name that is
bound to no value looks like no other name.
-/

namespace BackOfEnvelope

namespace Namespace

variable {names others : Namespace} {name : String}

/-- A name is bound alike in two namespaces, or is absent from one and bound to zero in the
other. -/
def LooksAlike (names others : Namespace) (name : String) : Prop :=
  names.binding name = others.binding name ∨
    (names.binding name = none ∧ others.binding name = some (some 0.0)) ∨
    (names.binding name = some (some 0.0) ∧ others.binding name = none)

theorem found_eq_of_looksAlike (alike : LooksAlike names others name) :
    names.found name = others.found name := by
  rcases alike with same | ⟨absent, zero⟩ | ⟨zero, absent⟩
  · exact found_congr same
  · simp only [found, absent, zero, Option.getD_none, Option.getD_some]
  · simp only [found, absent, zero, Option.getD_none, Option.getD_some]

theorem found_eq_none_iff : names.found name = none ↔ names.binding name = some none := by
  cases bound : names.binding name <;> simp [found, bound]

theorem looksAlike_set_zero (absent : names.binding name = none) (other : String) :
    LooksAlike (names.set name 0.0) names other := by
  by_cases same : name = other
  · subst same
    exact .inr (.inr ⟨by simp [set, binding_bind], absent⟩)
  · exact .inl (by simp [set, binding_bind, same])

end Namespace

namespace Pipeline

variable {operations : List Operation} {names others : Namespace} {name : String}

theorem mem_carries_iff :
    name ∈ carries operations ↔ ∃ operation ∈ operations, operation.name = some name :=
  List.mem_filterMap

/-- The names that are read stand among the operands. -/
theorem exists_operand_of_mem_reads (read : name ∈ reads operations) :
    ∃ operation ∈ operations, .variable name ∈ operation.operands := by
  induction operations with
  | nil => cases read
  | cons operation rest ih =>
      rw [reads, List.mem_append, List.mem_filter] at read
      rcases read with here | ⟨later, -⟩
      · obtain ⟨operand, used, standsFor⟩ := List.mem_flatMap.mp here
        have isVariable : operand = .variable name := by
          cases operand with
          | «variable» other =>
              obtain rfl := List.mem_singleton.mp standsFor
              rfl
          | previousResult | literal _ => cases standsFor
        subst isVariable
        exact ⟨operation, List.mem_cons_self, List.mem_of_mem_take used⟩
      · obtain ⟨reading, member, operand⟩ := ih later
        exact ⟨reading, List.mem_cons_of_mem _ member, operand⟩

/-- A pipeline that doubles what it finds under a name. -/
def doubling (name : String) : List Operation :=
  [⟨.known .add, [.variable name, .variable name], none⟩]

theorem outcome_doubling (name : String) (names : Namespace) :
    (run (doubling name) names).outcome =
      match names.found name with
      | some value => .ok (some (value + value))
      | none => .error (.notANumber 0 .add 0 "null") := by
  simp only [run, doubling, runFrom, Operation.result, List.map_cons, List.map_nil,
    Operand.resolve_variable]
  cases names.found name <;> rfl

/-- With two namespaces a pipeline has the same outcome and completes the same steps.  What these
carry is bound alike, and all other names keep what they had. -/
structure RunsAlike (operations : List Operation) (names others : Namespace) : Prop where
  outcome : (run operations names).outcome = (run operations others).outcome
  sameCompleted : completed operations names = completed operations others
  carried : ∀ name ∈ carries (completed operations names),
    (run operations names).names.binding name = (run operations others).names.binding name
  kept : ∀ name, name ∉ carries (completed operations names) →
    (run operations names).names.binding name = names.binding name ∧
      (run operations others).names.binding name = others.binding name

theorem runsAlike_of_looksAlike
    (alike : ∀ name ∈ reads operations, Namespace.LooksAlike names others name) :
    RunsAlike operations names others := by
  obtain ⟨outcome, sameCompleted, bindings⟩ :=
    run_congr fun name read => Namespace.found_eq_of_looksAlike (alike name read)
  refine ⟨outcome, sameCompleted, ?_, ?_⟩
  · intro name carried
    exact bindings name (mem_carries_iff.mp carried)
  · intro name uncarried
    rw [mem_carries_iff] at uncarried
    have uncarriedByOthers := uncarried
    rw [sameCompleted] at uncarriedByOthers
    exact ⟨binding_run_of_not_completed uncarried, binding_run_of_not_completed uncarriedByOthers⟩

/-- A run sees a namespace through those names of its operands that it reads before it binds them.
If these look alike in two namespaces, it runs alike.  So no run tells an absent name from one that
is bound to zero, but one does tell a name that is bound to no value from any other. -/
theorem run_sees_what_it_reads :
    (∀ operations, ∀ name ∈ reads operations,
      ∃ operation ∈ operations, .variable name ∈ operation.operands) ∧
    (∀ (operations : List Operation) (names others : Namespace),
      (∀ name ∈ reads operations, Namespace.LooksAlike names others name) →
        RunsAlike operations names others) ∧
    (∀ (operations : List Operation) (names : Namespace) (name : String),
      names.binding name = none → RunsAlike operations (names.set name 0.0) names) ∧
    ∀ (names others : Namespace) (name : String),
      names.binding name = some none → others.binding name ≠ some none →
        (run (doubling name) names).outcome = .error (.notANumber 0 .add 0 "null") ∧
        ∃ value, (run (doubling name) others).outcome = .ok (some value) := by
  refine ⟨fun operations name => exists_operand_of_mem_reads,
    fun operations names others => runsAlike_of_looksAlike, ?_, ?_⟩
  · intro operations names name absent
    apply runsAlike_of_looksAlike
    intro other _
    exact Namespace.looksAlike_set_zero absent other
  · intro names others name unvalued valued
    rw [outcome_doubling, outcome_doubling, Namespace.found_eq_none_iff.mpr unvalued]
    refine ⟨rfl, ?_⟩
    cases found : others.found name with
    | none => exact absurd (Namespace.found_eq_none_iff.mp found) valued
    | some number => exact ⟨number + number, rfl⟩

/-- The name that is read is absent or zero, and another one that both runs bind was bound
differently before.  The third step fails. -/
theorem run_of_absent_rate :
    let operations : List Operation :=
      [⟨.known .add, [.variable "rate", .literal (.float 5.0)], some "total"⟩,
        ⟨.known .multiply, [.variable "total", .previousResult], some "area"⟩,
        ⟨.known .squareRoot, [], some "lost"⟩]
    let names := Namespace.empty.set "area" 1.0
    let others := (Namespace.empty.set "area" 2.0).set "rate" 0.0
    (∀ name ∈ reads operations, Namespace.LooksAlike names others name) ∧
      (run operations names).outcome = .error (.missingArgument 2 .squareRoot 0) ∧
      (run operations others).outcome = .error (.missingArgument 2 .squareRoot 0) ∧
      (run operations names).names.binding "area" =
        (run operations others).names.binding "area" ∧
      (run operations names).names.binding "rate" = none := by
  intro operations names others
  have alike : ∀ name ∈ reads operations, Namespace.LooksAlike names others name := by
    intro name read
    have isRate : name = "rate" := by simpa using (show name ∈ ["rate"] from read)
    subst isRate
    exact .inr (.inl ⟨rfl, rfl⟩)
  obtain ⟨outcome, -, bindings, kept⟩ := run_sees_what_it_reads.2.1 operations names others alike
  have failed : (run operations names).outcome = .error (.missingArgument 2 .squareRoot 0) := rfl
  refine ⟨alike, failed, outcome.symm.trans failed, bindings "area" ?_, (kept "rate" ?_).1⟩
  · decide +kernel
  · decide +kernel

end Pipeline

end BackOfEnvelope
