import BackOfEnvelope.Proofs.PipelineReads

/-!
# Independent pipelines

Pipelines that share a namespace depend on their order only through names that one
of them binds and another one reads or binds.  Where there is no such name, each
pipeline has the outcome that it has alone, a failing one included, and what it has
bound until it fails is all that it leaves.
-/

namespace BackOfEnvelope

namespace Pipeline

variable {first second operations : List Operation} {pipelines before after : List (List Operation)}
variable {names : Namespace} {name : String}

/-- The names that the steps of a pipeline carry. -/
def carries (operations : List Operation) : List String :=
  operations.filterMap Operation.name

/-- No name that one pipeline can bind is read or bound by the other. -/
structure Independent (first second : List Operation) : Prop where
  firstUnread : ∀ name ∈ carries first, name ∉ reads second
  secondUnread : ∀ name ∈ carries second, name ∉ reads first
  boundOnce : ∀ name ∈ carries first, name ∉ carries second

theorem Independent.symm (independent : Independent first second) :
    Independent second first where
  firstUnread := independent.secondUnread
  secondUnread := independent.firstUnread
  boundOnce := fun name bySecond byFirst => independent.boundOnce name byFirst bySecond

/-- The namespace that pipelines leave that run one after the other. -/
def namesAfter (names : Namespace) : List (List Operation) → Namespace
  | [] => names
  | operations :: rest => namesAfter (run operations names).names rest

theorem namesAfter_append (names : Namespace) (before after : List (List Operation)) :
    namesAfter names (before ++ after) = namesAfter (namesAfter names before) after := by
  induction before generalizing names with
  | nil => rfl
  | cons operations rest ih => exact ih (run operations names).names

theorem binding_run_of_not_carried (uncarried : name ∉ carries operations) (names : Namespace) :
    (run operations names).names.binding name = names.binding name := by
  apply binding_runFrom_of_untouched
  intro operation member carried
  exact uncarried (List.mem_filterMap.mpr ⟨operation, member, carried⟩)

theorem binding_namesAfter_of_not_carried
    (uncarried : ∀ operations ∈ pipelines, name ∉ carries operations) (names : Namespace) :
    (namesAfter names pipelines).binding name = names.binding name := by
  induction pipelines generalizing names with
  | nil => rfl
  | cons operations rest ih =>
      have byHead : name ∉ carries operations := uncarried operations List.mem_cons_self
      have byRest : ∀ later ∈ rest, name ∉ carries later := by
        intro later member
        exact uncarried later (List.mem_cons_of_mem _ member)
      calc (namesAfter (run operations names).names rest).binding name
          = (run operations names).names.binding name := ih byRest _
        _ = names.binding name := binding_run_of_not_carried byHead names

/-- Behind pipelines that it is independent of, a pipeline runs as it does alone. -/
theorem run_behind_independent (independent : ∀ earlier ∈ before, Independent earlier operations)
    (names : Namespace) :
    (run operations (namesAfter names before)).outcome = (run operations names).outcome ∧
      (run operations (namesAfter names before)).names.AgreeExcept (before.flatMap carries)
        (run operations names).names := by
  have alike : (namesAfter names before).AgreeExcept (before.flatMap carries) names := by
    intro name outside
    apply binding_namesAfter_of_not_carried
    intro earlier member carried
    exact outside (List.mem_flatMap.mpr ⟨earlier, member, carried⟩)
  have unread : ∀ name ∈ reads operations, name ∉ before.flatMap carries := by
    intro name read leaked
    obtain ⟨earlier, member, carried⟩ := List.mem_flatMap.mp leaked
    exact (independent earlier member).firstUnread name carried read
  exact run_agreeExcept alike unread

/-- Among independent pipelines, the one that carries a name binds it as it does alone. -/
theorem binding_namesAfter_of_carried
    (independent : (before ++ operations :: after).Pairwise Independent)
    (carried : name ∈ carries operations) (names : Namespace) :
    (namesAfter names (before ++ operations :: after)).binding name =
      (run operations names).names.binding name := by
  rw [List.pairwise_append, List.pairwise_cons] at independent
  obtain ⟨-, ⟨ofLater, -⟩, ofEarlier⟩ := independent
  have notLater : ∀ later ∈ after, name ∉ carries later := by
    intro later member
    exact (ofLater later member).boundOnce name carried
  have notEarlier : name ∉ before.flatMap carries := by
    intro leaked
    obtain ⟨earlier, member, byEarlier⟩ := List.mem_flatMap.mp leaked
    exact (ofEarlier earlier member operations List.mem_cons_self).boundOnce name byEarlier carried
  have alone := run_behind_independent
    (fun earlier member => ofEarlier earlier member operations List.mem_cons_self) names
  rw [namesAfter_append]
  calc (namesAfter (run operations (namesAfter names before)).names after).binding name
      = (run operations (namesAfter names before)).names.binding name :=
        binding_namesAfter_of_not_carried notLater _
    _ = (run operations names).names.binding name := alone.2 name notEarlier

/-- Independent pipelines may run in any order: each has the same outcome at whatever place
it stands, and in the end every name is bound alike. -/
theorem outcome_and_binding_of_perm {pipelines permuted : List (List Operation)}
    (independent : pipelines.Pairwise Independent) (permutation : permuted.Perm pipelines)
    (names : Namespace) :
    (∀ before operations after earlier later,
      pipelines = before ++ operations :: after → permuted = earlier ++ operations :: later →
        (run operations (namesAfter names earlier)).outcome =
          (run operations (namesAfter names before)).outcome) ∧
    ∀ name,
      (namesAfter names permuted).binding name = (namesAfter names pipelines).binding name := by
  have stillIndependent : permuted.Pairwise Independent :=
    (permutation.pairwise_iff Independent.symm).mpr independent
  constructor
  · rintro before operations after earlier later rfl rfl
    have behind : ∀ other ∈ before, Independent other operations := by
      intro other member
      exact (List.pairwise_append.mp independent).2.2 other member operations List.mem_cons_self
    have behindPermuted : ∀ other ∈ earlier, Independent other operations := by
      intro other member
      exact (List.pairwise_append.mp stillIndependent).2.2 other member operations
        List.mem_cons_self
    have outcome := (run_behind_independent behind names).1
    have outcomePermuted := (run_behind_independent behindPermuted names).1
    exact outcomePermuted.trans outcome.symm
  · intro name
    by_cases carried : ∃ operations ∈ pipelines, name ∈ carries operations
    · -- The pipeline that carries the name stands somewhere in either list.
      obtain ⟨operations, member, carries⟩ := carried
      obtain ⟨before, after, rfl⟩ := List.append_of_mem member
      obtain ⟨earlier, later, rfl⟩ := List.append_of_mem (permutation.mem_iff.mpr member)
      rw [binding_namesAfter_of_carried independent carries,
        binding_namesAfter_of_carried stillIndependent carries]
    · have uncarried : ∀ operations ∈ pipelines, name ∉ carries operations := by
        intro operations member carries
        exact carried ⟨operations, member, carries⟩
      have uncarriedPermuted : ∀ operations ∈ permuted, name ∉ carries operations := by
        intro operations member
        exact uncarried operations (permutation.mem_iff.mp member)
      rw [binding_namesAfter_of_not_carried uncarried,
        binding_namesAfter_of_not_carried uncarriedPermuted]

/-- A pipeline that fails behind a step that it completed, and one that reads another name. -/
theorem outcome_and_binding_of_failing_pipeline :
    let failing : List Operation :=
      [⟨.known .squareRoot, [.literal (.float 4.0)], some "root"⟩,
        ⟨.known .squareRoot, [], some "lost"⟩]
    let adding : List Operation :=
      [⟨.known .add, [.variable "start", .literal (.integer 1)], some "total"⟩]
    let names := Namespace.empty.set "start" 2.0
    [failing, adding].Pairwise Independent ∧ [adding, failing].Perm [failing, adding] ∧
      (run failing (namesAfter names [adding])).outcome =
        .error (.missingArgument 1 .squareRoot 0) ∧
      (namesAfter names [adding, failing]).binding "root" = some (some (Float.sqrt 4.0)) := by
  intro failing adding names
  have independent : [failing, adding].Pairwise Independent :=
    List.pairwise_pair.mpr ⟨by decide, by decide, by decide⟩
  have permutation : [adding, failing].Perm [failing, adding] := .swap failing adding []
  obtain ⟨outcomes, bindings⟩ := outcome_and_binding_of_perm independent permutation names
  refine ⟨independent, permutation, ?_, ?_⟩
  · rw [outcomes [] failing [adding] [adding] [] rfl rfl]
    rfl
  · rw [bindings "root"]
    rfl

end Pipeline

end BackOfEnvelope
