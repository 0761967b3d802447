import BackOfEnvelope.Listing
import BackOfEnvelope.Proofs.PipelineReads

/-!
# Scenarios of one category

Scenarios run with one namespace, and those outside of a selected category do not
run at all.  A scenario that is shown then runs in a namespace without the names
that hidden scenarios before it would have bound.  Its row is the one of the full
listing if and only if its result is the same in both namespaces, which it is if
it reads no such name.
-/

namespace BackOfEnvelope

/-- A property of all places in a list, at its head and behind it. -/
theorem forall_place_cons {α : Type} {head : α} {rest : List α}
    {holds : List α → α → Prop} :
    (∀ before item after, head :: rest = before ++ item :: after → holds before item) ↔
      holds [] head ∧
        ∀ before item after, rest = before ++ item :: after → holds (head :: before) item := by
  constructor
  · intro everywhere
    refine ⟨everywhere [] head rest rfl, ?_⟩
    rintro before item after rfl
    exact everywhere (head :: before) item after rfl
  · rintro ⟨atHead, behind⟩ before item after divided
    cases before with
    | nil =>
        obtain ⟨rfl, rfl⟩ := List.cons.inj divided
        exact atHead
    | cons first before =>
        obtain ⟨rfl, rfl⟩ := List.cons.inj divided
        exact behind before item after rfl

namespace Scenario

variable {category : String} {scenario : Scenario} {names others : Namespace}
variable {leaked : List String}

/-- The namespace that scenarios leave that run one after the other. -/
def namesAfter (names : Namespace) : List Scenario → Namespace
  | [] => names
  | scenario :: rest => namesAfter (scenario.run names).names rest

/-- The names that a scenario reads before it binds them. -/
def reads (scenario : Scenario) : List String :=
  Pipeline.reads (Pipeline.runnable scenario.pipeline?)

/-- The names that a scenario can bind. -/
def binds (scenario : Scenario) : List String :=
  Pipeline.binds scenario.pipeline?

/-- The names that scenarios outside of a category can bind. -/
def hiddenBinds (category : String) (scenarios : List Scenario) : List String :=
  (scenarios.filter fun scenario => !scenario.isIn category).flatMap binds

theorem inCategory_cons_of_shown (shown : scenario.isIn category) (rest : List Scenario) :
    inCategory (scenario :: rest) category = scenario :: inCategory rest category :=
  List.filter_cons_of_pos shown

theorem inCategory_cons_of_hidden (hidden : ¬ scenario.isIn category) (rest : List Scenario) :
    inCategory (scenario :: rest) category = inCategory rest category :=
  List.filter_cons_of_neg hidden

theorem hiddenBinds_cons_of_shown (shown : scenario.isIn category) (rest : List Scenario) :
    hiddenBinds category (scenario :: rest) = hiddenBinds category rest := by
  simp [hiddenBinds, shown]

theorem hiddenBinds_cons_of_hidden (hidden : ¬ scenario.isIn category) (rest : List Scenario) :
    hiddenBinds category (scenario :: rest) = scenario.binds ++ hiddenBinds category rest := by
  simp [hiddenBinds, hidden]

/-- A scenario that is hidden leaves two namespaces alike but in what it binds. -/
theorem agreeExcept_run_of_hidden (alike : names.AgreeExcept leaked others)
    (scenario : Scenario) :
    names.AgreeExcept (leaked ++ scenario.binds) (scenario.run others).names := by
  intro name outside
  rw [List.mem_append, not_or] at outside
  rw [alike name outside.1]
  exact Pipeline.agreeExcept_runField scenario.pipeline? others name outside.2

/-- If scenarios of a category read no name that hidden ones before them bind, then all
scenarios leave what those of the category leave, but for names that hidden ones bind. -/
theorem agreeExcept_namesAfter {scenarios : List Scenario}
    (alike : names.AgreeExcept leaked others)
    (unread : ∀ before scenario after, scenarios = before ++ scenario :: after →
      scenario.isIn category → ∀ name ∈ scenario.reads,
        name ∉ leaked ++ hiddenBinds category before) :
    (namesAfter names (inCategory scenarios category)).AgreeExcept
      (leaked ++ hiddenBinds category scenarios) (namesAfter others scenarios) := by
  induction scenarios generalizing names others leaked with
  | nil =>
      intro name outside
      exact alike name fun member => outside (List.mem_append_left _ member)
  | cons head rest ih =>
      obtain ⟨atHead, behind⟩ := forall_place_cons.mp unread
      by_cases shown : head.isIn category
      · rw [inCategory_cons_of_shown shown, hiddenBinds_cons_of_shown shown]
        have headUnread : ∀ name ∈ head.reads, name ∉ leaked := by
          intro name read member
          exact atHead shown name read (List.mem_append_left _ member)
        obtain ⟨_, left⟩ := Pipeline.runField_congr alike headUnread
        apply ih left
        simpa only [hiddenBinds_cons_of_shown shown] using behind
      · rw [inCategory_cons_of_hidden shown, hiddenBinds_cons_of_hidden shown,
          ← List.append_assoc]
        apply ih (agreeExcept_run_of_hidden alike head)
        simpa only [hiddenBinds_cons_of_hidden shown, ← List.append_assoc] using behind

/-- A scenario that reads no name that hidden ones before it bind has the same outcome
whether they run or not, if those of the category before it do so. -/
theorem value_run_of_unread {before : List Scenario}
    (earlier : ∀ first scenario after, before = first ++ scenario :: after →
      scenario.isIn category → ∀ name ∈ scenario.reads, name ∉ hiddenBinds category first)
    (unread : ∀ name ∈ scenario.reads, name ∉ hiddenBinds category before) (names : Namespace) :
    (scenario.run (namesAfter names (inCategory before category))).value =
      (scenario.run (namesAfter names before)).value := by
  have start : names.AgreeExcept [] names := fun name _ => rfl
  obtain ⟨outcome, _⟩ := Pipeline.runField_congr (agreeExcept_namesAfter start earlier) unread
  simp only [PipelineRun.value, run, outcome]

end Scenario

namespace Listing

variable {set : VariableSet} {precision : Nat} {category : String}

open Scenario (everyCategory inCategory namesAfter)

/-- Whether a row belongs to a selected category. -/
def ScenarioResult.isIn (category : String) (row : ScenarioResult) : Bool :=
  category = everyCategory || row.category = category

theorem scenarioResult_eq_iff {scenario : Scenario} {run other : PipelineRun} :
    scenarioResult set precision scenario run = scenarioResult set precision scenario other ↔
      run.value = other.value := by
  constructor
  · intro same
    exact congrArg ScenarioResult.result same
  · intro same
    simp only [scenarioResult, same]

/-- The rows of scenarios that run one after the other. -/
def rows (set : VariableSet) (precision : Nat) (names : Namespace) (scenarios : List Scenario) :
    List ScenarioResult :=
  (Scenario.runAll names scenarios).map fun (scenario, run) =>
    scenarioResult set precision scenario run

theorem rows_cons (names : Namespace) (scenario : Scenario) (rest : List Scenario) :
    rows set precision names (scenario :: rest) =
      scenarioResult set precision scenario (scenario.run names) ::
        rows set precision (scenario.run names).names rest :=
  rfl

/-- The rows of a category are those of the full listing just if every shown scenario
has the same result behind the shown ones as behind all of them. -/
theorem rows_inCategory_eq_filter_iff (set : VariableSet) (precision : Nat)
    (names others : Namespace) (scenarios : List Scenario) (category : String) :
    rows set precision names (inCategory scenarios category) =
        (rows set precision others scenarios).filter (ScenarioResult.isIn category) ↔
      ∀ before scenario after, scenarios = before ++ scenario :: after →
        scenario.isIn category →
        (scenario.run (namesAfter names (inCategory before category))).value =
          (scenario.run (namesAfter others before)).value := by
  induction scenarios generalizing names others with
  | nil => simp [rows, inCategory, Scenario.runAll]
  | cons head rest ih =>
      rw [forall_place_cons, rows_cons]
      by_cases shown : head.isIn category
      · have rowShown : (scenarioResult set precision head (head.run others)).isIn category := shown
        rw [Scenario.inCategory_cons_of_shown shown, rows_cons, List.filter_cons_of_pos rowShown,
          List.cons.injEq, scenarioResult_eq_iff, ih]
        simp only [Scenario.inCategory_cons_of_shown shown, shown, forall_const]
        rfl
      · have rowHidden :
            ¬ (scenarioResult set precision head (head.run others)).isIn category := shown
        rw [Scenario.inCategory_cons_of_hidden shown, List.filter_cons_of_neg rowHidden, ih]
        simp only [Scenario.inCategory_cons_of_hidden shown, shown, Bool.false_eq_true,
          false_implies, true_and]
        rfl

/-- A listing of a category shows the rows that the full listing has for the category just
if every scenario of the category has the same result behind the earlier ones of the
category as behind all earlier ones.  That is so if none of them reads a name that an
earlier scenario outside of the category binds. -/
theorem scenarioResults_eq_filter_iff (set : VariableSet) (scenarios : List Scenario)
    (settings : List (String × Float)) (category : String) (precision : Nat) :
    (scenarioResults set scenarios settings category precision =
        (scenarioResults set scenarios settings everyCategory precision).filter
          (ScenarioResult.isIn category) ↔
      ∀ before scenario after, scenarios = before ++ scenario :: after →
        scenario.isIn category →
        (scenario.run (namesAfter (set.toNamespace.setAll settings)
            (inCategory before category))).value =
          (scenario.run (namesAfter (set.toNamespace.setAll settings) before)).value) ∧
    ((∀ before scenario after, scenarios = before ++ scenario :: after →
        scenario.isIn category → ∀ name ∈ scenario.reads,
          name ∉ Scenario.hiddenBinds category before) →
      scenarioResults set scenarios settings category precision =
        (scenarioResults set scenarios settings everyCategory precision).filter
          (ScenarioResult.isIn category)) := by
  have condition := rows_inCategory_eq_filter_iff set precision (set.toNamespace.setAll settings)
    (set.toNamespace.setAll settings) scenarios category
  have every : inCategory scenarios everyCategory = scenarios := by
    simp [inCategory, Scenario.isIn]
  have full : scenarioResults set scenarios settings everyCategory precision =
      rows set precision (set.toNamespace.setAll settings) scenarios := by
    rw [← congrArg (rows set precision _) every]
    rfl
  rw [full]
  refine ⟨condition, fun unread => condition.mpr ?_⟩
  rintro before scenario after rfl shown
  apply Scenario.value_run_of_unread _ (unread before scenario after rfl shown)
  rintro first earlier later rfl earlierShown
  exact unread first earlier (later ++ scenario :: after) (by simp) earlierShown

/-- The scenario of a category that has steps and nothing else. -/
def scenarioOfSteps (category : String) (steps : List Yaml) : Scenario where
  fields := [("operations", .sequence steps)]
  body := ""
  category := category
  path := ""
  filename := ""

/-- A hidden scenario binds a name, but the shown one reads none. -/
theorem scenarioResults_of_unread_name :
    let hidden := scenarioOfSteps "a"
      [.sequence [.text "add", .sequence [.integer 2, .integer 3], .text "shared"]]
    let shown := scenarioOfSteps "b"
      [.sequence [.text "multiply", .sequence [.integer 5, .integer 10]]]
    Scenario.hiddenBinds "b" [hidden] = ["shared"] ∧ shown.reads = [] ∧
      scenarioResults OrderedDictionary.empty [hidden, shown] [] "b" 2 =
        (scenarioResults OrderedDictionary.empty [hidden, shown] [] everyCategory 2).filter
          (ScenarioResult.isIn "b") := by
  intro hidden shown
  have nothingRead : shown.reads = [] := rfl
  refine ⟨rfl, nothingRead, (scenarioResults_eq_filter_iff _ _ _ _ _).2 ?_⟩
  simp [forall_place_cons, nothingRead, hidden, scenarioOfSteps, Scenario.isIn, everyCategory]

/-- A hidden scenario binds a name that the shown one reads.  With the hidden one hidden,
the name counts as zero. -/
theorem scenarioResults_ne_filter_of_read_name :
    let hidden := scenarioOfSteps "a"
      [.sequence [.text "add", .sequence [.integer 2, .integer 3], .text "shared"]]
    let shown := scenarioOfSteps "b"
      [.sequence [.text "multiply", .sequence [.text "\x7bshared\x7d", .integer 10]]]
    let filtered := scenarioResults OrderedDictionary.empty [hidden, shown] [] "b" 2
    let unfiltered := scenarioResults OrderedDictionary.empty [hidden, shown] [] everyCategory 2
    filtered.map ScenarioResult.result = [some 0.0] ∧
      (unfiltered.filter (ScenarioResult.isIn "b")).map ScenarioResult.result = [some 50.0] ∧
      filtered ≠ unfiltered.filter (ScenarioResult.isIn "b") := by
  intro hidden shown filtered unfiltered
  have results : filtered.map ScenarioResult.result = [some 0.0] := by decide
  have fullResults :
      (unfiltered.filter (ScenarioResult.isIn "b")).map ScenarioResult.result = [some 50.0] := by
    decide
  refine ⟨results, fullResults, fun same => ?_⟩
  rw [same, fullResults] at results
  exact absurd results (by decide)

end Listing

end BackOfEnvelope
