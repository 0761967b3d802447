import BackOfEnvelope.CalculationValidation
import BackOfEnvelope.Proofs.DictionaryHistory
import BackOfEnvelope.Proofs.ExpressionParts
import BackOfEnvelope.Proofs.ExpressionPlaces
import Mathlib.Data.List.Forall2

/-!
# The report on calculations

A calculation is computed if it has a title, an explanation and a list of inputs, if
each of these has a number, and if the explanation has a value where just these are
bound.  The report has one part for each calculation, in order: the value of one that
is computed, and problems of any other.
-/

namespace BackOfEnvelope

namespace CalculationValidation

variable {inputs : List InputEntry} {entry : InputEntry} {name title : String}
variable {value : Yaml} {number : Float} {listed : List String} {names others : Namespace}
variable {values : InputValues}

/-- An input names a variable and has a value for it. -/
def Complete (entry : InputEntry) : Prop :=
  entry.variableName?.isSome ∧ (entry.fields.get? "value").isSome

/-- No input of a name has a value. -/
def Silent (inputs : List InputEntry) (name : String) : Prop :=
  ∀ entry ∈ inputs, entry.variableName? = some name → entry.fields.get? "value" = none

/-- The last input with a name and a value gives the value of the name. -/
def Gives (inputs : List InputEntry) (name : String) (value : Yaml) : Prop :=
  ∃ before entry after, inputs = before ++ entry :: after ∧
    entry.variableName? = some name ∧ entry.fields.get? "value" = some value ∧
    Silent after name

theorem inputValue?_eq_some_iff :
    inputValue? entry = some (name, value) ↔
      entry.variableName? = some name ∧ entry.fields.get? "value" = some value := by
  simp only [inputValue?, Option.bind_eq_bind, Option.bind_eq_some_iff, Option.pure_def,
    Option.some.injEq, Prod.mk.injEq]
  constructor
  · rintro ⟨_, named, _, valued, rfl, rfl⟩
    exact ⟨named, valued⟩
  · rintro ⟨named, valued⟩
    exact ⟨name, named, value, valued, rfl, rfl⟩

theorem silent_iff :
    Silent inputs name ↔
      ∀ entry ∈ inputs, ∀ value, inputValue? entry ≠ some (name, value) := by
  constructor
  · intro silent entry member value given
    obtain ⟨named, valued⟩ := inputValue?_eq_some_iff.mp given
    rw [silent entry member named] at valued
    cases valued
  · intro never entry member named
    apply Option.eq_none_iff_forall_ne_some.mpr
    intro value valued
    exact never entry member value (inputValue?_eq_some_iff.mpr ⟨named, valued⟩)

theorem find?_inputValues_iff :
    (inputValues inputs).find? name = some value ↔ Gives inputs name value := by
  unfold inputValues Gives
  rw [OrderedDictionary.find?_ofList_filterMap_iff]
  simp only [silent_iff, inputValue?_eq_some_iff, and_assoc]

/-- The number that an input is listed for: that of the value it is given, unless this is
missing, null or no number. -/
def HasNumber (inputs : List InputEntry) (name : String) (number : Float) : Prop :=
  ∃ value, Gives inputs name value ∧ value ≠ .null ∧ NumericValue.ofYaml value = .ok number

theorem inputNumber_eq_ok_iff :
    inputNumber (inputValues inputs) title name = .ok number ↔ HasNumber inputs name number := by
  unfold HasNumber
  simp only [← find?_inputValues_iff]
  unfold inputNumber
  split
  · next absent => simp [absent]
  · next null => simp [null]
  · next value noNull found =>
      rw [found]
      constructor
      · intro read
        split at read
        · next held isNumber =>
            cases read
            exact ⟨value, rfl, noNull, isNumber⟩
        · cases read
      · rintro ⟨_, same, -, isNumber⟩
        cases same
        simp only [isNumber]

/-- The inputs that are listed are bound to their numbers, and nothing else is bound. -/
structure HoldsListed (inputs : List InputEntry) (listed : List String) (names : Namespace) :
    Prop where
  bound : ∀ name ∈ listed, ∃ number, HasNumber inputs name number ∧
    names.binding name = some (some number)
  unbound : ∀ name, name ∉ listed → names.binding name = none

theorem HasNumber.unique {first second : Float} (one : HasNumber inputs name first)
    (other : HasNumber inputs name second) : first = second := by
  have found : inputNumber (inputValues inputs) "" name = .ok first :=
    inputNumber_eq_ok_iff.mpr one
  rw [inputNumber_eq_ok_iff.mpr other] at found
  exact (Except.ok.inj found).symm

theorem HoldsListed.alike (one : HoldsListed inputs listed names)
    (other : HoldsListed inputs listed others) (name : String) :
    names.binding name = others.binding name := by
  by_cases member : name ∈ listed
  · obtain ⟨first, hasFirst, boundFirst⟩ := one.bound name member
    obtain ⟨second, hasSecond, boundSecond⟩ := other.bound name member
    rw [boundFirst, boundSecond, hasFirst.unique hasSecond]
  · rw [one.unbound name member, other.unbound name member]

theorem binding_bindInputs_of_not_mem (unlisted : name ∉ listed) (names : Namespace)
    (problems : List ValidationProblem) :
    (bindInputs values title listed (names, problems)).1.binding name = names.binding name := by
  induction listed generalizing names problems with
  | nil => rfl
  | cons head rest ih =>
      rw [List.mem_cons, not_or] at unlisted
      simp only [bindInputs]
      split
      · rw [ih unlisted.2, Namespace.set, Namespace.binding_bind, if_neg (Ne.symm unlisted.1)]
      · exact ih unlisted.2 _ _

/-- A listed input is bound to its number, however often it is listed. -/
theorem binding_bindInputs_of_mem (member : name ∈ listed)
    (isNumber : inputNumber values title name = .ok number) (names : Namespace)
    (problems : List ValidationProblem) :
    (bindInputs values title listed (names, problems)).1.binding name = some (some number) := by
  induction listed generalizing names problems with
  | nil => cases member
  | cons head rest ih =>
      simp only [bindInputs]
      by_cases again : name ∈ rest
      · split
        · exact ih again _ _
        · exact ih again _ _
      · obtain rfl : name = head := (List.mem_cons.mp member).resolve_right again
        rw [isNumber]
        dsimp only
        rw [binding_bindInputs_of_not_mem again, Namespace.set, Namespace.binding_bind, if_pos rfl]

/-- Listed inputs make no problem just if all of them have numbers. -/
theorem problems_bindInputs_eq_nil_iff (names : Namespace) (problems : List ValidationProblem) :
    (bindInputs values title listed (names, problems)).2 = [] ↔
      problems = [] ∧ ∀ name ∈ listed, ∃ number, inputNumber values title name = .ok number := by
  induction listed generalizing names problems with
  | nil => simp [bindInputs]
  | cons head rest ih =>
      simp only [bindInputs, List.forall_mem_cons]
      cases isNumber : inputNumber values title head with
      | ok number => simp [ih]
      | error problem => simp [ih]

theorem holdsListed_bindInputs {bound : Namespace}
    (complete : bindInputs (inputValues inputs) title listed (Namespace.empty, []) = (bound, [])) :
    HoldsListed inputs listed bound := by
  have numbers :=
    (problems_bindInputs_eq_nil_iff Namespace.empty []).mp (congrArg Prod.snd complete)
  have isBound : (bindInputs (inputValues inputs) title listed (Namespace.empty, [])).1 = bound :=
    congrArg Prod.fst complete
  constructor
  · intro name member
    obtain ⟨number, isNumber⟩ := numbers.2 name member
    refine ⟨number, inputNumber_eq_ok_iff.mp isNumber, ?_⟩
    rw [← isBound]
    exact binding_bindInputs_of_mem member isNumber _ _
  · intro name unlisted
    rw [← isBound, binding_bindInputs_of_not_mem unlisted]
    exact Namespace.binding_empty name

/-- If the listed inputs can be bound, then binding them makes no problem. -/
theorem exists_bindInputs_of_holdsListed (holds : HoldsListed inputs listed names)
    (title : String) :
    ∃ bound,
      bindInputs (inputValues inputs) title listed (Namespace.empty, []) = (bound, []) := by
  have noProblems :
      (bindInputs (inputValues inputs) title listed (Namespace.empty, [])).2 = [] := by
    rw [problems_bindInputs_eq_nil_iff]
    refine ⟨rfl, ?_⟩
    intro name member
    obtain ⟨number, hasNumber, -⟩ := holds.bound name member
    exact ⟨number, inputNumber_eq_ok_iff.mpr hasNumber⟩
  exact ⟨_, Prod.ext rfl noProblems⟩

/-- A calculation has a title, an explanation and a list of inputs, and its explanation has
the value of the result where just these inputs are bound. -/
def Computes (inputs : List InputEntry) (entry : CalculationEntry)
    (result : EvaluatedCalculation) : Prop :=
  ∃ explanation listed names, entry.title? = some result.title ∧
    entry.explanation? = some explanation ∧ entry.inputNames? = some listed ∧
    HoldsListed inputs listed names ∧ Expression.evaluateText explanation names = .ok result.value

theorem evaluateText_congr (alike : ∀ name, names.binding name = others.binding name)
    (text : String) : Expression.evaluateText text names = Expression.evaluateText text others := by
  unfold Expression.evaluateText
  split
  · rfl
  · next expression _ => exact Expression.evaluate_congr expression fun name _ => alike name

theorem validateEntry_of_computes {entry : CalculationEntry} {result : EvaluatedCalculation}
    (computes : Computes inputs entry result) :
    validateEntry (inputValues inputs) entry = ⟨[], [result]⟩ := by
  obtain ⟨explanation, listed, names, titled, explained, lists, holds, evaluated⟩ := computes
  obtain ⟨bound, complete⟩ := exists_bindInputs_of_holdsListed holds result.title
  have alike := holds.alike (holdsListed_bindInputs complete)
  have again : Expression.evaluateText explanation bound = .ok result.value := by
    rw [← evaluateText_congr alike explanation, evaluated]
  simp only [validateEntry, titled, explained, lists, complete, again]

theorem validateEntry_cases (inputs : List InputEntry) (entry : CalculationEntry) :
    (∃ result, Computes inputs entry result) ∨
      ((validateEntry (inputValues inputs) entry).problems ≠ [] ∧
        (validateEntry (inputValues inputs) entry).evaluated = []) := by
  unfold validateEntry
  split
  · next title explanation listed titled explained lists =>
      split
      · next names bound =>
          split
          · next value evaluated =>
              left
              exact ⟨⟨title, value⟩, explanation, listed, names, titled, explained, lists,
                holdsListed_bindInputs bound, evaluated⟩
          · exact .inr ⟨by simp, rfl⟩
      · next problems noneLacks _ => exact .inr ⟨noneLacks, rfl⟩
  · exact .inr ⟨by simp, rfl⟩

/-- The part of a report that a calculation makes. -/
def Reports (inputs : List InputEntry) (entry : CalculationEntry) (part : ValidationReport) :
    Prop :=
  (∃ result, Computes inputs entry result ∧ part = ⟨[], [result]⟩) ∨
    ((∀ result, ¬ Computes inputs entry result) ∧ part.problems ≠ [] ∧ part.evaluated = [])

theorem reports_validateEntry (inputs : List InputEntry) (entry : CalculationEntry) :
    Reports inputs entry (validateEntry (inputValues inputs) entry) := by
  rcases validateEntry_cases inputs entry with ⟨result, computes⟩ | ⟨problems, evaluated⟩
  · exact .inl ⟨result, computes, validateEntry_of_computes computes⟩
  · refine .inr ⟨?_, problems, evaluated⟩
    intro result computes
    rw [validateEntry_of_computes computes] at evaluated
    cases evaluated

/-- The problems that an input makes. -/
def InputReports (entry : InputEntry) (problems : List ValidationProblem) : Prop :=
  (Complete entry ∧ problems = []) ∨
    (¬ Complete entry ∧
      problems = [.invalidInputEntry (entry.variableName?.getD "Unknown Variable")])

theorem inputReports_inputProblem? (entry : InputEntry) :
    InputReports entry (inputProblem? entry).toList := by
  unfold InputReports Complete inputProblem?
  cases entry.variableName? <;> cases entry.fields.get? "value" <;> simp

theorem problems_eq_nil_iff {entry : CalculationEntry} {part : ValidationReport}
    (reports : Reports inputs entry part) :
    part.problems = [] ↔ ∃ result, Computes inputs entry result := by
  rcases reports with ⟨result, computes, rfl⟩ | ⟨never, problems, -⟩
  · exact ⟨fun _ => ⟨result, computes⟩, fun _ => rfl⟩
  · constructor
    · intro none
      exact absurd none problems
    · rintro ⟨result, computes⟩
      exact absurd computes (never result)

theorem inputProblems_eq_nil_iff {entry : InputEntry} {problems : List ValidationProblem}
    (reports : InputReports entry problems) : problems = [] ↔ Complete entry := by
  rcases reports with ⟨complete, rfl⟩ | ⟨incomplete, rfl⟩
  · exact ⟨fun _ => complete, fun _ => rfl⟩
  · simp [incomplete]

/-- What a report says about inputs and calculations. -/
structure Describes (inputs : List InputEntry) (calculations : List CalculationEntry)
    (report : ValidationReport) : Prop where
  /-- The inputs and the calculations make their parts in order. -/
  parts : ∃ inputParts calculationParts,
    List.Forall₂ InputReports inputs inputParts ∧
      List.Forall₂ (Reports inputs) calculations calculationParts ∧
      report.problems =
        inputParts.flatten ++ calculationParts.flatMap ValidationReport.problems ∧
      report.evaluated = calculationParts.flatMap ValidationReport.evaluated
  /-- Nothing is wrong just if all inputs are complete and all calculations computed. -/
  isValid_iff : report.isValid ↔ (∀ entry ∈ inputs, Complete entry) ∧
    ∀ entry ∈ calculations, ∃ result, Computes inputs entry result
  /-- If nothing is wrong, every calculation has its result. -/
  computes_of_isValid : report.isValid →
    List.Forall₂ (Computes inputs) calculations report.evaluated
  /-- Every result is the finite value of a calculation. -/
  finite : ∀ result ∈ report.evaluated,
    result.value.isFinite ∧ ∃ entry ∈ calculations, Computes inputs entry result
  /-- Every variable in the explanation of a calculation that is computed is listed there. -/
  listed : ∀ entry ∈ calculations, ∀ result, Computes inputs entry result →
    ∃ explanation listed expression, entry.explanation? = some explanation ∧
      entry.inputNames? = some listed ∧ Expression.ofText explanation = .ok expression ∧
      ∀ name, Expression.IsPart (.variable name) expression → name ∈ listed

theorem evaluateText_eq_ok {text : String}
    (evaluated : Expression.evaluateText text names = .ok number) :
    ∃ expression, Expression.ofText text = .ok expression ∧
      expression.evaluate names = .ok number := by
  unfold Expression.evaluateText at evaluated
  split at evaluated
  · cases evaluated
  · next expression read => exact ⟨expression, read, evaluated⟩

theorem finite_and_listed_of_computes {entry : CalculationEntry} {result : EvaluatedCalculation}
    (computes : Computes inputs entry result) :
    result.value.isFinite ∧
      ∃ explanation listed expression, entry.explanation? = some explanation ∧
        entry.inputNames? = some listed ∧ Expression.ofText explanation = .ok expression ∧
        ∀ name, Expression.IsPart (.variable name) expression → name ∈ listed := by
  obtain ⟨explanation, listed, names, -, explained, lists, holds, evaluated⟩ := computes
  obtain ⟨expression, read, hasValue⟩ := evaluateText_eq_ok evaluated
  obtain ⟨valued, finite⟩ := Expression.value_of_evaluate hasValue
  refine ⟨finite, explanation, listed, expression, explained, lists, read, ?_⟩
  intro name inside
  obtain ⟨number, isBound⟩ := Expression.exists_binding_of_isPart inside valued
  by_contra unlisted
  rw [holds.unbound name unlisted] at isBound
  cases isBound

theorem foldl_append (start : ValidationReport) (parts : List ValidationReport) :
    parts.foldl ValidationReport.append start =
      ⟨start.problems ++ parts.flatMap ValidationReport.problems,
        start.evaluated ++ parts.flatMap ValidationReport.evaluated⟩ := by
  induction parts generalizing start with
  | nil => simp
  | cons part rest ih => simp [ih, ValidationReport.append]

section Parts

variable {calculations : List CalculationEntry} {inputParts : List (List ValidationProblem)}
variable {parts : List ValidationReport}

theorem flatten_eq_nil_iff (ofInputs : List.Forall₂ InputReports inputs inputParts) :
    inputParts.flatten = [] ↔ ∀ entry ∈ inputs, Complete entry := by
  induction ofInputs with
  | nil => simp
  | cons first _ ih =>
      rw [List.flatten_cons, List.append_eq_nil_iff, inputProblems_eq_nil_iff first, ih,
        List.forall_mem_cons]

theorem flatMap_problems_eq_nil_iff
    (ofCalculations : List.Forall₂ (Reports inputs) calculations parts) :
    parts.flatMap ValidationReport.problems = [] ↔
      ∀ entry ∈ calculations, ∃ result, Computes inputs entry result := by
  induction ofCalculations with
  | nil => simp
  | cons first _ ih =>
      rw [List.flatMap_cons, List.append_eq_nil_iff, problems_eq_nil_iff first, ih,
        List.forall_mem_cons]

/-- Where every calculation is computed, the results are theirs in order. -/
theorem forall₂_computes (ofCalculations : List.Forall₂ (Reports inputs) calculations parts)
    (every : ∀ entry ∈ calculations, ∃ result, Computes inputs entry result) :
    List.Forall₂ (Computes inputs) calculations (parts.flatMap ValidationReport.evaluated) := by
  induction ofCalculations with
  | nil => exact .nil
  | cons first _ ih =>
      obtain ⟨⟨result, computes⟩, others⟩ := List.forall_mem_cons.mp every
      rcases first with ⟨reported, reportedly, rfl⟩ | ⟨never, -, -⟩
      · exact .cons reportedly (ih others)
      · exact absurd computes (never result)

theorem exists_computes_of_mem (ofCalculations : List.Forall₂ (Reports inputs) calculations parts)
    {result : EvaluatedCalculation} (member : result ∈ parts.flatMap ValidationReport.evaluated) :
    ∃ entry ∈ calculations, Computes inputs entry result := by
  induction ofCalculations with
  | nil => cases member
  | cons first _ ih =>
      rw [List.flatMap_cons, List.mem_append] at member
      rcases member with here | later
      · rcases first with ⟨reported, computes, rfl⟩ | ⟨-, -, nothing⟩
        · obtain rfl := List.mem_singleton.mp here
          exact ⟨_, List.mem_cons_self, computes⟩
        · rw [nothing] at here
          cases here
      · obtain ⟨entry, inRest, computes⟩ := ih later
        exact ⟨entry, List.mem_cons_of_mem _ inRest, computes⟩

theorem describes_of_parts (ofInputs : List.Forall₂ InputReports inputs inputParts)
    (ofCalculations : List.Forall₂ (Reports inputs) calculations parts) :
    Describes inputs calculations
      ⟨inputParts.flatten ++ parts.flatMap ValidationReport.problems,
        parts.flatMap ValidationReport.evaluated⟩ := by
  have isValid_iff : (inputParts.flatten ++ parts.flatMap ValidationReport.problems).isEmpty ↔
      (∀ entry ∈ inputs, Complete entry) ∧
        ∀ entry ∈ calculations, ∃ result, Computes inputs entry result := by
    rw [List.isEmpty_iff, List.append_eq_nil_iff, flatten_eq_nil_iff ofInputs,
      flatMap_problems_eq_nil_iff ofCalculations]
  constructor
  · exact ⟨inputParts, parts, ofInputs, ofCalculations, rfl, rfl⟩
  · exact isValid_iff
  · intro valid
    exact forall₂_computes ofCalculations (isValid_iff.mp valid).2
  · intro result member
    obtain ⟨entry, inCalculations, computes⟩ := exists_computes_of_mem ofCalculations member
    exact ⟨(finite_and_listed_of_computes computes).1, entry, inCalculations, computes⟩
  · intro entry _ result computes
    exact (finite_and_listed_of_computes computes).2

end Parts

theorem describes_validate {data : DataFile} {inputs : List InputEntry}
    {calculations : List CalculationEntry} (hasInputs : data.inputs = some inputs)
    (hasCalculations : data.calculations = some calculations) :
    Describes inputs calculations (validate data) := by
  have ofInputs : List.Forall₂ InputReports inputs
      (inputs.map fun entry => (inputProblem? entry).toList) := by
    rw [List.forall₂_map_right_iff, List.forall₂_same]
    intro entry _
    exact inputReports_inputProblem? entry
  have ofCalculations : List.Forall₂ (Reports inputs) calculations
      (calculations.map (validateEntry (inputValues inputs))) := by
    rw [List.forall₂_map_right_iff, List.forall₂_same]
    intro entry _
    exact reports_validateEntry inputs entry
  have describes := describes_of_parts ofInputs ofCalculations
  have flattened : (inputs.map fun entry => (inputProblem? entry).toList).flatten =
      inputs.filterMap inputProblem? := by
    rw [List.filterMap_eq_flatMap_toList, List.flatMap_def]
  rw [flattened] at describes
  simp only [validate, hasInputs, hasCalculations, foldl_append, List.nil_append]
  exact describes

theorem validate_of_missing {data : DataFile}
    (missing : data.inputs = none ∨ data.calculations = none) :
    validate data = ⟨[.invalidStructure], []⟩ := by
  unfold validate
  split
  · next hasInputs hasCalculations =>
      rw [hasInputs, hasCalculations] at missing
      rcases missing with missing | missing
      · cases missing
      · cases missing
  · rfl

theorem section?_eq_none {name : String} {entries : List (Yaml × Yaml)}
    (noList : ∀ items, Yaml.lookup? name entries ≠ some (.sequence items)) :
    DataFile.section? name entries = none := by
  unfold DataFile.section?
  split
  · next items found => exact absurd found (noList items)
  · rfl

/-- A report has the value of every calculation that is computed from listed inputs, problems
of every other one, and one problem of every input without a name or a value.  Without one of
its two lists, a data file has a problem of its structure and no other. -/
theorem validate_describes_or_invalidStructure :
    (∀ data inputs calculations, data.inputs = some inputs →
      data.calculations = some calculations → Describes inputs calculations (validate data)) ∧
    (∀ data : DataFile, data.inputs = none ∨ data.calculations = none →
      validate data = ⟨[.invalidStructure], []⟩) ∧
    (∀ entries,
      (∀ items, Yaml.lookup? "inputs" entries ≠ some (.sequence items)) ∨
        (∀ items, Yaml.lookup? "calculations" entries ≠ some (.sequence items)) →
      ∃ data, DataFile.ofYaml (.mapping entries) = .ok data ∧
        validate data = ⟨[.invalidStructure], []⟩) := by
  refine ⟨fun _ _ _ => describes_validate, fun _ => validate_of_missing, ?_⟩
  intro entries noList
  refine ⟨_, rfl, validate_of_missing ?_⟩
  rcases noList with noInputs | noCalculations
  · left
    rw [section?_eq_none noInputs, Option.map_none]
  · right
    rw [section?_eq_none noCalculations, Option.map_none]

/-- Of two inputs with one name the last counts, so a calculation that lists it is computed. -/
theorem validate_of_repeated_input :
    let inputs : List InputEntry :=
      [⟨[("value", .text "lots"), ("variable", .text "a")]⟩,
        ⟨[("value", .float 3.0), ("variable", .text "a")]⟩]
    let calculation : CalculationEntry :=
      ⟨[("explanation", .text "a"), ("inputs", .sequence [.text "a"]), ("title", .text "T")]⟩
    let data : DataFile := ⟨some inputs, some [calculation]⟩
    data.inputs = some inputs ∧ data.calculations = some [calculation] ∧
      Computes inputs calculation ⟨"T", 3.0⟩ ∧ (validate data).isValid ∧
      (validate data).evaluated.length = 1 ∧
      validate ⟨some inputs, none⟩ = ⟨[.invalidStructure], []⟩ ∧
      ∃ read, DataFile.ofYaml (.mapping [(.text "inputs", .text "none")]) = .ok read ∧
        validate read = ⟨[.invalidStructure], []⟩ := by
  intro inputs calculation data
  obtain ⟨reports, missing, fromYaml⟩ := validate_describes_or_invalidStructure
  have describes : Describes inputs [calculation] (validate data) :=
    reports data inputs [calculation] rfl rfl
  have gives : Gives inputs "a" (.float 3.0) :=
    ⟨[⟨[("value", .text "lots"), ("variable", .text "a")]⟩], _, [], rfl, rfl, rfl,
      by simp [Silent]⟩
  have holds : HoldsListed inputs ["a"] (Namespace.empty.set "a" 3.0) := by
    constructor
    · intro name member
      obtain rfl := List.mem_singleton.mp member
      exact ⟨3.0, ⟨.float 3.0, gives, by simp, rfl⟩, rfl⟩
    · intro name unlisted
      have other : "a" ≠ name := fun same => unlisted (by simp [same])
      rw [Namespace.set, Namespace.binding_bind, if_neg other]
      rfl
  have divided : ExpressionToken.ofText "a" = .ok [⟨.name "a", 0, ['a']⟩] :=
    ExpressionToken.readFrom_of_lexeme [] (by decide) rfl rfl (ExpressionToken.readFrom_nil 1)
  have evaluated : Expression.evaluateText "a" (Namespace.empty.set "a" 3.0) = .ok 3.0 := by
    unfold Expression.evaluateText Expression.ofText
    rw [divided]
    rfl
  have computes : Computes inputs calculation ⟨"T", 3.0⟩ :=
    ⟨"a", ["a"], _, rfl, rfl, rfl, holds, evaluated⟩
  have valid : (validate data).isValid := by
    rw [describes.isValid_iff]
    constructor
    · intro entry member
      rcases List.mem_pair.mp member with rfl | rfl
      · exact ⟨rfl, rfl⟩
      · exact ⟨rfl, rfl⟩
    · intro entry member
      obtain rfl := List.mem_singleton.mp member
      exact ⟨_, computes⟩
  refine ⟨rfl, rfl, computes, valid, ?_, missing _ (.inr rfl), fromYaml _ (.inl ?_)⟩
  · exact (describes.computes_of_isValid valid).length_eq.symm
  · intro items found
    cases found

end CalculationValidation

end BackOfEnvelope
