import BackOfEnvelope.Proofs.NameMismatches

/-!
# Rules for inputs

Validation goes through all inputs of a data file and looks at each of them by itself, so the
problems of a file are those of its inputs in a row.  An input without problems is one that keeps
the rules: its mandatory fields are present, its name is written with its entity and its units, and
its value, scale, assumption and source are given.
-/

namespace BackOfEnvelope

namespace Yaml

variable {value : Yaml}

/-- A value is a string, with a tag or without. -/
inductive HasString : Yaml → String → Prop
  | text (string : String) : HasString (.text string) string
  | tagged (tag : String) {value : Yaml} {string : String} :
      HasString value string → HasString (.tagged tag value) string

/-- What counts as false: no value, false, zero and what is empty, with a tag or without. -/
inductive IsFalsy : Yaml → Prop
  | null : IsFalsy .null
  | boolean : IsFalsy (.boolean false)
  | integer : IsFalsy (.integer 0)
  | float {value : Float} (zero : value == 0.0) : IsFalsy (.float value)
  | text : IsFalsy (.text "")
  | sequence : IsFalsy (.sequence [])
  | mapping : IsFalsy (.mapping [])
  | tagged (tag : String) {value : Yaml} : IsFalsy value → IsFalsy (.tagged tag value)

theorem IsFalsy.isTruthy_eq_false (isFalsy : value.IsFalsy) : value.isTruthy = false := by
  induction isFalsy with
  | float zero => simp [isTruthy, bne, zero]
  | tagged tag _ ih => exact ih
  | _ => rfl

theorem isFalsy_of_isTruthy_eq_false (notTrue : value.isTruthy = false) : value.IsFalsy := by
  fun_induction isTruthy value with
  | case1 => exact .null
  | case2 value =>
      subst notTrue
      exact .boolean
  | case3 value =>
      obtain rfl := bne_eq_false_iff_eq.mp notTrue
      exact .integer
  | case4 value => exact .float (by simpa [bne] using notTrue)
  | case5 value =>
      obtain rfl : value = "" := by simpa using notTrue
      exact .text
  | case6 items =>
      obtain rfl : items = [] := by simpa using notTrue
      exact .sequence
  | case7 entries =>
      obtain rfl : entries = [] := by simpa using notTrue
      exact .mapping
  | case8 tag value ih => exact .tagged tag (ih notTrue)

theorem isTruthy_eq_false_iff : value.isTruthy = false ↔ value.IsFalsy :=
  ⟨isFalsy_of_isTruthy_eq_false, IsFalsy.isTruthy_eq_false⟩

end Yaml

namespace InputValidation

variable {entry : InputEntry} {fields : Record} {field? : Option Yaml} {name part : String}

theorem string?_eq_some_iff {value : Yaml} {string : String} :
    string? value = some string ↔ value.HasString string := by
  constructor
  · intro isString
    fun_induction string? value with
    | case1 value =>
        cases isString
        exact .text string
    | case2 tag value ih => exact .tagged tag (ih isString)
    | case3 => cases isString
  · intro hasString
    induction hasString with
    | text string => rfl
    | tagged tag _ ih => exact ih

/-- A field is present with a value that keeps a rule. -/
def Gives (fields : Record) (field : String) (rule : Yaml → Prop) : Prop :=
  ∃ value, fields.get? field = some value ∧ rule value

/-- A value that is neither null nor a text or a number which stands for no value. -/
structure IsValue (value : Yaml) : Prop where
  not_null : value ≠ .null
  not_empty : value ≠ .text ""
  not_marked : value ≠ .text ".nan"
  isNumber : ∀ number, value = .float number → ¬ number.isNaN

/-- An input has all that is asked for. -/
structure KeepsRules (entry : InputEntry) : Prop where
  mandatory : ∀ field ∈ ["variable", "variable_type", "entity", "units", "value", "scale",
    "display_units"], entry.fields.has field
  named : ∃ name parts, entry.fields.text? "variable" = some name ∧
    VariableName.IsWrittenLast name parts ∧
    Gives entry.fields "entity" (Yaml.HasString · parts.entity) ∧
    Gives entry.fields "units" (Yaml.HasString · parts.units)
  value : Gives entry.fields "value" IsValue
  scale : Gives entry.fields "scale" (· ≠ .null)
  displayUnits : Gives entry.fields "display_units" (· ≠ .null)
  keyAssumption : Gives entry.fields "key_assumption" fun value => ¬ value.IsFalsy
  source : Gives entry.fields "source_url" fun value =>
    ¬ value.IsFalsy ∧ ¬ value.HasString "source needed"

theorem problemIf_eq_nil_iff {condition : Bool} {problem : ValidationProblem} :
    problemIf condition problem = [] ↔ condition = false := by
  cases condition <;> simp [problemIf]

theorem mismatch_eq_nil_iff {field : String} {toProblem : String → ValidationProblem} :
    mismatch true fields field part toProblem = [] ↔
      Gives fields field (Yaml.HasString · part) := by
  simp [mismatch, Gives, Option.bind_eq_some_iff, string?_eq_some_iff]

theorem nameProblems_eq_nil_iff :
    nameProblems true name fields = [] ↔ ∃ parts, VariableName.IsWrittenLast name parts ∧
      Gives fields "entity" (Yaml.HasString · parts.entity) ∧
      Gives fields "units" (Yaml.HasString · parts.units) := by
  simp only [← VariableName.ofText?_eq_some_iff]
  cases divided : VariableName.ofText? name with
  | none => simp [nameProblems, divided]
  | some parts =>
      simp [nameProblems, divided, mismatch_eq_nil_iff]

/-- An input without the text of a name has a bad one, as the empty name is. -/
theorem nameProblems_variableName?_eq_nil_iff :
    nameProblems true (entry.variableName?.getD "") entry.fields = [] ↔
      ∃ name parts, entry.fields.text? "variable" = some name ∧
        VariableName.IsWrittenLast name parts ∧
        Gives entry.fields "entity" (Yaml.HasString · parts.entity) ∧
        Gives entry.fields "units" (Yaml.HasString · parts.units) := by
  rw [InputEntry.variableName?]
  cases given : entry.fields.text? "variable" with
  | none =>
      have undivided : VariableName.ofText? "" = none := by decide
      simp [nameProblems, undivided]
  | some name => simp [nameProblems_eq_nil_iff]

theorem isInvalidValue_eq_false_iff :
    isInvalidValue field? = false ↔ ∃ value, field? = some value ∧ IsValue value := by
  constructor
  · intro valid
    cases field? with
    | none => cases valid
    | some value =>
        refine ⟨value, rfl, ?_, ?_, ?_, ?_⟩
        · rintro rfl
          cases valid
        · rintro rfl
          exact absurd valid (by decide)
        · rintro rfl
          exact absurd valid (by decide)
        · rintro number rfl
          simpa [isInvalidValue] using valid
  · rintro ⟨value, rfl, isValue⟩
    cases value with
    | null => exact absurd rfl isValue.not_null
    | text string =>
        have notEmpty := isValue.not_empty
        have notMarked := isValue.not_marked
        simp_all [isInvalidValue]
    | float number => simpa [isInvalidValue] using isValue.isNumber number rfl
    | _ => rfl

theorem isMissing_eq_false_iff :
    isMissing field? = false ↔ ∃ value, field? = some value ∧ value ≠ .null := by
  cases field? with
  | none => simp [isMissing]
  | some value => cases value <;> simp [isMissing]

theorem isTruthy_getD_iff :
    (field?.map Yaml.isTruthy).getD false ↔ ∃ value, field? = some value ∧ ¬ value.IsFalsy := by
  cases field? <;> simp [← Yaml.isTruthy_eq_false_iff]

theorem isSource_iff :
    isSource field? ↔ ∃ value, field? = some value ∧
      ¬ value.IsFalsy ∧ ¬ value.HasString "source needed" := by
  cases field? <;>
    simp [isSource, placeholderSource, ← Yaml.isTruthy_eq_false_iff, ← string?_eq_some_iff]

/-- An input has no problems just if it keeps the rules. -/
theorem entryProblems_eq_nil_iff : entryProblems entry = [] ↔ KeepsRules entry := by
  simp only [entryProblems, List.append_eq_nil_iff, List.map_eq_nil_iff, List.filter_eq_nil_iff,
    problemIf_eq_nil_iff, nameProblems_variableName?_eq_nil_iff, isInvalidValue_eq_false_iff,
    Bool.or_eq_false_iff, isMissing_eq_false_iff, Bool.not_eq_false', isTruthy_getD_iff,
    isSource_iff, Bool.not_eq_true', Bool.not_eq_false]
  constructor
  · rintro ⟨⟨⟨⟨⟨mandatory, named⟩, value⟩, scale, displayUnits⟩, keyAssumption⟩, source⟩
    exact ⟨mandatory, named, value, scale, displayUnits, keyAssumption, source⟩
  · rintro ⟨mandatory, named, value, scale, displayUnits, keyAssumption, source⟩
    exact ⟨⟨⟨⟨⟨mandatory, named⟩, value⟩, scale, displayUnits⟩, keyAssumption⟩, source⟩

theorem problems_validate_singleton (entry : InputEntry)
    (calculations : Option (List CalculationEntry)) :
    (validate ⟨some [entry], calculations⟩).problems = entryProblems entry :=
  List.flatMap_singleton ..

/-- The problems of inputs in a row are those of the first ones and then those of the others.
Every input adds the problems that it has in a file by itself, and it has none just if it keeps the
rules. -/
theorem validate_reports_each_input :
    (∀ (xs ys : List InputEntry) (calculations ofFirst ofOthers : Option (List CalculationEntry)),
      (validate ⟨some (xs ++ ys), calculations⟩).problems =
        (validate ⟨some xs, ofFirst⟩).problems ++ (validate ⟨some ys, ofOthers⟩).problems) ∧
    (∀ data : DataFile, (validate data).problems =
      data.inputEntries.flatMap fun entry => (validate ⟨some [entry], none⟩).problems) ∧
    (∀ (entry : InputEntry) (calculations : Option (List CalculationEntry)),
      (validate ⟨some [entry], calculations⟩).problems = [] ↔ KeepsRules entry) ∧
    ∀ data : DataFile, (validate data).isValid ↔ ∀ entry ∈ data.inputEntries, KeepsRules entry := by
  refine ⟨?inRow, ?alone, ?single, ?all⟩
  case inRow =>
    intro xs ys _ _ _
    exact List.flatMap_append
  case alone =>
    intro data
    simp only [problems_validate_singleton]
    rfl
  case single =>
    intro entry calculations
    rw [problems_validate_singleton, entryProblems_eq_nil_iff]
  case all =>
    intro data
    rw [ValidationReport.isValid, List.isEmpty_iff, validate, List.flatMap_eq_nil_iff]
    simp only [entryProblems_eq_nil_iff]

/-- The entity is a string with a tag, and null counts as a value if it has one. -/
theorem validate_of_tagged_fields :
    let entry : InputEntry := ⟨[("display_units", .text "usd"),
      ("entity", .tagged "!year" (.text "2024")), ("key_assumption", .text "steady"),
      ("scale", .integer 1), ("source_url", .text "https://example.org"), ("units", .text "usd"),
      ("value", .tagged "!later" .null), ("variable", .text "price__2024__usd"),
      ("variable_type", .null)]⟩
    let data : DataFile := ⟨some [entry, entry], none⟩
    KeepsRules entry ∧ (validate data).isValid := by
  intro entry data
  have notFalsy : ∀ string : String, string ≠ "" → ¬ (Yaml.text string).IsFalsy := by
    rintro string notEmpty ⟨⟩
    exact notEmpty rfl
  have notPlaceholder : ¬ (Yaml.text "https://example.org").HasString "source needed" := by
    rw [← string?_eq_some_iff]
    decide
  have keepsRules : KeepsRules entry := {
    mandatory := by decide
    named := ⟨_, _, rfl, VariableName.ofText?_eq_some_iff.mp ofText?_price,
      ⟨_, rfl, .tagged _ (.text _)⟩, ⟨_, rfl, .text _⟩⟩
    value := ⟨_, rfl, nofun, nofun, nofun, nofun⟩
    scale := ⟨_, rfl, nofun⟩
    displayUnits := ⟨_, rfl, nofun⟩
    keyAssumption := ⟨_, rfl, notFalsy _ (by decide)⟩
    source := ⟨_, rfl, notFalsy _ (by decide), notPlaceholder⟩ }
  refine ⟨keepsRules, (validate_reports_each_input.2.2.2 data).mpr ?_⟩
  intro other member
  obtain rfl : other = entry := by simpa [data, DataFile.inputEntries] using member
  exact keepsRules

end InputValidation

end BackOfEnvelope
