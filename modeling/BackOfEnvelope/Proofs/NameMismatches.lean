import BackOfEnvelope.InputValidation
import BackOfEnvelope.Proofs.VariableNameParts

/-!
# Mismatches of names

A part of a name is compared with the string that a field is, but a mismatch shows the text of
any scalar.  The two readings agree on strings, with tags or without.  They differ on numbers and
truth values, which are never equal to a part and yet may be shown like it, and on fields without
text where the part is the word that is shown for these.  A reported mismatch shows two different
texts just outside of these cases.
-/

namespace BackOfEnvelope

namespace ValidationProblem

/-- A part of a name is expected, and a field is shown that does not match it. -/
inductive IsMismatch : ValidationProblem → String → String → Prop where
  | entity (name expected actual : String) :
      IsMismatch (.entityMismatch name expected actual) expected actual
  | units (name expected actual : String) :
      IsMismatch (.unitsMismatch name expected actual) expected actual

end ValidationProblem

namespace InputValidation

open ValidationProblem

variable {value : Yaml} {field? : Option Yaml} {part text name expected actual : String}
variable {required : Bool} {fields : Record} {parts : VariableName}
variable {problem : ValidationProblem} {problems : List ValidationProblem}

/-- A number or a truth value, with a tag or without. -/
inductive IsNumberOrTruth : Yaml → Prop where
  | integer (value : Int) : IsNumberOrTruth (.integer value)
  | float (value : Float) : IsNumberOrTruth (.float value)
  | boolean (value : Bool) : IsNumberOrTruth (.boolean value)
  | tagged (tag : String) {value : Yaml} :
      IsNumberOrTruth value → IsNumberOrTruth (.tagged tag value)

/-- A field that is no string and is shown like a part of a name. -/
def LooksLike (field? : Option Yaml) (part : String) : Prop :=
  (∃ value, field? = some value ∧ IsNumberOrTruth value ∧ value.scalarText? = some part) ∨
    (field?.bind Yaml.scalarText? = none ∧ part = "None")

/-- One of the problems is a mismatch with these texts. -/
def Reports (problems : List ValidationProblem) (expected actual : String) : Prop :=
  ∃ problem ∈ problems, problem.IsMismatch expected actual

/-- Every mismatch shows two different texts. -/
def ShowsDifferences (problems : List ValidationProblem) : Prop :=
  ∀ expected actual, Reports problems expected actual → expected ≠ actual

def HasNoMismatch (problems : List ValidationProblem) : Prop :=
  ∀ expected actual, ¬ Reports problems expected actual

theorem scalarText?_of_string? (isString : string? value = some text) :
    value.scalarText? = some text := by
  fun_induction string? value with
  | case1 => exact isString
  | case2 tag value ih => exact ih isString
  | case3 => cases isString

theorem string?_of_isNumberOrTruth (isNumberOrTruth : IsNumberOrTruth value) :
    string? value = none := by
  induction isNumberOrTruth with
  | tagged tag _ ih => exact ih
  | _ => rfl

/-- What has a text is a string or a number or a truth value. -/
theorem isNumberOrTruth_of_scalarText? (noString : string? value = none)
    (hasText : value.scalarText? = some text) : IsNumberOrTruth value := by
  fun_induction Yaml.scalarText? value with
  | case1 => cases noString
  | case2 value => exact .integer value
  | case3 value => exact .float value
  | case4 value => exact .boolean value
  | case5 tag value ih => exact .tagged tag (ih noString hasText)
  | case6 => cases hasText
  | case7 => cases hasText
  | case8 => cases hasText

theorem shown_of_no_text (noText : field?.bind Yaml.scalarText? = none) :
    shown field? = "None" := by
  rw [shown, noText, Option.getD_none]

/-- A field looks like a part if it differs in the comparison and not in the message. -/
theorem looksLike_iff :
    LooksLike field? part ↔ field?.bind string? ≠ some part ∧ shown field? = part := by
  constructor
  · rintro (⟨value, rfl, isNumberOrTruth, hasText⟩ | ⟨noText, rfl⟩)
    · simp [shown, hasText, string?_of_isNumberOrTruth isNumberOrTruth]
    · refine ⟨?_, shown_of_no_text noText⟩
      intro isString
      obtain ⟨value, rfl, isString⟩ := Option.bind_eq_some_iff.mp isString
      rw [Option.bind_some, scalarText?_of_string? isString] at noText
      cases noText
  · rintro ⟨differs, same⟩
    cases hasText : field?.bind Yaml.scalarText? with
    | none => exact .inr ⟨hasText, same.symm.trans (shown_of_no_text hasText)⟩
    | some text =>
        obtain ⟨value, rfl, hasText⟩ := Option.bind_eq_some_iff.mp hasText
        obtain rfl : text = part := by simpa [shown, hasText] using same
        refine .inl ⟨value, rfl, isNumberOrTruth_of_scalarText? ?_ hasText, hasText⟩
        cases isString : string? value with
        | none => rfl
        | some string =>
            have sameText := hasText.symm.trans (scalarText?_of_string? isString)
            exact absurd (isString.trans sameText.symm) differs

/-- A field is compared and is not the string that a part of the name is. -/
def Differs (required : Bool) (fields : Record) (field part : String) : Prop :=
  (required ∨ fields.has field) ∧ (fields.get? field).bind string? ≠ some part

theorem mem_mismatch_iff {field : String} {toProblem : String → ValidationProblem} :
    problem ∈ mismatch required fields field part toProblem ↔
      Differs required fields field part ∧ problem = toProblem (shown (fields.get? field)) := by
  simp only [mismatch, Differs, bne_iff_ne, Bool.and_eq_true, Bool.or_eq_true]
  split
  · next differs => simp [differs]
  · next agrees => simp [agrees]

/-- The mismatches of a name are those of its entity and of its units. -/
theorem reports_nameProblems_iff (divided : VariableName.ofText? name = some parts) :
    Reports (nameProblems required name fields) expected actual ↔
      (Differs required fields "entity" parts.entity ∧ expected = parts.entity ∧
        actual = shown (fields.get? "entity")) ∨
      (Differs required fields "units" parts.units ∧ expected = parts.units ∧
        actual = shown (fields.get? "units")) := by
  simp only [Reports, nameProblems, divided, List.mem_append, mem_mismatch_iff]
  constructor
  · rintro ⟨problem, ⟨differs, rfl⟩ | ⟨differs, rfl⟩, isMismatch⟩
    · cases isMismatch
      exact .inl ⟨differs, rfl, rfl⟩
    · cases isMismatch
      exact .inr ⟨differs, rfl, rfl⟩
  · rintro (⟨differs, rfl, rfl⟩ | ⟨differs, rfl, rfl⟩)
    · exact ⟨_, .inl ⟨differs, rfl⟩, .entity _ _ _⟩
    · exact ⟨_, .inr ⟨differs, rfl⟩, .units _ _ _⟩

theorem not_reports_nameProblems (undivided : VariableName.ofText? name = none) :
    ¬ Reports (nameProblems required name fields) expected actual := by
  rintro ⟨problem, member, isMismatch⟩
  rw [nameProblems, undivided, List.mem_singleton] at member
  subst member
  cases isMismatch

/-- No field that is compared with a part of the name looks like it. -/
def NoneLooksLike (required : Bool) (name : String) (fields : Record) : Prop :=
  ∀ parts, VariableName.ofText? name = some parts →
    (required ∨ fields.has "entity" → ¬ LooksLike (fields.get? "entity") parts.entity) ∧
    (required ∨ fields.has "units" → ¬ LooksLike (fields.get? "units") parts.units)

theorem showsDifferences_nameProblems_iff :
    ShowsDifferences (nameProblems required name fields) ↔ NoneLooksLike required name fields := by
  constructor
  · intro differences parts divided
    constructor
    · intro compared looksLike
      obtain ⟨differs, same⟩ := looksLike_iff.mp looksLike
      exact differences _ _ ((reports_nameProblems_iff divided).mpr
        (.inl ⟨⟨compared, differs⟩, rfl, rfl⟩)) same.symm
    · intro compared looksLike
      obtain ⟨differs, same⟩ := looksLike_iff.mp looksLike
      exact differences _ _ ((reports_nameProblems_iff divided).mpr
        (.inr ⟨⟨compared, differs⟩, rfl, rfl⟩)) same.symm
  · intro noneLooksLike expected actual reported same
    cases divided : VariableName.ofText? name with
    | none => exact not_reports_nameProblems divided reported
    | some parts =>
        obtain ⟨notEntity, notUnits⟩ := noneLooksLike parts divided
        obtain ⟨⟨compared, differs⟩, rfl, rfl⟩ | ⟨⟨compared, differs⟩, rfl, rfl⟩ :=
          (reports_nameProblems_iff divided).mp reported
        · exact notEntity compared (looksLike_iff.mpr ⟨differs, same.symm⟩)
        · exact notUnits compared (looksLike_iff.mpr ⟨differs, same.symm⟩)

/-- A field is a string, with a tag or without. -/
def IsString (field? : Option Yaml) : Prop :=
  ∃ text, field?.bind string? = some text

/-- The fields for entity and units have the texts of the parts. -/
structure HasTexts (fields : Record) (parts : VariableName) : Prop where
  entity : fields.text? "entity" = some parts.entity
  units : fields.text? "units" = some parts.units

/-- A field with the text of a part differs from it unless it is a string. -/
theorem differs_iff_of_text? {field : String} (hasText : fields.text? field = some part) :
    Differs required fields field part ↔ ¬ IsString (fields.get? field) := by
  obtain ⟨value, found, hasText⟩ := Option.bind_eq_some_iff.mp hasText
  have present : fields.has field := by simp [Record.has, found]
  simp only [Differs, IsString, found, Option.bind_some]
  constructor
  · rintro ⟨-, differs⟩ ⟨text, isString⟩
    obtain rfl : part = text :=
      Option.some.inj (hasText.symm.trans (scalarText?_of_string? isString))
    exact differs isString
  · intro noString
    exact ⟨.inr present, fun isString => noString ⟨part, isString⟩⟩

theorem hasNoMismatch_nameProblems_iff (divided : VariableName.ofText? name = some parts)
    (texts : HasTexts fields parts) :
    HasNoMismatch (nameProblems required name fields) ↔
      IsString (fields.get? "entity") ∧ IsString (fields.get? "units") := by
  simp only [HasNoMismatch, reports_nameProblems_iff divided,
    differs_iff_of_text? texts.entity, differs_iff_of_text? texts.units]
  constructor
  · intro never
    constructor
    · exact Classical.byContradiction fun noString => never _ _ (.inl ⟨noString, rfl, rfl⟩)
    · exact Classical.byContradiction fun noString => never _ _ (.inr ⟨noString, rfl, rfl⟩)
  · rintro ⟨entityIsString, unitsIsString⟩ expected actual (⟨noString, -⟩ | ⟨noString, -⟩)
    · exact noString entityIsString
    · exact noString unitsIsString

theorem reports_entryProblems_iff {entry : InputEntry} :
    Reports (entryProblems entry) expected actual ↔
      Reports (nameProblems true (entry.variableName?.getD "") entry.fields) expected actual := by
  constructor
  · rintro ⟨problem, member, isMismatch⟩
    refine ⟨problem, ?_, isMismatch⟩
    cases isMismatch <;> simpa [entryProblems, problemIf] using member
  · rintro ⟨problem, member, isMismatch⟩
    exact ⟨problem, by simp [entryProblems, member], isMismatch⟩

theorem reports_flatMap_iff {α : Type} {items : List α} {problemsOf : α → List ValidationProblem} :
    Reports (items.flatMap problemsOf) expected actual ↔
      ∃ item ∈ items, Reports (problemsOf item) expected actual := by
  simp only [Reports, List.mem_flatMap]
  constructor
  · rintro ⟨problem, ⟨item, isItem, member⟩, isMismatch⟩
    exact ⟨item, isItem, problem, member, isMismatch⟩
  · rintro ⟨item, isItem, problem, member, isMismatch⟩
    exact ⟨problem, ⟨item, isItem, member⟩, isMismatch⟩

theorem showsDifferences_flatMap_iff {α : Type} {items : List α}
    {problemsOf : α → List ValidationProblem} :
    ShowsDifferences (items.flatMap problemsOf) ↔
      ∀ item ∈ items, ShowsDifferences (problemsOf item) := by
  simp only [ShowsDifferences, reports_flatMap_iff]
  constructor
  · intro differences item isItem expected actual reported
    exact differences expected actual ⟨item, isItem, reported⟩
  · rintro differences expected actual ⟨item, isItem, reported⟩
    exact differences item isItem expected actual reported

theorem showsDifferences_entryProblems_iff {entry : InputEntry} :
    ShowsDifferences (entryProblems entry) ↔
      NoneLooksLike true (entry.variableName?.getD "") entry.fields := by
  rw [← showsDifferences_nameProblems_iff]
  simp only [ShowsDifferences, reports_entryProblems_iff]

/-- Every mismatch that is reported shows different texts just if no field that is compared looks
like its part without being a string.  A record that has the texts of the parts of its name gets
no mismatch just if both its fields are strings. -/
theorem mismatches_differ_iff (data : DataFile) (set : VariableSet) :
    (ShowsDifferences (validate data).problems ↔
      ∀ entry ∈ data.inputEntries,
        NoneLooksLike true (entry.variableName?.getD "") entry.fields) ∧
    (ShowsDifferences (validateNames set).problems ↔
      ∀ item ∈ set.values, NoneLooksLike false item.name item.fields) ∧
    (∀ (entry : InputEntry) parts,
      VariableName.ofText? (entry.variableName?.getD "") = some parts →
      HasTexts entry.fields parts →
      (HasNoMismatch (entryProblems entry) ↔
        IsString (entry.fields.get? "entity") ∧ IsString (entry.fields.get? "units"))) ∧
    (∀ (item : Variable) parts, VariableName.ofText? item.name = some parts →
      HasTexts item.fields parts →
      (HasNoMismatch (nameProblems false item.name item.fields) ↔
        IsString (item.fields.get? "entity") ∧ IsString (item.fields.get? "units"))) := by
  refine ⟨?ofData, ?ofSet, ?ofEntry, ?ofItem⟩
  case ofData =>
    simp only [validate, showsDifferences_flatMap_iff, showsDifferences_entryProblems_iff]
  case ofSet =>
    simp only [validateNames, showsDifferences_flatMap_iff, showsDifferences_nameProblems_iff]
  case ofEntry =>
    intro entry parts divided texts
    have ofName : HasNoMismatch (entryProblems entry) ↔
        HasNoMismatch (nameProblems true (entry.variableName?.getD "") entry.fields) := by
      simp only [HasNoMismatch, reports_entryProblems_iff]
    exact ofName.trans (hasNoMismatch_nameProblems_iff divided texts)
  case ofItem =>
    intro item parts divided texts
    exact hasNoMismatch_nameProblems_iff divided texts

theorem ofText?_price :
    VariableName.ofText? "price__2024__usd" = some ⟨"price", "2024", "usd"⟩ := by
  have written : "price__2024__usd" = VariableName.joined ⟨"price", "2024", "usd"⟩ := by decide
  rw [written, VariableName.ofText?_eq_some_iff]
  exact VariableName.isWrittenLast_joined (VariableName.isWord_of_all (by decide) (by decide))
    (VariableName.isWord_of_all (by decide) (by decide))
    (VariableName.isWord_of_all (by decide) (by decide))
    ⟨by decide +kernel, by decide⟩ ⟨by decide +kernel, by decide⟩

/-- A string with a tag has the text of its part and matches it. -/
theorem no_mismatch_of_tagged_string :
    let entry : InputEntry := ⟨[("entity", .tagged "!year" (.text "2024")),
      ("units", .text "usd"), ("variable", .text "price__2024__usd")]⟩
    let parts : VariableName := ⟨"price", "2024", "usd"⟩
    VariableName.ofText? (entry.variableName?.getD "") = some parts ∧
      HasTexts entry.fields parts ∧ HasNoMismatch (entryProblems entry) := by
  intro entry parts
  have divided : VariableName.ofText? (entry.variableName?.getD "") = some parts := ofText?_price
  have texts : HasTexts entry.fields parts := ⟨by rfl, by rfl⟩
  obtain ⟨-, -, ofEntry, -⟩ := mismatches_differ_iff ⟨some [entry], none⟩ .empty
  exact ⟨divided, texts, (ofEntry entry parts divided texts).mpr ⟨⟨"2024", rfl⟩, ⟨"usd", rfl⟩⟩⟩

/-- A number has the text of its part, and is reported with that text twice. -/
theorem mismatch_of_same_text :
    let entry : InputEntry := ⟨[("entity", .integer 2024), ("units", .text "usd"),
      ("variable", .text "price__2024__usd")]⟩
    let data : DataFile := ⟨some [entry], some []⟩
    VariableName.ofText? "price__2024__usd" = some ⟨"price", "2024", "usd"⟩ ∧
      HasTexts entry.fields ⟨"price", "2024", "usd"⟩ ∧
      .entityMismatch "price__2024__usd" "2024" "2024" ∈ (validate data).problems := by
  intro entry data
  have texts : HasTexts entry.fields ⟨"price", "2024", "usd"⟩ := ⟨by rfl, by rfl⟩
  have noString : ¬ IsString (entry.fields.get? "entity") := by
    rintro ⟨text, isString⟩
    cases isString
  have differs : Differs true entry.fields "entity" "2024" :=
    (differs_iff_of_text? texts.entity).mpr noString
  have reported : .entityMismatch "price__2024__usd" "2024" "2024" ∈
      nameProblems true (entry.variableName?.getD "") entry.fields := by
    have divided : VariableName.ofText? (entry.variableName?.getD "") = _ := ofText?_price
    rw [nameProblems, divided]
    exact List.mem_append_left _ (mem_mismatch_iff.mpr ⟨differs, rfl⟩)
  refine ⟨ofText?_price, texts, List.mem_flatMap.mpr ⟨entry, List.mem_singleton_self entry, ?_⟩⟩
  simp [entryProblems, reported]

end InputValidation

end BackOfEnvelope
