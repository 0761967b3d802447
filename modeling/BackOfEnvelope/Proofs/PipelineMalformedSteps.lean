import BackOfEnvelope.Proofs.PipelineForms

/-!
# Malformed steps

A malformed step ends a run behind the bindings of the steps before it.  That holds for the
steps of a JSON text and for those of a YAML sequence all of which have a JSON form.  But a
YAML sequence becomes JSON as a whole, before any step runs: a tag or a key that is no
string, in the malformed step or in any step behind it, takes all bindings away.
-/

namespace BackOfEnvelope

namespace Yaml

/-- The value of a step that can be decoded. -/
def DescribesStep (value : Yaml) : Prop :=
  ∃ raw operation, value.toJson? = some raw ∧ Operation.ofJson? raw = some operation

end Yaml

namespace Pipeline

/-- A run ends at a malformed step with the names that the steps before it have bound. -/
theorem runStepsFrom_of_malformed {bad : Json} (malformed : Operation.ofJson? bad = none)
    (before after : List Json) (step : Nat) (previous : Option Float) (names : Namespace) :
    (runStepsFrom step previous names (before ++ bad :: after)).value = none ∧
      (runStepsFrom step previous names (before ++ bad :: after)).names =
        (runStepsFrom step previous names before).names := by
  induction before generalizing step previous names with
  | nil =>
      simp only [List.nil_append, runStepsFrom, decodeStep, malformed]
      exact ⟨rfl, trivial⟩
  | cons raw rest ih =>
      simp only [List.cons_append, runStepsFrom]
      split
      · exact ⟨rfl, rfl⟩
      · split
        · exact ⟨rfl, rfl⟩
        · exact ih _ _ _

theorem runField_of_array {field : Option Yaml} {raws : List Json}
    (decoded : rawSteps? field = .ok (some (.array raws))) (names : Namespace) :
    runField field names = runSteps raws names := by
  rw [runField, steps, decoded]
  cases raws <;> rfl

theorem runField_of_items {items : List Yaml} {raws : List Json}
    (converted : Yaml.itemsToJson? items = some raws) (names : Namespace) :
    runField (some (.sequence items)) names = runSteps raws names := by
  refine runField_of_array ?_ names
  simp only [rawSteps?, Yaml.toJson?, converted, Option.map_some]

theorem runField_of_foreign_item {item : Yaml} {items : List Yaml} (member : item ∈ items)
    (foreign : ¬ item.IsPlain) (names : Namespace) :
    runField (some (.sequence items)) names = ⟨.error .undecodable, names⟩ := by
  have notPlain : ¬ (Yaml.sequence items).IsPlain := fun plain =>
    foreign (Yaml.isPlain_sequence_iff.mp plain item member)
  simp only [runField, steps, rawSteps?, (Yaml.toJson?_eq_none_iff _).mpr notPlain]

theorem exists_itemsToJson? {items : List Yaml} (plain : ∀ item ∈ items, item.IsPlain) :
    ∃ raws, Yaml.itemsToJson? items = some raws :=
  Option.isSome_iff_exists.mp
    (Yaml.isSome_itemsToJson?_iff.mpr fun item member =>
      (Yaml.isSome_toJson?_iff item).mpr (plain item member))

/-- In a sequence of plain values a malformed step only ends the run. -/
theorem runField_of_plain_malformed {before after : List Yaml} {bad : Yaml}
    (malformed : ¬ bad.DescribesStep) (plainBefore : ∀ item ∈ before, item.IsPlain)
    (plain : ∀ item ∈ bad :: after, item.IsPlain) (names : Namespace) :
    (runField (some (.sequence (before ++ bad :: after))) names).value = none ∧
      (runField (some (.sequence (before ++ bad :: after))) names).names =
        (runField (some (.sequence before)) names).names := by
  obtain ⟨raws, convertedBefore⟩ := exists_itemsToJson? plainBefore
  obtain ⟨plainBad, plainAfter⟩ := List.forall_mem_cons.mp plain
  obtain ⟨raw, convertedBad⟩ := Option.isSome_iff_exists.mp
    ((Yaml.isSome_toJson?_iff bad).mpr plainBad)
  obtain ⟨others, convertedAfter⟩ := exists_itemsToJson? plainAfter
  have converted : Yaml.itemsToJson? (before ++ bad :: after) = some (raws ++ raw :: others) :=
    Yaml.itemsToJson?_eq_some_iff.mpr <| List.rel_append
      (Yaml.itemsToJson?_eq_some_iff.mp convertedBefore)
      (.cons convertedBad (Yaml.itemsToJson?_eq_some_iff.mp convertedAfter))
  have undecodable : Operation.ofJson? raw = none := by
    rw [Option.eq_none_iff_forall_ne_some]
    exact fun operation decoded => malformed ⟨raw, operation, convertedBad, decoded⟩
  rw [runField_of_items converted, runField_of_items convertedBefore]
  exact runStepsFrom_of_malformed undecodable raws others 0 none names

/-- A malformed step of a sequence leaves no value, and it leaves the bindings of the steps
before it if and only if neither it nor a step behind it is foreign to JSON, or there are no
such bindings.  A malformed step of a JSON text always leaves them. -/
theorem malformed_step_keeps_bindings_iff (before after : List Yaml) (bad : Yaml)
    (malformed : ¬ bad.DescribesStep) (names : Namespace) :
    (runField (some (.sequence (before ++ bad :: after))) names).value = none ∧
      ((runField (some (.sequence (before ++ bad :: after))) names).names =
          (runField (some (.sequence before)) names).names ↔
        (∀ item ∈ bad :: after, item.IsPlain) ∨
          (runField (some (.sequence before)) names).names = names) ∧
      ∀ text front raws raw others,
        Json.ofText? text = some (.array (raws ++ raw :: others)) →
        Json.ofText? front = some (.array raws) → Operation.ofJson? raw = none →
        (runText text names).value = none ∧
          (runText text names).names = (runText front names).names := by
  refine and_assoc.mp ⟨?sequence, ?text⟩
  case sequence =>
    by_cases plain : ∀ item ∈ bad :: after, item.IsPlain
    · by_cases plainBefore : ∀ item ∈ before, item.IsPlain
      · obtain ⟨noValue, same⟩ := runField_of_plain_malformed malformed plainBefore plain names
        exact ⟨noValue, iff_of_true same (.inl plain)⟩
      · -- Then the steps before the malformed one do not run at all, with it or without it.
        simp only [not_forall] at plainBefore
        obtain ⟨item, member, foreign⟩ := plainBefore
        rw [runField_of_foreign_item (List.mem_append_left _ member) foreign,
          runField_of_foreign_item member foreign]
        exact ⟨rfl, iff_of_true rfl (.inr rfl)⟩
    · have lost := plain
      simp only [not_forall] at lost
      obtain ⟨item, member, foreign⟩ := lost
      rw [runField_of_foreign_item (List.mem_append_right _ member) foreign, or_iff_right plain]
      exact ⟨rfl, eq_comm⟩
  case text =>
    intro text front raws raw others whole beginning undecodable
    rw [runText, runText, runField_of_array (rawSteps?_of_ofText? whole),
      runField_of_array (rawSteps?_of_ofText? beginning)]
    exact runStepsFrom_of_malformed undecodable raws others 0 none names

/-- A step that binds the root of four. -/
def rootStep : Yaml :=
  .mapping [(.text "func", .text "sqrt"), (.text "args", .sequence [.float 4.0]),
    (.text "name", .text "x")]

/-- A word behind the root is a plain malformed step, in a sequence and in a text. -/
theorem malformed_step_keeps_root :
    ¬ Yaml.DescribesStep (.text "word") ∧
      (runField (some (.sequence ([rootStep] ++ [.text "word"]))) Namespace.empty).value = none ∧
      (runField (some (.sequence ([rootStep] ++ [.text "word"]))) Namespace.empty).names =
        (runField (some (.sequence [rootStep])) Namespace.empty).names ∧
      (runText "[[\"sqrt\",[4.0],\"x\"],\"word\"]" Namespace.empty).names =
        (runText "[[\"sqrt\",[4.0],\"x\"]]" Namespace.empty).names := by
  have malformed : ¬ Yaml.DescribesStep (.text "word") := by
    rintro ⟨raw, operation, converted, decoded⟩
    cases converted
    cases decoded
  have plain : ∀ item ∈ [Yaml.text "word"], item.IsPlain := by
    simp only [List.forall_mem_singleton]
    exact (Yaml.isSome_toJson?_iff _).mp rfl
  obtain ⟨noValue, keeps, ofText⟩ := malformed_step_keeps_bindings_iff [rootStep] []
    (.text "word") malformed Namespace.empty
  have whole : Json.ofText? "[[\"sqrt\",[4.0],\"x\"],\"word\"]" =
      some (.array ([.array [.text "sqrt", .array [.float 4.0], .text "x"]] ++
        [.text "word"])) := by
    have tree : JsonSyntax.ofText? "[[\"sqrt\",[4.0],\"x\"],\"word\"]" =
        some (.array [.array [.text [115, 113, 114, 116],
          .array [.number ⟨false, ['4'], ['0'], none⟩], .text [120]],
          .text [119, 111, 114, 100]]) := by
      cbv
    rw [Json.ofText?, tree]
    rfl
  have front : Json.ofText? "[[\"sqrt\",[4.0],\"x\"]]" =
      some (.array [.array [.text "sqrt", .array [.float 4.0], .text "x"]]) := by
    have tree : JsonSyntax.ofText? "[[\"sqrt\",[4.0],\"x\"]]" =
        some (.array [.array [.text [115, 113, 114, 116],
          .array [.number ⟨false, ['4'], ['0'], none⟩], .text [120]]]) := by
      cbv
    rw [Json.ofText?, tree]
    rfl
  exact ⟨malformed, noValue, keeps.mpr (.inl plain), (ofText _ _ _ _ _ whole front rfl).2⟩

/-- A key that is no string, in the step behind the root, takes the root away. -/
theorem foreign_key_undoes_root :
    ¬ Yaml.DescribesStep (.mapping [(.integer 1, .text "add")]) ∧
      (runField (some (.sequence ([rootStep] ++ [.mapping [(.integer 1, .text "add")]])))
          Namespace.empty).names ≠
        (runField (some (.sequence [rootStep])) Namespace.empty).names := by
  have foreign : ¬ (Yaml.mapping [(.integer 1, .text "add")]).IsPlain :=
    (Yaml.toJson?_eq_none_iff _).mp rfl
  constructor
  · rintro ⟨raw, operation, converted, decoded⟩
    cases converted
  · have kept : (runField (some (.sequence [rootStep])) Namespace.empty).names.binding "x" =
        some (some (Float.sqrt 4.0)) := rfl
    rw [runField_of_foreign_item (List.mem_append_right _ List.mem_cons_self) foreign]
    intro same
    rw [← same] at kept
    cases kept

end Pipeline

end BackOfEnvelope
