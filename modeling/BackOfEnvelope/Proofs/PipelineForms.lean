import BackOfEnvelope.Pipeline
import BackOfEnvelope.Proofs.JsonReadingValues
import BackOfEnvelope.Proofs.YamlConversion
import Mathlib.Data.List.Perm.Basic

/-!
# The two forms of a pipeline field

A field holds its steps as a JSON text or as YAML values.  A text is read as JSON and a
YAML value is converted to it, and the two ways meet: what a text is read as is also what
every YAML value of the same shape converts to.  The numbers agree because reading yields
none that conversion would drop, and the fields of an object because both ways sort them.
-/

namespace BackOfEnvelope

/-- Lists and objects, as opposed to single values. -/
def Json.IsCompound : Json → Prop
  | .array _ | .object _ => True
  | _ => False

section

variable {α β : Type} {R S : α → β → Prop} {l : List α} {u : List β}

theorem forall₂_of_mem (related : List.Forall₂ R l u) (imp : ∀ b ∈ u, ∀ {a}, R a b → S a b) :
    List.Forall₂ S l u :=
  List.forall₂_iff_get.mpr ⟨related.length_eq, fun _ below belowOther =>
    imp _ (List.get_mem _ _) (related.get below belowOther)⟩

theorem exists_forall₂_of_mem (each : ∀ b ∈ u, ∃ a, R a b) : ∃ l, List.Forall₂ R l u := by
  induction u with
  | nil => exact ⟨[], .nil⟩
  | cons b rest ih =>
      obtain ⟨⟨a, related⟩, others⟩ := List.forall_mem_cons.mp each
      obtain ⟨l, relatedRest⟩ := ih others
      exact ⟨a :: l, .cons related relatedRest⟩

end

namespace Yaml

mutual

/-- A YAML value of the same shape as a JSON value: sequences stand for lists, mappings with
strings as keys for objects, in any order, and single values for themselves. -/
inductive Mirrors : Yaml → Json → Prop
  | null : Mirrors .null .null
  | boolean (value : Bool) : Mirrors (.boolean value) (.boolean value)
  | integer (value : Int) : Mirrors (.integer value) (.integer value)
  | float (value : Float) : Mirrors (.float value) (.float value)
  | text (value : String) : Mirrors (.text value) (.text value)
  | sequence {items : List Yaml} {values : List Json} (each : List.Forall₂ Mirrors items values) :
      Mirrors (.sequence items) (.array values)
  | mapping {entries ordered : List (Yaml × Yaml)} {fields : List (String × Json)}
      (each : List.Forall₂ MirrorsField ordered fields) (permuted : entries.Perm ordered) :
      Mirrors (.mapping entries) (.object fields)

/-- An entry of a mapping for a field of an object. -/
inductive MirrorsField : Yaml × Yaml → String × Json → Prop
  | field {item : Yaml} {value : Json} (name : String) (mirrors : Mirrors item value) :
      MirrorsField (.text name, item) (name, value)

end

/-- Every YAML value of the same shape as a regular JSON value converts to it. -/
theorem toJson?_of_mirrors {value : Json} (regular : value.IsRegular) :
    ∀ {yaml : Yaml}, Mirrors yaml value → yaml.toJson? = some value := by
  induction regular with
  | null | boolean _ | integer _ | text _ =>
      intro yaml mirrors
      cases mirrors
      rfl
  | float finite =>
      intro yaml mirrors
      cases mirrors
      rw [toJson?, if_pos finite]
  | array _ ofItem =>
      intro yaml mirrors
      cases mirrors with
      | sequence each =>
          have converted := itemsToJson?_eq_some_iff.mpr (forall₂_of_mem each ofItem)
          rw [toJson?, converted]
          rfl
  | @object fields sorted _ ofField =>
      intro yaml mirrors
      cases mirrors with
      | mapping each permuted =>
          have ofEntry : ∀ field ∈ fields, ∀ {entry}, MirrorsField entry field →
              untaggedText? entry.1 = some field.1 ∧ entry.2.toJson? = some field.2 := by
            intro field member entry mirrors
            cases mirrors with
            | field name mirrors => exact ⟨rfl, ofField _ member mirrors⟩
          obtain ⟨found, converted, reordered⟩ :=
            List.perm_comp_forall₂ permuted (forall₂_of_mem each ofEntry)
          rw [toJson?, entriesToJson?_eq_some_iff.mpr converted]
          exact congrArg (some ∘ Json.object) (Fields.sortFields_of_perm sorted reordered)

/-- Every JSON value has a YAML value of its shape. -/
theorem exists_mirrors {value : Json} (regular : value.IsRegular) :
    ∃ yaml, Mirrors yaml value := by
  induction regular with
  | null => exact ⟨_, .null⟩
  | boolean truth => exact ⟨_, .boolean truth⟩
  | integer number => exact ⟨_, .integer number⟩
  | float _ => exact ⟨_, .float _⟩
  | text text => exact ⟨_, .text text⟩
  | array _ ofItem =>
      obtain ⟨items, each⟩ := exists_forall₂_of_mem ofItem
      exact ⟨_, .sequence each⟩
  | object _ _ ofField =>
      obtain ⟨entries, each⟩ : ∃ entries, List.Forall₂ MirrorsField entries _ :=
        exists_forall₂_of_mem fun field member => by
          obtain ⟨yaml, mirrors⟩ := ofField field member
          exact ⟨(.text field.1, yaml), .field field.1 mirrors⟩
      exact ⟨_, .mapping each (List.Perm.refl _)⟩

end Yaml

namespace Pipeline

theorem rawSteps?_of_mirrors {field : Yaml} {value : Json} (regular : value.IsRegular)
    (compound : value.IsCompound) (mirrors : Yaml.Mirrors field value) :
    rawSteps? (some field) = .ok (some value) := by
  have converted := Yaml.toJson?_of_mirrors regular mirrors
  cases mirrors with
  | null | boolean _ | integer _ | float _ | text _ => exact compound.elim
  | sequence _ | mapping _ _ => simp only [rawSteps?, converted]

theorem rawSteps?_of_ofText? {text : String} {value : Json}
    (read : Json.ofText? text = some value) : rawSteps? (some (.text text)) = .ok (some value) := by
  simp only [rawSteps?, Json.trim_ne_empty_of_ofText? read, read, Bool.false_eq_true, if_false]

theorem steps_congr {field other : Option Yaml} (same : rawSteps? field = rawSteps? other) :
    steps field = steps other := by
  rw [steps, steps, same]

/-- A JSON text that is a list or an object and every YAML value of its shape are the same
pipeline: they have the same steps, and they run to the same outcome and the same names.
Some YAML value has its shape. -/
theorem text_alike_mirror {text : String} {value : Json} (read : Json.ofText? text = some value)
    (compound : value.IsCompound) :
    (∃ field, Yaml.Mirrors field value) ∧
      ∀ field, Yaml.Mirrors field value →
        steps (some (.text text)) = steps (some field) ∧
          ∀ names, runField (some (.text text)) names = runField (some field) names := by
  have regular := Json.isRegular_of_ofText? read
  refine ⟨Yaml.exists_mirrors regular, fun field mirrors => ?_⟩
  have same : steps (some (.text text)) = steps (some field) :=
    steps_congr ((rawSteps?_of_ofText? read).trans
      (rawSteps?_of_mirrors regular compound mirrors).symm)
  refine ⟨same, fun names => ?_⟩
  rw [runField, runField, same]

/-- A text with a sum, and the same sum as a sequence with the fields in another order. -/
theorem text_alike_mirror_of_sum :
    Json.ofText? "[\x7b\"func\":\"add\",\"args\":[0.5,true]\x7d]" =
        some (.array [.object [("args", .array [.float 0.5, .boolean true]),
          ("func", .text "add")]]) ∧
      ∀ names,
        runField (some (.text "[\x7b\"func\":\"add\",\"args\":[0.5,true]\x7d]")) names =
          runField (some (.sequence [.mapping [(.text "func", .text "add"),
            (.text "args", .sequence [.float 0.5, .boolean true])]])) names := by
  have tree : JsonSyntax.ofText? "[\x7b\"func\":\"add\",\"args\":[0.5,true]\x7d]" =
      some (.array [.object [([102, 117, 110, 99], .text [97, 100, 100]),
        ([97, 114, 103, 115], .array [.number ⟨false, ['0'], ['5'], none⟩, .boolean true])]]) := by
    cbv
  have read : Json.ofText? "[\x7b\"func\":\"add\",\"args\":[0.5,true]\x7d]" =
      some (.array [.object [("args", .array [.float 0.5, .boolean true]),
        ("func", .text "add")]]) := by
    rw [Json.ofText?, tree]
    rfl
  refine ⟨read, ((text_alike_mirror read trivial).2 _ (.sequence (.cons ?_ .nil))).2⟩
  have operands : Yaml.Mirrors (.sequence [.float 0.5, .boolean true])
      (.array [.float 0.5, .boolean true]) :=
    .sequence (.cons (.float 0.5) (.cons (.boolean true) .nil))
  exact .mapping (.cons (.field "args" operands) (.cons (.field "func" (.text "add")) .nil))
    (List.Perm.swap _ _ _)

end Pipeline

end BackOfEnvelope
