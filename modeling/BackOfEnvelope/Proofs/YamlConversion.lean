import BackOfEnvelope.Yaml
import Mathlib.Data.List.Forall2

/-!
# YAML values that become JSON

Not every YAML value has a JSON form: a tag and a key that is no string have none, and
wherever one of them stands, the whole value has none.  All other values have one, a
sequence that of its items, so that a sequence of values has a form only as a whole.
-/

namespace BackOfEnvelope

namespace Yaml

/-- A value stands somewhere inside another one, or is the whole.  Keys do not count. -/
inductive IsPart (part : Yaml) : Yaml → Prop
  | whole : IsPart part part
  | item {item : Yaml} {items : List Yaml} (member : item ∈ items) (inside : IsPart part item) :
      IsPart part (.sequence items)
  | value {entry : Yaml × Yaml} {entries : List (Yaml × Yaml)} (member : entry ∈ entries)
      (inside : IsPart part entry.2) : IsPart part (.mapping entries)

/-- A value that JSON has no form for: one with a tag, or a mapping with a key that is no
string. -/
def IsForeign : Yaml → Prop
  | .tagged _ _ => True
  | .mapping entries => ∃ entry ∈ entries, untaggedText? entry.1 = none
  | _ => False

/-- No part of a value is foreign to JSON. -/
def IsPlain (value : Yaml) : Prop :=
  ∀ part, IsPart part value → ¬ part.IsForeign

/-- Induction over values that gives the hypothesis for every item of a sequence and every
value of a mapping. -/
theorem inductionOnParts {motive : Yaml → Prop} (null : motive .null)
    (boolean : ∀ value, motive (.boolean value)) (integer : ∀ value, motive (.integer value))
    (float : ∀ value, motive (.float value)) (text : ∀ value, motive (.text value))
    (sequence : ∀ items, (∀ item ∈ items, motive item) → motive (.sequence items))
    (mapping : ∀ entries, (∀ entry ∈ entries, motive entry.2) → motive (.mapping entries))
    (tagged : ∀ tag value, motive value → motive (.tagged tag value)) (value : Yaml) :
    motive value := by
  refine @Yaml.rec motive (fun items => ∀ item ∈ items, motive item)
    (fun entries => ∀ entry ∈ entries, motive entry.2) (fun entry => motive entry.2)
    null boolean integer float text sequence mapping tagged ?_ ?_ ?_ ?_ ?_ value
  · intro item member
    cases member
  · intro head rest atHead inRest item member
    rcases List.mem_cons.mp member with rfl | later
    · exact atHead
    · exact inRest item later
  · intro entry member
    cases member
  · intro head rest atHead inRest entry member
    rcases List.mem_cons.mp member with rfl | later
    · exact atHead
    · exact inRest entry later
  · exact fun _ _ _ ofValue => ofValue

variable {items : List Yaml} {entries : List (Yaml × Yaml)}

theorem isPlain_sequence_iff : (sequence items).IsPlain ↔ ∀ item ∈ items, item.IsPlain := by
  constructor
  · exact fun plain item member part inside => plain part (.item member inside)
  · intro plain part inside
    cases inside with
    | whole => exact id
    | item member deeper => exact plain _ member part deeper

theorem isPlain_mapping_iff :
    (mapping entries).IsPlain ↔
      ∀ entry ∈ entries, (untaggedText? entry.1).isSome ∧ entry.2.IsPlain := by
  constructor
  · intro plain entry member
    constructor
    · rw [Option.isSome_iff_ne_none]
      exact fun nameless => plain _ .whole ⟨entry, member, nameless⟩
    · exact fun part inside => plain part (.value member inside)
  · intro plain part inside
    cases inside with
    | whole =>
        rintro ⟨entry, member, nameless⟩
        exact Option.isSome_iff_ne_none.mp (plain entry member).1 nameless
    | value member deeper => exact (plain _ member).2 part deeper

theorem itemsToJson?_eq_some_iff {values : List Json} :
    itemsToJson? items = some values ↔
      List.Forall₂ (fun item value => item.toJson? = some value) items values := by
  induction items generalizing values with
  | nil => simp [itemsToJson?, eq_comm]
  | cons item rest ih =>
      simp only [itemsToJson?, Option.bind_eq_bind, Option.bind_eq_some_iff, Option.pure_def,
        Option.some.injEq, ih, List.forall₂_cons_left_iff]
      constructor
      · rintro ⟨value, ofItem, others, ofRest, rfl⟩
        exact ⟨value, others, ofItem, ofRest, rfl⟩
      · rintro ⟨value, others, ofItem, ofRest, rfl⟩
        exact ⟨value, ofItem, others, ofRest, rfl⟩

theorem entriesToJson?_eq_some_iff {fields : List (String × Json)} :
    entriesToJson? entries = some fields ↔
      List.Forall₂ (fun entry field => untaggedText? entry.1 = some field.1 ∧
        entry.2.toJson? = some field.2) entries fields := by
  induction entries generalizing fields with
  | nil => simp [entriesToJson?, eq_comm]
  | cons entry rest ih =>
      simp only [entriesToJson?, Option.bind_eq_bind, Option.bind_eq_some_iff, Option.pure_def,
        Option.some.injEq, ih, List.forall₂_cons_left_iff]
      constructor
      · rintro ⟨name, ofKey, value, ofValue, others, ofRest, rfl⟩
        exact ⟨(name, value), others, ⟨ofKey, ofValue⟩, ofRest, rfl⟩
      · rintro ⟨⟨name, value⟩, others, ⟨ofKey, ofValue⟩, ofRest, rfl⟩
        exact ⟨name, ofKey, value, ofValue, others, ofRest, rfl⟩

theorem isSome_itemsToJson?_iff :
    (itemsToJson? items).isSome ↔ ∀ item ∈ items, item.toJson?.isSome := by
  induction items with
  | nil => simp [itemsToJson?]
  | cons item rest ih =>
      rw [List.forall_mem_cons, ← ih]
      cases first : item.toJson? <;> cases others : itemsToJson? rest <;>
        simp [itemsToJson?, first, others]

theorem isSome_entriesToJson?_iff :
    (entriesToJson? entries).isSome ↔
      ∀ entry ∈ entries, (untaggedText? entry.1).isSome ∧ entry.2.toJson?.isSome := by
  induction entries with
  | nil => simp [entriesToJson?]
  | cons entry rest ih =>
      rw [List.forall_mem_cons, ← ih]
      cases name : untaggedText? entry.1 <;> cases value : entry.2.toJson? <;>
        cases others : entriesToJson? rest <;> simp [entriesToJson?, name, value, others]

/-- A value becomes JSON exactly if no part of it is foreign to JSON. -/
theorem isSome_toJson?_iff (value : Yaml) : value.toJson?.isSome ↔ value.IsPlain := by
  have scalar : ∀ {scalar : Yaml}, (∀ part, IsPart part scalar → part = scalar) →
      ¬ scalar.IsForeign → scalar.IsPlain := by
    intro scalar single unlike part inside foreign
    exact unlike (single part inside ▸ foreign)
  induction value using inductionOnParts with
  | null | boolean _ | integer _ | float _ | text _ =>
      refine iff_of_true rfl (scalar ?_ id)
      intro part inside
      cases inside
      rfl
  | sequence items ih =>
      rw [toJson?, Option.isSome_map, isSome_itemsToJson?_iff, isPlain_sequence_iff]
      exact forall₂_congr ih
  | mapping entries ih =>
      rw [toJson?, Option.isSome_map, isSome_entriesToJson?_iff, isPlain_mapping_iff]
      exact forall₂_congr fun entry member => and_congr_right fun _ => ih entry member
  | tagged tag value _ =>
      refine iff_of_false (by simp [toJson?]) ?_
      exact fun plain => plain _ .whole trivial

theorem toJson?_eq_none_iff (value : Yaml) : value.toJson? = none ↔ ¬ value.IsPlain := by
  rw [← isSome_toJson?_iff, Option.not_isSome_iff_eq_none]

end Yaml

end BackOfEnvelope
