import BackOfEnvelope.Listing
import BackOfEnvelope.Proofs.ByteOrder
import BackOfEnvelope.Proofs.DictionaryHistory
import BackOfEnvelope.Proofs.FieldSorting
import Mathlib.Algebra.GroupWithZero.Nat
import Mathlib.Data.List.Perm.Basic

/-!
# Groups of content

Variables are divided by type: each is in one group, and the groups keep the order of the set.
Scenarios are divided by category in the same way, but for one name: the category that stands
for all of them selects every scenario, also where a scenario gives that name as its own.
-/

namespace BackOfEnvelope

/-- The groups of distinct keys hold every item with one of the keys as often as the list. -/
theorem perm_flatMap_filter {Item Key : Type} [DecidableEq Key] (keyOf : Item → Key)
    (items : List Item) {keys : List Key} (distinct : keys.Nodup) :
    (keys.flatMap fun key => items.filter fun item => keyOf item = key).Perm
      (items.filter fun item => keyOf item ∈ keys) := by
  induction keys with
  | nil => simp
  | cons key rest ih =>
      obtain ⟨fresh, distinctRest⟩ := List.nodup_cons.mp distinct
      -- The items of all keys are divided into those of the first key and the others.
      let ofAny := items.filter fun item => keyOf item ∈ key :: rest
      have first : (items.filter fun item => keyOf item = key) =
          ofAny.filter fun item => keyOf item = key := by
        rw [List.filter_filter]
        apply List.filter_congr
        intro item _
        by_cases same : keyOf item = key <;> simp [same]
      have others : (items.filter fun item => keyOf item ∈ rest) =
          ofAny.filter fun item => !decide (keyOf item = key) := by
        rw [List.filter_filter]
        apply List.filter_congr
        intro item _
        by_cases same : keyOf item = key <;> simp [same, fresh]
      rw [List.flatMap_cons]
      refine ((ih distinctRest).append_left _).trans ?_
      rw [first, others]
      exact List.filter_append_perm _ ofAny

namespace OrderedDictionary

variable {Key Value : Type} [DecidableEq Key]

/-- Values are found again by their keys. -/
theorem values_eq_map_keys (dictionary : OrderedDictionary Key Value) (otherwise : Value) :
    dictionary.values = dictionary.keys.map fun key => (dictionary.find? key).getD otherwise := by
  rw [values, keys, List.map_map]
  apply List.map_congr_left
  rintro ⟨key, value⟩ member
  have found := (mem_entries_iff dictionary key value).mp member
  simp [found]

end OrderedDictionary

namespace VariableSet

variable {type : String} {item : Variable}

/-- The type of a variable is the text of a field, and without such a text it is unknown. -/
def IsOfType (type : String) (item : Variable) : Prop :=
  item.fields.text? "variable_type" = some type ∨
    item.fields.text? "variable_type" = none ∧ type = "unknown"

instance (type : String) : DecidablePred (IsOfType type) :=
  fun item => inferInstanceAs (Decidable (item.fields.text? "variable_type" = some type ∨ _))

theorem groupOf_eq_iff : groupOf item = type ↔ IsOfType type item := by
  unfold groupOf unknownType Variable.type? IsOfType
  cases item.fields.text? "variable_type" with
  | none => simp [eq_comm]
  | some given => simp

theorem find?_addToGroup (groups : OrderedDictionary String (List Variable)) (item : Variable)
    (type : String) :
    ((addToGroup groups item).find? type).getD [] =
      (groups.find? type).getD [] ++ [item].filter fun item => groupOf item = type := by
  rw [addToGroup, OrderedDictionary.find?_insert]
  by_cases same : groupOf item = type
  · simp [same]
  · simp [same]

/-- Every group grows by the variables of its type in their order. -/
theorem find?_foldl_addToGroup (items : List Variable)
    (groups : OrderedDictionary String (List Variable)) (type : String) :
    ((items.foldl addToGroup groups).find? type).getD [] =
      (groups.find? type).getD [] ++ items.filter fun item => groupOf item = type := by
  induction items generalizing groups with
  | nil => simp
  | cons item rest ih =>
      rw [List.foldl_cons, ih, find?_addToGroup, List.append_assoc, ← List.filter_append]
      rfl

/-- New groups come behind the others. -/
theorem keys_foldl_addToGroup (items : List Variable)
    (groups : OrderedDictionary String (List Variable)) :
    (items.foldl addToGroup groups).keys =
      groups.keys ++ ((items.map groupOf).filter (· ∉ groups.keys)).eraseDups := by
  induction items generalizing groups with
  | nil => simp
  | cons item rest ih =>
      rw [List.foldl_cons, ih, List.map_cons, append_new_cons, addToGroup,
        OrderedDictionary.keys_insert]

theorem find?_byType (set : VariableSet) (type : String) :
    (set.byType.find? type).getD [] = set.values.filter (IsOfType type) := by
  simp only [byType, find?_foldl_addToGroup, groupOf_eq_iff]
  rfl

theorem keys_byType (set : VariableSet) : set.byType.keys = (set.values.map groupOf).eraseDups := by
  rw [byType, keys_foldl_addToGroup,
    List.filter_eq_self.mpr (by simp [OrderedDictionary.keys, OrderedDictionary.empty])]
  rfl

theorem mem_keys_byType_iff (set : VariableSet) :
    type ∈ set.byType.keys ↔ ∃ item ∈ set.values, IsOfType type item := by
  simp only [keys_byType, List.mem_eraseDups, List.mem_map, groupOf_eq_iff]

theorem mem_entries_byType_iff (set : VariableSet) {group : List Variable} :
    (type, group) ∈ set.byType.entries ↔
      group = set.values.filter (IsOfType type) ∧ group ≠ [] := by
  have held := find?_byType set type
  have known : (set.byType.find? type).isSome ↔ set.values.filter (IsOfType type) ≠ [] := by
    have present := (set.byType.mem_keys_iff type).symm.trans (mem_keys_byType_iff set)
    simpa [OrderedDictionary.contains] using present
  rw [OrderedDictionary.mem_entries_iff]
  cases found : set.byType.find? type with
  | none =>
      rw [found] at held
      rw [← held]
      constructor
      · intro absent
        cases absent
      · rintro ⟨rfl, nonempty⟩
        exact absurd rfl nonempty
  | some other =>
      rw [found, Option.getD_some] at held
      rw [found, ← held] at known
      rw [Option.some.injEq, ← held]
      constructor
      · rintro rfl
        exact ⟨rfl, known.mp rfl⟩
      · rintro ⟨same, -⟩
        exact same.symm

/-- No variable is lost, and none is in two groups or twice in one. -/
theorem perm_flatten_byType (set : VariableSet) : set.byType.values.flatten.Perm set.values := by
  have distinct : set.byType.keys.Nodup := set.byType.keysNodup
  have everyOne : (set.values.filter fun item => groupOf item ∈ set.byType.keys) = set.values := by
    refine List.filter_eq_self.mpr fun item member => decide_eq_true ?_
    exact (mem_keys_byType_iff set).mpr ⟨item, member, groupOf_eq_iff.mp rfl⟩
  have grouped := perm_flatMap_filter groupOf set.values distinct
  rw [everyOne] at grouped
  rw [OrderedDictionary.values_eq_map_keys set.byType []]
  simpa only [find?_byType, ← List.flatMap_def, groupOf_eq_iff] using grouped

/-- The groups divide the variables of a set, and a selection by type is a group. -/
theorem byType_divides_variables (set : VariableSet) :
    set.byType.keys =
        (set.values.map fun item =>
          (item.fields.text? "variable_type").getD "unknown").eraseDups ∧
      (∀ type group, (type, group) ∈ set.byType.entries →
        group = set.values.filter (IsOfType type) ∧ group ≠ []) ∧
      (∀ item ∈ set.values, ∃! entry, entry ∈ set.byType.entries ∧ item ∈ entry.2) ∧
      set.byType.values.flatten.Perm set.values ∧
      Listing.selectVariables set none = set.values ∧
      ∀ type, Listing.selectVariables set (some type) = set.values.filter (IsOfType type) := by
  refine ⟨keys_byType set, fun type group => (mem_entries_byType_iff set).mp, ?_,
    perm_flatten_byType set, rfl, find?_byType set⟩
  intro item member
  have own : IsOfType (groupOf item) item := groupOf_eq_iff.mp rfl
  have inGroup : item ∈ set.values.filter (IsOfType (groupOf item)) :=
    List.mem_filter.mpr ⟨member, decide_eq_true own⟩
  refine ⟨(groupOf item, _), ⟨(mem_entries_byType_iff set).mpr ⟨rfl, List.ne_nil_of_mem inGroup⟩,
    inGroup⟩, ?_⟩
  rintro ⟨type, group⟩ ⟨present, inOther⟩
  obtain ⟨rfl, -⟩ := (mem_entries_byType_iff set).mp present
  have same : groupOf item = type :=
    groupOf_eq_iff.mpr (of_decide_eq_true (List.mem_filter.mp inOther).2)
  rw [same]

/-- Two variables have one type, one has a number for its type, and two have none: a list is not
the text of a type. -/
theorem byType_of_mixed_types :
    let rent : Variable := ⟨"rent", [("variable_type", .text "cost")], "", "", ""⟩
    let area : Variable := ⟨"area", [], "", "", ""⟩
    let rooms : Variable := ⟨"rooms", [("variable_type", .integer 3)], "", "", ""⟩
    let power : Variable := ⟨"power", [("variable_type", .text "cost")], "", "", ""⟩
    let owners : Variable := ⟨"owners", [("variable_type", .sequence [])], "", "", ""⟩
    let set : VariableSet := .ofList [("rent", rent), ("area", area), ("rooms", rooms),
      ("power", power), ("owners", owners)]
    set.byType.keys = ["cost", "unknown", "3"] ∧
      ("cost", [rent, power]) ∈ set.byType.entries ∧
      Listing.selectVariables set (some "3") = [rooms] ∧
      Listing.selectVariables set (some "unknown") = [area, owners] := by
  intro rent area rooms power owners set
  obtain ⟨keys, groups, unique, -, -, selects⟩ := byType_divides_variables set
  refine ⟨keys.trans rfl, ?_, (selects "3").trans rfl, (selects "unknown").trans rfl⟩
  obtain ⟨⟨type, group⟩, ⟨present, isIn⟩, -⟩ := unique rent List.mem_cons_self
  obtain ⟨rfl, -⟩ := groups type group present
  rcases of_decide_eq_true (List.mem_filter.mp isIn).2 with cost | ⟨noText, -⟩
  · obtain rfl : "cost" = type := Option.some.inj cost
    exact present
  · cases noText

end VariableSet

namespace Scenario

variable {scenarios : List Scenario} {category : String}

theorem mem_categories_iff :
    category ∈ categories scenarios ↔
      category ≠ "" ∧ ∃ scenario ∈ scenarios, scenario.category = category := by
  rw [categories, Fields.mem_names_sortFields, Fields.names, List.map_map]
  simp only [List.mem_map, List.mem_filter, Function.comp_apply, Bool.not_eq_true',
    String.isEmpty_eq_false_iff]
  constructor
  · rintro ⟨scenario, ⟨member, named⟩, rfl⟩
    exact ⟨named, scenario, member, rfl⟩
  · rintro ⟨named, scenario, member, rfl⟩
    exact ⟨scenario, ⟨member, named⟩, rfl⟩

theorem everyCategory_ne : everyCategory ≠ "" := by
  decide

theorem sorted_categories (scenarios : List Scenario) :
    (categories scenarios).Pairwise (· < ·) :=
  Fields.sorted_sortFields _

theorem nodup_categories (scenarios : List Scenario) : (categories scenarios).Nodup :=
  (Fields.sorted_sortFields _).nodup_names

theorem mem_inCategory_iff {scenario : Scenario} :
    scenario ∈ inCategory scenarios category ↔
      scenario ∈ scenarios ∧ (category = everyCategory ∨ scenario.category = category) := by
  simp [inCategory, isIn]

/-- What a selection holds beyond the scenarios that give its category as their own. -/
def foreignTo (scenarios : List Scenario) (category : String) : List Scenario :=
  if category = everyCategory then
    scenarios.filter fun scenario => scenario.category ≠ everyCategory
  else []

theorem perm_inCategory (scenarios : List Scenario) (category : String) :
    (inCategory scenarios category).Perm
      ((scenarios.filter fun scenario => scenario.category = category) ++
        foreignTo scenarios category) := by
  unfold foreignTo
  split
  next every =>
    subst every
    have all : inCategory scenarios everyCategory = scenarios := by simp [inCategory, isIn]
    rw [all]
    simpa using (List.filter_append_perm (fun scenario => scenario.category = everyCategory)
      scenarios).symm
  next named =>
    rw [List.append_nil, inCategory]
    refine List.Perm.of_eq (List.filter_congr fun scenario _ => ?_)
    simp [isIn, named]

theorem flatMap_foreignTo (scenarios : List Scenario) {names : List String}
    (distinct : names.Nodup) :
    names.flatMap (foreignTo scenarios) =
      if everyCategory ∈ names then foreignTo scenarios everyCategory else [] := by
  induction names with
  | nil => rfl
  | cons name rest ih =>
      obtain ⟨fresh, distinctRest⟩ := List.nodup_cons.mp distinct
      rw [List.flatMap_cons, ih distinctRest]
      by_cases every : name = everyCategory
      · subst every
        simp [fresh]
      · simp [foreignTo, every, Ne.symm every]

/-- Together the selections hold every scenario with a category once, and if some scenario
gives the category for all as its own, every scenario of another category once more. -/
theorem perm_flatMap_inCategory (scenarios : List Scenario) :
    ((categories scenarios).flatMap (inCategory scenarios)).Perm
      ((scenarios.filter fun scenario => scenario.category ≠ "") ++
        if everyCategory ∈ categories scenarios then
          scenarios.filter fun scenario => scenario.category ≠ everyCategory
        else []) := by
  have distinct := nodup_categories scenarios
  have listed : (scenarios.filter fun scenario => scenario.category ∈ categories scenarios) =
      scenarios.filter fun scenario => scenario.category ≠ "" := by
    refine List.filter_congr fun scenario member => ?_
    rw [decide_eq_decide, mem_categories_iff]
    exact and_iff_left ⟨scenario, member, rfl⟩
  have own := perm_flatMap_filter Scenario.category scenarios distinct
  rw [listed] at own
  have foreign := flatMap_foreignTo scenarios distinct
  refine (List.Perm.flatMap_left _ fun category _ => perm_inCategory scenarios category).trans ?_
  refine (List.flatMap_append_perm _ _ _).symm.trans ?_
  rw [foreign]
  exact own.append_right _

/-- The selections of the categories divide the scenarios, but for the category that stands for
all of them. -/
theorem categories_divide_scenarios (scenarios : List Scenario) :
    (categories scenarios).Pairwise
        (fun category other => utf8Bytes category < utf8Bytes other) ∧
      (∀ scenario ∈ scenarios, scenario.category ≠ "" →
        scenario.category ∈ categories scenarios ∧
          ∀ category, scenario ∈ inCategory scenarios category ↔
            category = scenario.category ∨ category = everyCategory) ∧
      (∀ category, (inCategory scenarios category).Sublist scenarios) ∧
      ((categories scenarios).flatMap (inCategory scenarios)).Perm
        ((scenarios.filter fun scenario => scenario.category ≠ "") ++
          if ∃ scenario ∈ scenarios, scenario.category = everyCategory then
            scenarios.filter fun scenario => scenario.category ≠ everyCategory
          else []) ∧
      ((categories scenarios).map fun category => (inCategory scenarios category).length).sum =
        (scenarios.countP fun scenario => scenario.category ≠ "") +
          if ∃ scenario ∈ scenarios, scenario.category = everyCategory then
            scenarios.countP fun scenario => scenario.category ≠ everyCategory
          else 0 := by
  have together := perm_flatMap_inCategory scenarios
  simp only [mem_categories_iff, and_iff_right everyCategory_ne] at together
  refine ⟨(sorted_categories scenarios).imp utf8Bytes_lt_of_lt, ?_,
    fun category => List.filter_sublist, together, ?_⟩
  · intro scenario member named
    refine ⟨mem_categories_iff.mpr ⟨named, scenario, member, rfl⟩, fun category => ?_⟩
    rw [mem_inCategory_iff, and_iff_right member, or_comm, eq_comm]
  · have sizes := together.length_eq
    rw [List.length_flatMap, List.length_append, apply_ite List.length] at sizes
    simp only [List.countP_eq_length_filter]
    exact sizes

/-- A scenario that has nothing but a category. -/
def ofCategory (category : String) : Scenario :=
  ⟨[], "", category, "", ""⟩

/-- A scenario is in the selection of the category for all beside that of its own. -/
theorem selections_overlap_of_everyCategory :
    let web := ofCategory "web"
    let scenarios := [ofCategory "All", web]
    web ∈ scenarios ∧ web.category ≠ "" ∧
      (¬ ∃! category, category ∈ categories scenarios ∧ web ∈ inCategory scenarios category) ∧
      ((categories scenarios).map fun category => (inCategory scenarios category).length).sum = 3 ∧
      (scenarios.countP fun scenario => scenario.category ≠ "") = 2 := by
  intro web scenarios
  have listed : categories scenarios = ["All", "web"] := by decide
  have isLast : web ∈ scenarios := List.mem_cons_of_mem _ (List.mem_singleton.mpr rfl)
  refine ⟨isLast, by decide, ?_, by decide, by decide⟩
  rintro ⟨only, -, unique⟩
  rw [listed] at unique
  have all := unique "All" ⟨by decide, mem_inCategory_iff.mpr ⟨isLast, .inl rfl⟩⟩
  have own := unique "web" ⟨by decide, mem_inCategory_iff.mpr ⟨isLast, .inr rfl⟩⟩
  exact absurd (all.trans own.symm) (by decide)

end Scenario

end BackOfEnvelope
