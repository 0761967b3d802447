import BackOfEnvelope.ContentIndex
import Mathlib.Data.List.Forall2

/-!
# What the text of an index says

The index of a content directory is what the JSON text of its file describes: lists of texts under
the names of the fields, among other fields that do not count, or the same values in a list.  A
field that is missing stands for no documents.  There is no index if the file cannot be read, if
its text is not JSON, or if a part of it has another form.
-/

namespace BackOfEnvelope

theorem mapM_eq_some_iff {Item Result : Type} {read? : Item → Option Result} {items : List Item}
    {results : List Result} :
    items.mapM read? = some results ↔
      List.Forall₂ (fun item result => read? item = some result) items results := by
  induction items generalizing results with
  | nil => simp [eq_comm]
  | cons item rest ih =>
      simp only [List.mapM_cons, Option.bind_eq_bind, Option.bind_eq_some_iff, Option.pure_def,
        Option.some.injEq, ih, List.forall₂_cons_left_iff]
      constructor
      · rintro ⟨result, ofItem, others, ofRest, rfl⟩
        exact ⟨result, others, ofItem, ofRest, rfl⟩
      · rintro ⟨result, others, ofItem, ofRest, rfl⟩
        exact ⟨result, ofItem, others, ofRest, rfl⟩

namespace ContentIndex

/-- A string is a text if its surrogates come in pairs. -/
def IsText (value : JsonSyntax) (text : String) : Prop :=
  ∃ units, value = .text units ∧ JsonSyntax.toText? units = some text

def AreTexts (value : JsonSyntax) (texts : List String) : Prop :=
  ∃ items, value = .array items ∧ List.Forall₂ IsText items texts

/-- Lists of texts by name, where of lists with one name the last counts. -/
def AreCategories (value : JsonSyntax)
    (categories : OrderedDictionary String (List String)) : Prop :=
  ∃ fields groups, value = .object fields ∧ categories = OrderedDictionary.ofList groups ∧
    List.Forall₂ (fun (field : List Nat × JsonSyntax) (group : String × List String) =>
      JsonSyntax.toText? field.1 = some group.1 ∧ AreTexts field.2 group.2) fields groups

/-- A date is a text, and null is none. -/
def IsDate (value : JsonSyntax) (date : Option String) : Prop :=
  value = .null ∧ date = none ∨ ∃ text, IsText value text ∧ date = some text

/-- The value of a field, which must not occur twice, or its absence. -/
def IsField (fields : List (String × JsonSyntax)) (name : String) (value : Option JsonSyntax) :
    Prop :=
  (fields.filter fun field => field.1 = name).map Prod.snd = value.toList

/-- The values of an index: those of its documents, its categories and its date.  An object has
them under their names, and a list in this order. -/
inductive HasParts : JsonSyntax → Option JsonSyntax → Option JsonSyntax → Option JsonSyntax → Prop
  | object {fields : List (List Nat × JsonSyntax)} {named : List (String × JsonSyntax)}
      {files categories date : Option JsonSyntax}
      (names : List.Forall₂ (fun field other =>
        JsonSyntax.toText? field.1 = some other.1 ∧ field.2 = other.2) fields named)
      (ofFiles : IsField named "files" files)
      (ofCategories : IsField named "categories" categories)
      (ofDate : IsField named "last_updated" date) :
      HasParts (.object fields) files categories date
  | array {items : List JsonSyntax} (short : items.length ≤ 3) :
      HasParts (.array items) items[0]? items[1]? items[2]?

/-- A part is what its value describes, and `missing` if it has none. -/
def OrMissing {Part : Type} (describes : JsonSyntax → Part → Prop) (missing : Part)
    (value : Option JsonSyntax) (part : Part) : Prop :=
  (value = none ∧ part = missing) ∨ ∃ given, value = some given ∧ describes given part

def Describes (value : JsonSyntax) (index : ContentIndex) : Prop :=
  ∃ files categories date, HasParts value files categories date ∧
    OrMissing AreTexts [] files index.files ∧
    OrMissing AreCategories OrderedDictionary.empty categories index.categories ∧
    OrMissing IsDate none date index.lastUpdated

/-- The index of a directory is described by the JSON text of a file in it. -/
def IsIndexOf (files : FileSystem) (directory : String) (index : ContentIndex) : Prop :=
  ∃ text value, files.readText (Path.join directory "index.json") = .ok text ∧
    JsonSyntax.ofText? text = some value ∧ Describes value index

variable {value : JsonSyntax} {text name : String} {texts : List String}

theorem readString?_eq_some_iff : readString? value = some text ↔ IsText value text := by
  unfold IsText
  cases value <;> simp [readString?]

theorem readStrings?_eq_some_iff : readStrings? value = some texts ↔ AreTexts value texts := by
  unfold AreTexts
  cases value with
  | array items =>
      simp only [readStrings?, mapM_eq_some_iff, readString?_eq_some_iff, JsonSyntax.array.injEq,
        exists_eq_left']
  | null | boolean _ | number _ | text _ | object _ => simp [readStrings?]

theorem readCategories?_eq_some_iff {categories : OrderedDictionary String (List String)} :
    readCategories? value = some categories ↔ AreCategories value categories := by
  unfold AreCategories
  cases value with
  | object fields =>
      have each : ∀ (field : List Nat × JsonSyntax) (group : String × List String),
          (do
            let name ← JsonSyntax.toText? field.1
            let files ← readStrings? field.2
            return (name, files)) = some group ↔
          JsonSyntax.toText? field.1 = some group.1 ∧ AreTexts field.2 group.2 := by
        rintro field ⟨name, files⟩
        simp [← readStrings?_eq_some_iff, Option.bind_eq_some_iff]
      simp only [readCategories?, Option.map_eq_some_iff, mapM_eq_some_iff, each,
        JsonSyntax.object.injEq]
      constructor
      · rintro ⟨groups, ofFields, rfl⟩
        exact ⟨fields, groups, rfl, rfl, ofFields⟩
      · rintro ⟨_, groups, rfl, rfl, ofFields⟩
        exact ⟨groups, ofFields, rfl⟩
  | null | boolean _ | number _ | text _ | array _ => simp [readCategories?]

theorem readDate?_eq_some_iff {date : Option String} :
    readDate? value = some date ↔ IsDate value date := by
  unfold IsDate
  simp only [← readString?_eq_some_iff]
  cases value with
  | null => simp [readDate?, readString?, eq_comm]
  | boolean _ | number _ | text _ | array _ | object _ =>
      simp [readDate?, Option.map_eq_some_iff, @eq_comm _ date]

theorem field?_eq_some_iff {fields : List (String × JsonSyntax)} {given : Option JsonSyntax} :
    field? name fields = some given ↔ IsField fields name given := by
  unfold field? IsField
  cases fields.filter fun field => field.1 = name with
  | nil => cases given <;> simp
  | cons field others => cases others <;> cases given <;> simp

theorem getD_map_eq_some_iff {Part : Type} {read? : JsonSyntax → Option Part}
    {describes : JsonSyntax → Part → Prop} {missing part : Part}
    (reads : ∀ value part, read? value = some part ↔ describes value part)
    (value : Option JsonSyntax) :
    (value.map read?).getD (some missing) = some part ↔
      OrMissing describes missing value part := by
  unfold OrMissing
  cases value with
  | none => simp [eq_comm]
  | some given => simp [reads]

theorem ofFields?_eq_some_iff {files categories date : Option JsonSyntax} {index : ContentIndex} :
    ofFields? files categories date = some index ↔
      OrMissing AreTexts [] files index.files ∧
        OrMissing AreCategories OrderedDictionary.empty categories index.categories ∧
        OrMissing IsDate none date index.lastUpdated := by
  rw [← getD_map_eq_some_iff (fun _ _ => readStrings?_eq_some_iff),
    ← getD_map_eq_some_iff (fun _ _ => readCategories?_eq_some_iff),
    ← getD_map_eq_some_iff (fun _ _ => readDate?_eq_some_iff)]
  unfold ofFields?
  simp only [Option.bind_eq_bind, Option.bind_eq_some_iff, Option.pure_def, Option.some.injEq]
  constructor
  · rintro ⟨held, ofFiles, groups, ofCategories, day, ofDate, rfl⟩
    exact ⟨ofFiles, ofCategories, ofDate⟩
  · rintro ⟨ofFiles, ofCategories, ofDate⟩
    exact ⟨_, ofFiles, _, ofCategories, _, ofDate, rfl⟩

theorem ofSyntax?_array (items : List JsonSyntax) :
    ofSyntax? (.array items) =
      if items.length ≤ 3 then ofFields? items[0]? items[1]? items[2]? else none := by
  rcases items with _ | ⟨files, _ | ⟨categories, _ | ⟨date, _ | ⟨further, rest⟩⟩⟩⟩
  · rfl
  · rfl
  · rfl
  · rfl
  · rw [if_neg (by simp)]
    rfl

theorem ofSyntax?_eq_some_iff {index : ContentIndex} :
    ofSyntax? value = some index ↔ Describes value index := by
  unfold Describes
  simp only [← ofFields?_eq_some_iff]
  cases value with
  | object fields =>
      have named : ∀ (field : List Nat × JsonSyntax) (other : String × JsonSyntax),
          (JsonSyntax.toText? field.1).map (fun name => (name, field.2)) = some other ↔
            JsonSyntax.toText? field.1 = some other.1 ∧ field.2 = other.2 := by
        rintro field ⟨name, held⟩
        simp [Option.map_eq_some_iff]
      simp only [ofSyntax?, Option.bind_eq_bind, Option.bind_eq_some_iff, mapM_eq_some_iff, named,
        field?_eq_some_iff]
      constructor
      · rintro ⟨others, names, files, ofFiles, categories, ofCategories, date, ofDate, built⟩
        exact ⟨files, categories, date, .object names ofFiles ofCategories ofDate, built⟩
      · rintro ⟨files, categories, date, parts, built⟩
        cases parts with
        | object names ofFiles ofCategories ofDate =>
            exact ⟨_, names, files, ofFiles, categories, ofCategories, date, ofDate, built⟩
  | array items =>
      rw [ofSyntax?_array]
      constructor
      · intro built
        split at built
        · next short => exact ⟨_, _, _, .array short, built⟩
        · cases built
      · rintro ⟨_, _, _, parts, built⟩
        cases parts with
        | array short => rwa [if_pos short]
  | null | boolean _ | number _ | text _ =>
      refine iff_of_false nofun ?_
      rintro ⟨_, _, _, parts, -⟩
      cases parts

theorem read_eq_ok_iff {files : FileSystem} {directory : String} {index : ContentIndex} :
    read files directory = .ok index ↔ IsIndexOf files directory index := by
  unfold read IsIndexOf
  simp only [← ofSyntax?_eq_some_iff, fileName]
  cases files.readText (Path.join directory "index.json") with
  | error _ => simp
  | ok text =>
      cases tree : JsonSyntax.ofText? text with
      | none => simp [tree]
      | some value => cases described : ofSyntax? value <;> simp [tree, described]

end ContentIndex

end BackOfEnvelope
