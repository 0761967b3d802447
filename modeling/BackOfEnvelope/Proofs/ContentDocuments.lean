import BackOfEnvelope.ContentLoading
import BackOfEnvelope.Proofs.DictionaryHistory
import BackOfEnvelope.Proofs.FileLookups
import BackOfEnvelope.Proofs.IndexTexts

/-!
# Documents of content directories

Whatever stands in a content directory, every entry of its index is a document: a file
that cannot be read is an empty one, and front matter that cannot be read has no fields.
The documents come in the order of the index.  Each of them is a scenario, and of those
that name one variable, the last one is the variable.
-/

namespace BackOfEnvelope

namespace FileSystem

variable {files : FileSystem} {path : String}

theorem readLeniently_of_error {error : FileError} (failed : files.readText path = .error error) :
    files.readLeniently path = "" := by
  unfold readText at failed
  unfold readLeniently
  split at failed
  · next found => rw [found]
  · next found => rw [found]; rfl
  · next content found =>
      rw [found]
      cases decoded : String.fromUTF8? content with
      | none => simp only [FileTree.textOrEmpty, decoded]
      | some text => simp [decoded] at failed

theorem readLeniently_of_ok {text : String} (read : files.readText path = .ok text) :
    files.readLeniently path = String.ofList (unifyLineEnds text.toList) := by
  unfold readText at read
  unfold readLeniently
  split at read
  · cases read
  · cases read
  · next content found =>
      rw [found]
      cases decoded : String.fromUTF8? content with
      | none => simp [decoded] at read
      | some held =>
          simp only [decoded, Except.ok.injEq] at read
          simp only [FileTree.textOrEmpty, decoded, read]

end FileSystem

namespace LoadedDocument

/-- What is loaded of a file of a category.  The empty category is that of the files at the
root. -/
structure IsAt (files : FileSystem) (directory category filename : String)
    (loaded : LoadedDocument) : Prop where
  ofCategory : loaded.category = category
  ofFilename : loaded.filename = filename
  rootPath : category = "" → loaded.path = Path.join directory filename
  categoryPath : category ≠ "" → loaded.path = Path.join (Path.join directory category) filename
  /-- A file that cannot be read counts as an empty one. -/
  unreadable : ∀ error, files.readText loaded.path = .error error → loaded.document = ⟨[], ""⟩
  wellFormed : ∀ text document, files.readText loaded.path = .ok text →
    Document.parse (String.ofList (unifyLineEnds text.toList)) = .ok document →
      loaded.document = document
  /-- Front matter that cannot be read has no fields, and is not in the body. -/
  malformed : ∀ text error, files.readText loaded.path = .ok text →
    Document.parse (String.ofList (unifyLineEnds text.toList)) = .error error →
      loaded.document = ⟨[], (Document.divide (String.ofList (unifyLineEnds text.toList))).2⟩

/-- The document of an entry of an index. -/
def ofEntry (files : FileSystem) (directory : String) (entry : String × String) :
    LoadedDocument :=
  let path := ContentIndex.entryPath directory entry.1 entry.2
  ⟨entry.1, entry.2, path, Document.parseLeniently (files.readLeniently path)⟩

theorem document_ofEntry (files : FileSystem) (directory : String) (entry : String × String) :
    (ofEntry files directory entry).document =
      Document.parseLeniently (files.readLeniently (ofEntry files directory entry).path) := by
  rw [ofEntry]

theorem isAt_ofEntry (files : FileSystem) (directory category filename : String) :
    (ofEntry files directory (category, filename)).IsAt files directory category filename where
  ofCategory := rfl
  ofFilename := rfl
  rootPath := by
    rintro rfl
    rfl
  categoryPath := by
    intro named
    simp [ofEntry, ContentIndex.entryPath, named]
  unreadable := by
    intro error failed
    rw [document_ofEntry, FileSystem.readLeniently_of_error failed]
    rfl
  wellFormed := by
    intro text document read parsed
    rw [document_ofEntry, FileSystem.readLeniently_of_ok read, Document.parseLeniently, parsed]
  malformed := by
    intro text error read failed
    rw [document_ofEntry, FileSystem.readLeniently_of_ok read, Document.parseLeniently, failed]

/-- Documents in the order of the index of a directory: those at the root, and then those of
each category.  Without an index there are none. -/
structure Listed (files : FileSystem) (directory : String) (documents : List LoadedDocument) :
    Prop where
  indexed : ∀ index, ContentIndex.IsIndexOf files directory index →
    ∃ root groups, documents = root ++ groups.flatten ∧
      List.Forall₂ (IsAt files directory "") index.files root ∧
      List.Forall₂ (fun entry => List.Forall₂ (IsAt files directory entry.1) entry.2)
        index.categories.entries groups
  noIndex : (∀ index, ¬ ContentIndex.IsIndexOf files directory index) → documents = []

theorem listed_loadAll (files : FileSystem) (directory : String) :
    Listed files directory (loadAll files directory) where
  indexed := by
    intro index ofDirectory
    have read := ContentIndex.read_eq_ok_iff.mpr ofDirectory
    refine ⟨index.files.map fun filename => ofEntry files directory ("", filename),
      index.categories.entries.map fun entry =>
        entry.2.map fun filename => ofEntry files directory (entry.1, filename), ?_, ?_, ?_⟩
    · -- The entries of all categories are one list, divided here into those of each.
      simp only [loadAll, ContentIndex.readLeniently, read, ContentIndex.entries,
        List.map_append, List.map_map, List.map_flatMap, ← List.flatMap_def]
      rfl
    · rw [List.forall₂_map_right_iff]
      exact List.forall₂_same.mpr fun filename _ => isAt_ofEntry files directory "" filename
    · rw [List.forall₂_map_right_iff]
      refine List.forall₂_same.mpr fun entry _ => ?_
      rw [List.forall₂_map_right_iff]
      exact List.forall₂_same.mpr fun filename _ => isAt_ofEntry files directory entry.1 filename
  noIndex := by
    intro noIndex
    cases read : ContentIndex.read files directory with
    | ok index => exact absurd (ContentIndex.read_eq_ok_iff.mp read) (noIndex index)
    | error _ =>
        simp only [loadAll, ContentIndex.readLeniently, read]
        rfl

/-- The name of the variable that a document gives. -/
def variableName? (loaded : LoadedDocument) : Option String :=
  loaded.document.frontMatter.text? "variable_name"

/-- The entry that a document makes in a set of variables. -/
def namedVariable? (loaded : LoadedDocument) : Option (String × Variable) :=
  loaded.toVariable?.map fun item => (item.name, item)

theorem namedVariable?_eq_some_iff {loaded : LoadedDocument} {name : String} {item : Variable} :
    loaded.namedVariable? = some (name, item) ↔ loaded.variableName? = some name ∧
      item = ⟨name, loaded.document.frontMatter, loaded.document.body, loaded.category,
        loaded.path⟩ := by
  unfold namedVariable? toVariable? variableName?
  cases loaded.document.frontMatter.text? "variable_name" with
  | none => simp
  | some given =>
      simp only [Option.map_some, Option.some.injEq, Prod.mk.injEq]
      constructor
      · rintro ⟨rfl, rfl⟩
        exact ⟨rfl, rfl⟩
      · rintro ⟨rfl, rfl⟩
        exact ⟨rfl, rfl⟩

theorem map_fst_namedVariable? (loaded : LoadedDocument) :
    loaded.namedVariable?.map Prod.fst = loaded.variableName? := by
  unfold namedVariable? toVariable? variableName?
  cases loaded.document.frontMatter.text? "variable_name" <;> rfl

end LoadedDocument

namespace VariableSet

/-- A set holds the variables of documents. -/
structure Gathers (set : VariableSet) (documents : List LoadedDocument) : Prop where
  /-- The names are the different ones of the documents in the order in which they first
  occur. -/
  names : set.keys = (documents.filterMap LoadedDocument.variableName?).eraseDups
  /-- Of the documents that give a name, the last one is the variable. -/
  found : ∀ name item, set.find? name = some item ↔
    ∃ before last after, documents = before ++ last :: after ∧ last.variableName? = some name ∧
      (∀ later ∈ after, later.variableName? ≠ some name) ∧
      item = ⟨name, last.document.frontMatter, last.document.body, last.category, last.path⟩

theorem load_eq_ofList (files : FileSystem) (directory : String) :
    load files directory = OrderedDictionary.ofList
      ((LoadedDocument.loadAll files directory).filterMap LoadedDocument.namedVariable?) := by
  rw [load, List.map_filterMap]
  rfl

theorem load_gathers (files : FileSystem) (directory : String) :
    (load files directory).Gathers (LoadedDocument.loadAll files directory) where
  names := by
    rw [load_eq_ofList, OrderedDictionary.keys_ofList, List.map_filterMap]
    simp only [LoadedDocument.map_fst_namedVariable?]
  found := by
    intro name item
    rw [load_eq_ofList, OrderedDictionary.find?_ofList_filterMap_iff]
    constructor
    · rintro ⟨before, last, after, divided, given, others⟩
      obtain ⟨named, rfl⟩ := LoadedDocument.namedVariable?_eq_some_iff.mp given
      refine ⟨before, last, after, divided, named, ?_, rfl⟩
      intro later isLater laterNamed
      exact others later isLater _
        (LoadedDocument.namedVariable?_eq_some_iff.mpr ⟨laterNamed, rfl⟩)
    · rintro ⟨before, last, after, divided, named, others, same⟩
      refine ⟨before, last, after, divided,
        LoadedDocument.namedVariable?_eq_some_iff.mpr ⟨named, same⟩, ?_⟩
      intro later isLater other given
      exact others later isLater (LoadedDocument.namedVariable?_eq_some_iff.mp given).1

/-- A namespace holds the numbers of variables. -/
structure HasNumbers (set : VariableSet) (names : Namespace) : Prop where
  sameNames : names.keys = set.keys
  number : ∀ name item number, set.find? name = some item →
    NumericValue.ofOption (item.fields.get? "value") = .ok number →
      names.binding name = some (some number)
  /-- A variable whose value is not a number counts as zero. -/
  zero : ∀ name item error, set.find? name = some item →
    NumericValue.ofOption (item.fields.get? "value") = .error error →
      names.binding name = some (some 0.0)
  valued : ∀ name, names.binding name ≠ some none

theorem HasNumbers.binding_of_found {set : VariableSet} {names : Namespace} {name : String}
    {item : Variable} (numbers : set.HasNumbers names) (found : set.find? name = some item) :
    names.binding name =
      some (some ((NumericValue.ofOption (item.fields.get? "value")).toOption.getD 0.0)) := by
  cases value : NumericValue.ofOption (item.fields.get? "value") with
  | ok number => exact numbers.number name item number found value
  | error error => exact numbers.zero name item error found value

theorem hasNumbers_toNamespace (set : VariableSet) : set.HasNumbers set.toNamespace where
  sameNames := OrderedDictionary.keys_mapValues _ set
  number := by
    intro name item number found value
    unfold toNamespace Namespace.binding
    rw [OrderedDictionary.find?_mapValues, found]
    simp only [Option.map_some, NumericValue.orZero, Variable.value?, value]
  zero := by
    intro name item error found noValue
    unfold toNamespace Namespace.binding
    rw [OrderedDictionary.find?_mapValues, found]
    simp only [Option.map_some, NumericValue.orZero, Variable.value?, noValue]
  valued := by
    intro name
    unfold toNamespace Namespace.binding
    rw [OrderedDictionary.find?_mapValues]
    cases set.find? name <;> simp

end VariableSet

namespace Scenario

/-- A scenario is a document. -/
structure IsOf (loaded : LoadedDocument) (scenario : Scenario) : Prop where
  fields : scenario.fields = loaded.document.frontMatter
  body : scenario.body = loaded.document.body
  path : scenario.path = loaded.path
  filename : scenario.filename = loaded.filename
  givenCategory : ∀ text, loaded.document.frontMatter.text? "category" = some text →
    scenario.category = text
  ownCategory : loaded.document.frontMatter.text? "category" = none →
    scenario.category = loaded.category

theorem isOf_scenario (loaded : LoadedDocument) : IsOf loaded loaded.scenario where
  fields := rfl
  body := rfl
  path := rfl
  filename := rfl
  givenCategory := by
    intro text given
    simp [LoadedDocument.scenario, given]
  ownCategory := by
    intro absent
    simp [LoadedDocument.scenario, absent]

theorem forall₂_isOf_load (files : FileSystem) (directory : String) :
    List.Forall₂ IsOf (LoadedDocument.loadAll files directory) (load files directory) := by
  rw [load, List.forall₂_map_right_iff]
  exact List.forall₂_same.mpr fun loaded _ => isOf_scenario loaded

end Scenario

/-- What the documents of a directory are, and which variables, numbers and scenarios they
give. -/
theorem LoadedDocument.loadAll_gives_variables_and_scenarios (files : FileSystem)
    (directory : String) :
    Listed files directory (loadAll files directory) ∧
      (VariableSet.load files directory).Gathers (loadAll files directory) ∧
      (VariableSet.load files directory).HasNumbers
        (VariableSet.load files directory).toNamespace ∧
      List.Forall₂ Scenario.IsOf (loadAll files directory) (Scenario.load files directory) :=
  ⟨listed_loadAll files directory, VariableSet.load_gathers files directory,
    VariableSet.hasNumbers_toNamespace _, Scenario.forall₂_isOf_load files directory⟩

/-! ### A directory with a repeated name -/

/-- What is looked up in a document: the name of its variable, its category, its number and its
body. -/
def Document.outline (document : Document) :
    Option String × Option String × Option Float × String :=
  (document.frontMatter.text? "variable_name", document.frontMatter.text? "category",
    (NumericValue.ofOption (document.frontMatter.get? "value")).toOption, document.body)

namespace LoadedDocument

variable {files : FileSystem} {directory category filename : String} {loaded : LoadedDocument}

theorem IsAt.outline_of_text {path : String}
    {outline : Option String × Option String × Option Float × String}
    (isAt : loaded.IsAt files directory category filename) (atPath : loaded.path = path)
    (text : String) (found : files.find? path = .ok (.file text.toUTF8))
    (oneLineEnd : String.ofList (unifyLineEnds text.toList) = text)
    (seen : (Document.parse text).toOption.map Document.outline = some outline) :
    loaded.document.outline = outline := by
  subst atPath
  cases parsed : Document.parse text with
  | error _ => simp [parsed, Except.toOption] at seen
  | ok document =>
      rw [isAt.wellFormed text document (FileSystem.readText_of_find? found)
        (by rw [oneLineEnd, parsed])]
      simpa [parsed, Except.toOption] using seen

/-- One of the four files is missing. -/
def shopIndex : String :=
  "\x7b\"files\":[\"a.md\",\"gone.md\"],\"categories\":\x7b\"web\":[\"b.md\",\"c.md\"]\x7d\x7d"

def firstText : String :=
  "---\nvariable_name: n\nvalue: 1\n---\nA"

def secondText : String :=
  "---\nvariable_name: n\nvalue: 2.5\ncategory: new\n---\nB"

def thirdText : String :=
  "---\nvariable_name: m\nvalue: lots\n---\n"

def shop : FileSystem :=
  ⟨.directory [("shop", .directory
    [("index.json", .file shopIndex.toUTF8), ("a.md", .file firstText.toUTF8),
      ("web", .directory [("b.md", .file secondText.toUTF8), ("c.md", .file thirdText.toUTF8)])])],
    []⟩

theorem isIndexOf_shop :
    ContentIndex.IsIndexOf shop "shop"
      ⟨["a.md", "gone.md"], .ofList [("web", ["b.md", "c.md"])], none⟩ := by
  -- Names and texts are spelled by their code units.
  have tree : JsonSyntax.ofText? shopIndex = some (.object
      [([102, 105, 108, 101, 115], .array
          [.text [97, 46, 109, 100], .text [103, 111, 110, 101, 46, 109, 100]]),
        ([99, 97, 116, 101, 103, 111, 114, 105, 101, 115], .object
          [([119, 101, 98], .array
            [.text [98, 46, 109, 100], .text [99, 46, 109, 100]])])]) := by
    rw [shopIndex]
    cbv
  refine ⟨shopIndex, _, FileSystem.readText_of_find? rfl, tree, ?_⟩
  exact ContentIndex.ofSyntax?_eq_some_iff.mp rfl

theorem Listed.of_shop {documents : List LoadedDocument} (listed : Listed shop "shop" documents) :
    ∃ first missing second third, documents = [first, missing, second, third] ∧
      (first.category = "" ∧ first.document.outline = (some "n", none, some 1.0, "A")) ∧
      (missing.category = "" ∧ missing.document = ⟨[], ""⟩) ∧
      (second.category = "web" ∧ second.path = "shop/web/b.md" ∧
        second.document.outline = (some "n", some "new", some 2.5, "B")) ∧
      (third.category = "web" ∧ third.document.outline = (some "m", none, none, "")) := by
  obtain ⟨root, groups, rfl, ofRoot, ofGroups⟩ := listed.indexed _ isIndexOf_shop
  change List.Forall₂ _ ["a.md", "gone.md"] root at ofRoot
  change List.Forall₂ _ [("web", ["b.md", "c.md"])] groups at ofGroups
  rcases ofRoot with _ | ⟨ofFirst, _ | ⟨ofMissing, ⟨⟩⟩⟩
  rcases ofGroups with _ | ⟨_ | ⟨ofSecond, _ | ⟨ofThird, ⟨⟩⟩⟩, ⟨⟩⟩
  rename_i first missing second third
  have firstPath : first.path = "shop/a.md" := ofFirst.rootPath rfl
  have missingPath : missing.path = "shop/gone.md" := ofMissing.rootPath rfl
  have secondPath : second.path = "shop/web/b.md" := ofSecond.categoryPath (by decide)
  have thirdPath : third.path = "shop/web/c.md" := ofThird.categoryPath (by decide)
  refine ⟨first, missing, second, third, rfl, ⟨ofFirst.ofCategory, ?_⟩,
    ⟨ofMissing.ofCategory, ?_⟩, ⟨ofSecond.ofCategory, secondPath, ?_⟩, ofThird.ofCategory, ?_⟩
  · exact ofFirst.outline_of_text firstPath firstText rfl (by decide) (by decide +kernel)
  · exact ofMissing.unreadable .notFound (missingPath ▸ rfl)
  · exact ofSecond.outline_of_text secondPath secondText rfl (by decide) (by decide +kernel)
  · exact ofThird.outline_of_text thirdPath thirdText rfl (by decide) (by decide +kernel)

/-- The variable is that of the second text, and the third one has a value that is no number. -/
theorem loadAll_of_repeated_name :
    let set := VariableSet.load shop "shop"
    set.keys = ["n", "m"] ∧
      (∃ item, set.find? "n" = some item ∧ item.body = "B" ∧ item.category = "web" ∧
        item.path = "shop/web/b.md" ∧ item.fields.text? "category" = some "new") ∧
      set.toNamespace.keys = ["n", "m"] ∧ set.toNamespace.binding "n" = some (some 2.5) ∧
      set.toNamespace.binding "m" = some (some 0.0) ∧
      (Scenario.load shop "shop").map Scenario.category = ["", "", "new", "web"] := by
  intro set
  obtain ⟨listed, gathers, numbers, scenarios⟩ := loadAll_gives_variables_and_scenarios shop "shop"
  obtain ⟨first, missing, second, third, documents, ⟨inRoot, ofFirst⟩, ⟨missingInRoot, ofMissing⟩,
    ⟨inWeb, path, ofSecond⟩, thirdInWeb, ofThird⟩ := listed.of_shop
  simp only [Document.outline, Prod.mk.injEq] at ofFirst ofSecond ofThird
  rw [documents] at gathers scenarios
  have names : set.keys = ["n", "m"] := by
    rw [gathers.names]
    simp only [List.filterMap_cons, variableName?, ofFirst, ofMissing, ofSecond, ofThird]
    rfl
  have foundSecond : set.find? "n" = some ⟨"n", second.document.frontMatter,
      second.document.body, second.category, second.path⟩ :=
    (gathers.found _ _).mpr ⟨[first, missing], second, [third], rfl, ofSecond.1,
      by simp [variableName?, ofThird], rfl⟩
  have foundThird : set.find? "m" = some ⟨"m", third.document.frontMatter,
      third.document.body, third.category, third.path⟩ :=
    (gathers.found _ _).mpr ⟨[first, missing, second], third, [], rfl, ofThird.1, by simp, rfl⟩
  refine ⟨names, ⟨_, foundSecond, ofSecond.2.2.2, inWeb, path, ofSecond.2.1⟩,
    numbers.sameNames.trans names, ?_, ?_, ?_⟩
  · rw [numbers.binding_of_found foundSecond, ofSecond.2.2.1]
    rfl
  · rw [numbers.binding_of_found foundThird, ofThird.2.2.1]
    rfl
  · generalize Scenario.load shop "shop" = loaded at scenarios
    rcases scenarios with _ | ⟨isFirst, _ | ⟨isMissing, _ | ⟨isSecond, _ | ⟨isThird, ⟨⟩⟩⟩⟩⟩
    simp only [List.map_cons, List.map_nil, isFirst.ownCategory ofFirst.2.1,
      isMissing.ownCategory (by rw [ofMissing]; rfl), isSecond.givenCategory _ ofSecond.2.1,
      isThird.ownCategory ofThird.2.1, inRoot, missingInRoot, thirdInWeb]

end LoadedDocument

end BackOfEnvelope
