import BackOfEnvelope.ContentBundle
import BackOfEnvelope.Proofs.ByteOrder
import BackOfEnvelope.Proofs.FieldSorting
import BackOfEnvelope.Proofs.FileLookups
import BackOfEnvelope.Proofs.TextPieces
import Mathlib.Data.List.Perm.Basic

/-!
# What a bundle holds

A bundle lists every Markdown file of a directory that is not hidden, and lists it once.
The files come in the order of the bytes of their paths, whatever the order in which the
directories list their entries.  There is no bundle only if one of the two directories is
missing.
-/

namespace BackOfEnvelope

namespace Path

variable {name stem extension : String}

theorem dropWhile_append_of_point_notMem {after : List Char} (noPoint : '.' ∉ after)
    (rest : List Char) :
    (after ++ rest).dropWhile (fun c => c != '.') = rest.dropWhile fun c => c != '.' := by
  refine List.dropWhile_append_of_pos fun c member => bne_iff_ne.mpr ?_
  rintro rfl
  exact noPoint member

theorem splitExtension_of_notMem (noPoint : '.' ∉ name.toList) :
    splitExtension name = (name, none) := by
  have noPointReversed : '.' ∉ name.toList.reverse := by rwa [List.mem_reverse]
  have dropped := dropWhile_append_of_point_notMem noPointReversed []
  rw [List.append_nil, List.dropWhile_nil] at dropped
  simp only [splitExtension, dropped, List.drop_nil]

/-- A name is divided at its last point, unless it only begins with that. -/
theorem splitExtension_of_reverse {after before : List Char}
    (divided : name.toList.reverse = after ++ '.' :: before) (noPoint : '.' ∉ after) :
    splitExtension name =
      if before = [] then (name, none)
      else (String.ofList before.reverse, some (String.ofList after.reverse)) := by
  have dropped : (after ++ '.' :: before).dropWhile (fun c => c != '.') = '.' :: before := by
    rw [dropWhile_append_of_point_notMem noPoint, List.dropWhile_cons_of_neg (by simp)]
  have taken : (after ++ '.' :: before).takeWhile (fun c => c != '.') = after := by
    have whole := List.takeWhile_append_dropWhile (p := fun c => c != '.')
      (l := after ++ '.' :: before)
    rw [dropped] at whole
    exact List.append_cancel_right whole
  simp only [splitExtension, divided, taken, dropped, List.drop_succ_cons, List.drop_zero]
  cases before <;> simp

theorem splitExtension_eq_some_iff :
    splitExtension name = (stem, some extension) ↔
      stem ≠ "" ∧ '.' ∉ extension.toList ∧ name = stem ++ "." ++ extension := by
  constructor
  · intro given
    by_cases point : '.' ∈ name.toList
    · obtain ⟨after, before, divided, noPoint⟩ :=
        List.eq_append_cons_of_mem (List.mem_reverse.mpr point)
      rw [splitExtension_of_reverse divided noPoint] at given
      split at given
      · cases given
      next nonempty =>
        cases given
        refine ⟨by simpa using nonempty, by simpa using noPoint, String.ext ?_⟩
        rw [← List.reverse_inj, divided]
        simp
    · rw [splitExtension_of_notMem point] at given
      cases given
  · rintro ⟨nonempty, noPoint, rfl⟩
    have divided : (stem ++ "." ++ extension).toList.reverse =
        extension.toList.reverse ++ '.' :: stem.toList.reverse := by
      simp
    rw [splitExtension_of_reverse divided (by rwa [List.mem_reverse]),
      if_neg (by simpa using nonempty)]
    simp

/-- The names of a path are found again between its slashes. -/
theorem splitText_intercalate {names : List String} (nonempty : names ≠ [])
    (slashFree : ∀ name ∈ names, '/' ∉ name.toList) :
    splitText '/' ("/".intercalate names) = names := by
  have pieces : splitAtCharacter '/' (['/'].intercalate (names.map String.toList)) =
      names.map String.toList :=
    splitAtCharacter_intercalate (by simpa using nonempty) (by simpa using slashFree)
  rw [splitText, String.toList_intercalate]
  exact (congrArg (List.map String.ofList) pieces).trans (by simp)

end Path

namespace BundleEntry

/-- The entry of a file with its names and its bytes. -/
structure IsOf (names : List String) (content : ByteArray) (entry : BundleEntry) : Prop where
  named : names.getLast? = some (entry.name ++ ".md")
  path : entry.relativePath = "/".intercalate names
  text : ∀ text : String, text.toUTF8 = content →
    UnifiesLineEnds text.toList entry.content.toList
  /-- Bytes that are no text count as none. -/
  noText : (∀ text : String, text.toUTF8 ≠ content) → entry.content = ""

end BundleEntry

namespace ContentBundle

variable {names : List String} {content : ByteArray} {entry : BundleEntry} {root : FileTree}

/-- No name of a location begins with a point. -/
def IsVisible (names : List String) : Prop :=
  ∀ name ∈ names, name.toList.head? ≠ some '.'

/-- A Markdown file stands at a location, and nothing is hidden on the way to it. -/
structure IsMarkdownAt (root : FileTree) (names : List String) (content : ByteArray) : Prop where
  stands : root.at? names = some (.file content)
  visible : IsVisible names
  markdown : ∃ stem, names.getLast? = some (stem ++ ".md")

/-- The entries of the Markdown files of a tree in the order of their paths. -/
structure IsListing (root : FileTree) (entries : List BundleEntry) : Prop where
  /-- Each of the files is listed once, and nothing else is. -/
  complete : ∃ located : List (List String × ByteArray), (located.map Prod.fst).Nodup ∧
    (∀ names content, (names, content) ∈ located ↔ IsMarkdownAt root names content) ∧
    List.Forall₂ (fun place entry => entry.IsOf place.1 place.2) located entries
  sorted : entries.Pairwise fun first second =>
    utf8Bytes first.relativePath < utf8Bytes second.relativePath

theorem any_isHidden_eq_false_iff : names.any isHidden = false ↔ IsVisible names := by
  simp only [List.any_eq_false, isHidden, beq_iff_eq, IsVisible, ne_eq]

theorem eq_append_of_isMarkdown {name : String} (markdown : isMarkdown name) :
    name = (Path.splitExtension name).1 ++ ".md" := by
  have divided : Path.splitExtension name = ((Path.splitExtension name).1, some "md") :=
    Prod.ext rfl (beq_iff_eq.mp markdown)
  exact (Path.splitExtension_eq_some_iff.mp divided).2.2.trans String.append_assoc

theorem isMarkdown_append {stem : String} (visible : (stem ++ ".md").toList.head? ≠ some '.') :
    isMarkdown (stem ++ ".md") := by
  have nonempty : stem ≠ "" := by
    rintro rfl
    exact visible rfl
  have divided : Path.splitExtension (stem ++ ".md") = (stem, some "md") :=
    Path.splitExtension_eq_some_iff.mpr ⟨nonempty, by decide, by rw [String.append_assoc]; rfl⟩
  rw [isMarkdown, divided]
  rfl

theorem entryOf?_eq_some_iff :
    entryOf? names content = some entry ↔ IsVisible names ∧
      ∃ name, names.getLast? = some name ∧ isMarkdown name ∧
        entry = ⟨(Path.splitExtension name).1, (FileTree.file content).textOrEmpty,
          "/".intercalate names⟩ := by
  unfold entryOf?
  cases names.getLast? with
  | none => simp
  | some name =>
      simp only [Bool.and_eq_true, Bool.not_eq_true', any_isHidden_eq_false_iff,
        Option.ite_none_right_eq_some, Option.some.injEq, exists_eq_left', and_assoc,
        eq_comm (b := entry)]

theorem isOf_of_entryOf? (given : entryOf? names content = some entry) :
    entry.IsOf names content := by
  obtain ⟨visible, name, last, markdown, rfl⟩ := entryOf?_eq_some_iff.mp given
  refine ⟨?_, rfl, ?_, ?_⟩
  · rw [last, ← eq_append_of_isMarkdown markdown]
  · rintro text rfl
    simp only [FileTree.textOrEmpty, fromUTF8?_eq_some_iff.mpr rfl, String.toList_ofList]
    exact unifiesLineEnds_unifyLineEnds text.toList
  · intro noText
    have invalid : String.fromUTF8? content = none :=
      Option.eq_none_iff_forall_not_mem.mpr fun text valid =>
        noText text (fromUTF8?_eq_some_iff.mp valid)
    simp only [FileTree.textOrEmpty, invalid]

theorem isSome_entryOf?_iff :
    (entryOf? names content).isSome ↔
      IsVisible names ∧ ∃ stem, names.getLast? = some (stem ++ ".md") := by
  simp only [Option.isSome_iff_exists, entryOf?_eq_some_iff]
  constructor
  · rintro ⟨entry, visible, name, last, markdown, -⟩
    exact ⟨visible, _, last.trans (congrArg some (eq_append_of_isMarkdown markdown))⟩
  · rintro ⟨visible, stem, last⟩
    have markdown := isMarkdown_append (visible _ (List.mem_of_getLast? last))
    exact ⟨_, visible, _, last, markdown, rfl⟩

theorem names_eq_splitText (proper : root.IsProper) (listed : (names, content) ∈ root.files)
    (given : entryOf? names content = some entry) :
    names = splitText '/' entry.relativePath := by
  have described := isOf_of_entryOf? given
  have nonempty : names ≠ [] := by
    rintro rfl
    cases described.named
  have slashFree := proper.slash_notMem (proper.mem_files_iff.mp listed)
  rw [described.path, Path.splitText_intercalate nonempty slashFree]

/-- The entries of a tree before they are sorted, with their paths. -/
def fieldsOf (root : FileTree) : Fields BundleEntry :=
  (root.files.filterMap fun place => entryOf? place.1 place.2).map
    fun entry => (entry.relativePath, entry)

theorem fst_eq_of_mem_fieldsOf {field : String × BundleEntry} (member : field ∈ fieldsOf root) :
    field.1 = field.2.relativePath := by
  obtain ⟨entry, -, rfl⟩ := List.mem_map.mp member
  rfl

theorem map_snd_fieldsOf (root : FileTree) :
    (fieldsOf root).map Prod.snd = root.files.filterMap fun place => entryOf? place.1 place.2 := by
  rw [fieldsOf, List.map_map]
  exact List.map_id _

/-- The paths of different files are different, as their names hold no slash. -/
theorem nodup_names_fieldsOf (proper : root.IsProper) : (fieldsOf root).names.Nodup := by
  rw [Fields.names, fieldsOf, List.map_map]
  refine List.pairwise_map.mpr (List.pairwise_filterMap.mpr ?_)
  refine (List.pairwise_map.mp proper.nodup_files).imp_of_mem ?_
  rintro ⟨names, content⟩ ⟨others, otherContent⟩ listed otherListed different
    entry given otherEntry otherGiven samePath
  apply different
  have ofNames := names_eq_splitText proper listed given
  have ofOthers := names_eq_splitText proper otherListed otherGiven
  calc names = splitText '/' entry.relativePath := ofNames
    _ = splitText '/' otherEntry.relativePath := congrArg (splitText '/') samePath
    _ = others := ofOthers.symm

theorem sorted_entriesOf (root : FileTree) :
    (entriesOf root).Pairwise fun first second =>
      utf8Bytes first.relativePath < utf8Bytes second.relativePath := by
  have sorted := List.pairwise_map.mp (Fields.sorted_sortFields (fieldsOf root))
  refine List.pairwise_map.mpr (sorted.imp_of_mem ?_)
  intro first second isFirst isSecond before
  rw [fst_eq_of_mem_fieldsOf (Fields.mem_of_mem_sortFields isFirst),
    fst_eq_of_mem_fieldsOf (Fields.mem_of_mem_sortFields isSecond)] at before
  exact utf8Bytes_lt_iff.mpr before

theorem forall₂_filterMap {α β : Type} (f : α → Option β) (items : List α) :
    List.Forall₂ (fun item result => f item = some result)
      (items.filter fun item => (f item).isSome) (items.filterMap f) := by
  induction items with
  | nil => exact .nil
  | cons item items ih =>
      cases made : f item with
      | none => simpa [made] using ih
      | some result => simpa [made] using ih

theorem isListing_entriesOf (proper : root.IsProper) : IsListing root (entriesOf root) := by
  refine ⟨?_, sorted_entriesOf root⟩
  -- The entries are those of the listed files one by one, and sorting permutes the two alike.
  have sorted : (entriesOf root).Perm
      (root.files.filterMap fun place => entryOf? place.1 place.2) := by
    rw [← map_snd_fieldsOf]
    exact (Fields.perm_sortFields (nodup_names_fieldsOf proper)).map Prod.snd
  obtain ⟨located, described, permuted⟩ :=
    List.perm_comp_forall₂ sorted (forall₂_filterMap _ _).flip
  refine ⟨located, ?_, ?_, ?_⟩
  · rw [(permuted.map Prod.fst).nodup_iff]
    exact proper.nodup_files.sublist (List.filter_sublist.map Prod.fst)
  · intro names content
    rw [permuted.mem_iff, List.mem_filter, proper.mem_files_iff, isSome_entryOf?_iff]
    exact ⟨fun ⟨stands, visible, markdown⟩ => ⟨stands, visible, markdown⟩,
      fun ⟨stands, visible, markdown⟩ => ⟨stands, visible, markdown⟩⟩
  · exact described.flip.imp fun _ _ given => isOf_of_entryOf? given

theorem entriesOf_eq_of_samePlaces {other : FileTree} (proper : root.IsProper)
    (otherProper : other.IsProper) (same : root.SamePlaces other) :
    entriesOf root = entriesOf other := by
  have sameFiles : root.files.Perm other.files := by
    rw [List.perm_ext_iff_of_nodup proper.nodup_files.of_map otherProper.nodup_files.of_map]
    rintro ⟨names, content⟩
    rw [proper.mem_files_iff, otherProper.mem_files_iff, same.at?_file_iff]
  have sameFields : (fieldsOf other).Perm (fieldsOf root) := ((sameFiles.filterMap _).map _).symm
  have sorted := Fields.perm_sortFields (nodup_names_fieldsOf proper)
  have otherSorted := Fields.perm_sortFields (nodup_names_fieldsOf otherProper)
  have samePermuted := (otherSorted.trans sameFields).trans sorted.symm
  exact congrArg (List.map Prod.snd) ((Fields.sorted_sortFields (fieldsOf root)).eq_of_perm
    (Fields.sorted_sortFields (fieldsOf other)) samePermuted).symm

variable {files : FileSystem} {path : String} {entries : List BundleEntry}

theorem isSome_ofDirectory? (files : FileSystem) (path : String) :
    (ofDirectory? files path).isSome = files.isDirectory path := by
  unfold ofDirectory? FileSystem.isDirectory
  cases files.find? path with
  | error error => rfl
  | ok tree => cases tree <;> rfl

theorem exists_isListing_of_ofDirectory? (proper : files.root.IsProper)
    (given : ofDirectory? files path = some entries) :
    ∃ root, files.find? path = .ok root ∧ IsListing root entries := by
  unfold ofDirectory? at given
  split at given
  next found =>
    cases given
    exact ⟨_, found, isListing_entriesOf (FileSystem.isProper_of_find? proper found)⟩
  next => cases given

theorem ofDirectory?_eq_of_reorders {others : FileSystem} (proper : files.root.IsProper)
    (reordered : files.root.Reorders others.root) (current : others.current = files.current)
    (path : String) : ofDirectory? others path = ofDirectory? files path := by
  obtain ⟨otherProper, same⟩ := reordered.isProper_and_samePlaces proper
  rcases FileSystem.find?_directory_cases current same path with
    ⟨entries, otherEntries, found, otherFound, sameInside⟩ | ⟨missing, otherMissing⟩
  · simp only [ofDirectory?, found, otherFound]
    rw [entriesOf_eq_of_samePlaces (FileSystem.isProper_of_find? proper found)
      (FileSystem.isProper_of_find? otherProper otherFound) sameInside]
  · rw [← isSome_ofDirectory?, Option.isSome_eq_false_iff, Option.isNone_iff_eq_none]
      at missing otherMissing
    rw [missing, otherMissing]

theorem build_eq_error_iff (files : FileSystem) (inputs scenarios path : String) :
    build files inputs scenarios = .error path ↔
      (files.isDirectory inputs = false ∧ path = inputs) ∨
        files.isDirectory inputs ∧ files.isDirectory scenarios = false ∧ path = scenarios := by
  rw [← isSome_ofDirectory?, ← isSome_ofDirectory?, build]
  cases ofDirectory? files inputs with
  | none => simp [@eq_comm String path]
  | some inputEntries =>
      cases ofDirectory? files scenarios with
      | none => simp [@eq_comm String path]
      | some scenarioEntries => simp

/-- A bundle lists the Markdown files of its two directories, or names the first of them that
is missing.  It is the same for every order in which directories list their entries. -/
theorem build_lists_markdown_files (files : FileSystem) (proper : files.root.IsProper)
    (inputs scenarios : String) :
    (∀ path, build files inputs scenarios = .error path ↔
        (files.isDirectory inputs = false ∧ path = inputs) ∨
          files.isDirectory inputs ∧ files.isDirectory scenarios = false ∧ path = scenarios) ∧
      (∀ bundle, build files inputs scenarios = .ok bundle →
        (∃ root, files.find? inputs = .ok root ∧ IsListing root bundle.inputs) ∧
          ∃ root, files.find? scenarios = .ok root ∧ IsListing root bundle.scenarios) ∧
      ∀ others : FileSystem, files.root.Reorders others.root → others.current = files.current →
        build others inputs scenarios = build files inputs scenarios := by
  refine ⟨build_eq_error_iff files inputs scenarios, ?_, ?_⟩
  · intro bundle built
    unfold build at built
    split at built
    · cases built
    next inputEntries ofInputs =>
      split at built
      · cases built
      next scenarioEntries ofScenarios =>
        cases built
        exact ⟨exists_isListing_of_ofDirectory? proper ofInputs,
          exists_isListing_of_ofDirectory? proper ofScenarios⟩
  · intro others reordered current
    unfold build
    rw [ofDirectory?_eq_of_reorders proper reordered current inputs,
      ofDirectory?_eq_of_reorders proper reordered current scenarios]

theorem build_of_nested_directories :
    let directory : String × FileTree :=
      ("a", .directory [(".h.md", .file "h".toUTF8), ("z.md", .file "z".toUTF8)])
    let document : String × FileTree := ("a.md", .file "x\r\ny".toUTF8)
    let files : FileSystem := ⟨.directory [directory, document], []⟩
    let others : FileSystem := ⟨.directory [document, directory], []⟩
    let bundle : ContentBundle :=
      ⟨[⟨"a", "x\ny", "a.md"⟩, ⟨"z", "z", "a/z.md"⟩], [⟨"z", "z", "z.md"⟩]⟩
    files.root.IsProper ∧ IsListing files.root bundle.inputs ∧
      files.root.Reorders others.root ∧ build others "/" "a" = .ok bundle ∧
      build files "a.md" "b" = .error "a.md" := by
  intro directory document files others bundle
  have proper : files.root.IsProper := by
    have inside : directory.2.IsProper := .directory (by decide) (by decide) <|
      List.forall_mem_cons.mpr ⟨.file _, List.forall_mem_singleton.mpr (.file _)⟩
    exact .directory (by decide) (by decide) <|
      List.forall_mem_cons.mpr ⟨inside, List.forall_mem_singleton.mpr (.file _)⟩
  have reordered : files.root.Reorders others.root := .entries (List.Perm.swap _ _ _)
  obtain ⟨-, listed, unchanged⟩ := build_lists_markdown_files files proper "/" "a"
  obtain ⟨root, found, listing⟩ := (listed bundle rfl).1
  obtain rfl : files.root = root := Except.ok.inj found
  obtain ⟨missing, -, -⟩ := build_lists_markdown_files files proper "a.md" "b"
  exact ⟨proper, listing, reordered, unchanged others reordered rfl,
    (missing "a.md").mpr (.inl ⟨rfl, rfl⟩)⟩

end ContentBundle

end BackOfEnvelope
