import BackOfEnvelope.FileTree
import Mathlib.Data.List.Nodup

/-!
# Locations in trees of files

The names of the entries of a directory are different from each other and hold no slash.
In a tree of such directories the files are listed once each with their locations.  What
stands at a location does not depend on the order in which directories list their entries.
-/

namespace BackOfEnvelope

namespace FileTree

variable {name : String} {names location visited : List String} {content : ByteArray}
variable {entries others : List (String × FileTree)} {root tree other found : FileTree}

/-- Every directory of a tree names each of its entries once and without slashes. -/
inductive IsProper : FileTree → Prop
  | file (content : ByteArray) : IsProper (.file content)
  | directory {entries : List (String × FileTree)} (distinct : (entries.map Prod.fst).Nodup)
      (slashFree : ∀ entry ∈ entries, '/' ∉ entry.1.toList)
      (inside : ∀ entry ∈ entries, IsProper entry.2) : IsProper (.directory entries)

/-- Two trees that differ only in the order in which directories list their entries. -/
inductive Reorders : FileTree → FileTree → Prop
  | refl (tree : FileTree) : Reorders tree tree
  | entries {entries others : List (String × FileTree)} (permuted : entries.Perm others) :
      Reorders (.directory entries) (.directory others)
  | inside (before : List (String × FileTree)) (name : String) {tree other : FileTree}
      (reordered : Reorders tree other) (after : List (String × FileTree)) :
      Reorders (.directory (before ++ (name, tree) :: after))
        (.directory (before ++ (name, other) :: after))
  | trans {first second third : FileTree} (reordered : Reorders first second)
      (again : Reorders second third) : Reorders first third

/-- The same files and the same directories stand at the locations of two trees. -/
def SamePlaces (root other : FileTree) : Prop :=
  ∀ names, (root.at? names).map content? = (other.at? names).map content?

theorem entryNamed?_append (name : String) (entries others : List (String × FileTree)) :
    entryNamed? name (entries ++ others) =
      (entryNamed? name entries).or (entryNamed? name others) := by
  induction entries with
  | nil => rfl
  | cons entry rest ih =>
      simp only [List.cons_append, entryNamed?]
      split
      · rfl
      · exact ih

theorem entryNamed?_eq_some_iff (distinct : (entries.map Prod.fst).Nodup) :
    entryNamed? name entries = some tree ↔ (name, tree) ∈ entries := by
  induction entries with
  | nil => simp [entryNamed?]
  | cons entry rest ih =>
      obtain ⟨present, first⟩ := entry
      obtain ⟨fresh, distinctRest⟩ := List.nodup_cons.mp distinct
      simp only [entryNamed?, List.mem_cons, Prod.mk.injEq]
      split
      next same =>
        subst same
        have notLater : (present, tree) ∉ rest := fun later =>
          fresh (List.mem_map.mpr ⟨_, later, rfl⟩)
        simp [notLater, eq_comm]
      next different => simp [ih distinctRest, Ne.symm different]

theorem at?_nil (root : FileTree) : root.at? [] = some root := by
  cases root <;> rfl

theorem at?_directory_cons (entries : List (String × FileTree)) (name : String)
    (names : List String) :
    (directory entries).at? (name :: names) =
      (entryNamed? name entries).bind fun tree => tree.at? names := by
  rw [at?]
  cases entryNamed? name entries <;> rfl

theorem at?_cons_eq_some_iff (distinct : (entries.map Prod.fst).Nodup) :
    (directory entries).at? (name :: names) = some found ↔
      ∃ tree, (name, tree) ∈ entries ∧ tree.at? names = some found := by
  simp only [at?_directory_cons, Option.bind_eq_some_iff, entryNamed?_eq_some_iff distinct]

theorem at?_append (root : FileTree) (names rest : List String) :
    root.at? (names ++ rest) = (root.at? names).bind fun tree => tree.at? rest := by
  fun_induction at? root names with
  | case1 tree => rfl
  | case2 content name names => rfl
  | case3 entries name names tree named ih => simp only [List.cons_append, at?, named, ih]
  | case4 entries name names missing => simp only [List.cons_append, at?, missing, Option.bind_none]

theorem IsProper.at? (proper : root.IsProper) (stands : root.at? names = some tree) :
    tree.IsProper := by
  induction proper generalizing names with
  | file content =>
      cases names with
      | nil => exact Option.some.inj stands ▸ .file content
      | cons name names => cases stands
  | directory distinct slashFree inside ih =>
      cases names with
      | nil => exact Option.some.inj stands ▸ .directory distinct slashFree inside
      | cons name names =>
          obtain ⟨entry, member, below⟩ := (at?_cons_eq_some_iff distinct).mp stands
          exact ih (name, entry) member below

theorem IsProper.slash_notMem (proper : root.IsProper) (stands : root.at? names = some tree) :
    ∀ name ∈ names, '/' ∉ name.toList := by
  induction proper generalizing names with
  | file content =>
      cases names with
      | nil => simp
      | cons name names => cases stands
  | directory distinct slashFree inside ih =>
      cases names with
      | nil => simp
      | cons name names =>
          obtain ⟨entry, member, below⟩ := (at?_cons_eq_some_iff distinct).mp stands
          rintro other otherMember
          rcases List.mem_cons.mp otherMember with rfl | later
          · exact slashFree (other, entry) member
          · exact ih (name, entry) member below other later

section Places

theorem entryPlaces_eq_flatMap (visited : List String) (entries : List (String × FileTree)) :
    entryPlaces visited entries =
      entries.flatMap fun entry => placesBelow (entry.1 :: visited) entry.2 := by
  induction entries with
  | nil => rfl
  | cons entry rest ih => rw [entryPlaces, ih, List.flatMap_cons]

theorem IsProper.mem_placesBelow_iff (proper : root.IsProper) :
    (location, tree) ∈ placesBelow visited root ↔
      ∃ names, location = visited.reverse ++ names ∧ root.at? names = some tree := by
  induction proper generalizing visited with
  | file content =>
      rw [placesBelow, List.mem_singleton, Prod.mk.injEq]
      constructor
      · rintro ⟨rfl, rfl⟩
        exact ⟨[], by simp, rfl⟩
      · rintro ⟨names, rfl, stands⟩
        cases names with
        | nil => exact ⟨List.append_nil _, (Option.some.inj stands).symm⟩
        | cons name names => cases stands
  | @directory entries distinct slashFree inside ih =>
      rw [placesBelow, entryPlaces_eq_flatMap, List.mem_cons, Prod.mk.injEq, List.mem_flatMap]
      constructor
      · rintro (⟨rfl, rfl⟩ | ⟨entry, member, below⟩)
        · exact ⟨[], by simp, rfl⟩
        · obtain ⟨names, rfl, stands⟩ := (ih entry member).mp below
          refine ⟨entry.1 :: names, by simp, ?_⟩
          exact (at?_cons_eq_some_iff distinct).mpr ⟨entry.2, member, stands⟩
      · rintro ⟨names, rfl, stands⟩
        cases names with
        | nil => exact .inl ⟨List.append_nil _, (Option.some.inj stands).symm⟩
        | cons name names =>
            obtain ⟨entry, member, below⟩ := (at?_cons_eq_some_iff distinct).mp stands
            exact .inr ⟨(name, entry), member, (ih _ member).mpr ⟨names, by simp, below⟩⟩

/-- No location comes twice, as those below different entries differ in the next name. -/
theorem IsProper.nodup_placesBelow (proper : root.IsProper) (visited : List String) :
    ((placesBelow visited root).map Prod.fst).Nodup := by
  induction proper generalizing visited with
  | file content => exact List.nodup_singleton _
  | @directory entries distinct slashFree inside ih =>
      have below : ∀ entry ∈ entries, ∀ location ∈
          (placesBelow (entry.1 :: visited) entry.2).map Prod.fst,
          ∃ names, location = visited.reverse ++ entry.1 :: names := by
        intro entry member location listed
        obtain ⟨⟨_, tree⟩, isPlace, rfl⟩ := List.mem_map.mp listed
        obtain ⟨names, rfl, -⟩ := (inside entry member).mem_placesBelow_iff.mp isPlace
        exact ⟨names, by simp⟩
      rw [placesBelow, entryPlaces_eq_flatMap, List.map_cons, List.map_flatMap, List.nodup_cons,
        List.nodup_flatMap]
      refine ⟨?_, fun entry member => ih entry member _, ?_⟩
      · intro again
        obtain ⟨entry, member, listed⟩ := List.mem_flatMap.mp again
        obtain ⟨names, same⟩ := below entry member _ listed
        simp at same
      · refine (List.pairwise_map.mp distinct).imp_of_mem ?_
        intro first second firstMember secondMember different location inFirst inSecond
        obtain ⟨names, rfl⟩ := below first firstMember location inFirst
        obtain ⟨others, same⟩ := below second secondMember _ inSecond
        exact different (List.cons.inj (List.append_cancel_left same)).1

theorem IsProper.mem_files_iff (proper : root.IsProper) :
    (names, content) ∈ root.files ↔ root.at? names = some (.file content) := by
  have placed : ∀ tree, (names, tree) ∈ root.places ↔ root.at? names = some tree := by
    intro tree
    rw [places, proper.mem_placesBelow_iff]
    simp
  rw [files, List.mem_filterMap, ← placed]
  constructor
  · rintro ⟨⟨location, tree⟩, listed, given⟩
    cases tree with
    | file bytes =>
        cases given
        exact listed
    | directory entries => cases given
  · intro listed
    exact ⟨_, listed, rfl⟩

theorem IsProper.nodup_files (proper : root.IsProper) : (root.files.map Prod.fst).Nodup := by
  have distinct := List.pairwise_map.mp (proper.nodup_placesBelow [])
  refine List.pairwise_map.mpr (List.pairwise_filterMap.mpr (distinct.imp ?_))
  rintro ⟨location, tree⟩ ⟨other, standing⟩ different first given second standingGiven
  obtain ⟨bytes, -, rfl⟩ := Option.map_eq_some_iff.mp given
  obtain ⟨bytes, -, rfl⟩ := Option.map_eq_some_iff.mp standingGiven
  exact different

end Places

section Order

theorem SamePlaces.refl (root : FileTree) : SamePlaces root root :=
  fun _ => rfl

theorem SamePlaces.trans (same : SamePlaces root other) (sameAgain : SamePlaces other tree) :
    SamePlaces root tree :=
  fun names => (same names).trans (sameAgain names)

/-- At a location of two trees is nothing, or a file with the same bytes, or a directory. -/
theorem SamePlaces.at?_cases (same : SamePlaces root other) (names : List String) :
    (root.at? names = none ∧ other.at? names = none) ∨
      (∃ content, root.at? names = some (.file content) ∧
        other.at? names = some (.file content)) ∨
      ∃ entries others, root.at? names = some (.directory entries) ∧
        other.at? names = some (.directory others) := by
  have atNames := same names
  cases first : root.at? names with
  | none =>
      rw [first] at atNames
      exact .inl ⟨rfl, Option.map_eq_none_iff.mp atNames.symm⟩
  | some tree =>
      rw [first] at atNames
      obtain ⟨found, second, sameContent⟩ := Option.map_eq_some_iff.mp atNames.symm
      cases tree <;> cases found <;> simp_all [content?]

theorem SamePlaces.at?_file_iff (same : SamePlaces root other) :
    root.at? names = some (.file content) ↔ other.at? names = some (.file content) := by
  rcases same.at?_cases names with ⟨missing, otherMissing⟩ | ⟨bytes, isFile, otherIsFile⟩ |
    ⟨entries, others, isDirectory, otherIsDirectory⟩
  · rw [missing, otherMissing]
  · rw [isFile, otherIsFile]
  · simp [isDirectory, otherIsDirectory]

theorem SamePlaces.at? (same : SamePlaces root other) (stands : root.at? names = some tree)
    (otherStands : other.at? names = some found) : SamePlaces tree found := by
  intro rest
  have atAll := same (names ++ rest)
  rwa [at?_append, at?_append, stands, otherStands] at atAll

/-- Directories with entries that are the same by name. -/
theorem samePlaces_directory
    (same : ∀ name rest, ((entryNamed? name entries).bind fun tree => tree.at? rest).map content? =
      ((entryNamed? name others).bind fun tree => tree.at? rest).map content?) :
    SamePlaces (directory entries) (directory others) := by
  intro names
  cases names with
  | nil => rfl
  | cons name names =>
      rw [at?_directory_cons, at?_directory_cons]
      exact same name names

theorem entryNamed?_eq_of_perm (distinct : (entries.map Prod.fst).Nodup)
    (permuted : entries.Perm others) (name : String) :
    entryNamed? name entries = entryNamed? name others := by
  have othersDistinct : (others.map Prod.fst).Nodup := (permuted.map Prod.fst).nodup_iff.mp distinct
  refine Option.ext fun tree => ?_
  rw [entryNamed?_eq_some_iff distinct, entryNamed?_eq_some_iff othersDistinct, permuted.mem_iff]

theorem Reorders.isProper_and_samePlaces (reordered : Reorders root other)
    (proper : root.IsProper) : other.IsProper ∧ SamePlaces root other := by
  induction reordered with
  | refl tree => exact ⟨proper, .refl tree⟩
  | entries permuted =>
      cases proper with
      | directory distinct slashFree inside =>
          have sameNames := permuted.map Prod.fst
          constructor
          · exact .directory (sameNames.nodup_iff.mp distinct)
              (fun entry member => slashFree entry (permuted.mem_iff.mpr member))
              (fun entry member => inside entry (permuted.mem_iff.mpr member))
          · refine samePlaces_directory fun name rest => ?_
            rw [entryNamed?_eq_of_perm distinct permuted]
  | @inside before name tree other _ after ih =>
      cases proper with
      | directory distinct slashFree inside =>
          obtain ⟨otherProper, same⟩ := ih (inside (name, tree) (by simp))
          constructor
          · simp only [List.forall_mem_append, List.forall_mem_cons] at slashFree inside
            refine .directory (by simpa using distinct) ?_ ?_
            · simpa only [List.forall_mem_append, List.forall_mem_cons] using slashFree
            · simp only [List.forall_mem_append, List.forall_mem_cons]
              exact ⟨inside.1, otherProper, inside.2.2⟩
          · refine samePlaces_directory fun wanted rest => ?_
            simp only [entryNamed?_append, entryNamed?]
            cases entryNamed? wanted before with
            | some earlier => rfl
            | none =>
                split
                · exact same rest
                · rfl
  | trans _ _ ih ihAgain =>
      obtain ⟨secondProper, same⟩ := ih proper
      obtain ⟨thirdProper, sameAgain⟩ := ihAgain secondProper
      exact ⟨thirdProper, same.trans sameAgain⟩

end Order

end FileTree

end BackOfEnvelope
