import BackOfEnvelope.FileSystem
import BackOfEnvelope.Proofs.TreeLocations

/-!
# Looking up paths

What a path leads to depends only on what stands at the locations of a file system.  In two
file systems with the same places a path leads to trees with the same places, or fails for
the same reason.  The text of a file is the one whose bytes it holds.
-/

namespace BackOfEnvelope

theorem fromUTF8?_eq_some_iff {content : ByteArray} {text : String} :
    String.fromUTF8? content = some text ↔ text.toUTF8 = content := by
  unfold String.fromUTF8?
  split
  next valid =>
    rw [Option.some.injEq, ← String.toByteArray_inj, eq_comm]
    rfl
  next invalid =>
    refine ⟨nofun, ?_⟩
    rintro rfl
    exact absurd text.isValidUTF8 invalid

namespace FileTree

variable {entries others : List (String × FileTree)}

theorem SamePlaces.isSome_entryNamed?_eq
    (same : SamePlaces (.directory entries) (.directory others)) (name : String) :
    (entryNamed? name entries).isSome = (entryNamed? name others).isSome := by
  simpa only [at?_directory_cons, at?_nil, Option.bind_fun_some, Option.isSome_map] using
    congrArg Option.isSome (same [name])

end FileTree

namespace FileSystem

variable {files others : FileSystem} {root other tree : FileTree}

theorem walk_eq_of_samePlaces (same : root.SamePlaces other) (visited names : List String) :
    walk root visited names = walk other visited names := by
  induction names generalizing visited with
  | nil => rfl
  | cons name rest ih =>
      rcases same.at?_cases visited.reverse with
        ⟨missing, otherMissing⟩ | ⟨content, isFile, otherIsFile⟩ |
          ⟨entries, others, isDirectory, otherIsDirectory⟩
      · simp only [walk, missing, otherMissing]
      · simp only [walk, isFile, otherIsFile]
      · have sameNames := (same.at? isDirectory otherIsDirectory).isSome_entryNamed?_eq name
        simp only [walk, isDirectory, otherIsDirectory, sameNames, ih]

theorem locate_eq_of_samePlaces (current : others.current = files.current)
    (same : files.root.SamePlaces others.root) (path : String) :
    files.locate path = others.locate path := by
  unfold locate follow
  rw [current]
  simp only [walk_eq_of_samePlaces same]

/-- A path leads in both file systems to directories with the same places, or in neither to a
directory. -/
theorem find?_directory_cases (current : others.current = files.current)
    (same : files.root.SamePlaces others.root) (path : String) :
    (∃ entries otherEntries, files.find? path = .ok (.directory entries) ∧
        others.find? path = .ok (.directory otherEntries) ∧
        FileTree.SamePlaces (.directory entries) (.directory otherEntries)) ∨
      files.isDirectory path = false ∧ others.isDirectory path = false := by
  unfold isDirectory find?
  rw [← locate_eq_of_samePlaces current same path]
  cases files.locate path with
  | error error => exact .inr ⟨rfl, rfl⟩
  | ok location =>
      rcases same.at?_cases location with
        ⟨missing, otherMissing⟩ | ⟨content, isFile, otherIsFile⟩ |
          ⟨entries, others, isDirectory, otherIsDirectory⟩
      · simp [missing, otherMissing]
      · simp [isFile, otherIsFile]
      · simp only [isDirectory, otherIsDirectory]
        exact .inl ⟨_, _, rfl, rfl, same.at? isDirectory otherIsDirectory⟩

theorem isProper_of_find? (proper : files.root.IsProper) {path : String}
    (found : files.find? path = .ok tree) : tree.IsProper := by
  unfold find? at found
  split at found
  · cases found
  · split at found
    next stands =>
      cases found
      exact proper.at? stands
    next => cases found

theorem readText_of_find? {path text : String}
    (found : files.find? path = .ok (.file text.toUTF8)) : files.readText path = .ok text := by
  simp only [readText, found, fromUTF8?_eq_some_iff.mpr rfl]

end FileSystem

end BackOfEnvelope
