import BackOfEnvelope.FileSystem
import BackOfEnvelope.JsonText
import BackOfEnvelope.SortedFields

/-!
# Bundles of content

A bundle holds the text of every Markdown file of two directory trees.  Files
and directories whose names start with a point are left out, and the files of a
tree are sorted by their paths.
-/

namespace BackOfEnvelope

structure BundleEntry where
  name : String
  /-- The text, empty if the file does not hold text. -/
  content : String
  relativePath : String

/-- The Markdown files of two directory trees. -/
structure ContentBundle where
  inputs : List BundleEntry
  scenarios : List BundleEntry

namespace ContentBundle

/-- Whether a file or a directory is left out. -/
def isHidden (name : String) : Bool :=
  name.toList.head? == some '.'

/-- Whether a name is that of a Markdown file. -/
def isMarkdown (name : String) : Bool :=
  (Path.splitExtension name).2 == some "md"

/-- The entry of a file, if it belongs to a bundle. -/
def entryOf? (names : List String) (content : ByteArray) : Option BundleEntry :=
  match names.getLast? with
  | none => none
  | some name =>
      if !names.any isHidden && isMarkdown name then
        some ⟨(Path.splitExtension name).1, (FileTree.file content).textOrEmpty,
          "/".intercalate names⟩
      else none

/-- The entries of a tree, sorted by path. -/
def entriesOf (tree : FileTree) : List BundleEntry :=
  let entries := tree.files.filterMap fun (names, content) => entryOf? names content
  (Fields.sortFields (entries.map fun entry => (entry.relativePath, entry))).map Prod.snd

/-- The entries of a directory; `none` if there is no directory at the path. -/
def ofDirectory? (files : FileSystem) (path : String) : Option (List BundleEntry) :=
  match files.find? path with
  | .ok (.directory entries) => some (entriesOf (.directory entries))
  | _ => none

/-- The bundle of two directories, or else the first path at which there is no
directory. -/
def build (files : FileSystem) (inputs scenarios : String) : Except String ContentBundle :=
  match ofDirectory? files inputs with
  | none => .error inputs
  | some inputEntries =>
      match ofDirectory? files scenarios with
      | none => .error scenarios
      | some scenarioEntries => .ok ⟨inputEntries, scenarioEntries⟩

def entryToJson (entry : BundleEntry) : Json :=
  .object [("variable", .text entry.name), ("content", .text entry.content),
    ("relative_path", .text entry.relativePath)]

def toJson (bundle : ContentBundle) : Json :=
  .object [("inputs", .array (bundle.inputs.map entryToJson)),
    ("scenarios", .array (bundle.scenarios.map entryToJson))]

def text (bundle : ContentBundle) : String :=
  bundle.toJson.pretty

end ContentBundle

end BackOfEnvelope
