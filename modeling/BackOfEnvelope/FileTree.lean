import BackOfEnvelope.Text

/-!
# Trees of files

Files in directories that stand inside each other.  A location in a tree is the
list of names on the way to it.
-/

namespace BackOfEnvelope

inductive FileTree where
  /-- A file with its bytes. -/
  | file (content : ByteArray)
  | directory (entries : List (String × FileTree))

instance : Inhabited FileTree := ⟨.directory []⟩

namespace FileTree

/-- The entry of a directory with a name. -/
def entryNamed? (name : String) : List (String × FileTree) → Option FileTree
  | [] => none
  | (present, tree) :: rest => if present = name then some tree else entryNamed? name rest

/-- What stands behind the names of a location. -/
def at? : FileTree → List String → Option FileTree
  | tree, [] => some tree
  | .file _, _ :: _ => none
  | .directory entries, name :: rest =>
      match entryNamed? name entries with
      | some tree => at? tree rest
      | none => none

/-- Put an entry in the place of the one with its name, or at the end. -/
def putEntry (name : String) (tree : FileTree) : List (String × FileTree) →
    List (String × FileTree)
  | [] => [(name, tree)]
  | (present, old) :: rest =>
      if present = name then (name, tree) :: rest else (present, old) :: putEntry name tree rest

/-- The tree with something else at a location.  Directories on the way there
are made if they are missing. -/
def put : FileTree → List String → FileTree → FileTree
  | _, [], content => content
  | .directory entries, name :: rest, content =>
      let inner := (entryNamed? name entries).getD (.directory [])
      .directory (putEntry name (put inner rest content) entries)
  | .file _, name :: rest, content => .directory [(name, put (.directory []) rest content)]

mutual

/-- A tree and everything in it with the names on the way, given in reverse the
names on the way to the tree. -/
def placesBelow (visited : List String) : FileTree → List (List String × FileTree)
  | .file content => [(visited.reverse, .file content)]
  | .directory entries => (visited.reverse, .directory entries) :: entryPlaces visited entries

/-- The entries of a directory and everything in them. -/
def entryPlaces (visited : List String) : List (String × FileTree) →
    List (List String × FileTree)
  | [] => []
  | (name, tree) :: rest => placesBelow (name :: visited) tree ++ entryPlaces visited rest

end

/-- A tree and everything in it, with locations.  A directory comes before what
stands in it. -/
def places (root : FileTree) : List (List String × FileTree) :=
  root.placesBelow []

/-- The bytes of a file. -/
def content? : FileTree → Option ByteArray
  | .file content => some content
  | .directory _ => none

/-- The files of a tree with their locations. -/
def files (root : FileTree) : List (List String × ByteArray) :=
  root.places.filterMap fun (location, tree) =>
    tree.content?.map fun content => (location, content)

/-- The text of a file with single line ends, empty if it is no text. -/
def textOrEmpty : FileTree → String
  | .directory _ => ""
  | .file content =>
      match String.fromUTF8? content with
      | some text => String.ofList (unifyLineEnds text.toList)
      | none => ""

end FileTree

end BackOfEnvelope
