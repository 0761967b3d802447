import BackOfEnvelope.Text

/-!
# Paths

A path is a text in which slashes separate the names of directories and a file.
It is shown as it was put together; only `parent?` leaves out what does not
change its meaning, which are slashes at the end and single dots behind the
first name.
-/

namespace BackOfEnvelope

namespace Path

/-- Whether a path starts at the root of the file system. -/
def isAbsolute (path : String) : Bool :=
  path.toList.head? == some '/'

/-- A path inside a directory; an absolute one stays as it is. -/
def join (directory path : String) : String :=
  if isAbsolute path || directory.isEmpty then path
  else if directory.toList.getLast? = some '/' then directory ++ path
  else directory ++ "/" ++ path

/-- Whether a name between slashes does not lead anywhere. -/
def isIdle (name : String) : Bool :=
  name.isEmpty || name = "."

/-- Names without the idle ones at the end; the first name always stays. -/
def trimNames : List String → List String
  | [] => []
  | first :: rest => first :: (rest.reverse.dropWhile isIdle).reverse

/-- The path of the names between its slashes. -/
def ofNames (names : List String) : String :=
  if names = [""] then "/" else "/".intercalate names

/-- The path without its last name.  The root and the empty path have none. -/
def parent? (path : String) : Option String :=
  let names := trimNames (splitText '/' path)
  if names = [""] then none else some (ofNames (trimNames names.dropLast))

/-- A path followed by its parent, the parent of that, and so on.  The first
argument bounds how many there are. -/
def withAncestors : Nat → String → List String
  | 0, path => [path]
  | bound + 1, path =>
      match parent? path with
      | some above => path :: withAncestors bound above
      | none => [path]

/-- Divide the name of a file at its last point.  A point in front of the name
does not count. -/
def splitExtension (name : String) : String × Option String :=
  let reversed := name.toList.reverse
  let extension := (reversed.takeWhile fun c => c != '.').reverse
  match (reversed.dropWhile fun c => c != '.').drop 1 with
  | [] => (name, none)
  | stem => (String.ofList stem.reverse, some (String.ofList extension))

end Path

end BackOfEnvelope
