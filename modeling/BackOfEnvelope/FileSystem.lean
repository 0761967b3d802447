import BackOfEnvelope.FileTree
import BackOfEnvelope.Path

/-!
# File systems

A tree of files together with the directory in which a command runs.  A path is
looked up name by name, from the root if it is absolute and from that directory
otherwise.  Reading and writing fail in the ways in which a file system does.
-/

namespace BackOfEnvelope

/-- Why a file or a directory cannot be used. -/
inductive FileError where
  | notFound
  | alreadyExists
  | notADirectory
  | isADirectory
  | nameTooLong
  | zeroInPath
  | notText
deriving DecidableEq

namespace FileError

def message : FileError → String
  | .notFound => "No such file or directory (os error 2)"
  | .alreadyExists => "File exists (os error 17)"
  | .notADirectory => "Not a directory (os error 20)"
  | .isADirectory => "Is a directory (os error 21)"
  | .nameTooLong => "File name too long (os error 36)"
  | .zeroInPath => "file name contained an unexpected NUL byte"
  | .notText => "stream did not contain valid UTF-8"

end FileError

/-- A tree of files and a directory in it. -/
structure FileSystem where
  root : FileTree
  current : List String

namespace FileSystem

/-- The greatest length of a name in bytes. -/
def longestName : Nat := 255

/-- The greatest length of a path in bytes. -/
def longestPath : Nat := 4095

/-- Whether a name is too long for a directory to have an entry of that name. -/
def isTooLong (name : String) : Bool :=
  decide (longestName < name.utf8ByteSize)

/-- What makes a path unusable before anything is looked up. -/
def pathError? (path : String) : Option FileError :=
  if path.isEmpty then some .notFound
  else if path.toList.contains (Char.ofNat 0) then some .zeroInPath
  else if longestPath < path.utf8ByteSize then some .nameTooLong
  else none

/-- Follow names from a location, given in reverse, to another one.  Above the
root there is only the root. -/
def walk (root : FileTree) (visited : List String) :
    List String → Except FileError (List String)
  | [] => .ok visited.reverse
  | name :: rest =>
      match root.at? visited.reverse with
      | none => .error .notFound
      | some (.file _) => .error .notADirectory
      | some (.directory entries) =>
          if Path.isIdle name then walk root visited rest
          else if name = ".." then walk root (visited.drop 1) rest
          else if isTooLong name then .error .nameTooLong
          else if (FileTree.entryNamed? name entries).isSome then
            walk root (name :: visited) rest
          else .error .notFound

/-- Follow names from where a path starts. -/
def follow (files : FileSystem) (path : String) (names : List String) :
    Except FileError (List String) :=
  match pathError? path with
  | some error => .error error
  | none => walk files.root (if Path.isAbsolute path then [] else files.current.reverse) names

/-- The location of a path that exists. -/
def locate (files : FileSystem) (path : String) : Except FileError (List String) :=
  files.follow path (splitText '/' path)

/-- The location that a path would have if it led through directories only. -/
def locationOf (files : FileSystem) (path : String) : List String :=
  let start := if Path.isAbsolute path then [] else files.current.reverse
  let step (visited : List String) (name : String) : List String :=
    if Path.isIdle name then visited
    else if name = ".." then visited.drop 1
    else name :: visited
  ((splitText '/' path).foldl step start).reverse

def find? (files : FileSystem) (path : String) : Except FileError FileTree :=
  match files.locate path with
  | .error error => .error error
  | .ok location =>
      match files.root.at? location with
      | some tree => .ok tree
      | none => .error .notFound

/-- Whether a directory stands at a path. -/
def isDirectory (files : FileSystem) (path : String) : Bool :=
  match files.find? path with
  | .ok (.directory _) => true
  | _ => false

def hasPath (files : FileSystem) (path : String) : Bool :=
  match files.find? path with
  | .ok _ => true
  | .error _ => false

def readText (files : FileSystem) (path : String) : Except FileError String :=
  match files.find? path with
  | .error error => .error error
  | .ok (.directory _) => .error .isADirectory
  | .ok (.file content) =>
      match String.fromUTF8? content with
      | some text => .ok text
      | none => .error .notText

/-- The text at a path with single line ends, empty if it cannot be read. -/
def readLeniently (files : FileSystem) (path : String) : String :=
  match files.find? path with
  | .ok tree => tree.textOrEmpty
  | .error _ => ""

/-- The names of a path, without the empty ones behind slashes at its end. -/
def namesOf (path : String) : List String :=
  ((splitText '/' path).reverse.dropWhile fun name => name.isEmpty).reverse

/-- The location and the entries of the directory in which a path names
something, and the name. -/
def locateEntry (files : FileSystem) (path : String) :
    Except FileError (List String × List (String × FileTree) × String) :=
  let names := namesOf path
  match files.follow path names.dropLast with
  | .error error => .error error
  | .ok location =>
      match files.root.at? location with
      | some (.directory entries) => .ok (location, entries, names.getLast?.getD "")
      | some (.file _) => .error .notADirectory
      | none => .error .notFound

/-- Whether the last name of a path leads to a directory by itself. -/
def isDirectoryName (name : String) : Bool :=
  Path.isIdle name || name = ".."

/-- Write a file.  A path with a slash at its end is that of a directory. -/
def write (files : FileSystem) (path : String) (content : ByteArray) :
    Except FileError FileSystem :=
  match files.locateEntry path with
  | .error error => .error error
  | .ok (location, entries, name) =>
      if path.toList.getLast? = some '/' || isDirectoryName name then .error .isADirectory
      else if isTooLong name then .error .nameTooLong
      else
        match FileTree.entryNamed? name entries with
        | some (.directory _) => .error .isADirectory
        | _ => .ok { files with root := files.root.put (location ++ [name]) (.file content) }

def writeText (files : FileSystem) (path text : String) : Except FileError FileSystem :=
  files.write path text.toUTF8

/-- Make a directory inside one that exists. -/
def makeDirectory (files : FileSystem) (path : String) : Except FileError FileSystem :=
  match files.locateEntry path with
  | .error error => .error error
  | .ok (location, entries, name) =>
      if isDirectoryName name then .error .alreadyExists
      else if isTooLong name then .error .nameTooLong
      else
        match FileTree.entryNamed? name entries with
        | some _ => .error .alreadyExists
        | none => .ok { files with root := files.root.put (location ++ [name]) (.directory []) }

/-- Make the first of several directories, each of which stands inside the next
one, and those around it that are missing. -/
def makeAllDirectories (files : FileSystem) : List String → Except FileError FileSystem
  | [] => .ok files
  | path :: outer =>
      if path.isEmpty then .ok files
      else
        match files.makeDirectory path with
        | .ok made => .ok made
        | .error .notFound =>
            match files.makeAllDirectories outer with
            | .error error => .error error
            | .ok prepared =>
                match prepared.makeDirectory path with
                | .ok made => .ok made
                | .error error => if prepared.isDirectory path then .ok prepared else .error error
        | .error error => if files.isDirectory path then .ok files else .error error

/-- Make a directory and the directories around it that are missing. -/
def makeDirectories (files : FileSystem) (path : String) : Except FileError FileSystem :=
  files.makeAllDirectories (Path.withAncestors path.length path)

end FileSystem

end BackOfEnvelope
