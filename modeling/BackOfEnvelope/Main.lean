import BackOfEnvelope.CommandReach

/-!
# The program

Runs a command on the files of the machine.  Everything the command looks at is
copied first; the command runs on the copy, and what it changed is written back.
-/

namespace BackOfEnvelope

namespace Program

def pathOf (location : List String) : String :=
  "/" ++ "/".intercalate location

/-- Whether there is a directory at a path. -/
def isDirectory (path : String) : IO Bool := do
  ((← IO.currentDir) / path).isDir

/-- Copy a file or a directory, with everything in it if that is asked for.
Links inside a directory are not followed. -/
partial def copy? (path : String) (withContents : Bool) : IO (Option FileTree) := do
  if ← isDirectory path then
    if !withContents then return some (.directory [])
    let mut entries := []
    for entry in ← ((← IO.currentDir) / path).readDir do
      let isLink := (← entry.path.symlinkMetadata).type matches .symlink
      if !isLink then
        if let some tree ← copy? (path ++ "/" ++ entry.fileName) true then
          entries := (entry.fileName, tree) :: entries
    return some (.directory entries)
  try
    return some (.file (← IO.FS.readBinFile path))
  catch _ =>
    return none

/-- Add a copy of a place, and of the directories on the way there. -/
def addPlace (files : FileSystem) (place : VisiblePlace) : IO FileSystem := do
  let mut known := files
  for path in (Path.withAncestors place.path.length place.path).reverse do
    let withContents := place.withContents && path == place.path
    let location := known.locationOf path
    if withContents || (known.root.at? location).isNone then
      if let some tree ← copy? (pathOf location) withContents then
        known := { known with root := known.root.put location tree }
  return known

def readVariables (names : List String) : IO Environment := do
  let values ← names.mapM fun name => return (name, ← IO.getEnv name)
  return fun name => (values.lookup name).join

/-- Write what differs from the files before. -/
def writeBack (before after : FileTree) : IO Unit := do
  for (location, tree) in after.places do
    match tree, before.at? location with
    | .directory _, some (.directory _) => pure ()
    | .directory _, _ => IO.FS.createDirAll (pathOf location)
    | .file content, some (.file old) =>
        if content != old then IO.FS.writeBinFile (pathOf location) content
    | .file content, _ => IO.FS.writeBinFile (pathOf location) content

/-- Copy what a command line looks at.  Each round follows what the one before
has found: the configuration, the indexes and the documents. -/
def gather (files : FileSystem) (line : CommandLine) : IO (FileSystem × Environment) := do
  let mut known := files
  let mut environment ← readVariables Configuration.placeVariables
  for _ in List.range 3 do
    for place in CommandReach.places known environment line do
      known ← addPlace known place
    environment ← readVariables (CommandReach.variableNames known environment line)
  return (known, environment)

end Program

end BackOfEnvelope

open BackOfEnvelope in
/-- Run the arguments of the command line. -/
def main (arguments : List String) : IO UInt32 := do
  let current := splitText '/' (← IO.currentDir).toString
  let start : FileSystem := ⟨(FileTree.directory []).put current.tail (.directory []), current.tail⟩
  let (files, environment) ←
    match CommandArguments.read arguments with
    | .ok line => Program.gather start line
    | .error _ => pure (start, fun _ => none)
  let result := Commands.run files environment arguments
  Program.writeBack files.root result.files.root
  IO.print result.output
  IO.eprint result.errors
  return UInt32.ofNat result.exitCode
