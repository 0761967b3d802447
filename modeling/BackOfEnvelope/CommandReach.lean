import BackOfEnvelope.Commands

/-!
# Reach of commands

Which variables and which places in the file system a command line looks at.  A
run sees nothing else, so it is enough to know these.  What is known already
decides what is looked at next: the variables lead to the configuration, the
configuration to the directories of content, and their indexes to the documents.
-/

namespace BackOfEnvelope

/-- A place in the file system that a command looks at. -/
structure VisiblePlace where
  path : String
  /-- Whether it looks at everything inside a directory too. -/
  withContents : Bool

namespace CommandReach

/-- A file, or a directory whatever it holds. -/
def single (path : String) : VisiblePlace :=
  ⟨path, false⟩

def whole (path : String) : VisiblePlace :=
  ⟨path, true⟩

/-- The places of the documents that the index of a directory lists. -/
def contentPlaces (files : FileSystem) (directory : String) : List VisiblePlace :=
  let entries := (ContentIndex.readLeniently files directory).entries
  [single directory, single (Path.join directory ContentIndex.fileName)] ++
    entries.map fun (category, filename) =>
      single (ContentIndex.entryPath directory category filename)

/-- The places that a command looks at beside its configuration. -/
def requestPlaces (files : FileSystem) (places : ProfileSettings) :
    CommandRequest → List VisiblePlace
  | .doctor =>
      [single places.inputsDirectory, single places.scenariosDirectory, single places.dataFile]
  | .inputs _ _ => contentPlaces files places.inputsDirectory
  | .scenarios _ _ _ =>
      contentPlaces files places.inputsDirectory ++ contentPlaces files places.scenariosDirectory
  | .validate => single places.dataFile :: contentPlaces files places.inputsDirectory
  | .exportData out =>
      let directory := out.getD places.outputDirectory
      single places.dataFile ::
        (Commands.exportOutputs DataFile.empty).map fun output =>
          single (Path.join directory output.name)
  | .build out =>
      [whole places.inputsDirectory, whole places.scenariosDirectory,
        single (Commands.bundlePath places out)]

/-- The places that a command line looks at, as far as they are known from the
files and the variables that are known. -/
def places (files : FileSystem) (environment : Environment) (line : CommandLine) :
    List VisiblePlace :=
  single (line.config.getD (Configuration.defaultPath environment)) ::
    match Configuration.load files environment line.config line.profile with
    | .error _ => []
    | .ok config =>
        (config.logging.file.map single).toList ++ requestPlaces files config.places line.request

/-- The variables that a command line looks at, as far as they are known. -/
def variableNames (files : FileSystem) (environment : Environment) (line : CommandLine) :
    List String :=
  let path := line.config.getD (Configuration.defaultPath environment)
  let referred :=
    match files.readText path with
    | .error _ => []
    | .ok text =>
        match Configuration.readFile? text with
        | none => []
        | some file => file.paths.flatMap PathExpansion.variableNames
  Configuration.placeVariables ++ referred

end CommandReach

end BackOfEnvelope
