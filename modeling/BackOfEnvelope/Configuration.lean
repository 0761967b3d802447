import BackOfEnvelope.FileSystem
import BackOfEnvelope.PathExpansion
import BackOfEnvelope.TomlReading

/-!
# Configuration

A configuration file has a version and profiles, and each profile says where the
content is.  Loading a configuration selects a profile and expands its paths, in
which `{{data_root}}` stands for the root of the profile.
-/

namespace BackOfEnvelope

/-- The places that a profile gives, as they are written. -/
structure ProfileSettings where
  dataRoot : String
  inputsDirectory : String
  scenariosDirectory : String
  dataFile : String
  outputDirectory : String

/-- How a program reports what it does. -/
structure LoggingSettings where
  level : String
  fileLevel : Option String
  file : Option String

structure ConfigurationFile where
  version : Nat
  /-- The profile that is used if no other is asked for. -/
  profile : Option String
  profiles : List (String × ProfileSettings)
  logging : LoggingSettings
  precision : Nat

namespace ProfileSettings

def paths (settings : ProfileSettings) : List String :=
  [settings.dataRoot, settings.inputsDirectory, settings.scenariosDirectory, settings.dataFile,
    settings.outputDirectory]

end ProfileSettings

namespace ConfigurationFile

def paths (file : ConfigurationFile) : List String :=
  (file.profiles.flatMap fun entry => entry.2.paths) ++ file.logging.file.toList

end ConfigurationFile

/-- A configuration with a selected profile and expanded paths. -/
structure Configuration where
  profile : String
  places : ProfileSettings
  /-- How the program reports what it does, with the expanded file. -/
  logging : LoggingSettings
  precision : Nat

inductive ConfigurationError where
  | notFound (path : String)
  | unreadable (path : String) (reason : FileError)
  | malformed (path : String)
  | profileNotFound (name : String)
  | noProfiles
  | unsupportedVersion (version : Nat)
  | cannotExpand (path : String)

namespace ConfigurationError

def message : ConfigurationError → String
  | .notFound path => "no napkin config at " ++ path
  | .unreadable path reason => "cannot read napkin config " ++ path ++ ": " ++ reason.message
  | .malformed path => "invalid TOML in " ++ path
  | .profileNotFound name => "profile '" ++ name ++ "' not found"
  | .noProfiles => "config defines no [profiles.*] table"
  | .unsupportedVersion version =>
      "config version " ++ toString version ++ " is not supported (expected 1)"
  | .cannotExpand path =>
      "cannot expand '" ++ path ++ "': home directory or environment variable unavailable"

end ConfigurationError

namespace Configuration

def readText? : Toml → Option String
  | .text value => some value
  | _ => none

/-- A natural number below a bound. -/
def readNatural? (bound : Nat) : Toml → Option Nat
  | .integer value =>
      if 0 ≤ value && value < (bound : Int) then some value.toNat else none
  | _ => none

def field? {α : Type} (read : Toml → Option α) (name : String)
    (entries : List (String × Toml)) : Option (Option α) :=
  match Toml.lookup? name entries with
  | none => some none
  | some value => (read value).map some

/-- The fields of a table, or of a list of their values in order.  A moment counts
as a table in which none of the fields is given. -/
def fields? (names : List String) : Toml → Option (List (String × Toml))
  | .table _ entries => some entries
  | .array items | .tables items => some (names.zip items)
  | .moment _ => some []
  | _ => none

/-- What stands for the root of a profile in its other paths. -/
def rootPlaceholder : List Char := "\x7b\x7bdata_root\x7d\x7d".toList

/-- A path below the root of a profile. -/
def belowRoot (path : String) : String :=
  String.ofList rootPlaceholder ++ path

def readProfile? (value : Toml) : Option ProfileSettings := do
  let entries ← fields? ["data_root", "inputs_dir", "scenarios_dir", "data_file", "output_dir"]
    value
  let dataRoot ← (← field? readText? "data_root" entries)
  let inputs ← field? readText? "inputs_dir" entries
  let scenarios ← field? readText? "scenarios_dir" entries
  let dataFile ← field? readText? "data_file" entries
  let output ← field? readText? "output_dir" entries
  return ⟨dataRoot, inputs.getD (belowRoot "/inputs"), scenarios.getD (belowRoot "/scenarios"),
    dataFile.getD (belowRoot "/data.yaml"), output.getD (belowRoot "/out")⟩

def readProfiles? : Toml → Option (List (String × ProfileSettings))
  | .table _ entries =>
      entries.mapM fun (name, value) => (readProfile? value).map fun profile => (name, profile)
  | _ => none

/-- How the program reports what it does by default. -/
def defaultLogging : LoggingSettings :=
  ⟨"info", none, none⟩

/-- Read how the program reports what it does. -/
def readLogging? (value : Toml) : Option LoggingSettings := do
  let entries ← fields? ["level", "file_level", "file"] value
  let level ← field? readText? "level" entries
  let fileLevel ← field? readText? "file_level" entries
  let file ← field? readText? "file" entries
  return ⟨level.getD defaultLogging.level, fileLevel, file⟩

def defaultPrecision : Nat := 2

def readDisplay? (value : Toml) : Option Nat := do
  let entries ← fields? ["precision"] value
  let precision ← field? (readNatural? (powerOfTwo 64)) "precision" entries
  return precision.getD defaultPrecision

/-- Read a configuration file.  Fields with other names are ignored. -/
def readFile? (text : String) : Option ConfigurationFile := do
  let entries ← TomlReading.read? text
  let version ← (← field? (readNatural? (powerOfTwo 32)) "version" entries)
  let profile ← field? readText? "profile" entries
  let profiles ← (← field? readProfiles? "profiles" entries)
  let logging ← field? readLogging? "logging" entries
  let display ← field? readDisplay? "display" entries
  return ⟨version, profile, profiles, logging.getD defaultLogging,
    display.getD defaultPrecision⟩

def supportedVersion : Nat := 1

/-- The profile that is used if none is named. -/
def defaultProfile : String := "default"

def expandPath (environment : Environment) (path : String) :
    Except ConfigurationError String :=
  match PathExpansion.expand? environment path with
  | some expanded => .ok expanded
  | none => .error (.cannotExpand path)

/-- Expand a path in which the root of the profile may be named. -/
def resolvePath (environment : Environment) (root path : String) :
    Except ConfigurationError String :=
  expandPath environment
    (String.ofList
      (replacePhrase '{' (rootPlaceholder.drop 1) root.toList path.toList))

/-- Select a profile and expand its paths. -/
def resolve (environment : Environment) (override : Option String) (file : ConfigurationFile) :
    Except ConfigurationError Configuration := do
  if file.version ≠ supportedVersion then throw (.unsupportedVersion file.version)
  if file.profiles.isEmpty then throw .noProfiles
  let name := (override.orElse fun _ => file.profile).getD defaultProfile
  match file.profiles.lookup name with
  | none => throw (.profileNotFound name)
  | some profile =>
      let root ← expandPath environment profile.dataRoot
      let resolved := resolvePath environment root
      let logFile ← file.logging.file.mapM resolved
      let inputs ← resolved profile.inputsDirectory
      let scenarios ← resolved profile.scenariosDirectory
      let dataFile ← resolved profile.dataFile
      let output ← resolved profile.outputDirectory
      return ⟨name, ⟨root, inputs, scenarios, dataFile, output⟩,
        { file.logging with file := logFile }, file.precision⟩

/-- Read a configuration from a text; errors of the text name where it came
from. -/
def ofText (environment : Environment) (override : Option String) (place text : String) :
    Except ConfigurationError Configuration :=
  match readFile? text with
  | none => .error (.malformed place)
  | some file => resolve environment override file

/-- The variable that names the directory of configurations. -/
def directoryVariable : String := "XDG_CONFIG_HOME"

/-- The variables that lead to the configuration and to the home directory. -/
def placeVariables : List String :=
  [directoryVariable, PathExpansion.homeVariable]

/-- Where the configuration is if no other place is given. -/
def defaultPath (environment : Environment) : String :=
  let base :=
    match environment directoryVariable with
    | some directory => directory
    | none =>
        match environment PathExpansion.homeVariable with
        | some home => Path.join home ".config"
        | none => "~/.config"
  Path.join (Path.join base "napkin") "config.toml"

/-- Load the configuration at a path or at the default one. -/
def load (files : FileSystem) (environment : Environment) (path override : Option String) :
    Except ConfigurationError Configuration :=
  let place := path.getD (defaultPath environment)
  match files.readText place with
  | .error .notFound => .error (.notFound place)
  | .error reason => .error (.unreadable place reason)
  | .ok text => ofText environment override place text

end Configuration

end BackOfEnvelope
