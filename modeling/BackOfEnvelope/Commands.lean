import BackOfEnvelope.CalculationValidation
import BackOfEnvelope.CommandArguments
import BackOfEnvelope.Configuration
import BackOfEnvelope.ContentBundle
import BackOfEnvelope.ContentLoading
import BackOfEnvelope.CsvExport
import BackOfEnvelope.InputValidation
import BackOfEnvelope.Listing
import BackOfEnvelope.MarkdownExport

/-!
# Commands

What each command writes, to its output, to its errors and into files, and the
code with which it exits.  A command sees nothing but its arguments, the
environment and the files.
-/

namespace BackOfEnvelope

structure CommandResult where
  /-- Zero for success, one for failure, two for a wrong command line. -/
  exitCode : Nat
  output : String
  errors : String
  files : FileSystem

namespace CommandResult

def start (files : FileSystem) : CommandResult :=
  ⟨0, "", "", files⟩

def print (result : CommandResult) (text : String) : CommandResult :=
  { result with output := result.output ++ text }

/-- Write a line to the errors. -/
def warn (result : CommandResult) (line : String) : CommandResult :=
  { result with errors := result.errors ++ line ++ "\n" }

def exit (result : CommandResult) (code : Nat) : CommandResult :=
  { result with exitCode := code }

def fail (result : CommandResult) (message : String) : CommandResult :=
  (result.warn ("Error: " ++ message)).exit 1

end CommandResult

namespace Commands

def version : String := "0.1.0"

/-- The directory of a path, if it names one. -/
def directoryOf? (path : String) : Option String :=
  (Path.parent? path).filter fun directory => !directory.isEmpty

/-- Make the directory of the log file. -/
def makeLogDirectory (result : CommandResult) (path : String) : CommandResult :=
  match directoryOf? path with
  | none => result
  | some directory =>
      match result.files.makeDirectories directory with
      | .ok files => { result with files }
      | .error error =>
          result.warn
            ("warning: cannot create log directory " ++ directory ++ ": " ++ error.message)

/-- Begin the log file, if there is one. -/
def openLog (result : CommandResult) (logging : LoggingSettings) : CommandResult :=
  match logging.file with
  | none => result
  | some path =>
      let prepared := makeLogDirectory result path
      match prepared.files.writeText path "" with
      | .ok files => { prepared with files }
      | .error error =>
          prepared.warn
            ("warning: cannot create log file " ++ path ++ ": " ++ error.message ++
              "; file logging disabled")

/-- A word for whether something stands at a path. -/
def presence (files : FileSystem) (path : String) : String :=
  if files.hasPath path then "ok" else "missing"

/-- The lines that describe a configuration. -/
def describe (files : FileSystem) (place : String) (config : Configuration) : List String :=
  let places := config.places
  let withPresence (label path : String) : String :=
    label ++ ": " ++ path ++ " (" ++ presence files path ++ ")"
  ["OK   napkin doctor (" ++ version ++ ")", "path: " ++ place, "profile: " ++ config.profile,
    "data_root: " ++ places.dataRoot, withPresence "inputs_dir" places.inputsDirectory,
    withPresence "scenarios_dir" places.scenariosDirectory,
    withPresence "data_file" places.dataFile, "output_dir: " ++ places.outputDirectory,
    "logging.level: " ++ config.logging.level] ++
    (config.logging.file.map fun path => "logging.file: " ++ path).toList ++
    ["display.precision: " ++ toString config.precision]

/-- Lines with their line ends. -/
def unlines (lines : List String) : String :=
  String.join (lines.map fun line => line ++ "\n")

/-- Check the configuration and show its places. -/
def doctor (files : FileSystem) (environment : Environment) (path profile : Option String) :
    CommandResult :=
  let result := CommandResult.start files
  let defaultPath := Configuration.defaultPath environment
  match Configuration.load files environment path profile with
  | .ok config => result.print (unlines (describe files (path.getD defaultPath) config))
  | .error error =>
      let hint := if path.isNone then ["looked for: " ++ defaultPath] else []
      (result.print (unlines (["FAIL napkin doctor", error.message] ++ hint))).exit 1

def inputs (result : CommandResult) (config : Configuration) (type : Option String)
    (json : Bool) : CommandResult :=
  let loaded := VariableSet.load result.files config.places.inputsDirectory
  let selected := Listing.selectVariables loaded type
  if json then result.print (Listing.jsonLines (selected.map Listing.variableJson))
  else
    let rows := selected.map (Listing.variableRow config.precision)
    let total :=
      if rows.isEmpty then "" else "\nTotal: " ++ toString rows.length ++ " inputs\n"
    result.print (Listing.table Listing.variableHeader rows "(no inputs found)" ++ total)

def scenarios (result : CommandResult) (config : Configuration) (category : Option String)
    (settings : List NumberSetting) (json : Bool) : CommandResult :=
  let loaded := VariableSet.load result.files config.places.inputsDirectory
  let scenarios := Scenario.load result.files config.places.scenariosDirectory
  let shown :=
    Listing.scenarioResults loaded scenarios
      (settings.map fun setting => (setting.name, setting.value))
      (category.getD Scenario.everyCategory) config.precision
  if json then result.print (Listing.jsonLines (shown.map Listing.scenarioJson))
  else
    result.print
      (Listing.table Listing.scenarioHeader (shown.map Listing.scenarioRow)
        "(no scenarios found)")

/-- The lines for the validation of inputs. -/
def inputLines (report : ValidationReport) : List String :=
  if report.isValid then ["All inputs are correctly formatted."]
  else "Validation Errors Found:" :: report.problems.map fun problem => "- " ++ problem.message

/-- The lines for the validation of calculations. -/
def calculationLines (report : ValidationReport) : List String :=
  let evaluated := report.evaluated.map fun calculation =>
    "Calculation \"" ++ calculation.title ++ "\" evaluated successfully with result: " ++
      NumberLayout.message.write calculation.value
  evaluated ++
    if report.isValid then ["All calculations evaluated successfully."]
    else report.problems.map fun problem => "Validation error: " ++ problem.message

/-- Validate the data file and the names of variables. -/
def validate (result : CommandResult) (config : Configuration) : CommandResult :=
  match DataFile.load result.files config.places.dataFile with
  | .error error => result.fail error.message
  | .ok data =>
      let directory := config.places.inputsDirectory
      let inputs := InputValidation.validate data
      let calculations := CalculationValidation.validate data
      let names :=
        if result.files.isDirectory directory then
          InputValidation.validateNames (VariableSet.load result.files directory)
        else ValidationReport.empty
      let nameLines := names.problems.map fun problem => "- " ++ problem.message
      let valid := inputs.isValid && calculations.isValid && names.isValid
      let lines := inputLines inputs ++ calculationLines calculations ++ nameLines
      (result.print (unlines lines)).exit (if valid then 0 else 1)

/-- A file to write and how its failure is reported. -/
structure FileOutput where
  /-- The name inside the directory. -/
  name : String
  text : String
  failure : String

/-- Write files into a directory up to the first failure. -/
def writeOutputs (directory : String) (result : CommandResult) :
    List FileOutput → CommandResult
  | [] => result
  | output :: rest =>
      let path := Path.join directory output.name
      match result.files.writeText path output.text with
      | .error error => result.fail (output.failure ++ " " ++ path ++ ": " ++ error.message)
      | .ok files =>
          let written : CommandResult := { result with files }
          writeOutputs directory (written.print ("wrote " ++ path ++ "\n")) rest

def exportOutputs (data : DataFile) : List FileOutput :=
  [⟨"inputs.md", MarkdownExport.inputs data, "writing"⟩,
    ⟨"calculations.md", MarkdownExport.calculations data, "writing"⟩,
    ⟨"inputs.csv", CsvExport.inputs data, "failed to write"⟩,
    ⟨"calculations.csv", CsvExport.calculations data, "failed to write"⟩]

def exportData (result : CommandResult) (config : Configuration) (out : Option String) :
    CommandResult :=
  let directory := out.getD config.places.outputDirectory
  match DataFile.load result.files config.places.dataFile with
  | .error error => result.fail error.message
  | .ok data =>
      match result.files.makeDirectories directory with
      | .error error => result.fail ("creating " ++ directory ++ ": " ++ error.message)
      | .ok files => writeOutputs directory { result with files } (exportOutputs data)

/-- The files with the directory of a path made, or else the report of its
failure. -/
def makeDirectoryOf (files : FileSystem) (path : String) : Except String FileSystem :=
  match directoryOf? path with
  | none => .ok files
  | some directory =>
      match files.makeDirectories directory with
      | .ok made => .ok made
      | .error error => .error ("creating " ++ directory ++ ": " ++ error.message)

def bundlePath (places : ProfileSettings) (out : Option String) : String :=
  out.getD (Path.join places.outputDirectory "data.json")

def build (result : CommandResult) (config : Configuration) (out : Option String) :
    CommandResult :=
  let places := config.places
  let path := bundlePath places out
  match ContentBundle.build result.files places.inputsDirectory places.scenariosDirectory with
  | .error missing => result.fail ("content directory does not exist: " ++ missing)
  | .ok bundle =>
      match makeDirectoryOf result.files path with
      | .error message => result.fail message
      | .ok prepared =>
          match prepared.writeText path bundle.text with
          | .error error =>
              ({ result with files := prepared } : CommandResult).fail
                ("failed to write " ++ path ++ ": " ++ error.message)
          | .ok files =>
              ({ result with files } : CommandResult).print
                ("wrote " ++ path ++ " (" ++ toString bundle.inputs.length ++ " inputs, " ++
                  toString bundle.scenarios.length ++ " scenarios)\n")

/-- Run what a command line asks for with its configuration. -/
def runRequest (result : CommandResult) (config : Configuration) (request : CommandRequest) :
    CommandResult :=
  match request with
  | .doctor => result
  | .inputs type json => inputs result config type json
  | .scenarios category settings json => scenarios result config category settings json
  | .validate => validate result config
  | .exportData out => exportData result config out
  | .build out => build result config out

/-- Run a command line. -/
def runLine (files : FileSystem) (environment : Environment) (line : CommandLine) :
    CommandResult :=
  match line.request with
  | .doctor => doctor files environment line.config line.profile
  | request =>
      let result := CommandResult.start files
      match Configuration.load files environment line.config line.profile with
      | .error error => (result.warn ("Error loading config: " ++ error.message)).exit 1
      | .ok config => runRequest (openLog result config.logging) config request

/-- The text that tells how the program is used. -/
def usageText : String :=
  unlines
    ["Napkin-math inputs, scenarios and calculations", "",
      "Usage: napkin [--config <CONFIG>] [--profile <PROFILE>] <COMMAND>", "", "Commands:",
      "  doctor     Validate configuration and print resolved paths",
      "  inputs     List input variables with their values",
      "  scenarios  Compute every scenario and show its result",
      "  validate   Check the data file inputs and calculations",
      "  export     Write Markdown and CSV exports of the data file",
      "  build      Write the combined JSON bundle of all content files"]

/-- Run the arguments of a command line. -/
def run (files : FileSystem) (environment : Environment) (arguments : List String) :
    CommandResult :=
  let result := CommandResult.start files
  match CommandArguments.read arguments with
  | .ok line => runLine files environment line
  | .error .help => result.print usageText
  | .error .version => result.print ("napkin " ++ version ++ "\n")
  | .error .nothingAsked => { result with errors := usageText, exitCode := 2 }
  | .error (.usage error) => (result.warn ("error: " ++ error.message)).exit 2

end Commands

end BackOfEnvelope
