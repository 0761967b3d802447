import BackOfEnvelope.NumberReading
import BackOfEnvelope.Text

/-!
# Arguments of the command line

A command line has options, one command, and options of that command.  The
options for the configuration may stand before or behind the command; where they
stand in both places, those behind it count.

An option takes its value from the same argument behind an equals sign or from
the next argument, unless that begins like an option.  A value is looked at only
when the next known option or the end of the arguments is reached, so an unknown
argument in between is reported first.
-/

namespace BackOfEnvelope

inductive OptionKind where
  | flag
  | text
  /-- A path, which must not be empty. -/
  | path
  /-- A name and a number; the option may be repeated. -/
  | setting

/-- An option of the command line. -/
structure CommandOption where
  name : String
  valueName : String
  kind : OptionKind

namespace CommandOption

def shown (option : CommandOption) : String :=
  match option.kind with
  | .flag => "--" ++ option.name
  | _ => "--" ++ option.name ++ " <" ++ option.valueName ++ ">"

/-- Whether an option may be given several times. -/
def repeats (option : CommandOption) : Bool :=
  match option.kind with
  | .setting => true
  | _ => false

def isFlag (option : CommandOption) : Bool :=
  match option.kind with
  | .flag => true
  | _ => false

def shared : List CommandOption :=
  [⟨"config", "CONFIG", .path⟩, ⟨"profile", "PROFILE", .text⟩]

/-- The options of a listing of variables. -/
def forInputs : List CommandOption :=
  [⟨"type", "VARIABLE_TYPE", .text⟩, ⟨"json", "", .flag⟩]

/-- The options of a listing of scenarios. -/
def forScenarios : List CommandOption :=
  [⟨"category", "CATEGORY", .text⟩, ⟨"set", "NAME=VALUE", .setting⟩, ⟨"json", "", .flag⟩]

/-- The options of a command that writes files. -/
def forOutput : List CommandOption :=
  [⟨"out", "OUT", .path⟩]

def ofCommand? (command : String) : Option (List CommandOption) :=
  if command = "doctor" || command = "validate" then some shared
  else if command = "inputs" then some (shared ++ forInputs)
  else if command = "scenarios" then some (shared ++ forScenarios)
  else if command = "export" || command = "build" then some (shared ++ forOutput)
  else none

end CommandOption

/-- Why a command line cannot be used. -/
inductive UsageError where
  | unexpectedArgument (argument : String)
  | unrecognizedCommand (name : String)
  | valueRequired (option : CommandOption)
  | repeated (option : CommandOption)
  | unexpectedValue (value : String) (option : CommandOption)
  | invalidValue (value : String) (option : CommandOption) (reason : String)
  | commandRequired

namespace UsageError

def message : UsageError → String
  | .unexpectedArgument argument => "unexpected argument '" ++ argument ++ "' found"
  | .unrecognizedCommand name => "unrecognized subcommand '" ++ name ++ "'"
  | .valueRequired option =>
      "a value is required for '" ++ option.shown ++ "' but none was supplied"
  | .repeated option => "the argument '" ++ option.shown ++ "' cannot be used multiple times"
  | .unexpectedValue value option =>
      "unexpected value '" ++ value ++ "' for '" ++ option.shown ++
        "' found; no more were expected"
  | .invalidValue value option reason =>
      "invalid value '" ++ value ++ "' for '" ++ option.shown ++ "': " ++ reason
  | .commandRequired => "'napkin' requires a subcommand but one was not provided"

end UsageError

inductive CommandStop where
  /-- The command line cannot be used. -/
  | usage (error : UsageError)
  | help
  | version
  | nothingAsked

/-- A setting of a number on the command line. -/
structure NumberSetting where
  name : String
  value : Float

namespace NumberSetting

/-- Divide a text at its first equals sign. -/
def divide? (text : List Char) : Option (List Char × List Char) :=
  if text.contains '=' then
    some (text.takeWhile (· != '='), (text.dropWhile (· != '=')).drop 1)
  else none

/-- Read a setting, or else tell why it is none. -/
def read (text : String) : Except String NumberSetting :=
  match divide? text.toList with
  | none => .error ("expected NAME=VALUE, got '" ++ text ++ "'")
  | some (name, value) =>
      let name := trimCharacters name
      let value := trimCharacters value
      if name.isEmpty then .error ("missing variable name in '" ++ text ++ "'")
      else
        match readNumber? value with
        | some number => .ok ⟨String.ofList name, number⟩
        | none => .error ("'" ++ String.ofList value ++ "' is not a number")

end NumberSetting

structure OptionReading where
  /-- The options with their values, in order. -/
  given : List (String × String)
  /-- The last option, which has not been looked at. -/
  pending : Option (CommandOption × Option String)

namespace OptionReading

def start : OptionReading :=
  ⟨[], none⟩

/-- Whether an option waits for its value. -/
def awaitsValue (reading : OptionReading) : Bool :=
  match reading.pending with
  | some (_, none) => true
  | _ => false

def accept (reading : OptionReading) (option : CommandOption) (value : String) :
    Except UsageError OptionReading :=
  if !option.repeats && (reading.given.lookup option.name).isSome then .error (.repeated option)
  else
    let accepted : OptionReading :=
      { reading with given := reading.given ++ [(option.name, value)] }
    match option.kind with
    | .flag | .text => .ok accepted
    | .path => if value.isEmpty then .error (.valueRequired option) else .ok accepted
    | .setting =>
        match NumberSetting.read value with
        | .ok _ => .ok accepted
        | .error reason => .error (.invalidValue value option reason)

/-- Look at the last option. -/
def settle (reading : OptionReading) : Except UsageError OptionReading :=
  match reading.pending with
  | none => .ok reading
  | some (option, none) => .error (.valueRequired option)
  | some (option, some value) =>
      ({ reading with pending := none } : OptionReading).accept option value

/-- Read a known option with the value behind its equals sign, if there is
one. -/
def addOption (reading : OptionReading) (option : CommandOption) (attached : Option String) :
    Except UsageError OptionReading :=
  match attached with
  | some value =>
      if option.isFlag then .error (.unexpectedValue value option)
      else do (← reading.settle).accept option value
  | none => do
      let settled ← reading.settle
      if option.isFlag then settled.accept option ""
      else return { settled with pending := some (option, none) }

/-- Give a value to the option that waits for it. -/
def addValue (reading : OptionReading) (value : String) : OptionReading :=
  { reading with pending := reading.pending.map fun (option, _) => (option, some value) }

def value? (reading : OptionReading) (name : String) : Option String :=
  reading.given.lookup name

/-- The values of an option that may be repeated. -/
def values (reading : OptionReading) (name : String) : List String :=
  (reading.given.filter fun entry => entry.1 = name).map Prod.snd

end OptionReading

/-- The name of an option behind its two dashes, and the value behind an equals
sign. -/
def splitOption (text : List Char) : String × Option String :=
  match NumberSetting.divide? text with
  | some (name, value) => (String.ofList name, some (String.ofList value))
  | none => (String.ofList text, none)

/-- What an argument is by its first characters. -/
inductive ArgumentForm where
  /-- Two dashes alone, behind which there are no options. -/
  | separator
  | long (name : String) (attached : Option String)
  | short (letter : Char)
  | plain

namespace ArgumentForm

def ofArgument (argument : String) : ArgumentForm :=
  match argument.toList with
  | ['-', '-'] => .separator
  | '-' :: '-' :: rest =>
      let (name, attached) := splitOption rest
      .long name attached
  | '-' :: letter :: _ => .short letter
  | _ => .plain

end ArgumentForm

namespace CommandArguments

/-- Report an error of the command line. -/
def usage {α : Type} (error : UsageError) : Except CommandStop α :=
  .error (.usage error)

/-- Take over an error of the command line. -/
def checked {α : Type} : Except UsageError α → Except CommandStop α
  | .ok value => .ok value
  | .error error => usage error

/-- Stop for help or the version, after the last option has been looked at. -/
def stopWith {α : Type} (reading : OptionReading) (stop : CommandStop) :
    Except CommandStop α := do
  let _ ← checked reading.settle
  .error stop

/-- What an option asks for that is known everywhere, or for the version only
where a command is expected. -/
def stopNamed? (expectsCommand : Bool) (name : String) : Option CommandStop :=
  if name = "help" then some .help
  else if name = "version" && expectsCommand then some .version
  else none

def isCommandName (name : String) : Bool :=
  (CommandOption.ofCommand? name).isSome || name = "help"

/-- Report an argument behind two dashes, where nothing takes one.  Where a command is
expected, a name that no command has is reported as such. -/
def behindDashes (expectsCommand : Bool) (argument : String) : UsageError :=
  if expectsCommand && !isCommandName argument then .unrecognizedCommand argument
  else .unexpectedArgument argument

/-- Read arguments up to a command, or to their end where no command is expected.
The answer holds the command and the arguments behind it.  The flag tells that
two dashes have ended the options. -/
def readOptions (options : List CommandOption) (expectsCommand behindSeparator : Bool)
    (reading : OptionReading) :
    List String → Except CommandStop (OptionReading × Option (String × List String))
  | [] => .ok (reading, none)
  | argument :: rest =>
      if behindSeparator then usage (behindDashes expectsCommand argument)
      else
        match ArgumentForm.ofArgument argument with
        | .separator => readOptions options expectsCommand true reading rest
        | .long name attached =>
            match options.find? fun option => option.name = name with
            | some option =>
                match reading.addOption option attached with
                | .error error => usage error
                | .ok reading => readOptions options expectsCommand false reading rest
            | none =>
                match stopNamed? expectsCommand name, attached with
                | some _, some value => usage (.unexpectedValue value ⟨name, "", .flag⟩)
                | some stop, none => stopWith reading stop
                | none, _ => usage (.unexpectedArgument ("--" ++ name))
        | .short letter =>
            if letter = 'h' then stopWith reading .help
            else if letter = 'V' && expectsCommand then stopWith reading .version
            else usage (.unexpectedArgument ("-" ++ letter.toString))
        | .plain =>
            if reading.awaitsValue then
              readOptions options expectsCommand false (reading.addValue argument) rest
            else if expectsCommand then .ok (reading, some (argument, rest))
            else usage (.unexpectedArgument argument)

end CommandArguments

/-- What a command line asks for. -/
inductive CommandRequest where
  | doctor
  | inputs (type : Option String) (json : Bool)
  | scenarios (category : Option String) (settings : List NumberSetting) (json : Bool)
  | validate
  | exportData (out : Option String)
  | build (out : Option String)

/-- A command line. -/
structure CommandLine where
  config : Option String
  profile : Option String
  request : CommandRequest

namespace CommandArguments

/-- What a command asks for with its options. -/
def requestOf (command : String) (reading : OptionReading) : CommandRequest :=
  let json := (reading.value? "json").isSome
  if command = "inputs" then .inputs (reading.value? "type") json
  else if command = "scenarios" then
    let settings := (reading.values "set").filterMap fun text => (NumberSetting.read text).toOption
    .scenarios (reading.value? "category") settings json
  else if command = "validate" then .validate
  else if command = "export" then .exportData (reading.value? "out")
  else if command = "build" then .build (reading.value? "out")
  else .doctor

/-- Answer to the command `help`, whose arguments name commands. -/
def readHelp (arguments : List String) : CommandStop :=
  match arguments with
  | [] => .help
  | command :: rest =>
      if isCommandName command then
        match rest with
        | [] => .help
        | other :: _ => .usage (.unrecognizedCommand other)
      else .usage (.unrecognizedCommand command)

/-- Read a command line. -/
def read (arguments : List String) : Except CommandStop CommandLine := do
  let (before, command) ←
    readOptions CommandOption.shared true false OptionReading.start arguments
  match command with
  | none =>
      let before ← checked before.settle
      if before.given.isEmpty then .error .nothingAsked else usage .commandRequired
  | some (command, rest) =>
      match CommandOption.ofCommand? command with
      | none =>
          if command = "help" then .error (readHelp rest)
          else usage (.unrecognizedCommand command)
      | some options =>
          let (behind, _) ← readOptions options false false OptionReading.start rest
          let behind ← checked behind.settle
          let before ← checked before.settle
          let shared (name : String) : Option String :=
            (behind.value? name).orElse fun _ => before.value? name
          return ⟨shared "config", shared "profile", requestOf command behind⟩

end CommandArguments

end BackOfEnvelope
