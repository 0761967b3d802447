import BackOfEnvelope.Configuration
import BackOfEnvelope.Proofs.PlainPaths

/-!
# Locations below the root of a profile

A location that is set below the root of its profile is expanded after the expanded root has been
put in.  The root is so expanded twice, and the location is the root with the suffix behind it
just if this path is left as it is by another expansion.  In every environment that is so for the
plain paths only.
-/

namespace BackOfEnvelope

section Phrases

variable {first : Char} {others replacement text : List Char}

theorem replacePhrase_of_not_infix (absent : ¬ first :: others <:+: text) :
    replacePhrase first others replacement text = text := by
  induction text with
  | nil => rw [replacePhrase]
  | cons c rest ih =>
      rw [List.infix_cons_iff, not_or, List.cons_prefix_cons] at absent
      rw [replacePhrase, ih absent.2, if_neg]
      rw [Bool.and_eq_true, decide_eq_true_iff, List.isPrefixOf_iff_prefix]
      rintro ⟨rfl, inFront⟩
      exact absent.1 ⟨rfl, inFront⟩

theorem replacePhrase_append :
    replacePhrase first others replacement (first :: (others ++ text)) =
      replacement ++ replacePhrase first others replacement text := by
  rw [replacePhrase, if_pos, List.drop_left]
  rw [Bool.and_eq_true, decide_eq_true_iff, List.isPrefixOf_iff_prefix]
  exact ⟨rfl, List.prefix_append others text⟩

end Phrases

namespace Configuration

open PathExpansion

/-- What may be set below the root of a profile. -/
inductive Location where
  | inputs
  | scenarios
  | dataFile
  | output
  | logFile

namespace Location

/-- The path of a location, if it is given. -/
def path? (places : ProfileSettings) (logging : LoggingSettings) : Location → Option String
  | inputs => some places.inputsDirectory
  | scenarios => some places.scenariosDirectory
  | dataFile => some places.dataFile
  | output => some places.outputDirectory
  | logFile => logging.file

end Location

/-- The profile is the active one, and this is its expanded root. -/
structure Activates (environment : Environment) (override : Option String)
    (file : ConfigurationFile) (profile : ProfileSettings) (root : String) : Prop where
  version : file.version = supportedVersion
  selected : file.profiles.lookup ((override.orElse fun _ => file.profile).getD defaultProfile) =
    some profile
  expands : expandPath environment profile.dataRoot = .ok root

/-- The root is named in front of a suffix only. -/
def IsBelowRoot (setting suffix : String) : Prop :=
  setting = belowRoot suffix ∧ ¬ rootPlaceholder <:+: suffix.toList

variable {environment : Environment} {override : Option String} {file : ConfigurationFile}
variable {profile : ProfileSettings} {root setting suffix path text : String}
variable {configuration : Configuration} {location : Location}

theorem bind_eq_ok_iff {α β : Type} {first : Except ConfigurationError α}
    {next : α → Except ConfigurationError β} {result : β} :
    first >>= next = .ok result ↔ ∃ value, first = .ok value ∧ next value = .ok result := by
  cases first with
  | error reason => simp [bind, Except.bind]
  | ok value => simp [bind, Except.bind]

theorem expandPath_eq_ok_iff :
    expandPath environment setting = .ok path ↔ expand? environment setting = some path := by
  unfold expandPath
  cases expand? environment setting <;> simp

theorem rootPlaceholder_eq_cons : rootPlaceholder = '{' :: rootPlaceholder.drop 1 := by
  decide

theorem toList_belowRoot (suffix : String) :
    (belowRoot suffix).toList = '{' :: (rootPlaceholder.drop 1 ++ suffix.toList) := by
  rw [belowRoot, String.toList_append, String.toList_ofList]
  exact congrArg (· ++ suffix.toList) rootPlaceholder_eq_cons

theorem IsBelowRoot.resolvePath_eq (below : IsBelowRoot setting suffix)
    (environment : Environment) (root : String) :
    resolvePath environment root setting = expandPath environment (root ++ suffix) := by
  obtain ⟨rfl, once⟩ := below
  rw [rootPlaceholder_eq_cons] at once
  rw [resolvePath, toList_belowRoot, replacePhrase_append, replacePhrase_of_not_infix once,
    ← String.toList_append, String.ofList_toList]

theorem IsBelowRoot.resolvePath_eq_ok_iff (below : IsBelowRoot setting suffix) :
    resolvePath environment root setting = .ok (root ++ suffix) ↔
      Keeps environment (root ++ suffix) := by
  rw [below.resolvePath_eq, expandPath_eq_ok_iff, Keeps]

theorem isBelowRoot_of_isPlainSuffix (plainSuffix : IsPlainSuffix suffix) :
    IsBelowRoot (belowRoot suffix) suffix := by
  refine ⟨rfl, fun within => plainSuffix.noBrace (within.subset ?_)⟩
  decide

/-- The locations below a plain root are where they are expected. -/
theorem resolvePath_of_isPlain (plain : IsPlain root) (plainSuffix : IsPlainSuffix suffix) :
    resolvePath environment root (belowRoot suffix) = .ok (root ++ suffix) :=
  (isBelowRoot_of_isPlainSuffix plainSuffix).resolvePath_eq_ok_iff.mpr
    ((plain.append plainSuffix).keeps environment)

theorem mapM_some_eq_ok_iff {resolved : String → Except ConfigurationError String}
    {result : Option String} :
    (some setting).mapM resolved = .ok result ↔
      ∃ path, resolved setting = .ok path ∧ result = some path := by
  rw [Option.mapM_some]
  cases resolved setting with
  | error reason => simp [Functor.map, Except.map]
  | ok path => simp [Functor.map, Except.map, eq_comm]

/-- With an active profile all that is left is to resolve the locations. -/
theorem resolve_eq_ok_iff (active : Activates environment override file profile root) :
    resolve environment override file = .ok configuration ↔
      ∃ logFile, file.logging.file.mapM (resolvePath environment root) = .ok logFile ∧
        ∃ inputs, resolvePath environment root profile.inputsDirectory = .ok inputs ∧
        ∃ scenarios, resolvePath environment root profile.scenariosDirectory = .ok scenarios ∧
        ∃ dataFile, resolvePath environment root profile.dataFile = .ok dataFile ∧
        ∃ output, resolvePath environment root profile.outputDirectory = .ok output ∧
          ⟨(override.orElse fun _ => file.profile).getD defaultProfile,
            ⟨root, inputs, scenarios, dataFile, output⟩, { file.logging with file := logFile },
            file.precision⟩ = configuration := by
  -- The active profile is one of the profiles, so there are some.
  have someProfiles : ¬ file.profiles.isEmpty = true := by
    intro isEmpty
    have selected := active.selected
    rw [List.isEmpty_iff.mp isEmpty] at selected
    cases selected
  rw [resolve, if_neg (not_not_intro active.version), if_neg someProfiles]
  simp only [active.selected, active.expands, bind_eq_ok_iff, pure, Except.pure,
    Except.ok.injEq, exists_eq_left']

theorem ofText_eq (read : readFile? text = some file) (place : String) :
    ofText environment override place text = resolve environment override file := by
  rw [ofText, read]

theorem dataRoot_of_resolve (active : Activates environment override file profile root)
    (resolved : resolve environment override file = .ok configuration) :
    configuration.places.dataRoot = root := by
  obtain ⟨_, -, _, -, _, -, _, -, _, -, rfl⟩ := (resolve_eq_ok_iff active).mp resolved
  rfl

theorem exists_path_of_resolve (active : Activates environment override file profile root)
    (resolved : resolve environment override file = .ok configuration)
    (given : location.path? profile file.logging = some setting) :
    ∃ path, resolvePath environment root setting = .ok path ∧
      location.path? configuration.places configuration.logging = some path := by
  obtain ⟨logFile, ofLogFile, inputs, ofInputs, scenarios, ofScenarios, dataFile, ofDataFile,
    output, ofOutput, rfl⟩ := (resolve_eq_ok_iff active).mp resolved
  cases location with
  | inputs =>
      cases given
      exact ⟨inputs, ofInputs, rfl⟩
  | scenarios =>
      cases given
      exact ⟨scenarios, ofScenarios, rfl⟩
  | dataFile =>
      cases given
      exact ⟨dataFile, ofDataFile, rfl⟩
  | output =>
      cases given
      exact ⟨output, ofOutput, rfl⟩
  | logFile =>
      rw [Location.path?] at given
      rw [given] at ofLogFile
      exact mapM_some_eq_ok_iff.mp ofLogFile

theorem exists_resolve (active : Activates environment override file profile root)
    (resolves : ∀ (location : Location) (setting : String),
      location.path? profile file.logging = some setting →
        ∃ path, resolvePath environment root setting = .ok path) :
    ∃ configuration, resolve environment override file = .ok configuration := by
  obtain ⟨inputs, ofInputs⟩ := resolves .inputs _ rfl
  obtain ⟨scenarios, ofScenarios⟩ := resolves .scenarios _ rfl
  obtain ⟨dataFile, ofDataFile⟩ := resolves .dataFile _ rfl
  obtain ⟨output, ofOutput⟩ := resolves .output _ rfl
  have ofLogFile : ∃ logFile,
      file.logging.file.mapM (resolvePath environment root) = .ok logFile := by
    cases given : file.logging.file with
    | none => exact ⟨none, rfl⟩
    | some setting =>
        obtain ⟨path, ofPath⟩ := resolves .logFile setting given
        exact ⟨some path, mapM_some_eq_ok_iff.mpr ⟨path, ofPath, rfl⟩⟩
  obtain ⟨logFile, ofLogFile⟩ := ofLogFile
  exact ⟨_, (resolve_eq_ok_iff active).mpr ⟨logFile, ofLogFile, inputs, ofInputs, scenarios,
    ofScenarios, dataFile, ofDataFile, output, ofOutput, rfl⟩⟩

/-- A location that is set below the root is the root with the suffix behind it just if another
expansion leaves this path as it is, and whatever the environment just if the path is plain.  The
configuration loads just if each of its locations resolves, and then holds what they resolve to. -/
theorem resolves_below_root_iff (place : String) (read : readFile? text = some file)
    (active : Activates environment override file profile root) :
    (∀ setting suffix, IsBelowRoot setting suffix →
      (resolvePath environment root setting = .ok (root ++ suffix) ↔
        Keeps environment (root ++ suffix)) ∧
      ((∀ other, resolvePath other root setting = .ok (root ++ suffix)) ↔
        IsPlain (root ++ suffix))) ∧
    ((∃ configuration, ofText environment override place text = .ok configuration) ↔
      ∀ (location : Location) setting, location.path? profile file.logging = some setting →
        ∃ path, resolvePath environment root setting = .ok path) ∧
    ∀ configuration, ofText environment override place text = .ok configuration →
      configuration.places.dataRoot = root ∧
      ∀ (location : Location) setting suffix,
        location.path? profile file.logging = some setting → IsBelowRoot setting suffix →
          (location.path? configuration.places configuration.logging = some (root ++ suffix) ↔
            Keeps environment (root ++ suffix)) := by
  rw [ofText_eq read]
  refine ⟨?below, ⟨?resolves, exists_resolve active⟩, ?loaded⟩
  case below =>
    intro setting suffix below
    refine ⟨below.resolvePath_eq_ok_iff, ?_⟩
    simp only [below.resolvePath_eq_ok_iff]
    exact forall_keeps_iff
  case resolves =>
    rintro ⟨configuration, resolved⟩ location setting given
    obtain ⟨path, ofPath, -⟩ := exists_path_of_resolve active resolved given
    exact ⟨path, ofPath⟩
  case loaded =>
    intro configuration resolved
    refine ⟨dataRoot_of_resolve active resolved, ?_⟩
    intro location setting suffix given below
    obtain ⟨path, ofPath, isPath⟩ := exists_path_of_resolve active resolved given
    rw [← below.resolvePath_eq_ok_iff, ofPath, isPath, Option.some.injEq, Except.ok.injEq]

/-- A profile that gives nothing but its root. -/
def rootOnly (dataRoot : String) : ProfileSettings :=
  ⟨dataRoot, belowRoot "/inputs", belowRoot "/scenarios", belowRoot "/data.yaml",
    belowRoot "/out"⟩

/-- A configuration with a log file below a root that ends with a dollar sign. -/
def dollarRootText : String := "version = 1
[profiles.default]
data_root = \"~/napkin$\"
[logging]
file = \"\x7b\x7bdata_root\x7d\x7d/n.log\"
"

set_option maxRecDepth 20000 in
/-- A dollar sign in front of a slash stands alone, and the home directory is not put in again. -/
theorem load_below_single_dollar : ∃ configuration,
    ofText (homeOnly "/home/u") none "config.toml" dollarRootText = .ok configuration ∧
    configuration.places.dataRoot = "/home/u/napkin$" ∧
    configuration.places.inputsDirectory = "/home/u/napkin$/inputs" ∧
    configuration.logging.file = some "/home/u/napkin$/n.log" := by
  let file : ConfigurationFile :=
    ⟨1, none, [("default", rootOnly "~/napkin$")], ⟨"info", none, some (belowRoot "/n.log")⟩,
      defaultPrecision⟩
  have read : readFile? dollarRootText = some file := rfl
  have expands : expandPath (homeOnly "/home/u") "~/napkin$" = .ok "/home/u/napkin$" := by
    have plain : HasPlainDollars "~/napkin$".toList := by
      simp [hasPlainDollars_cons_iff, StandsAlone]
    rw [expandPath_eq_ok_iff, expand?, expandVariables?_of_hasPlainDollars _ plain]
    rfl
  have active : Activates (homeOnly "/home/u") none file (rootOnly "~/napkin$")
      "/home/u/napkin$" := ⟨rfl, rfl, expands⟩
  obtain ⟨-, loads, holds⟩ := resolves_below_root_iff "config.toml" read active
  have plain : IsPlain "/home/u/napkin$" :=
    ⟨by simp [hasPlainDollars_cons_iff, StandsAlone], by simp [BeginsAtHome]⟩
  have inputs : IsPlainSuffix "/inputs" := ⟨rfl, by decide, by decide⟩
  have scenarios : IsPlainSuffix "/scenarios" := ⟨rfl, by decide, by decide⟩
  have dataFile : IsPlainSuffix "/data.yaml" := ⟨rfl, by decide, by decide⟩
  have output : IsPlainSuffix "/out" := ⟨rfl, by decide, by decide⟩
  have logFile : IsPlainSuffix "/n.log" := ⟨rfl, by decide, by decide⟩
  have resolves : ∀ (location : Location) setting,
      location.path? (rootOnly "~/napkin$") file.logging = some setting →
        ∃ path, resolvePath (homeOnly "/home/u") "/home/u/napkin$" setting = .ok path := by
    intro location setting given
    cases location <;> cases given
    case inputs => exact ⟨_, resolvePath_of_isPlain plain inputs⟩
    case scenarios => exact ⟨_, resolvePath_of_isPlain plain scenarios⟩
    case dataFile => exact ⟨_, resolvePath_of_isPlain plain dataFile⟩
    case output => exact ⟨_, resolvePath_of_isPlain plain output⟩
    case logFile => exact ⟨_, resolvePath_of_isPlain plain logFile⟩
  obtain ⟨configuration, loaded⟩ := loads.mpr resolves
  obtain ⟨atRoot, places⟩ := holds configuration loaded
  refine ⟨configuration, loaded, atRoot, ?_, ?_⟩
  · have place := places .inputs _ _ rfl (isBelowRoot_of_isPlainSuffix inputs)
    exact Option.some.inj (place.mpr ((plain.append inputs).keeps _))
  · have place := places .logFile _ _ rfl (isBelowRoot_of_isPlainSuffix logFile)
    exact place.mpr ((plain.append logFile).keeps _)

theorem expandPath_escaped_dollar : expandPath unset "$$x" = .ok "$x" := by
  have written : "$$x".toList = ['$', '$', 'x'] := rfl
  have read : readReference ['$', 'x'] = (.text ['$'], ['x']) := rfl
  rw [expandPath_eq_ok_iff, expand?, written, expandVariables?_dollar, read,
    expandVariables?_other (by decide), expandVariables?_nil]
  rfl

theorem resolvePath_escaped_dollar :
    resolvePath unset "$x" (belowRoot "/inputs") = .error (.cannotExpand "$x/inputs") := by
  have below : IsBelowRoot (belowRoot "/inputs") "/inputs" :=
    isBelowRoot_of_isPlainSuffix ⟨rfl, by decide, by decide⟩
  have written : ("$x" ++ "/inputs").toList = '$' :: "x/inputs".toList := rfl
  have read : (readReference "x/inputs".toList).1 = .reference "x" none := rfl
  rw [below.resolvePath_eq, expandPath, expand?, written, expandVariables?_dollar, read]
  rfl

set_option maxRecDepth 20000 in
/-- The single dollar sign of the root is taken for a reference in the locations below it. -/
theorem load_fails_below_escaped_dollar : ∃ file profile,
    readFile? "version = 1\n[profiles.default]\ndata_root = \"$$x\"\n" = some file ∧
    Activates unset none file profile "$x" ∧
    Location.inputs.path? profile file.logging = some (belowRoot "/inputs") ∧
    IsBelowRoot (belowRoot "/inputs") "/inputs" ∧ '$' ∉ "/inputs".toList ∧
    resolvePath unset "$x" (belowRoot "/inputs") = .error (.cannotExpand "$x/inputs") ∧
    ∀ configuration, ofText unset none "config.toml"
      "version = 1\n[profiles.default]\ndata_root = \"$$x\"\n" ≠ .ok configuration := by
  let file : ConfigurationFile :=
    ⟨1, none, [("default", rootOnly "$$x")], defaultLogging, defaultPrecision⟩
  have read : readFile? "version = 1\n[profiles.default]\ndata_root = \"$$x\"\n" = some file := rfl
  have active : Activates unset none file (rootOnly "$$x") "$x" :=
    ⟨rfl, rfl, expandPath_escaped_dollar⟩
  have given : Location.inputs.path? (rootOnly "$$x") file.logging = some (belowRoot "/inputs") :=
    rfl
  have below : IsBelowRoot (belowRoot "/inputs") "/inputs" :=
    isBelowRoot_of_isPlainSuffix ⟨rfl, by decide, by decide⟩
  refine ⟨file, rootOnly "$$x", read, active, given, below, by decide,
    resolvePath_escaped_dollar, ?_⟩
  intro configuration resolved
  rw [ofText_eq read] at resolved
  obtain ⟨path, ofPath, -⟩ := exists_path_of_resolve active resolved given
  cases resolvePath_escaped_dollar.symm.trans ofPath

end Configuration

end BackOfEnvelope
