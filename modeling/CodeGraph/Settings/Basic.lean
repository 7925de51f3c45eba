/-
This file defines the settings of a run. Settings come from a TOML document and from environment
variables, which win. A run asks for a positive size limit and a positive time limit.
-/
import CodeGraph.Text.Quoted
import CodeGraph.Text.Trim
import CodeGraph.Text.Decimal
import CodeGraph.Text.Utf8
import CodeGraph.Toml.Parser

namespace CodeGraph

/-- The settings of discovery and parsing. -/
structure ExtractionSettings where
  /-- The number of files that are worked on at a time; zero leaves it to the machine. -/
  workers : Nat := 0
  /-- The size in bytes up to which files are taken. -/
  maxFileSize : Nat := 2097152
  /-- The time in milliseconds that parsing one file may take. -/
  parseTimeout : Nat := 5000
  /-- Whether a syntax error is a failure to parse. -/
  strictSyntax : Bool := true
  /-- Whether ignore files are followed. -/
  followGitignore : Bool := true
  /-- Whether hidden files are taken. -/
  includeHidden : Bool := false
  deriving Repr, DecidableEq

/-- The settings of a run. A path that is not set is absent. -/
structure Settings where
  extraction : ExtractionSettings := {}
  /-- The file of the rule table. -/
  rulesPath : Option String := none
  /-- The file of the vocabulary. -/
  cachePath : Option String := none
  /-- The source from which the vocabulary is derived. -/
  sourcePath : Option String := none
  /-- The file that the records are written to. -/
  outputPath : Option String := none
  deriving Repr, DecidableEq

/-- What is wrong with settings that can be read. -/
inductive InvalidSetting where
  /-- No file is small enough. -/
  | noFileSize
  /-- No time is left for parsing. -/
  | noParseTimeout
  /-- An environment variable holds something else than is asked for. -/
  | environment (name value : String)
  deriving Repr, DecidableEq

/-- Why there are no settings. -/
inductive SettingsError where
  /-- The file cannot be read as text. -/
  | unavailable
  /-- The file holds no settings. -/
  | malformed
  | invalid (setting : InvalidSetting)
  deriving Repr, DecidableEq

/-- The fault in words. -/
def InvalidSetting.message : InvalidSetting → String
  | noFileSize => "extraction.max_file_size must be greater than zero"
  | noParseTimeout => "extraction.parse_timeout_ms must be greater than zero"
  | environment name value => s!"{name} has an invalid value: {Text.quoted value}"

/-- The fault in words. -/
def SettingsError.message : SettingsError → String
  | unavailable => "Failed to read config file: the file is not available"
  | malformed => "Failed to parse config file: not a configuration"
  | invalid setting => s!"Invalid configuration: {setting.message}"

namespace Settings

/-- What makes a run with the settings meaningless, if anything does. -/
def fault? (settings : Settings) : Option InvalidSetting :=
  if settings.extraction.maxFileSize = 0 then some .noFileSize
  else if settings.extraction.parseTimeout = 0 then some .noParseTimeout
  else none

/-- Checks that a run with the settings makes sense. -/
def validate (settings : Settings) : Except SettingsError Unit :=
  match settings.fault? with
  | some fault => .error (.invalid fault)
  | none => .ok ()

/-! ### The environment -/

/-- The values of environment variables. -/
abbrev Environment := String → Option String

/-- The names of the variables that override settings. -/
def variableNames : List String :=
  ["ONTOGRAPH_WORKERS", "ONTOGRAPH_MAX_FILE_SIZE", "ONTOGRAPH_PARSE_TIMEOUT_MS",
    "ONTOGRAPH_STRICT_SYNTAX", "ONTOGRAPH_RULES_PATH", "ONTOGRAPH_ONTOLOGY_CACHE",
    "ONTOGRAPH_OUTPUT"]

/-- The bound of the numbers that a variable may hold. -/
def numberBound : Nat := 18446744073709551616

/-- The number that the value of a variable writes down. -/
def readNumber (value : List Char) : Option Nat := Text.unsigned? numberBound value

/-- The truth value that the value of a variable names. -/
def readBoolean (value : List Char) : Option Bool :=
  if value = "true".toList then some true
  else if value = "false".toList then some false
  else none

/-- Overrides a setting by a variable, if that is set. White space around its value does not
count. -/
def override {setting : Type} (environment : Environment) (name : String)
    (read : List Char → Option setting) (current : setting) : Except SettingsError setting :=
  match environment name with
  | none => .ok current
  | some value =>
    match read (Text.trimWhere Text.isBlank value.toList) with
    | some changed => .ok changed
    | none => .error (.invalid (.environment name value))

/-- Overrides a path by a variable, if that is set. -/
def overridePath (environment : Environment) (name : String) (current : Option String) :
    Option String :=
  match environment name with
  | some value => some value
  | none => current

/-- The settings with those that the environment overrides. -/
def withEnvironment (environment : Environment) (settings : Settings) :
    Except SettingsError Settings := do
  let extraction := settings.extraction
  let workers ← override environment "ONTOGRAPH_WORKERS" readNumber extraction.workers
  let maxFileSize ←
    override environment "ONTOGRAPH_MAX_FILE_SIZE" readNumber extraction.maxFileSize
  let parseTimeout ←
    override environment "ONTOGRAPH_PARSE_TIMEOUT_MS" readNumber extraction.parseTimeout
  let strictSyntax ←
    override environment "ONTOGRAPH_STRICT_SYNTAX" readBoolean extraction.strictSyntax
  return {
    extraction := { extraction with workers, maxFileSize, parseTimeout, strictSyntax }
    rulesPath := overridePath environment "ONTOGRAPH_RULES_PATH" settings.rulesPath
    cachePath := overridePath environment "ONTOGRAPH_ONTOLOGY_CACHE" settings.cachePath
    sourcePath := settings.sourcePath
    outputPath := overridePath environment "ONTOGRAPH_OUTPUT" settings.outputPath }

/-! ### Files -/

/-- A reader of settings documents. -/
abbrev DocumentReader := String → Option Settings

/-- The settings of a file with the given bytes, which are absent if there is no file. -/
def ofFile (read : DocumentReader) (environment : Environment) (file : Option (List UInt8)) :
    Except SettingsError Settings := do
  match Text.Utf8.readable? file with
  | none => .error .unavailable
  | some text =>
    match read text with
    | none => .error .malformed
    | some settings =>
      let settings ← settings.withEnvironment environment
      settings.validate
      return settings

/-- The settings of the project's file, or of the user's file if the project has none, or those
that hold without a file. -/
def load (read : DocumentReader) (environment : Environment)
    (projectFile userFile : Option (List UInt8)) : Except SettingsError Settings :=
  match projectFile with
  | some bytes => ofFile read environment (some bytes)
  | none =>
    match userFile with
    | some bytes => ofFile read environment (some bytes)
    | none => ({} : Settings).withEnvironment environment

end Settings

end CodeGraph
