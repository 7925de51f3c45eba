/-
This file runs commands on a host. The settings are loaded before anything else, and what is
wrong is told on one line.
-/
import CodeGraph.CommandLine.Command
import CodeGraph.CommandLine.Host
import CodeGraph.CommandLine.Outcome
import CodeGraph.Record.Sink
import CodeGraph.Report.Json
import CodeGraph.Settings.Document

namespace CodeGraph.CommandLine

variable {effect : Type → Type} [Monad effect]

/-- The text of a file, unless it cannot be read. -/
def Host.readText (host : Host effect) (path : String) : effect (Option String) :=
  return Text.Utf8.readable? (← host.read path)

/-- The text of a file that may be named. -/
def Host.readNamed (host : Host effect) : Option String → effect (Option NamedText)
  | some path => return some (path, ← host.readText path)
  | none => return none

/-! ### Settings -/

/-- The name of the project's file of settings. -/
def settingsFileName : String := "ontograph.toml"

/-- The settings of a file, or those that hold in the directory if no file is named. -/
def loadSettings (host : Host effect) (path? : Option String) :
    effect (Except SettingsError Settings) := do
  match path? with
  | some path => return Settings.ofFile Settings.ofToml host.environment (← host.read path)
  | none =>
    let projectFile ← host.read settingsFileName
    return Settings.load Settings.ofToml host.environment projectFile (← host.userSettings)

/-! ### Commands -/

/-- The line for a path. -/
def classificationLine (rules : RuleSet) (path : String) : String :=
  match rules.classify path with
  | .ignored => path ++ "\tignored"
  | .classified classes => path ++ "\t" ++ classes.carrier ++ "\t" ++ classes.content

/-- Prints the classes of paths. -/
def classify (host : Host effect) (settings : Settings) (paths : List String) :
    effect Outcome := do
  match Ontology.load (← host.readNamed settings.cachePath) with
  | .error error => return .failure error.message
  | .ok ontology =>
    match RuleSet.load ontology (← host.readNamed settings.rulesPath) with
    | .error error => return .failure error.message
    | .ok rules => return .success (paths.map (classificationLine rules))

/-- The line for a language. -/
def languageLine (language : Language) : String :=
  Report.padded 12 language.name ++ " " ++ String.intercalate ", " language.extensions

/-- The lines for a catalog. -/
def catalogLines (catalog : Catalog) : List String :=
  catalog.languages.map languageLine ++ ["",
    s!"{catalog.languages.length} languages, {catalog.patternCount} query patterns"]

/-- Prints the languages. -/
def listLanguages (host : Host effect) (settings : Settings) : effect Outcome := do
  match Ontology.load (← host.readNamed settings.cachePath) with
  | .error error => return .failure error.message
  | .ok ontology =>
    match Catalog.complete ontology with
    | .error error => return .failure error.message
    | .ok catalog => return .success (catalogLines catalog)

/-- Writes the vocabulary that a source declares to a file. -/
def regenerateFile (host : Host effect) (source target : String) :
    effect (Except VocabularyError Vocabulary) := do
  match ← host.readText source with
  | none => return .error (.unavailable source)
  | some text =>
    match Vocabulary.ofTurtle text with
    | .error error => return .error error
    | .ok vocabulary =>
      if ← host.replace false target vocabulary.fileContent then
        return .ok vocabulary
      else return .error (.unavailable target)

/-- Writes the vocabulary that a source declares and tells how many terms it has. -/
def regenerate (host : Host effect) (source? : Option String) (target : String) :
    effect Outcome := do
  match source? with
  | none =>
    return .failure "no ontology source given (use --source or ontology.source_path)"
  | some source =>
    match ← regenerateFile host source target with
    | .error error => return .failure error.message
    | .ok vocabulary => return .success [s!"Wrote {vocabulary.size} terms to {target}"]

/-- The line that tells how many terms a vocabulary has. -/
def vocabularyLine (vocabulary : Vocabulary) : String :=
  let count (kind : TermKind) := (vocabulary.terms kind).toList.length
  s!"{count .classTerm} classes, {count .objectProperty} object properties, "
    ++ s!"{count .dataProperty} data properties, "
    ++ s!"{count .annotationProperty} annotation properties"

/-- The message for a vocabulary that is not the one its source declares. -/
def outOfDate : String :=
  "ontology cache is out of date; run \x60ontograph ontology regenerate\x60"

/-- Compares a vocabulary with the one that a source declares. -/
def compareWith (vocabulary : Vocabulary) (source : String) : Outcome :=
  let counted := [vocabularyLine vocabulary]
  match Vocabulary.ofTurtle source with
  | .error error => .failure error.message counted
  | .ok derived =>
    if derived = vocabulary then
      .success (counted ++ ["Cache matches the ontology source"])
    else .failure outOfDate counted

/-- Compares a vocabulary with its source. -/
def check (host : Host effect) (cache? source? : Option String) : effect Outcome := do
  match Ontology.load (← host.readNamed cache?) with
  | .error error => return .failure error.message
  | .ok ontology =>
    match ← host.readNamed source? with
    | none => return compareWith ontology.vocabulary Vocabulary.builtinSource
    | some (_, some text) => return compareWith ontology.vocabulary text
    | some (path, none) =>
      return .failure (VocabularyError.unavailable path).message
        [vocabularyLine ontology.vocabulary]

/-! ### The analysis -/

/-- The name of a repository: that of its root. -/
def repositoryName (repository : Repository) : String :=
  repository.root.getLast?.getD "repository"

/-- Writes records to a file, or keeps their lines for the standard output. Nothing is left if
the file cannot be written. -/
def writeRecords (host : Host effect) (path? : Option String) (records : List GraphRecord) :
    effect (Except String (List String)) := do
  match path? with
  | none => return .ok (records.map GraphRecord.toJsonLine)
  | some path =>
    if ← host.replace true path (GraphRecord.fileContent records) then return .ok []
    else return .error s!"Emit error: IO error at {path}: the file cannot be written"

/-- Writes the report of a run, if a file is named for it. -/
def writeReport (host : Host effect) (path? : Option String) (report : Report) :
    effect (Except String Unit) := do
  match path? with
  | none => return .ok ()
  | some path =>
    if ← host.write path (Text.Utf8.encode report.toJson.pretty) then return .ok ()
    else return .error "the report cannot be written"

/-- Writes what a run gives. -/
def writeRun {engine : RegularExpression.Engine} (host : Host effect) (analyzer : Analyzer engine)
    (outputPath? reportPath? : Option String) (output : RunOutput) : effect Outcome := do
  let (output, records) := analyzer.written output
  match ← writeRecords host outputPath? records with
  | .error message => return .failure message
  | .ok printed =>
    match ← writeReport host reportPath? output.report with
    | .error message => return .failure message printed
    | .ok () => return .success printed output.report.summary

/-- Analyses a repository and writes its graph. -/
def analyze (host : Host effect) (settings : Settings) (root : String)
    (repositoryId? reportPath? : Option String) : effect Outcome := do
  let vocabulary ← host.readNamed settings.cachePath
  let rules ← host.readNamed settings.rulesPath
  match Analyzer.ofSettings settings vocabulary rules with
  | .error error => return .failure error.message
  | .ok analyzer =>
    match ← host.repository root with
    | none => return .failure (RunError.notADirectory root).message
    | some repository =>
      let repositoryId := repositoryId?.getD (repositoryName repository)
      match analyzer.runIn host.parser repository repositoryId false with
      | .error error => return .failure error.message
      | .ok output => writeRun host analyzer settings.outputPath reportPath? output

/-! ### The program -/

/-- The settings with those that the arguments of the analysis override. -/
def overrideSettings (settings : Settings) (workers : Option Nat) (output : Option String) :
    Settings :=
  { settings with
    extraction := { settings.extraction with
      workers := workers.getD settings.extraction.workers }
    outputPath := output.or settings.outputPath }

/-- Runs a command. -/
def Command.run (host : Host effect) (settings : Settings) : Command → effect Outcome
  | analyze root repositoryId output workers report =>
    CommandLine.analyze host (overrideSettings settings workers output) root repositoryId report
  | classify paths => CommandLine.classify host settings paths
  | languages => listLanguages host settings
  | regenerate source target =>
    CommandLine.regenerate host (source.or settings.sourcePath) target
  | check cache source =>
    CommandLine.check host (cache.or settings.cachePath) (source.or settings.sourcePath)

/-- How the program is used. -/
def usage : List String := [
  "Extract ontology-typed knowledge graphs from source repositories", "",
  "Usage: ontograph [OPTIONS] <COMMAND>", "",
  "Commands:",
  "  analyze    Extract the knowledge graph of a repository as JSON lines",
  "  classify   Classify repository-relative paths",
  "  languages  List supported languages and their extensions",
  "  ontology   Ontology vocabulary maintenance",
  "  help       Print this message or the help of the given subcommand(s)", "",
  "Options:",
  "  -c, --config <FILE>  Configuration file path",
  "  -v, --verbose        Verbose logging",
  "  -h, --help           Print help",
  "  -V, --version        Print version"]

/-- The name and the version of the program. -/
def versionLine : String := "ontograph 0.1.0"

/-- Runs the program with the given arguments. -/
def run (host : Host effect) (arguments : List String) : effect Outcome := do
  match readInvocation arguments with
  | .error .help => return .success usage
  | .error .version => return .success [versionLine]
  | .error .invalid => return .misuse usage
  | .ok invocation =>
    match ← loadSettings host invocation.settingsPath with
    | .error error => return .failure error.message
    | .ok settings => invocation.command.run host settings

end CodeGraph.CommandLine
