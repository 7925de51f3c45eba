/-
This file analyses single files. An analyzer is made from settings, a vocabulary and rules, and
only if they fit together. It takes the syntax trees from a parser that is not part of this
library, and the patterns of its rules are matched by any engine of regular expressions.
-/
import CodeGraph.Classification.Builtin
import CodeGraph.Extraction.Basic
import CodeGraph.Language.Catalog
import CodeGraph.Report.Failure
import CodeGraph.Settings.Basic
import CodeGraph.Storage.Basic
import CodeGraph.SyntaxTree.Fault
import CodeGraph.Vocabulary.Builtin
import CodeGraph.Vocabulary.Cache

namespace CodeGraph

/-- Why a parser makes no syntax tree. -/
inductive ParserRefusal where
  /-- The grammar of the language cannot be used. -/
  | grammar (reason : String)
  /-- No tree came of the text, or none within the time that there was. -/
  | noTree
  deriving Repr, DecidableEq

/-- A parser: it makes a syntax tree of a source text, within a number of milliseconds if there is a
limit, or says why it makes none. -/
abbrev TreeParser := (limit : Option Nat) → Language → String → Except ParserRefusal SyntaxTree

/-- Why there is no usable syntax tree. -/
inductive ParseError where
  | grammar (language : Language) (reason : String)
  | timeout (milliseconds : Nat)
  /-- The first fault of the source lies in this line. -/
  | syntaxFault (line : Nat)
  | noTree
  deriving Repr, DecidableEq

/-- The reason in words. -/
def ParseError.message : ParseError → String
  | grammar language reason => s!"Failed to set {language.name} grammar: {reason}"
  | timeout milliseconds => s!"Parsing timed out after {milliseconds} ms"
  | syntaxFault line => s!"Syntax error at line {line}"
  | noTree => "Parser produced no tree"

/-- The error that a refusal of the parser comes to. That there is no tree is put down to the limit
of time if there is one. -/
def ParseError.ofRefusal (language : Language) (limit : Option Nat) : ParserRefusal → ParseError
  | .grammar reason => .grammar language reason
  | .noTree => limit.elim .noTree .timeout

/-- The time that a parser has for a file, in milliseconds; zero sets no limit. -/
def ExtractionSettings.parseLimit (settings : ExtractionSettings) : Option Nat :=
  if 0 < settings.parseTimeout then some settings.parseTimeout else none

/-- Why a run cannot begin. -/
inductive SetupError where
  | settings (error : SettingsError)
  | vocabulary (error : VocabularyError)
  | rules (error : RuleError)
  | catalog (error : CatalogError)
  deriving Repr, DecidableEq

/-- The reason in words. -/
def SetupError.message : SetupError → String
  | settings error => s!"Configuration error: {error.message}"
  | vocabulary error => s!"Ontology error: {error.message}"
  | rules error => s!"Classification rules error: {error.message}"
  | catalog error => s!"Grammar catalog error: {error.message}"

/-- A file with its path, and its text if it can be read. -/
abbrev NamedText := String × Option String

/-- The ontology of a file, or the builtin one if no file is given. -/
def Ontology.load (file : Option NamedText) : Except VocabularyError Ontology :=
  match file with
  | none => Ontology.builtin
  | some (path, none) => .error (.unavailable path)
  | some (_, some text) => Ontology.ofCacheText text

/-- What the analysis of files needs. -/
structure Analyzer (engine : RegularExpression.Engine := .standard) where
  settings : ExtractionSettings
  ontology : Ontology
  rules : RuleSet engine
  catalog : Catalog

namespace Analyzer

variable {engine : RegularExpression.Engine}

/-- The analyzer with the given settings, an ontology and the rules of a file. -/
def ofOntology (settings : Settings) (ontology : Ontology) (rules : Option NamedText)
    (engine : RegularExpression.Engine := .standard) : Except SetupError (Analyzer engine) := do
  let rules ← (RuleSet.load ontology rules engine).mapError .rules
  let catalog ← (Catalog.complete ontology).mapError .catalog
  return ⟨settings.extraction, ontology, rules, catalog⟩

/-- The analyzer with the given settings and the vocabulary and the rules of files. The settings
are checked first, then the vocabulary, the rules and the catalog. -/
def ofSettings (settings : Settings) (vocabulary rules : Option NamedText)
    (engine : RegularExpression.Engine := .standard) : Except SetupError (Analyzer engine) := do
  (settings.validate).mapError .settings
  let ontology ← (Ontology.load vocabulary).mapError .vocabulary
  ofOntology settings ontology rules engine

/-- The file at a path with its classes, unless it is ignored. -/
def classifyFile (analyzer : Analyzer engine) (repositoryId path : String) (size : Nat) :
    Option SourceFile :=
  match analyzer.rules.classify path with
  | .ignored => none
  | .classified classes =>
    some (.ofPath repositoryId path (analyzer.catalog.ofPath? path) size classes.carrier
      classes.content)

/-- The syntax tree of a source. If the settings are strict, a tree with a fault is an error. -/
def parse (analyzer : Analyzer engine) (parser : TreeParser) (language : Language)
    (text : String) : Except ParseError SyntaxTree :=
  match parser analyzer.settings.parseLimit language text with
  | .error refusal => .error (.ofRefusal language analyzer.settings.parseLimit refusal)
  | .ok tree =>
    if analyzer.settings.strictSyntax then
      match tree.firstFault? with
      | some fault => .error (.syntaxFault ((SourceText.ofString text).startLine fault.start))
      | none => .ok tree
    else .ok tree

end Analyzer

/-- What the analysis of a file comes to. -/
structure FileOutcome where
  /-- The file with its status; absent if it is ignored. -/
  entry : Option FileRecord
  entities : List Entity
  observations : List Observation
  failures : List Failure
  deriving Repr, DecidableEq

namespace FileOutcome

/-- The outcome for an ignored path. -/
def ignored : FileOutcome := ⟨none, [], [], []⟩

/-- The outcome for a file of which nothing is extracted. -/
def without (file : SourceFile) (status : ParseStatus) (failures : List Failure) : FileOutcome :=
  ⟨some ⟨file, status⟩, [], [], failures⟩

/-- How far the file was analysed. -/
def status? (outcome : FileOutcome) : Option ParseStatus := outcome.entry.map FileRecord.status

/-- The outcome for a file from which something is extracted. -/
def ofExtraction (file : SourceFile) (extraction : Extraction) : FileOutcome :=
  ⟨some ⟨file, .parsed⟩, extraction.entities, extraction.observations,
    extraction.warnings.map fun warning => ⟨file.relativePath, .extract, warning.description⟩⟩

end FileOutcome

namespace Analyzer

variable {engine : RegularExpression.Engine}

/-- Analyses the source of a file in a language. -/
def analyzeText (analyzer : Analyzer engine) (parser : TreeParser) (file : SourceFile)
    (language : Language) (text : String) : FileOutcome :=
  match analyzer.parse parser language text with
  | .error error =>
    .without file .parseFailed [⟨file.relativePath, .parse, error.message⟩]
  | .ok tree =>
    .ofExtraction file (Extraction.ofTree language file (SourceText.ofString text) tree)

/-- Analyses the bytes of a file in a language. -/
def analyzeBytes (analyzer : Analyzer engine) (parser : TreeParser) (file : SourceFile)
    (language : Language) (bytes : List UInt8) : FileOutcome :=
  match Text.Utf8.decode bytes with
  | .error fault =>
    .without file .notParsed
      [⟨file.relativePath, .read, s!"not valid UTF-8: {fault.message}"⟩]
  | .ok text => analyzer.analyzeText parser file language text

/-- Analyses a file. It is only read if it is written in a known language. -/
def analyzeFile (analyzer : Analyzer engine) (parser : TreeParser) (file : SourceFile)
    (content : FileContent) : FileOutcome :=
  match file.language, content with
  | none, _ => .without file .notParsed []
  | some _, .unreadable reason =>
    .without file .notParsed [⟨file.relativePath, .read, reason⟩]
  | some language, .bytes bytes => analyzer.analyzeBytes parser file language bytes

/-- Classifies and analyses what stands at a path. -/
def analyze (analyzer : Analyzer engine) (parser : TreeParser) (repositoryId path : String)
    (size : Nat) (content : FileContent) : FileOutcome :=
  match analyzer.classifyFile repositoryId path size with
  | none => .ignored
  | some file => analyzer.analyzeFile parser file content

end Analyzer

end CodeGraph
