/-
This file defines the commands of the command line and reads them from its arguments.
-/
import CodeGraph.CommandLine.Arguments

namespace CodeGraph.CommandLine

/-- A command. -/
inductive Command where
  /-- Writes the graph of the repository with the given root. -/
  | analyze (root : String) (repositoryId output : Option String) (workers : Option Nat)
      (report : Option String)
  /-- Prints the classes of paths. -/
  | classify (paths : List String)
  /-- Prints the languages. -/
  | languages
  /-- Writes the vocabulary that a source declares. -/
  | regenerate (source : Option String) (target : String)
  /-- Compares a vocabulary with its source. -/
  | check (cache source : Option String)
  deriving Repr, DecidableEq

/-- A command with the file of the settings that it is run with. -/
structure Invocation where
  command : Command
  settingsPath : Option String
  deriving Repr, DecidableEq

/-! ### Shapes -/

/-- The options that every command takes. -/
def commonOptions : List CommandOption :=
  [⟨"config", some 'c', some .path⟩, ⟨"verbose", some 'v', none⟩, ⟨"help", some 'h', none⟩]

/-- What stands before the name of a command. -/
def programShape : CommandShape :=
  ⟨commonOptions ++ [⟨"version", some 'V', none⟩], .text, none, true⟩

/-- The shape of a group of commands. -/
def groupShape : CommandShape := ⟨commonOptions, .text, none, true⟩

/-- The shape of a command with the given options and number of words. -/
def shapeOf (options : List CommandOption) (words : ValueKind) (mostWords : Option Nat) :
    CommandShape :=
  ⟨commonOptions ++ options, words, mostWords, false⟩

/-- The shape of the analysis. -/
def analyzeShape : CommandShape :=
  shapeOf [⟨"repo-id", none, some .text⟩, ⟨"output", some 'o', some .path⟩,
    ⟨"workers", some 'w', some .number⟩, ⟨"report", none, some .path⟩] .path (some 1)

/-- The shape of the classification. -/
def classifyShape : CommandShape := shapeOf [] .text none

/-- The shape of the list of languages. -/
def languagesShape : CommandShape := shapeOf [] .text (some 0)

/-- The shape of the derivation of a vocabulary. -/
def regenerateShape : CommandShape :=
  shapeOf [⟨"source", none, some .path⟩, ⟨"output", none, some .path⟩] .text (some 0)

/-- The shape of the comparison of a vocabulary with its source. -/
def checkShape : CommandShape :=
  shapeOf [⟨"cache", none, some .path⟩, ⟨"source", none, some .path⟩] .text (some 0)

/-- The names that lead to the commands and to the groups of them. -/
def commandNames : List (List String) :=
  [["analyze"], ["classify"], ["languages"], ["ontology"], ["ontology", "regenerate"],
    ["ontology", "check"]]

/-! ### Commands -/

/-- The analysis that the arguments ask for. -/
def readAnalyze (found : Arguments) : Option Command :=
  match found.words with
  | [root] => some <| .analyze root (found.get? "repo-id") (found.get? "output")
    ((found.get? "workers").bind number?) (found.get? "report")
  | _ => none

/-- The classification that the arguments ask for: at least one path. -/
def readClassify (found : Arguments) : Option Command :=
  if found.words.isEmpty then none else some (.classify found.words)

/-- The list of languages. -/
def readLanguages (_ : Arguments) : Option Command := some .languages

/-- The derivation that the arguments ask for. -/
def readRegenerate (found : Arguments) : Option Command :=
  (found.get? "output").map (.regenerate (found.get? "source"))

/-- The comparison that the arguments ask for. -/
def readCheck (found : Arguments) : Option Command :=
  some (.check (found.get? "cache") (found.get? "source"))

/-- Reads the arguments of a command. A file of settings that they name wins over the given
one. -/
def readCommand (shape : CommandShape) (read : Arguments → Option Command)
    (settingsPath : Option String) (arguments : List String) :
    Except Interruption Invocation := do
  let found ← Arguments.ofList shape arguments
  match read found with
  | some command => return ⟨command, (found.get? "config").or settingsPath⟩
  | none => throw .invalid

/-- The interruption for the arguments of a request for help about a command. -/
def helpAbout (above names : List String) : Interruption :=
  if names.isEmpty || commandNames.contains (above ++ names) then .help else .invalid

/-- Reads a command about vocabularies. -/
def readOntology (settingsPath : Option String) (arguments : List String) :
    Except Interruption Invocation := do
  let found ← Arguments.ofList groupShape arguments
  let settingsPath := (found.get? "config").or settingsPath
  match found.rest with
  | "regenerate" :: rest => readCommand regenerateShape readRegenerate settingsPath rest
  | "check" :: rest => readCommand checkShape readCheck settingsPath rest
  | "help" :: names => throw (helpAbout ["ontology"] names)
  | _ => throw .invalid

/-- Reads the arguments of the program. -/
def readInvocation (arguments : List String) : Except Interruption Invocation := do
  let found ← Arguments.ofList programShape arguments
  let settingsPath := found.get? "config"
  match found.rest with
  | "analyze" :: rest => readCommand analyzeShape readAnalyze settingsPath rest
  | "classify" :: rest => readCommand classifyShape readClassify settingsPath rest
  | "languages" :: rest => readCommand languagesShape readLanguages settingsPath rest
  | "ontology" :: rest => readOntology settingsPath rest
  | "help" :: names => throw (helpAbout [] names)
  | _ => throw .invalid

end CodeGraph.CommandLine
