/-
This file runs the analysis of a repository: it discovers the files, analyses each of them,
puts the outcomes together in the order of the paths, resolves the references between files,
and accounts for all of it in a report. The outcomes may come in any order.
-/
import CodeGraph.Discovery.Basic
import CodeGraph.Record.Emission
import CodeGraph.Report.Basic
import CodeGraph.Resolution.Basic
import CodeGraph.Run.Analyzer

namespace CodeGraph

/-- Why a run gives nothing. -/
inductive RunError where
  | setup (error : SetupError)
  /-- The root is missing or is no directory. -/
  | notADirectory (path : String)
  | cancelled
  deriving Repr, DecidableEq

/-- The reason in words. -/
def RunError.message : RunError → String
  | setup error => error.message
  | notADirectory path => s!"Not a directory: {path}"
  | cancelled => "Run cancelled"

/-- A directory of a storage. -/
structure Repository where
  storage : Storage
  root : Location
  deriving Repr, DecidableEq

/-- What a run gives. -/
structure RunOutput where
  report : Report
  /-- The files by path. -/
  files : List FileRecord
  /-- The entities by file, and within a file as they are extracted. -/
  entities : List Entity
  edges : List Edge
  ambiguities : List Ambiguity
  deriving Repr, DecidableEq

namespace FileOutcome

/-- Outcomes are ordered by path; those for ignored paths come first. -/
def compare (left right : FileOutcome) : Ordering :=
  match left.entry, right.entry with
  | none, none => .eq
  | none, some _ => .lt
  | some _, none => .gt
  | some left, some right => Ord.compare left.file.relativePath right.file.relativePath

end FileOutcome

namespace Report

/-- Accounts for the outcome of one file. -/
def addOutcome (report : Report) (outcome : FileOutcome) : Report :=
  let noted := report.noteAll outcome.failures
  match outcome.status? with
  | none => { noted with ignored := noted.ignored + 1 }
  | some .parsed => { noted with parsed := noted.parsed + 1 }
  | some .parseFailed => { noted with parseFailed := noted.parseFailed + 1 }
  | some .notParsed => noted

end Report

/-- The failure that stands for an ambiguous reference. -/
def Ambiguity.toFailure (ambiguity : Ambiguity) : Failure :=
  ⟨ambiguity.filePath, .resolve,
    s!"ambiguous reference {Text.quoted ambiguity.name} at line {ambiguity.line}: "
      ++ s!"{ambiguity.candidates} candidates, chose {ambiguity.chosen}"⟩

namespace RunOutput

/-- What a run gives whose files have the given outcomes, which may stand in any order. -/
def assemble (repositoryId : String) (discoverFailures : List Failure)
    (outcomes : List FileOutcome) : RunOutput :=
  let sorted := sortBy FileOutcome.compare outcomes
  let files := sorted.filterMap FileOutcome.entry
  let entities := sorted.flatMap FileOutcome.entities
  let observations := sorted.flatMap FileOutcome.observations
  let resolution := Corpus.resolve ⟨files.map FileRecord.file, entities⟩ observations
  let begun := (Report.begin repositoryId).noteAll discoverFailures
  let noted := (sorted.foldl Report.addOutcome begun).noteAll
    (resolution.ambiguities.map Ambiguity.toFailure)
  { report := Report.finish { noted with
      files := files.length
      entities := entities.length
      edges := resolution.edges.length
      ambiguities := resolution.ambiguities.length }
    files, entities
    edges := resolution.edges
    ambiguities := resolution.ambiguities }

/-- The records of a run that may be written, and what is wrong with the others. -/
def emit (output : RunOutput) (ontology : Ontology) : EmissionBatch :=
  ontology.emit output.files output.entities output.edges

/-- The output after the given number of records were written. -/
def afterEmission (output : RunOutput) (written : Nat) (failures : List Failure) : RunOutput :=
  { output with
    report := Report.finish
      (Report.noteAll { output.report with emitted := written } failures) }

end RunOutput

namespace Analyzer

variable {engine : RegularExpression.Engine}

/-- Analyses a file that was discovered. -/
def analyzeDiscovered (analyzer : Analyzer engine) (parser : TreeParser) (repositoryId : String)
    (file : DiscoveredFile) : FileOutcome :=
  analyzer.analyze parser repositoryId file.relativePath file.size file.content

/-- What a run over discovered files gives. -/
def runOn (analyzer : Analyzer engine) (parser : TreeParser) (repositoryId : String)
    (discovery : Discovery) : RunOutput :=
  .assemble repositoryId discovery.failures
    (discovery.files.map (analyzer.analyzeDiscovered parser repositoryId))

/-- Runs the analysis of a repository. A run that is cancelled gives nothing. -/
def runIn (analyzer : Analyzer engine) (parser : TreeParser) (repository : Repository)
    (repositoryId : String) (isCancelled : Bool) : Except RunError RunOutput :=
  if isCancelled then .error .cancelled
  else .ok <| analyzer.runOn parser repositoryId
    (Discovery.below analyzer.settings repository.storage repository.root)

/-- Runs the analysis of the repository to whose root a path leads. -/
def run (analyzer : Analyzer engine) (parser : TreeParser) (storage : Storage) (rootPath : String)
    (repositoryId : String) (isCancelled : Bool) : Except RunError RunOutput :=
  match storage.directory? [] rootPath with
  | none => .error (.notADirectory rootPath)
  | some root => analyzer.runIn parser ⟨storage, root⟩ repositoryId isCancelled

/-- What is left after the records of a run are written: the output and the records. -/
def written (analyzer : Analyzer engine) (output : RunOutput) : RunOutput × List GraphRecord :=
  let batch := output.emit analyzer.ontology
  (output.afterEmission batch.records.length batch.failures, batch.records)

end Analyzer

end CodeGraph
