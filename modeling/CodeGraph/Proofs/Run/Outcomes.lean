/-
This file says what the analysis of one file can come to.

A path is ignored; or its file is in no known language and nothing is read; or reading or parsing
it fails, which gives one failure and nothing else; or it is parsed and something is extracted.
These four cases are the constructors of `FileOutcome.Arises`, each with what is known of it: the
file is at the path in question, the failure has the stage in which it occurred. The analysis is
made of several functions, one inside the other, and of each of them it is shown that it comes to
one of the cases, from the innermost one outwards. No assumption is made on the parser, on the
rules or on what a file holds. What a run makes of its files is proved from the cases, and the
analysis is not looked into again.
-/
import CodeGraph.Proofs.Record.Completeness
import CodeGraph.Run.Basic

namespace CodeGraph

/-- What can become of a path. -/
inductive FileOutcome.Arises (path : String) : FileOutcome → Prop where
  | ignored : Arises path .ignored
  /-- The file is in no known language. -/
  | unread {file : SourceFile} (atPath : file.relativePath = path)
      (noLanguage : file.language = none) : Arises path (.without file .notParsed [])
  /-- The file cannot be read as text, or it cannot be parsed. -/
  | failed {file : SourceFile} {status : ParseStatus} {failure : Failure}
      (atPath : file.relativePath = path) (unparsed : status ≠ .parsed)
      (inFile : failure.path = path) (stage : failure.stage = .read ∨ failure.stage = .parse) :
      Arises path (.without file status [failure])
  | extracted {file : SourceFile} (atPath : file.relativePath = path) (language : Language)
      (source : SourceText) (tree : SyntaxTree) :
      Arises path (.ofExtraction file (.ofTree language file source tree))

namespace Analyzer

variable {engine : RegularExpression.Engine} {analyzer : Analyzer engine} {parser : TreeParser}
  {file : SourceFile} {path : String}

theorem arises_analyzeText (atPath : file.relativePath = path) (language : Language)
    (text : String) : (analyzer.analyzeText parser file language text).Arises path := by
  unfold analyzeText
  split
  · next error _ => exact .failed atPath (by decide) atPath (.inr rfl)
  · next tree _ => exact .extracted atPath language (SourceText.ofString text) tree

theorem arises_analyzeBytes (atPath : file.relativePath = path) (language : Language)
    (bytes : List UInt8) : (analyzer.analyzeBytes parser file language bytes).Arises path := by
  unfold analyzeBytes
  split
  · next fault _ => exact .failed atPath (by decide) atPath (.inl rfl)
  · next text _ => exact arises_analyzeText atPath language text

theorem arises_analyzeFile (atPath : file.relativePath = path)
    (content : FileContent) : (analyzer.analyzeFile parser file content).Arises path := by
  unfold analyzeFile
  split
  · next noLanguage => exact .unread atPath noLanguage
  · exact .failed atPath (by decide) atPath (.inl rfl)
  · next language bytes _ => exact arises_analyzeBytes atPath language bytes

/-- The four cases are all that the analysis of a path can come to. -/
theorem arises_analyze (repositoryId : String) (size : Nat) (content : FileContent) :
    (analyzer.analyze parser repositoryId path size content).Arises path := by
  unfold analyze
  split
  · exact .ignored
  · next file isClassified =>
    have atPath : file.relativePath = path := by
      unfold classifyFile at isClassified
      split at isClassified
      · cases isClassified
      · rw [← Option.some.inj isClassified]
        rfl
    exact arises_analyzeFile atPath content

/-- What becomes of the files of a discovery. -/
def outcomes (analyzer : Analyzer engine) (parser : TreeParser) (repositoryId : String)
    (discovery : Discovery) : List FileOutcome :=
  discovery.files.map (analyzer.analyzeDiscovered parser repositoryId)

theorem arises_of_mem_outcomes {repositoryId : String} {discovery : Discovery}
    {outcome : FileOutcome}
    (member : outcome ∈ analyzer.outcomes parser repositoryId discovery) :
    ∃ file ∈ discovery.files, outcome.Arises file.relativePath := by
  obtain ⟨file, isFile, rfl⟩ := List.mem_map.mp member
  exact ⟨file, isFile, arises_analyze repositoryId file.size file.content⟩

end Analyzer

namespace FileOutcome.Arises

variable {path : String} {outcome : FileOutcome}

theorem relativePath_eq (arises : outcome.Arises path) {entry : FileRecord}
    (isEntry : outcome.entry = some entry) : entry.file.relativePath = path := by
  cases arises with
  | ignored => cases isEntry
  | unread atPath => exact Option.some.inj isEntry ▸ atPath
  | failed atPath => exact Option.some.inj isEntry ▸ atPath
  | extracted atPath => exact Option.some.inj isEntry ▸ atPath

/-- A path without a file was ignored, and nothing else came of it. -/
theorem eq_ignored (arises : outcome.Arises path) (noEntry : outcome.entry = none) :
    outcome = .ignored := by
  cases arises with
  | ignored => rfl
  | unread => cases noEntry
  | failed => cases noEntry
  | extracted => cases noEntry

/-- Entities come from parsed files. -/
theorem parsed_of_mem_entities (arises : outcome.Arises path) {entity : Entity}
    (member : entity ∈ outcome.entities) :
    ∃ file, outcome.entry = some ⟨file, .parsed⟩ ∧ entity.fileId = file.id := by
  cases arises with
  | ignored => cases member
  | unread => cases member
  | failed => cases member
  | extracted =>
    exact ⟨_, rfl, (Definition.fileId_of_mem_toEntities (Entity.mem_of_mem_distinct member)).1⟩

/-- Observations come from parsed files. -/
theorem parsed_of_mem_observations (arises : outcome.Arises path) {observation : Observation}
    (member : observation ∈ outcome.observations) :
    ∃ file, outcome.entry = some ⟨file, .parsed⟩ ∧ observation.fileId = file.id := by
  cases arises with
  | ignored => cases member
  | unread => cases member
  | failed => cases member
  | extracted => exact ⟨_, rfl, (Reference.sourceId_of_mem_toObservations member).2⟩

/-- A file in a known language that is not parsed gives one failure and nothing else. -/
theorem failure_of_unparsed (arises : outcome.Arises path) {entry : FileRecord}
    (isEntry : outcome.entry = some entry) (inLanguage : entry.file.language.isSome)
    (unparsed : entry.status ≠ .parsed) :
    outcome.entities = [] ∧ outcome.observations = [] ∧
      ∃ failure, outcome.failures = [failure] ∧ failure.path = path ∧
        (failure.stage = .read ∨ failure.stage = .parse) := by
  cases arises with
  | ignored => cases isEntry
  | unread _ noLanguage =>
    rw [← Option.some.inj isEntry, noLanguage] at inLanguage
    cases inLanguage
  | failed _ _ inFile stage => exact ⟨rfl, rfl, _, rfl, inFile, stage⟩
  | extracted => exact absurd (Option.some.inj isEntry ▸ rfl) unparsed

/-- The analysis of files fails in no other stage than its own three. -/
theorem stage_mem (arises : outcome.Arises path) {failure : Failure}
    (member : failure ∈ outcome.failures) :
    failure.stage ∈ [Stage.read, Stage.parse, Stage.extract] := by
  cases arises with
  | ignored => cases member
  | unread => cases member
  | failed _ _ _ stage =>
    rw [List.mem_singleton.mp member]
    rcases stage with isRead | isParse
    · rw [isRead]
      decide
    · rw [isParse]
      decide
  | extracted =>
    obtain ⟨warning, _, rfl⟩ := List.mem_map.mp member
    exact (by decide : Stage.extract ∈ [Stage.read, Stage.parse, Stage.extract])

end FileOutcome.Arises

/-! ### A sample -/

/-- An analyzer of one language that ignores temporary files. -/
def Analyzer.sample : Analyzer where
  settings := {}
  ontology := ClassifiedFile.sampleOntology
  rules := ⟨(RegularExpression.parse? "tmp$").toList, ⟨"SourceFile", []⟩, ⟨"ProgramCode", []⟩⟩
  catalog := ⟨[.go]⟩

/-- A parser that reads every source as the sample of a syntax tree. -/
def sampleParser : TreeParser := fun _ _ _ => .ok ParsedFile.sampleTree

/-- A path that is ignored, a file that cannot be read, a file in no known language, a file that
is parsed, and a file that is too large. -/
def Discovery.sample : Discovery where
  files := [⟨"a.tmp", 0, .bytes []⟩, ⟨"b.go", 9, .unreadable "Permission denied (os error 13)"⟩,
    ⟨"notes.txt", 2, .bytes [104, 105]⟩, ⟨"p.go", 42, .bytes (Text.Utf8.encode
      "package p\ntype T struct\x7b\x7d\nfunc (T) f() \x7b\x7d\n")⟩]
  failures := [⟨"large.go", .discover, "3000000 bytes exceeds the 2097152 byte limit"⟩]

end CodeGraph
