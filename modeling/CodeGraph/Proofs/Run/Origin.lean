/-
This file proves where the results of a run come from.

The record of a file is that of the path under which the file was discovered, and its identifier is
made from the repository and that path. An entity was extracted from a file that was parsed, whose
source is the content of the discovered file. Both are read off the analysis of one file, in which
everything is put into the outcome once, and then carried over to a run, whose files and entities
are those of the outcomes up to their order. The parser may answer anything: the syntax tree of an
entity's file is some tree.
-/
import CodeGraph.Proofs.Run.Outcomes
import CodeGraph.Proofs.Text.Utf8

namespace CodeGraph

namespace Analyzer

variable {engine : RegularExpression.Engine} {analyzer : Analyzer engine} {parser : TreeParser}
  {repositoryId path : String} {size : Nat} {content : FileContent} {file : SourceFile}

/-! ### One file -/

/-- A classified file is that at the path in the repository. -/
theorem exists_ofPath_of_classifyFile
    (isClassified : analyzer.classifyFile repositoryId path size = some file) :
    ∃ language carrier content,
      file = .ofPath repositoryId path language size carrier content := by
  unfold classifyFile at isClassified
  split at isClassified
  · cases isClassified
  · next classes _ =>
    exact ⟨analyzer.catalog.ofPath? path, classes.carrier, classes.content,
      (Option.some.inj isClassified).symm⟩

theorem file_of_entry_analyzeFile {record : FileRecord}
    (isEntry : (analyzer.analyzeFile parser file content).entry = some record) :
    record.file = file := by
  unfold analyzeFile at isEntry
  split at isEntry
  · exact Option.some.inj isEntry ▸ rfl
  · exact Option.some.inj isEntry ▸ rfl
  · unfold analyzeBytes at isEntry
    split at isEntry
    · exact Option.some.inj isEntry ▸ rfl
    · unfold analyzeText at isEntry
      split at isEntry
      · exact Option.some.inj isEntry ▸ rfl
      · exact Option.some.inj isEntry ▸ rfl

/-- The record of a file is identified by the repository and the path. -/
theorem id_of_entry_analyze {record : FileRecord}
    (isEntry : (analyzer.analyze parser repositoryId path size content).entry = some record) :
    record.file.id = Identifier.file repositoryId path := by
  unfold analyze at isEntry
  split at isEntry
  · cases isEntry
  · next file isClassified =>
    obtain ⟨language, carrier, contentClass, rfl⟩ := exists_ofPath_of_classifyFile isClassified
    rw [file_of_entry_analyzeFile isEntry]
    rfl

/-- Entities are extracted from the content of a file that is parsed. -/
theorem exists_ofTree_of_mem_entities_analyzeFile {entity : Entity}
    (member : entity ∈ (analyzer.analyzeFile parser file content).entities) :
    ∃ language source tree, content = .bytes source.bytes ∧
      entity ∈ (Extraction.ofTree language file source tree).entities := by
  unfold analyzeFile at member
  split at member
  · cases member
  · cases member
  · next language bytes _ =>
    unfold analyzeBytes at member
    split at member
    · cases member
    · next text decoded =>
      unfold analyzeText at member
      split at member
      · cases member
      · next tree _ =>
        refine ⟨language, SourceText.ofString text, tree, ?_, member⟩
        rw [SourceText.ofString, Text.Utf8.decode_eq_ok_iff.mp decoded]

theorem exists_ofTree_of_mem_entities_analyze {entity : Entity}
    (member : entity ∈ (analyzer.analyze parser repositoryId path size content).entities) :
    ∃ language file source tree, file.repositoryId = repositoryId ∧ file.relativePath = path ∧
      content = .bytes source.bytes ∧
      entity ∈ (Extraction.ofTree language file source tree).entities := by
  unfold analyze at member
  split at member
  · cases member
  · next file isClassified =>
    obtain ⟨language, source, tree, isContent, inFile⟩ :=
      exists_ofTree_of_mem_entities_analyzeFile member
    obtain ⟨_, _, _, rfl⟩ := exists_ofPath_of_classifyFile isClassified
    exact ⟨language, _, source, tree, rfl, rfl, isContent, inFile⟩

/-! ### A run -/

variable {discovery : Discovery}

theorem files_runOn_perm : (analyzer.runOn parser repositoryId discovery).files.Perm
    (discovery.files.filterMap fun file =>
      (analyzer.analyzeDiscovered parser repositoryId file).entry) := by
  have sorted := (sortBy_perm FileOutcome.compare
    (analyzer.outcomes parser repositoryId discovery)).filterMap FileOutcome.entry
  rwa [outcomes, List.filterMap_map] at sorted

theorem exists_file_of_mem_entities_runOn {entity : Entity}
    (member : entity ∈ (analyzer.runOn parser repositoryId discovery).entities) :
    ∃ file ∈ discovery.files,
      entity ∈ (analyzer.analyzeDiscovered parser repositoryId file).entities := by
  obtain ⟨outcome, isOutcome, inOutcome⟩ := List.mem_flatMap.mp member
  obtain ⟨file, isFile, rfl⟩ := List.mem_map.mp ((mem_sortBy _).mp isOutcome)
  exact ⟨file, isFile, inOutcome⟩

theorem exists_file_of_mem_files_runOn {record : FileRecord}
    (member : record ∈ (analyzer.runOn parser repositoryId discovery).files) :
    ∃ file ∈ discovery.files, record.file.id = Identifier.file repositoryId file.relativePath := by
  obtain ⟨file, isFile, isEntry⟩ := List.mem_filterMap.mp (files_runOn_perm.mem_iff.mp member)
  exact ⟨file, isFile, id_of_entry_analyze isEntry⟩

end Analyzer

end CodeGraph
