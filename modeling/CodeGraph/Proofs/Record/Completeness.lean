/-
This file proves that nothing of a graph is lost when it is written. The files are classified by
rules that were compiled against the ontology, the entities and the observations are extracted from
them, and the edges are resolved from these; then the records are exactly those of the files, the
entities and the edges, and no failure is noted.

Nothing new happens here; four facts come together. Compiled rules give only known classes, so
those of the files are known. Extraction gives only classes of the vocabulary, and an observation
is about the file or about an entity that is kept. The resolution leads only from nodes to nodes
where every entity and every observation is about something in the repository. And the emission
rejects nothing whose terms are known and whose ends are nodes. `ClassifiedFile` is what a run has
at hand of a file, with a syntax tree if there is one; neither the tree nor the engine of the
regular expressions is restricted.
-/
import CodeGraph.Proofs.Classification.Compilation
import CodeGraph.Proofs.Extraction.Observations
import CodeGraph.Proofs.Record.Emission
import CodeGraph.Proofs.Resolution.Ends

namespace CodeGraph

/-- A file that was classified by rules, how far it was analysed, and its syntax tree in some
language, if there is one. -/
structure ClassifiedFile {engine : RegularExpression.Engine} (rules : RuleSet engine) where
  entry : FileRecord
  classes : Classification
  isClassified : rules.classify entry.file.relativePath = .classified classes
  carrier : entry.file.carrierClass = classes.carrier
  content : entry.file.contentClass = classes.content
  parsed : Option (Language × SourceText × SyntaxTree)

namespace ClassifiedFile

variable {engine : RegularExpression.Engine} {rules : RuleSet engine}

/-- What is extracted from a file; nothing if it has no syntax tree. -/
def extraction (classified : ClassifiedFile rules) : Extraction :=
  match classified.parsed with
  | some (language, source, tree) => .ofTree language classified.entry.file source tree
  | none => ⟨[], [], []⟩

/-- The entities that are extracted from a file. -/
def entities (classified : ClassifiedFile rules) : List Entity := classified.extraction.entities

/-- The observations that are extracted from a file. -/
def observations (classified : ClassifiedFile rules) : List Observation :=
  classified.extraction.observations

theorem className_mem {classified : ClassifiedFile rules} {entity : Entity}
    (member : entity ∈ classified.entities) : entity.className ∈ Term.constructClasses := by
  unfold entities extraction at member
  split at member
  · exact Definition.className_mem_of_mem_toEntities (Entity.mem_of_mem_distinct member)
  · cases member

theorem fileId_eq {classified : ClassifiedFile rules} {entity : Entity}
    (member : entity ∈ classified.entities) : entity.fileId = classified.entry.file.id := by
  unfold entities extraction at member
  split at member
  · exact (Definition.fileId_of_mem_toEntities (Entity.mem_of_mem_distinct member)).1
  · cases member

theorem sourceId_cases {classified : ClassifiedFile rules} {observation : Observation}
    (member : observation ∈ classified.observations) :
    observation.sourceId = classified.entry.file.id ∨
      ∃ entity ∈ classified.entities, entity.id = observation.sourceId := by
  unfold entities
  unfold observations at member
  unfold extraction at member ⊢
  split at member
  · exact Extraction.sourceId_cases member
  · cases member

/-! ### Graphs of classified files -/

/-- The files and the entities of a repository of classified files. -/
def corpusOf (files : List (ClassifiedFile rules)) : Corpus :=
  ⟨(files.map entry).map FileRecord.file, files.flatMap entities⟩

/-- The edges of the graph of a repository of classified files. -/
def edgesOf (files : List (ClassifiedFile rules)) : List Edge :=
  ((corpusOf files).resolve (files.flatMap observations)).edges

theorem file_mem_nodeIds {files : List (ClassifiedFile rules)} {classified : ClassifiedFile rules}
    (member : classified ∈ files) : classified.entry.file.id ∈ (corpusOf files).nodeIds :=
  Corpus.file_mem_nodeIds (List.mem_map_of_mem (List.mem_map_of_mem member))

/-- A repository of classified files has no loose ends. -/
theorem isGrounded_corpusOf (files : List (ClassifiedFile rules)) :
    (corpusOf files).IsGrounded (files.flatMap observations) where
  filed entity isEntity := by
    obtain ⟨classified, member, inFile⟩ := List.mem_flatMap.mp isEntity
    rw [fileId_eq inFile]
    exact file_mem_nodeIds member
  sourced observation isObservation := by
    obtain ⟨classified, member, inFile⟩ := List.mem_flatMap.mp isObservation
    rcases sourceId_cases inFile with isFile | ⟨entity, isEntity, same⟩
    · exact isFile ▸ file_mem_nodeIds member
    · exact same ▸ Corpus.entity_mem_nodeIds (List.mem_flatMap.mpr ⟨classified, member, isEntity⟩)

/-- The graph of a repository is written in full: one record for each file, one for each entity and
one for each edge, in this order, and nothing is rejected. -/
theorem emit_edgesOf_eq {ontology : Ontology} (known : ontology.KnowsTerms) {table : RuleTable}
    (compiled : RuleSet.compile ontology table engine = .ok rules)
    (files : List (ClassifiedFile rules)) :
    ontology.emit (files.map entry) (files.flatMap entities) (edgesOf files) =
      ⟨(files.map entry).map FileRecord.toRecord ++ (files.flatMap entities).map Entity.toRecord
        ++ (edgesOf files).map Edge.toRecord, []⟩ := by
  refine Ontology.emit_eq known (fun entry member => ?_) (fun entity member => ?_)
    (fun edge member => ?_) (fun edge member id isEnd => ?_)
  · obtain ⟨classified, _, rfl⟩ := List.mem_map.mp member
    rw [classified.carrier, classified.content]
    exact RuleSet.knowsClass_classify compiled classified.isClassified
  · obtain ⟨classified, _, inFile⟩ := List.mem_flatMap.mp member
    exact known.classes _ (className_mem inFile)
  · exact known.edges _ (Corpus.predicate_mem_edgeProperties member)
  · have ⟨subject, object⟩ := Corpus.ends_mem_nodeIds (isGrounded_corpusOf files) member
    have nodes : (corpusOf files).nodeIds =
        (files.map entry).map (·.file.id) ++ (files.flatMap entities).map Entity.id := by
      rw [Corpus.nodeIds, corpusOf, List.map_map]
      rfl
    rw [← nodes]
    rcases isEnd with rfl | isObject
    · exact subject
    · exact object id isObject

/-- A vocabulary with the fixed names and two classes for files. -/
def sampleVocabulary : Vocabulary where
  classes := .ofList ("SourceFile" :: "ProgramCode" :: Term.constructClasses)
  objectProperties := .ofList Term.edgeProperties
  dataProperties := .ofList Term.dataProperties
  annotationProperties := .ofList [Term.label]

/-- The sample as an ontology. -/
def sampleOntology : Ontology := ⟨sampleVocabulary, by decide +kernel⟩

/-- A table with one rule for the content of files. -/
def sampleTable : RuleTable where
  carrier := ⟨"SourceFile", []⟩
  content := ⟨"SourceFile", [⟨"ProgramCode", "go$"⟩]⟩

/-- The graph of one parsed file is written in full. -/
theorem emit_edgesOf_sample :
    ∃ rules, RuleSet.compile sampleOntology sampleTable = .ok rules ∧
      ∃ file : ClassifiedFile rules, file.extraction = ParsedFile.sample.extraction ∧
        (sampleOntology.emit ([file].map entry) ([file].flatMap entities)
          (edgesOf [file])).failures = [] := by
  have known : sampleOntology.KnowsTerms :=
    ⟨by decide +kernel, by decide +kernel, by decide +kernel, by decide +kernel⟩
  have classify : (RuleSet.compile sampleOntology sampleTable).toOption.map
      (fun rules => rules.classify "p.go") =
        some (.classified ⟨"SourceFile", "ProgramCode"⟩) := by decide +kernel
  cases compiled : RuleSet.compile sampleOntology sampleTable with
  | error =>
    rw [compiled] at classify
    cases classify
  | ok rules =>
    rw [compiled] at classify
    let file : ClassifiedFile rules := {
      entry := ⟨ParsedFile.sample.file, .parsed⟩
      classes := ⟨"SourceFile", "ProgramCode"⟩
      isClassified := Option.some.inj classify
      carrier := rfl
      content := rfl
      parsed := some (.go, ParsedFile.sampleSource, ParsedFile.sampleTree) }
    exact ⟨rules, rfl, file, rfl,
      congrArg EmissionBatch.failures (emit_edgesOf_eq known compiled [file])⟩

end ClassifiedFile

end CodeGraph
