/-
This file proves that the edges of containment are a forest rooted in the files. Every entity is
held by exactly one thing, its file or an entity of the same file, and it is declared in exactly
its file. Going from what is held to what holds it never comes back and ends at the file.

The proof has two parts. One is about the resolution. Its passes find edges of different properties
(`foundEdges_cases`), so to know all edges that hold the thing with some identifier, it is enough
to look at the pass of containment; and that pass makes one declaration and one edge of containment
of each entity. As the test for such edges ignores their evidence, it may be made before the edges
become a set (`filter_resolve_of_each`). Where identifiers are distinct, one edge is left.

The other part is about the extraction. The entities of parsed files are a forest of parents
(`EntityList.IsForest`): the identifiers are distinct because the digest does not collide, and
every parent is an entity of the same file with a smaller measure. The induction on that measure
gives the way up from an entity (`exists_ascent`). It goes along the edges themselves, not along
the parents, so that the theorem speaks of the result alone: `Edge.PlacesInFile` is a property of a
list of edges.
-/
import CodeGraph.Proofs.Ascent
import CodeGraph.Proofs.Extraction.Entities
import CodeGraph.Proofs.Resolution.Edges

namespace CodeGraph

namespace Term

/-- The properties by which one thing holds another. -/
def holdingProperties : List String := [declares, hasField, hasMethod, hasParameter]

/-- The properties that relate what refers to something to what it refers to. -/
def referenceProperties : List String :=
  [callsFunction, instantiates, imports, extendsType, testsFunction]

end Term

namespace Edge

/-- Whether an edge says that something holds the thing with an identifier. -/
def holds (id : String) (edge : Edge) : Bool :=
  Term.holdingProperties.contains edge.predicate && edge.object == .resolved id

/-- Whether an edge says where the thing with an identifier is declared. -/
def locates (id : String) (edge : Edge) : Bool :=
  edge.predicate == Term.isDeclaredIn && edge.subjectId == id

/-- What holds the thing with an identifier, by the first edge that says so. -/
def holder? (edges : List Edge) (id : String) : Option String :=
  (edges.find? (holds id)).map Edge.subjectId

theorem holds_iff {id : String} {edge : Edge} :
    edge.holds id ↔ edge.predicate ∈ Term.holdingProperties ∧ edge.object = .resolved id := by
  rw [holds, Bool.and_eq_true, List.contains_iff_mem, beq_iff_eq]

theorem locates_iff {id : String} {edge : Edge} :
    edge.locates id ↔ edge.predicate = Term.isDeclaredIn ∧ edge.subjectId = id := by
  rw [locates, Bool.and_eq_true, beq_iff_eq, beq_iff_eq]

theorem ignoresEvidence_holds (id : String) : EdgeSet.IgnoresEvidence (holds id) := by
  intro left right same
  have ⟨_, predicate, object⟩ := Edge.compare_eq_eq_iff.mp same
  rw [holds, holds, predicate, object]

theorem ignoresEvidence_locates (id : String) : EdgeSet.IgnoresEvidence (locates id) := by
  intro left right same
  have ⟨subject, predicate, _⟩ := Edge.compare_eq_eq_iff.mp same
  rw [locates, locates, predicate, subject]

end Edge

namespace Entity

theorem containmentProperty_mem (parent child : Entity) :
    containmentProperty parent child ∈ Term.holdingProperties := by
  unfold containmentProperty
  split
  · decide
  · split <;> decide
  · split <;> decide
  · decide

theorem holds_containmentEdge (entities : EntityList) (entity : Entity) (id : String) :
    (entity.containmentEdge entities).holds id = (entity.id == id) := by
  rw [Bool.eq_iff_iff, Edge.holds_iff, beq_iff_eq]
  unfold containmentEdge
  split
  · next parent _ =>
    refine ⟨fun held => EdgeObject.resolved.inj held.2, fun same => ?_⟩
    exact ⟨containmentProperty_mem parent entity, congrArg _ same⟩
  · refine ⟨fun held => EdgeObject.resolved.inj held.2, fun same => ?_⟩
    exact ⟨(by decide : Term.declares ∈ Term.holdingProperties), congrArg _ same⟩

theorem holds_declarationEdge (entity : Entity) (id : String) :
    entity.declarationEdge.holds id = false :=
  Bool.eq_false_iff.mpr fun held =>
    absurd (Edge.holds_iff.mp held).1 (by decide : Term.isDeclaredIn ∉ Term.holdingProperties)

theorem predicate_containmentEdge (entities : EntityList) (entity : Entity) :
    (entity.containmentEdge entities).predicate ∈ Term.holdingProperties :=
  (Edge.holds_iff.mp ((holds_containmentEdge entities entity entity.id).trans
    (beq_self_eq_true _))).1

theorem locates_containmentEdge (entities : EntityList) (entity : Entity) (id : String) :
    (entity.containmentEdge entities).locates id = false := by
  refine Bool.eq_false_iff.mpr fun located => ?_
  have member := predicate_containmentEdge entities entity
  rw [(Edge.locates_iff.mp located).1] at member
  exact absurd member (by decide)

theorem locates_declarationEdge (entity : Entity) (id : String) :
    entity.declarationEdge.locates id = (entity.id == id) := rfl

end Entity

namespace EntityList

/-- Leaving out all but one of the things that are made of each item, for some of the items. -/
theorem filter_flatMap_eq_map_filter {item other : Type} {make : item → List other}
    {keep : other → Bool} {test : item → Bool} {only : item → other}
    (each : ∀ entry, (make entry).filter keep = if test entry then [only entry] else [])
    (items : List item) : (items.flatMap make).filter keep = (items.filter test).map only := by
  induction items with
  | nil => rfl
  | cons head rest inductionHypothesis =>
    rw [List.flatMap_cons, List.filter_append, each, inductionHypothesis]
    by_cases accepted : test head
    · rw [if_pos accepted, List.filter_cons_of_pos accepted, List.map_cons, List.singleton_append]
    · rw [if_neg accepted, List.filter_cons_of_neg accepted, List.nil_append]

end EntityList

namespace Corpus

variable {corpus : Corpus} {observations : List Observation} {keep : Edge → Bool}

/-! ### Properties of the passes -/

theorem predicate_resolveObservation {observation : Observation} {edge : Edge}
    (member : edge ∈ (corpus.resolveObservation observation).edges) :
    edge.predicate ∈ Term.referenceProperties := by
  rcases (mem_resolveObservation member).2.2 with
    ⟨choice, _, _, predicate, _⟩ | ⟨_, _, _, predicate, _⟩ | ⟨_, _, _, predicate, _⟩ <;>
    rw [predicate]
  · unfold callProperty
    split <;> decide
  · decide
  · decide

theorem predicate_resolveTests {edge : Edge} (member : edge ∈ corpus.resolveTests.edges) :
    edge.predicate ∈ Term.referenceProperties := by
  obtain ⟨_, _, _, _, _, _, rfl⟩ := mem_resolveTests member
  show Term.testsFunction ∈ Term.referenceProperties
  decide

theorem predicate_documentationEdges {edge : Edge}
    (member : edge ∈ corpus.entities.documentationEdges) : edge.predicate = Term.documents := by
  obtain ⟨_, _, _, _, _, _, _, _, rfl⟩ := EntityList.mem_documentationEdges member
  rfl

/-- Each pass finds edges of properties of its own. -/
theorem foundEdges_cases {edge : Edge} (member : edge ∈ corpus.foundEdges observations) :
    (edge ∈ corpus.entities.containmentEdges ∧
        edge.predicate ∈ Term.isDeclaredIn :: Term.holdingProperties) ∨
      (∃ observation ∈ observations, edge ∈ (corpus.resolveObservation observation).edges ∧
        edge.predicate ∈ Term.referenceProperties) ∨
      (edge ∈ corpus.resolveTests.edges ∧ edge.predicate = Term.testsFunction) ∨
      (edge ∈ corpus.entities.documentationEdges ∧ edge.predicate = Term.documents) := by
  rcases mem_foundEdges member with
    containment | ⟨observation, isObservation, observed⟩ | tests | documentation
  · refine .inl ⟨containment, ?_⟩
    obtain ⟨entity, _, rfl | rfl⟩ := mem_containmentEdges.mp containment
    · exact List.mem_cons_self
    · exact List.mem_cons_of_mem _ (Entity.predicate_containmentEdge _ entity)
  · exact .inr (.inl ⟨observation, isObservation, observed, predicate_resolveObservation observed⟩)
  · obtain ⟨_, _, _, _, _, _, rfl⟩ := mem_resolveTests tests
    exact .inr (.inr (.inl ⟨tests, rfl⟩))
  · exact .inr (.inr (.inr ⟨documentation, predicate_documentationEdges documentation⟩))

/-- A test that rejects references looks at the edges of containment and of documentation only. -/
theorem filter_foundEdges
    (noReference : ∀ edge, keep edge → edge.predicate ∉ Term.referenceProperties) :
    (corpus.foundEdges observations).filter keep =
      corpus.entities.containmentEdges.filter keep ++
        corpus.entities.documentationEdges.filter keep := by
  have references : (observations.flatMap fun observation =>
      (corpus.resolveObservation observation).edges).filter keep = [] := by
    refine List.filter_eq_nil_iff.mpr fun edge member kept => ?_
    obtain ⟨observation, _, member⟩ := List.mem_flatMap.mp member
    exact noReference edge kept (predicate_resolveObservation member)
  have tests : corpus.resolveTests.edges.filter keep = [] :=
    List.filter_eq_nil_iff.mpr fun edge member kept =>
      noReference edge kept (predicate_resolveTests member)
  rw [foundEdges, List.filter_append, List.filter_append, List.filter_append, references, tests,
    List.append_nil, List.append_nil]

/-- A test that rejects references and documentation, and that of the two edges of each entity with
an identifier accepts one, finds that one edge of each of them. -/
theorem filter_resolve_of_each (ignores : EdgeSet.IgnoresEvidence keep)
    (noReference : ∀ edge, keep edge → edge.predicate ∉ Term.referenceProperties)
    (noDocumentation : ∀ edge, keep edge → edge.predicate ≠ Term.documents) {id : String}
    {only : Entity → Edge}
    (each : ∀ entity : Entity,
      [entity.declarationEdge, entity.containmentEdge corpus.entities].filter keep =
        if entity.id == id then [only entity] else []) :
    (corpus.resolve observations).edges.filter keep =
      EdgeSet.ofList ((corpus.entities.filter (Entity.id · == id)).map only) := by
  have documentation : corpus.entities.documentationEdges.filter keep = [] :=
    List.filter_eq_nil_iff.mpr fun edge member kept =>
      noDocumentation edge kept (predicate_documentationEdges member)
  rw [resolve, EdgeSet.filter_ofList ignores, filter_foundEdges noReference, documentation,
    List.append_nil, EntityList.containmentEdges, EntityList.filter_flatMap_eq_map_filter each]

/-- The edges by which something is held are those to the entities with its identifier. -/
theorem filter_holds_resolve (id : String) :
    (corpus.resolve observations).edges.filter (Edge.holds id) =
      EdgeSet.ofList ((corpus.entities.filter (Entity.id · == id)).map
        (Entity.containmentEdge corpus.entities)) := by
  have apart : ∀ name ∈ Term.holdingProperties,
      name ∉ Term.referenceProperties ∧ name ≠ Term.documents := by decide
  refine filter_resolve_of_each (Edge.ignoresEvidence_holds id)
    (fun edge kept => (apart _ (Edge.holds_iff.mp kept).1).1)
    (fun edge kept => (apart _ (Edge.holds_iff.mp kept).1).2) fun entity => ?_
  rw [List.filter_cons, List.filter_cons, Entity.holds_declarationEdge,
    Entity.holds_containmentEdge]
  rfl

/-- The edges that say where something is declared are those of the entities with its
identifier. -/
theorem filter_locates_resolve (id : String) :
    (corpus.resolve observations).edges.filter (Edge.locates id) =
      EdgeSet.ofList ((corpus.entities.filter (Entity.id · == id)).map Entity.declarationEdge) := by
  have isDeclaration (edge : Edge) (kept : edge.locates id) := (Edge.locates_iff.mp kept).1
  refine filter_resolve_of_each (Edge.ignoresEvidence_locates id)
    (fun edge kept => by rw [isDeclaration edge kept]; decide)
    (fun edge kept => by rw [isDeclaration edge kept]; decide) fun entity => ?_
  rw [List.filter_cons, List.filter_cons, Entity.locates_declarationEdge,
    Entity.locates_containmentEdge]
  rfl

end Corpus

/-! ### Forests of entities -/

/-- Entities with distinct identifiers, none of them that of a file, each of which names as its
parent an entity of its own file with a smaller measure, if it names one. -/
structure EntityList.IsForest (entities : EntityList) : Prop where
  distinct : (entities.map Entity.id).Nodup
  apart : ∀ entity ∈ entities, ∀ other ∈ entities, other.id ≠ entity.fileId
  held : ∀ entity ∈ entities, ∀ id, entity.parentId = some id →
    ∃ parent ∈ entities, parent.id = id ∧ parent.fileId = entity.fileId ∧ parent.rank < entity.rank

namespace EntityList.IsForest

variable {corpus : Corpus} {observations : List Observation} {entity : Entity}

/-- What holds an entity is its file, or an entity of its file with a smaller measure. -/
theorem subjectId_cases (forest : corpus.entities.IsForest) (member : entity ∈ corpus.entities) :
    (entity.containmentEdge corpus.entities).subjectId = entity.fileId ∨
      ∃ parent ∈ corpus.entities, parent.id = (entity.containmentEdge corpus.entities).subjectId ∧
        parent.fileId = entity.fileId ∧ parent.rank < entity.rank := by
  unfold Entity.containmentEdge
  split
  · next parent isParent =>
    have ⟨isEntity, isId⟩ := mem_of_parent? isParent
    obtain ⟨other, isOther, same, sameFile, less⟩ := forest.held entity member parent.id isId
    obtain rfl := List.inj_on_of_nodup_map forest.distinct isOther isEntity same
    exact .inr ⟨other, isOther, rfl, sameFile, less⟩
  · exact .inl rfl

theorem filter_holds_eq (forest : corpus.entities.IsForest) (member : entity ∈ corpus.entities) :
    (corpus.resolve observations).edges.filter (Edge.holds entity.id) =
      [entity.containmentEdge corpus.entities] := by
  rw [Corpus.filter_holds_resolve, filter_keyOf_eq_singleton forest.distinct member]
  rfl

theorem filter_locates_eq (forest : corpus.entities.IsForest) (member : entity ∈ corpus.entities) :
    (corpus.resolve observations).edges.filter (Edge.locates entity.id) =
      [entity.declarationEdge] := by
  rw [Corpus.filter_locates_resolve, filter_keyOf_eq_singleton forest.distinct member]
  rfl

theorem holder?_eq (forest : corpus.entities.IsForest) (member : entity ∈ corpus.entities) :
    Edge.holder? (corpus.resolve observations).edges entity.id =
      some (entity.containmentEdge corpus.entities).subjectId := by
  rw [Edge.holder?, ← List.head?_filter, forest.filter_holds_eq member]
  rfl

/-- Nothing holds what is no entity. -/
theorem holder?_eq_none {id : String} (noEntity : ∀ entity ∈ corpus.entities, entity.id ≠ id) :
    Edge.holder? (corpus.resolve observations).edges id = none := by
  have empty : corpus.entities.filter (Entity.id · == id) = [] :=
    List.filter_eq_nil_iff.mpr fun entity member same => noEntity entity member (beq_iff_eq.mp same)
  rw [Edge.holder?, ← List.head?_filter, Corpus.filter_holds_resolve, empty]
  rfl

/-- The way up from an entity leads over entities of its file to the file. -/
theorem exists_ascent (forest : corpus.entities.IsForest) (member : entity ∈ corpus.entities) :
    ∃ way, Ascent (Edge.holder? (corpus.resolve observations).edges) entity.id
        (way ++ [entity.fileId]) ∧
      ∀ id ∈ way, ∃ other ∈ corpus.entities, other.id = id ∧ other.fileId = entity.fileId := by
  induction measure : entity.rank using Nat.strongRecOn generalizing entity with
  | ind _ inductionHypothesis =>
    have isHolder : Edge.holder? (corpus.resolve observations).edges entity.id =
        some (entity.containmentEdge corpus.entities).subjectId := forest.holder?_eq member
    rcases forest.subjectId_cases member with isFile | ⟨parent, isParent, same, sameFile, less⟩
    · rw [isFile] at isHolder
      refine ⟨[], .step isHolder (.top (holder?_eq_none fun other isOther => ?_)), fun _ none => ?_⟩
      · exact forest.apart entity member other isOther
      · cases none
    · obtain ⟨way, ascent, inside⟩ := inductionHypothesis parent.rank (measure ▸ less) isParent rfl
      rw [← same] at isHolder
      rw [sameFile] at ascent
      refine ⟨parent.id :: way, .step isHolder ascent, fun id inWay => ?_⟩
      rcases List.mem_cons.mp inWay with rfl | inWay
      · exact ⟨parent, isParent, rfl, sameFile⟩
      · obtain ⟨other, isOther, sameId, otherFile⟩ := inside id inWay
        exact ⟨other, isOther, sameId, otherFile.trans sameFile⟩

end EntityList.IsForest

/-! ### Parsed files -/

/-- Where the thing with an identifier stands among the edges of a graph, given its file and the
things in that file: one edge says what holds it, one says in which file it is declared, and the
way up leads over things in the file to the file itself, without meeting anything twice. -/
structure Edge.PlacesInFile (edges : List Edge) (fileId : String) (inFile : List String)
    (id : String) : Prop where
  held : ∃ edge, edges.filter (holds id) = [edge] ∧
    (edge.subjectId = fileId ∨ edge.subjectId ∈ inFile)
  located : ∃ edge, edges.filter (locates id) = [edge] ∧ edge.object = .resolved fileId
  rooted : ∃ way, Ascent (holder? edges) id (way ++ [fileId]) ∧
    (id :: way ++ [fileId]).Nodup ∧ ∀ above ∈ way, above ∈ inFile

namespace ParsedFile

/-- The files and the entities of a repository whose files were parsed. -/
def corpusOf (files : List ParsedFile) : Corpus :=
  ⟨files.map ParsedFile.file, files.flatMap ParsedFile.entities⟩

/-- An entity of a repository belongs to the file that it names. -/
theorem mem_entities_of_fileId {files : List ParsedFile} {parsed : ParsedFile} {entity : Entity}
    (distinct : (files.map fun parsed => parsed.file.id).Nodup) (member : parsed ∈ files)
    (isEntity : entity ∈ (corpusOf files).entities) (sameFile : entity.fileId = parsed.file.id) :
    entity ∈ parsed.entities := by
  obtain ⟨other, isFile, inOther⟩ := List.mem_flatMap.mp isEntity
  have same := List.inj_on_of_nodup_map distinct isFile member
    ((fileId_eq inOther).symm.trans sameFile)
  exact same ▸ inOther

/-- What is extracted from files with distinct identifiers is a forest. -/
theorem isForest_corpusOf {files : List ParsedFile}
    (distinct : (files.map fun parsed => parsed.file.id).Nodup)
    (fit : ∀ parsed ∈ files, parsed.OwnersFit)
    (clean : ∀ parsed ∈ files, HoldsNoZero parsed.file.relativePath)
    (free : Digest.CollisionFree (files.flatMap messages)) :
    (corpusOf files).entities.IsForest where
  distinct := nodup_entity_ids distinct clean free
  apart entity isEntity other isOther := by
    obtain ⟨parsed, _, inFile⟩ := List.mem_flatMap.mp isEntity
    obtain ⟨_, _, inOther⟩ := List.mem_flatMap.mp isOther
    rw [fileId_eq inFile]
    exact id_ne_file_id inOther
  held entity isEntity id isParent := by
    obtain ⟨parsed, member, inFile⟩ := List.mem_flatMap.mp isEntity
    obtain ⟨parent, parentInFile, same, less⟩ :=
      exists_parent (free.mono (messages_subset member)) (fit parsed member) inFile isParent
    exact ⟨parent, List.mem_flatMap.mpr ⟨parsed, member, parentInFile⟩, same,
      (fileId_eq parentInFile).trans (fileId_eq inFile).symm, less⟩

/-- Containment is a forest rooted in the files. This holds for all sources and syntax trees of
files with distinct identifiers, whatever was observed in them, as long as owners fit, no path
holds a zero character (no file system has such a path) and the digest has no collision among the
entities. -/
theorem placesInFile_of_mem_entities (files : List ParsedFile) (observations : List Observation)
    (distinct : (files.map fun parsed => parsed.file.id).Nodup)
    (fit : ∀ parsed ∈ files, parsed.OwnersFit)
    (clean : ∀ parsed ∈ files, HoldsNoZero parsed.file.relativePath)
    (free : Digest.CollisionFree (files.flatMap messages)) {parsed : ParsedFile}
    (member : parsed ∈ files) {entity : Entity} (inFile : entity ∈ parsed.entities) :
    Edge.PlacesInFile ((corpusOf files).resolve observations).edges parsed.file.id
      (parsed.entities.map Entity.id) entity.id := by
  have forest := isForest_corpusOf distinct fit clean free
  have isEntity : entity ∈ (corpusOf files).entities :=
    List.mem_flatMap.mpr ⟨parsed, member, inFile⟩
  have isFile := fileId_eq inFile
  have belongs (other : Entity) (isOther : other ∈ (corpusOf files).entities)
      (sameFile : other.fileId = entity.fileId) : other.id ∈ parsed.entities.map Entity.id :=
    List.mem_map_of_mem (mem_entities_of_fileId distinct member isOther (sameFile.trans isFile))
  refine ⟨⟨_, forest.filter_holds_eq isEntity, ?_⟩, ⟨_, forest.filter_locates_eq isEntity, ?_⟩, ?_⟩
  · rcases forest.subjectId_cases isEntity with atFile | ⟨parent, isParent, same, sameFile, _⟩
    · exact .inl (atFile.trans isFile)
    · exact .inr (same ▸ belongs parent isParent sameFile)
  · exact congrArg EdgeObject.resolved isFile
  · obtain ⟨way, ascent, inside⟩ :=
      @EntityList.IsForest.exists_ascent (corpusOf files) observations entity forest isEntity
    rw [isFile] at ascent
    refine ⟨way, ascent, ascent.nodup, fun above inWay => ?_⟩
    obtain ⟨other, isOther, rfl, sameFile⟩ := inside above inWay
    exact belongs other isOther sameFile

/-- A source with a type and with a function that says to which type it belongs. -/
def sampleSource : SourceText :=
  .ofString "package p\ntype T struct\x7b\x7d\nfunc (T) f() \x7b\x7d\n"

/-- The syntax tree of the sample. -/
def sampleTree : SyntaxTree :=
  .node { index := 0, kind := "source_file", start := 0, stop := 42 } [
    .node { index := 1, kind := "type_spec", start := 15, stop := 25 } [
      .node { index := 2, kind := "type_identifier", start := 15, stop := 16, field := "name" } [],
      .node { index := 3, kind := "struct_type", start := 17, stop := 25, field := "type" } []],
    .node { index := 4, kind := "method_declaration", start := 26, stop := 41 } [
      .node { index := 5, kind := "parameter_list", start := 31, stop := 34, field := "receiver" } [
        .node { index := 6, kind := "parameter_declaration", start := 32, stop := 33 } [
          .node { index := 7, kind := "type_identifier", start := 32, stop := 33, field := "type" }
            []]],
      .node { index := 8, kind := "field_identifier", start := 35, stop := 36, field := "name" }
        []]]

/-- The sample as a file of a repository. -/
def sample : ParsedFile where
  file := .ofPath "r" "p.go" (some .go) 42 "SourceFile" "ProgramCode"
  language := .go
  source := sampleSource
  tree := sampleTree
  identified := rfl

/-- The definitions of the sample: the function stands behind the type and names it. -/
def sampleDefinitions : List Definition := [
  { kind := .structDefinition, range := ⟨15, 25⟩, nameRange := some ⟨15, 16⟩, span := ⟨2, 2⟩,
    name := "T", owner := none },
  { kind := .functionDefinition, range := ⟨26, 41⟩, nameRange := some ⟨35, 36⟩, span := ⟨3, 3⟩,
    name := "f", owner := some "T" }]

theorem definitions_sample : sample.definitions = sampleDefinitions := by
  have found : (Capture.ofTable sampleSource sampleTree Language.go.queries).filterMap
      Extraction.definition? = sampleDefinitions := by decide +kernel
  show Definition.merge ((Capture.ofTable sampleSource sampleTree Language.go.queries).filterMap
    Extraction.definition?) = _
  rw [found]
  exact List.mergeSort_of_pairwise (by decide +kernel)

/-- The method of the sample has its place in the forest. -/
theorem placesInFile_method_of_sample :
    ∃ entity ∈ sample.entities, entity.canonicalName = "p.T.f" ∧
      Edge.PlacesInFile ((corpusOf [sample]).resolve []).edges sample.file.id
        (sample.entities.map Entity.id) entity.id := by
  have ⟨entity, inFile, isMethod⟩ : ∃ entity ∈ sample.entities, entity.canonicalName = "p.T.f" := by
    show ∃ entity ∈ Entity.distinct
      (Definition.toEntities sample.file sampleSource sample.definitions), _
    rw [definitions_sample]
    decide +kernel
  refine ⟨entity, inFile, isMethod, placesInFile_of_mem_entities [sample] [] (by decide)
    (fun parsed member _ => ?_) (fun parsed member => ?_) ?_ List.mem_cons_self inFile⟩
  · rw [List.mem_singleton.mp member, definitions_sample]
    decide
  · rw [List.mem_singleton.mp member]
    decide
  · show Digest.CollisionFree ((Definition.toEntities sample.file sampleSource
      sample.definitions).map (Entity.message "r") ++ [])
    rw [definitions_sample]
    decide +kernel

end ParsedFile

end CodeGraph
