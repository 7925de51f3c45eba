/-
This file proves that every edge means what the vocabulary says: a field belongs to a type, a class
is instantiated, a test tests another function, an import leads to another file or out of the
repository.

`Corpus.Allows` has a rule for each property, of what may stand at the two ends of an edge. The
rules speak of the classes of entities, which are what is written, as well as of their kinds, which
are what the passes of the resolution look at. So some promise of the extraction has to connect the
two. `Corpus.IsExtracted` lists what is needed: entities belong to files, their classes fit their
kinds, functions that types hold are methods, and imports are observed of files. Then the proof
goes pass by pass, and in each of them along the ways in which it chooses a property: the
containment by the kinds of parent and child, a call by whether it leads to a class, a test by its
name. An edge of the result states what an edge of some pass states, so the rules hold of the
result as well.

The promises are then proved of all files with a syntax tree. A class is derived from the kind of a
definition and from the place it has been given, and a parent keeps its class when one of several
entities with its identifier is kept, as long as the digest does not collide.
-/
import CodeGraph.Proofs.Extraction.Kinds
import CodeGraph.Proofs.Resolution.Ends

namespace CodeGraph

/-- An entity of a kind whose class is that of the kind as well. -/
structure Entity.IsOf (construct : Construct) (entity : Entity) : Prop where
  ofKind : entity.kind = construct
  ofClass : entity.className = construct.name

theorem Entity.FitsKind.isOf {entity : Entity} {construct : Construct} (fits : entity.FitsKind)
    (ofKind : entity.kind = construct) (notFunction : construct ≠ .functionDefinition) :
    entity.IsOf construct := by
  subst ofKind
  exact ⟨rfl, fits.className_eq notFunction⟩

namespace Corpus

/-- What the vocabulary lets an edge say in a repository: a rule for each property, of the subject
and the object that it may have. -/
inductive Allows (corpus : Corpus) (observations : List Observation) :
    String → String → EdgeObject → Prop where
  | declares {holderId : String} {held : Entity} (isHolder : holderId ∈ corpus.nodeIds)
      (isHeld : held ∈ corpus.entities) :
      Allows corpus observations holderId Term.declares (.resolved held.id)
  | hasParameter {holder held : Entity} (isHolder : holder ∈ corpus.entities)
      (isHeld : held ∈ corpus.entities) (isParameter : held.IsOf .parameter) :
      Allows corpus observations holder.id Term.hasParameter (.resolved held.id)
  | hasField {owner held : Entity} (isOwner : owner ∈ corpus.entities)
      (isHeld : held ∈ corpus.entities) (isType : owner.kind.isType)
      (isAttribute : held.IsOf .attributeDeclaration) :
      Allows corpus observations owner.id Term.hasField (.resolved held.id)
  | hasMethod {owner held : Entity} (isOwner : owner ∈ corpus.entities)
      (isHeld : held ∈ corpus.entities) (isType : owner.kind.isType)
      (isMethod : held.className = Term.methodDefinition) :
      Allows corpus observations owner.id Term.hasMethod (.resolved held.id)
  /-- The call was observed of the subject, with the name of what is called. -/
  | callsFunction {observation : Observation} {callee : Entity}
      (isObserved : observation ∈ observations) (isCall : observation.kind = .call)
      (isCallee : callee ∈ corpus.entities) (isNamed : callee.simpleName = observation.target)
      (isFunction : callee.className = Term.functionDefinition ∨
        callee.className = Term.methodDefinition) :
      Allows corpus observations observation.sourceId Term.callsFunction (.resolved callee.id)
  | instantiates {observation : Observation} {callee : Entity}
      (isObserved : observation ∈ observations) (isCall : observation.kind = .call)
      (isCallee : callee ∈ corpus.entities) (isNamed : callee.simpleName = observation.target)
      (isClass : callee.className = Term.classDefinition) :
      Allows corpus observations observation.sourceId Term.instantiates (.resolved callee.id)
  | extendsType {subjectId : String} {base : Entity} (isBase : base ∈ corpus.entities)
      (isTypeOrModule : base.kind.isType ∨ base.kind = .moduleDefinition)
      (differs : base.id ≠ subjectId) :
      Allows corpus observations subjectId Term.extendsType (.resolved base.id)
  | testsFunction {test tested : Entity} (isTest : test ∈ corpus.entities)
      (isTested : tested ∈ corpus.entities) (isFunction : test.isFunction)
      (otherIsFunction : tested.isFunction) (differs : tested.id ≠ test.id) :
      Allows corpus observations test.id Term.testsFunction (.resolved tested.id)
  | documents {comment target : Entity} (inCorpus : comment ∈ corpus.entities)
      (isTarget : target ∈ corpus.entities) (isComment : comment.IsOf .comment)
      (notKind : target.kind ≠ .comment) (notClass : target.className ≠ Construct.comment.name)
      (sameFile : comment.fileId = target.fileId)
      (sameParent : comment.parentId = target.parentId) :
      Allows corpus observations comment.id Term.documents (.resolved target.id)
  | isDeclaredIn {entity : Entity} {file : SourceFile} (isEntity : entity ∈ corpus.entities)
      (isFile : file ∈ corpus.files) (inFile : entity.fileId = file.id) :
      Allows corpus observations entity.id Term.isDeclaredIn (.resolved file.id)
  | importsFile {importer imported : SourceFile} (isImporter : importer ∈ corpus.files)
      (isImported : imported ∈ corpus.files) (differs : imported.id ≠ importer.id) :
      Allows corpus observations importer.id Term.imports (.resolved imported.id)
  /-- What is imported from elsewhere stays as it is written. -/
  | importsText {importer : SourceFile} {text : String} (isImporter : importer ∈ corpus.files) :
      Allows corpus observations importer.id Term.imports (.unresolved text)

variable {corpus : Corpus} {observations : List Observation} {edge : Edge}

/-- Only imports lead out of a repository. -/
theorem Allows.predicate_eq_imports {subjectId predicate text : String}
    (allowed : corpus.Allows observations subjectId predicate (.unresolved text)) :
    predicate = Term.imports := by
  cases allowed
  rfl

/-- What extraction promises to the resolution: entities belong to files, their classes fit their
kinds, functions of types are methods, and imports are observed of files. -/
structure IsExtracted (corpus : Corpus) (observations : List Observation) : Prop where
  filed : ∀ entity ∈ corpus.entities, ∃ file ∈ corpus.files, entity.fileId = file.id
  fits : ∀ entity ∈ corpus.entities, entity.FitsKind
  promoted : ∀ entity ∈ corpus.entities, entity.kind = .functionDefinition →
    ∀ parent ∈ corpus.entities, parent.kind.isType → entity.parentId = some parent.id →
      entity.className = Term.methodDefinition
  imported : ∀ observation ∈ observations, observation.kind = .import →
    observation.sourceId = observation.fileId

namespace IsExtracted

/-! ### Containment -/

theorem allows_declarationEdge (extracted : corpus.IsExtracted observations) {entity : Entity}
    (isEntity : entity ∈ corpus.entities) :
    corpus.Allows observations entity.id Term.isDeclaredIn (.resolved entity.fileId) := by
  obtain ⟨file, isFile, inFile⟩ := extracted.filed entity isEntity
  rw [inFile]
  exact .isDeclaredIn isEntity isFile inFile

/-- The property by which a parent holds its child fits both. -/
theorem allows_containmentProperty (extracted : corpus.IsExtracted observations)
    {parent child : Entity} (isParent : parent ∈ corpus.entities)
    (isChild : child ∈ corpus.entities) (held : child.parentId = some parent.id) :
    corpus.Allows observations parent.id (Entity.containmentProperty parent child)
      (.resolved child.id) := by
  have declared : corpus.Allows observations parent.id Term.declares (.resolved child.id) :=
    .declares (entity_mem_nodeIds isParent) isChild
  have fits := extracted.fits child isChild
  unfold Entity.containmentProperty
  split
  · next isParameter =>
    exact .hasParameter isParent isChild (fits.isOf isParameter (by decide))
  · next isAttribute =>
    split
    · next isType => exact .hasField isParent isChild isType (fits.isOf isAttribute (by decide))
    · exact declared
  · next isFunction =>
    split
    · next isType =>
      exact .hasMethod isParent isChild isType
        (extracted.promoted child isChild isFunction parent isParent isType held)
    · exact declared
  · exact declared

theorem allows_containmentEdge (extracted : corpus.IsExtracted observations) {entity : Entity}
    (isEntity : entity ∈ corpus.entities) :
    corpus.Allows observations (entity.containmentEdge corpus.entities).subjectId
      (entity.containmentEdge corpus.entities).predicate
      (entity.containmentEdge corpus.entities).object := by
  unfold Entity.containmentEdge
  split
  · next parent isParent =>
    have ⟨inCorpus, held⟩ := EntityList.mem_of_parent? isParent
    exact extracted.allows_containmentProperty inCorpus isEntity held
  · obtain ⟨file, isFile, inFile⟩ := extracted.filed entity isEntity
    refine .declares ?_ isEntity
    rw [inFile]
    exact file_mem_nodeIds isFile

/-! ### References -/

/-- A call of a class instantiates it, and any other call is one of a function. -/
theorem allows_call {observation : Observation} {choice : Choice}
    (isObserved : observation ∈ observations) (isCall : observation.kind = .call)
    (chosen : corpus.callChoice? observation = some choice) :
    corpus.Allows observations observation.sourceId (callProperty choice.entity)
      (.resolved choice.entity.id) := by
  have ⟨isCallee, isNamed, isCallable⟩ := mem_of_callChoice? chosen
  unfold callProperty
  split
  · next isClass => exact .instantiates isObserved isCall isCallee isNamed isClass
  · next notClass =>
    refine .callsFunction isObserved isCall isCallee isNamed ?_
    simpa only [Entity.isCallable, Entity.isFunction, Bool.or_eq_true, beq_iff_eq, notClass,
      or_false] using isCallable

theorem allows_import (extracted : corpus.IsExtracted observations) {observation : Observation}
    {importer : SourceFile} (isObserved : observation ∈ observations)
    (isImport : observation.kind = .import)
    (isImporter : corpus.files.withId? observation.fileId = some importer) :
    corpus.Allows observations observation.sourceId Term.imports
      (corpus.importObject importer observation) := by
  have ⟨inCorpus, sameId⟩ := FileList.mem_of_withId? isImporter
  rw [extracted.imported observation isObserved isImport, ← sameId]
  unfold importObject
  split
  · next imported isImported =>
    exact .importsFile inCorpus (FileList.covers_import? _ _ _ imported isImported)
      (FileList.id_ne_of_import? isImported)
  · exact .importsText inCorpus

theorem allows_inheritance {observation : Observation} {choice : Choice}
    (chosen : corpus.inheritanceChoice? observation = some choice) :
    corpus.Allows observations observation.sourceId Term.extendsType
      (.resolved choice.entity.id) := by
  have ⟨isBase, _, isTypeOrModule, differs⟩ := mem_of_inheritanceChoice? chosen
  refine .extendsType isBase ?_ differs
  simpa only [Entity.isTypeOrModule, Bool.or_eq_true, beq_iff_eq] using isTypeOrModule

theorem allows_resolveObservation (extracted : corpus.IsExtracted observations)
    {observation : Observation} (isObserved : observation ∈ observations)
    (member : edge ∈ (corpus.resolveObservation observation).edges) :
    corpus.Allows observations edge.subjectId edge.predicate edge.object := by
  obtain ⟨subject, _, cases⟩ := mem_resolveObservation member
  rw [subject]
  rcases cases with ⟨choice, isCall, chosen, predicate, object⟩ |
    ⟨importer, isImport, isImporter, predicate, object⟩ | ⟨choice, _, chosen, predicate, object⟩
  · rw [predicate, object]
    exact allows_call isObserved isCall chosen
  · rw [predicate, object]
    exact extracted.allows_import isObserved isImport isImporter
  · rw [predicate, object]
    exact allows_inheritance chosen

theorem allows_resolveTests (member : edge ∈ corpus.resolveTests.edges) :
    corpus.Allows observations edge.subjectId edge.predicate edge.object := by
  obtain ⟨test, isTest, isFunction, _, choice, chosen, rfl⟩ := mem_resolveTests member
  have ⟨isTested, _, otherIsFunction, differs⟩ := mem_of_testChoice? chosen
  exact .testsFunction isTest isTested isFunction otherIsFunction differs

/-! ### Documentation -/

theorem allows_documentationEdges (extracted : corpus.IsExtracted observations)
    (member : edge ∈ corpus.entities.documentationEdges) :
    corpus.Allows observations edge.subjectId edge.predicate edge.object := by
  obtain ⟨target, isTarget, comment, inCorpus, notComment, isComment, sameFile, sameParent, rfl⟩ :=
    EntityList.mem_documentationEdges member
  have ofComment : comment.IsOf .comment :=
    (extracted.fits comment inCorpus).isOf (beq_iff_eq.mp isComment) (by decide)
  have notKind : target.kind ≠ .comment := beq_eq_false_iff_ne.mp notComment
  -- The pass looks at kinds only, and what is no comment by kind is none by class.
  have notClass : target.className ≠ Construct.comment.name := by
    rw [← ofComment.ofClass]
    intro sameClass
    have sameKind := (extracted.fits target isTarget).kind_eq (extracted.fits comment inCorpus)
      sameClass
    exact notKind (sameKind.trans ofComment.ofKind)
  exact .documents inCorpus isTarget ofComment notKind notClass sameFile sameParent

/-! ### All edges -/

/-- Where extraction keeps its promises, every edge is one that the vocabulary allows. -/
theorem allows_edge (extracted : corpus.IsExtracted observations)
    (member : edge ∈ (corpus.resolve observations).edges) :
    corpus.Allows observations edge.subjectId edge.predicate edge.object := by
  obtain ⟨found, isFound, subject, predicate, object⟩ := EdgeSet.exists_of_mem_ofList member
  rw [subject, predicate, object]
  rcases mem_foundEdges isFound with
    containment | ⟨observation, isObserved, observed⟩ | tests | documentation
  · obtain ⟨entity, isEntity, rfl | rfl⟩ := mem_containmentEdges.mp containment
    · exact extracted.allows_declarationEdge isEntity
    · exact extracted.allows_containmentEdge isEntity
  · exact extracted.allows_resolveObservation isObserved observed
  · exact allows_resolveTests tests
  · exact extracted.allows_documentationEdges documentation

end IsExtracted

end Corpus

/-! ### Parsed files -/

namespace ParsedFile

/-- The files of a repository and the entities of those that were parsed. -/
def corpusAmong (files : FileList) (parsed : List ParsedFile) : Corpus :=
  ⟨files, parsed.flatMap entities⟩

/-- Extraction keeps its promises. -/
theorem isExtracted_corpusAmong {files : FileList} {parsed : List ParsedFile}
    (among : ∀ one ∈ parsed, one.file ∈ files)
    (clean : ∀ one ∈ parsed, HoldsNoZero one.file.relativePath)
    (free : Digest.CollisionFree (parsed.flatMap messages)) :
    (corpusAmong files parsed).IsExtracted (parsed.flatMap observations) where
  filed entity isEntity := by
    obtain ⟨one, isParsed, inFile⟩ := List.mem_flatMap.mp isEntity
    exact ⟨one.file, among one isParsed, fileId_eq inFile⟩
  fits entity isEntity := by
    obtain ⟨one, _, inFile⟩ := List.mem_flatMap.mp isEntity
    exact fitsKind (mem_candidates inFile)
  promoted entity isEntity isFunction parent isParent isType held := by
    obtain ⟨one, isParsed, inFile⟩ := List.mem_flatMap.mp isEntity
    obtain ⟨other, otherParsed, inOther⟩ := List.mem_flatMap.mp isParent
    exact isMethod_of_parentId free (messages_subset isParsed) (messages_subset otherParsed)
      (clean one isParsed) (clean other otherParsed) inFile isFunction inOther isType held
  imported observation isObservation isImport := by
    obtain ⟨one, _, inFile⟩ := List.mem_flatMap.mp isObservation
    rw [sourceId_of_import inFile isImport, fileId_of_mem_observations inFile]

/-- Every edge obeys the vocabulary. This holds for all sources and syntax trees of the files that
were parsed, as long as no path holds a zero character (no file system has such a path) and the
digest has no collision among the entities. -/
theorem allows_of_mem_resolve (files : FileList) (parsed : List ParsedFile)
    (among : ∀ one ∈ parsed, one.file ∈ files)
    (clean : ∀ one ∈ parsed, HoldsNoZero one.file.relativePath)
    (free : Digest.CollisionFree (parsed.flatMap messages)) {edge : Edge}
    (member : edge ∈ ((corpusAmong files parsed).resolve (parsed.flatMap observations)).edges) :
    (corpusAmong files parsed).Allows (parsed.flatMap observations) edge.subjectId edge.predicate
        edge.object ∧
      (edge.object.isUnresolved → edge.predicate = Term.imports) := by
  have allowed := (isExtracted_corpusAmong among clean free).allows_edge member
  refine ⟨allowed, fun unresolved => ?_⟩
  cases object : edge.object with
  | resolved id =>
    rw [object] at unresolved
    cases unresolved
  | unresolved text =>
    rw [object] at allowed
    exact allowed.predicate_eq_imports

/-- The sample has an edge from its type to the method that stands behind the type. -/
theorem allows_method_of_sample :
    ∃ edge ∈ ((corpusAmong [sample.file] [sample]).resolve ([sample].flatMap observations)).edges,
      edge.predicate = Term.hasMethod ∧
        (corpusAmong [sample.file] [sample]).Allows ([sample].flatMap observations) edge.subjectId
          edge.predicate edge.object := by
  have entities : (corpusAmong [sample.file] [sample]).entities =
      Entity.distinct (Definition.toEntities sample.file sampleSource sampleDefinitions) := by
    rw [← definitions_sample]
    exact List.append_nil _
  have ⟨method, isMethod, held⟩ : ∃ method ∈ (corpusAmong [sample.file] [sample]).entities,
      (method.containmentEdge (corpusAmong [sample.file] [sample]).entities).predicate =
        Term.hasMethod := by
    rw [entities]
    decide +kernel
  have isFound : method.containmentEdge (corpusAmong [sample.file] [sample]).entities ∈
      (corpusAmong [sample.file] [sample]).foundEdges ([sample].flatMap observations) := by
    simp only [Corpus.foundEdges, List.append_assoc]
    exact List.mem_append_left _ (Corpus.mem_containmentEdges.mpr ⟨method, isMethod, .inr rfl⟩)
  obtain ⟨evidence, isEdge⟩ := EdgeSet.exists_mem_ofList isFound
  refine ⟨_, isEdge, held, (allows_of_mem_resolve [sample.file] [sample]
    (fun one member => ?_) (fun one member => ?_) ?_ isEdge).1⟩
  · rw [List.mem_singleton.mp member]
    exact List.mem_singleton_self _
  · rw [List.mem_singleton.mp member]
    decide
  · show Digest.CollisionFree ((Definition.toEntities sample.file sampleSource
      sample.definitions).map (Entity.message "r") ++ [])
    rw [definitions_sample]
    decide +kernel

end ParsedFile

end CodeGraph
