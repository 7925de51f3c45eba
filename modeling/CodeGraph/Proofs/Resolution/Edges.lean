/-
This file says for each pass of the resolution what its edges are.

An edge comes from an entity and its place in its file, from an observation, from a test, or from a
comment. In each case its subject, its property and its object are known from there, together with
what has led to them: that what is called can be called and has the name, that what is derived from
is a type or a module, that a test is a function and what it tests another one, that a comment and
what it documents have one file and one parent. A choice among candidates is used only through the
fact that it is one of them, so nothing here depends on how it is made. What is proved of all edges
of a graph is proved case by case from these facts (`mem_foundEdges`).
-/
import CodeGraph.Proofs.Graph.EdgeSet
import CodeGraph.Proofs.Graph.Lookup
import CodeGraph.Proofs.Resolution.Choices
import CodeGraph.Resolution.Basic

namespace CodeGraph

namespace Corpus

variable {corpus : Corpus} {observation : Observation} {edge : Edge}

/-! ### Choices -/

/-- A call means a function, a method or a class of the name that is called. -/
theorem mem_of_callChoice? {choice : Choice}
    (chosen : corpus.callChoice? observation = some choice) :
    choice.entity ∈ corpus.entities ∧ choice.entity.simpleName = observation.target ∧
      choice.entity.isCallable :=
  EntityList.mem_named.mp (EntityList.mem_of_choose chosen)

/-- A type is derived from another type, or a module, of the name that is written. -/
theorem mem_of_inheritanceChoice? {choice : Choice}
    (chosen : corpus.inheritanceChoice? observation = some choice) :
    choice.entity ∈ corpus.entities ∧ choice.entity.simpleName = observation.target ∧
      choice.entity.isTypeOrModule ∧ choice.entity.id ≠ observation.sourceId := by
  have ⟨member, different⟩ := List.mem_filter.mp (EntityList.mem_of_choose chosen)
  have ⟨inEntities, named, isOfSort⟩ := EntityList.mem_named.mp member
  exact ⟨inEntities, named, isOfSort, bne_iff_ne.mp different⟩

/-- A test tests a function of the name that is tried, but not itself. -/
theorem mem_of_testChoice? {test : Entity} {name : String} {choice : Choice}
    (chosen : corpus.testChoice? test name = some choice) :
    choice.entity ∈ corpus.entities ∧ choice.entity.simpleName = name ∧
      choice.entity.isFunction ∧ choice.entity.id ≠ test.id := by
  have ⟨member, different⟩ := List.mem_filter.mp
    (EntityList.mem_of_mem_preferring (EntityList.mem_of_choose chosen))
  have ⟨inEntities, named, isOfSort⟩ := EntityList.mem_named.mp member
  exact ⟨inEntities, named, isOfSort, bne_iff_ne.mp different⟩

/-! ### Edges of the passes -/

/-- What states containment: of each entity where it is declared and what holds it. -/
theorem mem_containmentEdges {entities : EntityList} :
    edge ∈ entities.containmentEdges ↔ ∃ entity ∈ entities,
      edge = entity.declarationEdge ∨ edge = entity.containmentEdge entities := by
  simp only [EntityList.containmentEdges, List.mem_flatMap, List.mem_cons, List.not_mem_nil,
    or_false]

/-- The edge of an observation leads from its source to what is called, imported or derived
from. -/
theorem mem_resolveObservation (member : edge ∈ (corpus.resolveObservation observation).edges) :
    edge.subjectId = observation.sourceId ∧ edge.evidence = some observation.span ∧
      ((∃ choice, observation.kind = .call ∧ corpus.callChoice? observation = some choice ∧
          edge.predicate = callProperty choice.entity ∧
          edge.object = .resolved choice.entity.id) ∨
        (∃ importer, observation.kind = .import ∧
          corpus.files.withId? observation.fileId = some importer ∧
          edge.predicate = Term.imports ∧
          edge.object = corpus.importObject importer observation) ∨
        ∃ choice, observation.kind = .inheritance ∧
          corpus.inheritanceChoice? observation = some choice ∧
          edge.predicate = Term.extendsType ∧ edge.object = .resolved choice.entity.id) := by
  unfold resolveObservation at member
  split at member
  · next isCall =>
    unfold resolveCall at member
    split at member
    · next choice chosen =>
      rw [List.mem_singleton.mp member]
      exact ⟨rfl, rfl, .inl ⟨choice, isCall, chosen, rfl, rfl⟩⟩
    · cases member
  · next isImport =>
    unfold resolveImport at member
    split at member
    · next importer isImporter =>
      rw [List.mem_singleton.mp member]
      exact ⟨rfl, rfl, .inr (.inl ⟨importer, isImport, isImporter, rfl, rfl⟩)⟩
    · cases member
  · next isInheritance =>
    unfold resolveInheritance at member
    split at member
    · next choice chosen =>
      rw [List.mem_singleton.mp member]
      exact ⟨rfl, rfl, .inr (.inr ⟨choice, isInheritance, chosen, rfl, rfl⟩)⟩
    · cases member

/-- The edge of a test leads from the test to a function. -/
theorem mem_resolveTests (member : edge ∈ corpus.resolveTests.edges) :
    ∃ test ∈ corpus.entities, test.isFunction ∧ ∃ name choice,
      corpus.testChoice? test name = some choice ∧
        edge = ⟨test.id, Term.testsFunction, .resolved choice.entity.id, some test.span⟩ := by
  obtain ⟨part, isPart, member⟩ := List.mem_flatMap.mp member
  obtain ⟨test, isTest, rfl⟩ := List.mem_map.mp isPart
  have ⟨inEntities, isFunction⟩ := List.mem_filter.mp isTest
  refine ⟨test, inEntities, isFunction, ?_⟩
  unfold resolveTest at member
  split at member
  · cases member
  · next subject _ =>
    simp only at member
    cases found : [subject, otherCase subject].findSome? fun name =>
        (corpus.testChoice? test name).map fun choice =>
          corpus.resolveTo test.id test.fileId Term.testsFunction name test.span choice with
    | none =>
      rw [found] at member
      cases member
    | some resolved =>
      rw [found] at member
      obtain ⟨name, _, isResolved⟩ := List.exists_of_findSome?_eq_some found
      obtain ⟨choice, chosen, rfl⟩ := Option.map_eq_some_iff.mp isResolved
      exact ⟨name, choice, chosen, List.mem_singleton.mp member⟩

end Corpus

namespace EntityList

variable {entities : EntityList} {edge : Edge}

/-- The siblings of an entity are found in its file. -/
theorem siblings_inFile (entities : EntityList) (entity : Entity) :
    (entities.inFile entity.fileId).siblings entity = entities.siblings entity := by
  rw [siblings, siblings, inFile, List.filter_filter]
  refine List.filter_congr fun other _ => ?_
  rw [Bool.and_comm, ← Bool.and_assoc, Bool.and_self]

/-- A comment that documents something stands in the same file and has the same parent. -/
theorem mem_of_mem_commentsAbove {siblings : List Entity} {fuel line : Nat} {comment : Entity}
    (member : comment ∈ commentsAbove siblings fuel line) :
    comment ∈ siblings ∧ comment.isComment := by
  induction fuel generalizing line with
  | zero => cases member
  | succ fuel inductionHypothesis =>
    unfold commentsAbove at member
    split at member
    · next first isFirst =>
      rcases List.mem_cons.mp member with rfl | member
      · cases line with
        | zero => cases isFirst
        | succ above =>
          have isLast := (Option.filter_eq_some_iff.mp isFirst).1
          have ⟨inSiblings, accepted⟩ := List.mem_filter.mp (List.mem_of_getLast? isLast)
          exact ⟨inSiblings, (Bool.and_eq_true_iff.mp accepted).1⟩
      · exact inductionHypothesis member
    · cases member

/-- The edge of a comment leads to something that is none, in the same file and of the same
parent. -/
theorem mem_documentationEdges (member : edge ∈ entities.documentationEdges) :
    ∃ target ∈ entities, ∃ comment ∈ entities, target.isComment = false ∧ comment.isComment ∧
      comment.fileId = target.fileId ∧ comment.parentId = target.parentId ∧
      edge = comment.documentationEdge target := by
  obtain ⟨target, isTarget, member⟩ := List.mem_flatMap.mp member
  obtain ⟨comment, isAbove, rfl⟩ := List.mem_map.mp member
  have ⟨inEntities, notComment⟩ := List.mem_filter.mp isTarget
  have ⟨isSibling, isComment⟩ := mem_of_mem_commentsAbove isAbove
  have ⟨commentInEntities, near⟩ := List.mem_filter.mp isSibling
  have ⟨sameFile, sameParent⟩ := Bool.and_eq_true_iff.mp near
  exact ⟨target, inEntities, comment, commentInEntities, by simpa using notComment, isComment,
    beq_iff_eq.mp sameFile, beq_iff_eq.mp sameParent, rfl⟩

end EntityList

namespace Corpus

variable {corpus : Corpus} {observations : List Observation} {edge : Edge}

/-- Every edge that is found comes from one of the passes. -/
theorem mem_foundEdges (member : edge ∈ corpus.foundEdges observations) :
    edge ∈ corpus.entities.containmentEdges ∨
      (∃ observation ∈ observations, edge ∈ (corpus.resolveObservation observation).edges) ∨
      edge ∈ corpus.resolveTests.edges ∨ edge ∈ corpus.entities.documentationEdges := by
  rw [foundEdges, List.mem_append, List.mem_append, List.mem_append] at member
  rcases member with ((containment | observed) | tests) | documentation
  · exact .inl containment
  · exact .inr (.inl (List.mem_flatMap.mp observed))
  · exact .inr (.inr (.inl tests))
  · exact .inr (.inr (.inr documentation))

end Corpus

end CodeGraph
