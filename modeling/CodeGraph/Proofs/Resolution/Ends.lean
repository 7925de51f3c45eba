/-
This file proves that the edges of a graph lead from nodes to nodes. What stands at the end of an
edge is a file, an entity, or the source of an observation; and it is a node as long as the
entities belong to files of the repository and the observations are about its nodes. The property
of an edge is always one of the vocabulary of edges.

Edges come from containment, from observations, from tests and from comments. Each of these takes
what it names as a target from the files and the entities of the repository, so the four cases are
proved one by one, and leaving out repeated statements changes no end.
-/
import CodeGraph.Proofs.Resolution.Containment
import CodeGraph.Proofs.Resolution.Importing

namespace CodeGraph.Corpus

variable {corpus : Corpus} {observations : List Observation} {edge : Edge}

/-- The identifiers of the files and the entities of a repository. -/
def nodeIds (corpus : Corpus) : List String :=
  corpus.files.map SourceFile.id ++ corpus.entities.map Entity.id

theorem file_mem_nodeIds {file : SourceFile} (member : file ∈ corpus.files) :
    file.id ∈ corpus.nodeIds :=
  List.mem_append_left _ (List.mem_map_of_mem member)

theorem entity_mem_nodeIds {entity : Entity} (member : entity ∈ corpus.entities) :
    entity.id ∈ corpus.nodeIds :=
  List.mem_append_right _ (List.mem_map_of_mem member)

/-- A repository without loose ends: every entity belongs to a file, and what is observed is
observed of a file or an entity. -/
structure IsGrounded (corpus : Corpus) (observations : List Observation) : Prop where
  filed : ∀ entity ∈ corpus.entities, entity.fileId ∈ corpus.nodeIds
  sourced : ∀ observation ∈ observations, observation.sourceId ∈ corpus.nodeIds

/-- The property of an edge is in the vocabulary of edges. -/
theorem predicate_mem_edgeProperties (member : edge ∈ (corpus.resolve observations).edges) :
    edge.predicate ∈ Term.edgeProperties := by
  have holding : ∀ name ∈ Term.isDeclaredIn :: Term.holdingProperties,
      name ∈ Term.edgeProperties := by decide
  have referring : ∀ name ∈ Term.referenceProperties, name ∈ Term.edgeProperties := by decide
  obtain ⟨found, isFound, _, same, _⟩ := EdgeSet.exists_of_mem_ofList member
  rw [same]
  rcases foundEdges_cases isFound with
    ⟨_, property⟩ | ⟨_, _, _, property⟩ | ⟨_, property⟩ | ⟨_, property⟩
  · exact holding _ property
  · exact referring _ property
  · rw [property]
    decide
  · rw [property]
    decide

/-- An observation leads from its source to a node, or to text. -/
theorem ends_resolveObservation {observation : Observation}
    (sourced : observation.sourceId ∈ corpus.nodeIds)
    (member : edge ∈ (corpus.resolveObservation observation).edges) :
    edge.subjectId ∈ corpus.nodeIds ∧ ∀ id ∈ edge.object.id?, id ∈ corpus.nodeIds := by
  obtain ⟨subject, _, object⟩ := mem_resolveObservation member
  refine ⟨subject ▸ sourced, fun id isId => ?_⟩
  rcases object with ⟨choice, _, chosen, _, isObject⟩ | ⟨importer, _, _, _, isObject⟩ |
    ⟨choice, _, chosen, _, isObject⟩ <;> rw [isObject] at isId
  · rw [← Option.some.inj isId]
    exact entity_mem_nodeIds (mem_of_callChoice? chosen).1
  · unfold importObject at isId
    split at isId
    · next file isImported =>
      rw [← Option.some.inj isId]
      exact file_mem_nodeIds (FileList.covers_import? _ _ _ file isImported)
    · cases isId
  · rw [← Option.some.inj isId]
    exact entity_mem_nodeIds (mem_of_inheritanceChoice? chosen).1

/-- The edges of containment lead from nodes to nodes. -/
theorem ends_containmentEdges
    (filed : ∀ entity ∈ corpus.entities, entity.fileId ∈ corpus.nodeIds)
    (member : edge ∈ corpus.entities.containmentEdges) :
    edge.subjectId ∈ corpus.nodeIds ∧ ∀ id ∈ edge.object.id?, id ∈ corpus.nodeIds := by
  obtain ⟨entity, isEntity, rfl | rfl⟩ := mem_containmentEdges.mp member
  · exact ⟨entity_mem_nodeIds isEntity, fun id isId => Option.some.inj isId ▸ filed entity isEntity⟩
  · unfold Entity.containmentEdge
    split
    · next parent isParent =>
      exact ⟨entity_mem_nodeIds (EntityList.mem_of_parent? isParent).1,
        fun id isId => Option.some.inj isId ▸ entity_mem_nodeIds isEntity⟩
    · exact ⟨filed entity isEntity,
        fun id isId => Option.some.inj isId ▸ entity_mem_nodeIds isEntity⟩

/-- Every edge of a repository without loose ends leads from a node to a node, or to text. -/
theorem ends_mem_nodeIds (grounded : corpus.IsGrounded observations)
    (member : edge ∈ (corpus.resolve observations).edges) :
    edge.subjectId ∈ corpus.nodeIds ∧ ∀ id ∈ edge.object.id?, id ∈ corpus.nodeIds := by
  obtain ⟨found, isFound, sameSubject, _, sameObject⟩ := EdgeSet.exists_of_mem_ofList member
  rw [sameSubject, sameObject]
  rcases mem_foundEdges isFound with
    containment | ⟨observation, isObservation, observed⟩ | tests | documentation
  · exact ends_containmentEdges grounded.filed containment
  · exact ends_resolveObservation (grounded.sourced observation isObservation) observed
  · obtain ⟨test, isTest, _, _, choice, chosen, rfl⟩ := mem_resolveTests tests
    exact ⟨entity_mem_nodeIds isTest, fun id isId =>
      Option.some.inj isId ▸ entity_mem_nodeIds (mem_of_testChoice? chosen).1⟩
  · obtain ⟨target, isTarget, comment, isComment, _, _, _, _, rfl⟩ :=
      EntityList.mem_documentationEdges documentation
    exact ⟨entity_mem_nodeIds isComment, fun id isId =>
      Option.some.inj isId ▸ entity_mem_nodeIds isTarget⟩

end CodeGraph.Corpus
