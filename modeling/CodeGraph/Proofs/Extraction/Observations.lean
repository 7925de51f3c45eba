/-
This file proves what observations are about. An observation names as its source the file or one of
its entities, and not a definition that was dropped: where several definitions have one identifier,
that identifier is kept with the first of them.
-/
import CodeGraph.Proofs.Extraction.Entities
import CodeGraph.Proofs.Repetitions

namespace CodeGraph

namespace Reference

variable {fileId : String} {definitions : List Definition} {ids : List String}

/-- A reference is an observation about the file or about one of the definitions. -/
theorem sourceId?_cases {reference : Reference} {sourceId : String}
    (isSource : sourceId? fileId definitions ids reference = some sourceId) :
    sourceId = fileId ∨ sourceId ∈ ids := by
  have amongIds {place : Option Nat} {id : String} (found : place.bind (ids[·]?) = some id) :
      id ∈ ids := by
    obtain ⟨index, _, isId⟩ := Option.bind_eq_some_iff.mp found
    exact List.mem_of_getElem? isId
  unfold sourceId? at isSource
  split at isSource
  · exact .inl (Option.some.inj isSource).symm
  · rw [← Option.some.inj isSource]
    cases found : (smallestEnclosing? definitions reference.anchor Construct.isContainer).bind
        (ids[·]?) with
    | none => exact .inl rfl
    | some id => exact .inr (amongIds found)
  · split at isSource
    · exact .inr (amongIds isSource)
    · exact .inr (amongIds isSource)

theorem mem_toObservations_iff {references : List Reference} {observation : Observation} :
    observation ∈ toObservations fileId definitions ids references ↔
      ∃ reference ∈ references,
        toObservation? fileId definitions ids reference = some observation := by
  rw [toObservations, mem_eraseReps_iff, mem_sortBy, List.mem_filterMap]

/-- Every observation is about the file or about one of the definitions, and it names the file. -/
theorem sourceId_of_mem_toObservations {references : List Reference} {observation : Observation}
    (member : observation ∈ toObservations fileId definitions ids references) :
    (observation.sourceId = fileId ∨ observation.sourceId ∈ ids) ∧ observation.fileId = fileId := by
  obtain ⟨reference, _, isObservation⟩ := mem_toObservations_iff.mp member
  obtain ⟨sourceId, isSource, rfl⟩ := Option.map_eq_some_iff.mp isObservation
  exact ⟨sourceId?_cases isSource, rfl⟩

end Reference

/-- What is extracted from a file observes the file or one of the entities that are kept. -/
theorem Extraction.sourceId_cases {language : Language} {file : SourceFile} {source : SourceText}
    {tree : SyntaxTree} {observation : Observation}
    (member : observation ∈ (ofTree language file source tree).observations) :
    observation.sourceId = file.id ∨
      ∃ entity ∈ (ofTree language file source tree).entities, entity.id = observation.sourceId := by
  rcases (Reference.sourceId_of_mem_toObservations member).1 with isFile | isId
  · exact .inl isFile
  · obtain ⟨candidate, isCandidate, same⟩ := List.mem_map.mp isId
    obtain ⟨kept, isKept, sameId⟩ := Entity.exists_mem_distinct isCandidate
    exact .inr ⟨kept, isKept, sameId.trans same⟩

end CodeGraph
