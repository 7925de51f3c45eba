/-
This file proves what evidence the edges of a graph carry.

Calls, imports and derived types give edges of properties that no other pass gives. What one
observation shows is said by a relation with a case for each sort of observation (`Corpus.Shows`),
and an edge comes from an observation exactly if it states what the observation shows, with the
span of the observation as its evidence. So an edge of such a property is there exactly if
observations resolve to it, and those that do are the ones whose edges state the same. The set of
edges keeps the least of their evidence; hence the evidence of the edge is the least of their spans
(`exists_isFirstSpan`).

That edges are there is a matter of what can be found. A call of a name that something callable has
leads to such a thing, because the choice among candidates fails only without candidates. What a
known file asks for leads somewhere, if only to what is written. Neither the order of the
observations nor the repetition of some of them changes an edge, since the edges that are found are
the same apart from that (`resolve_edges_eq_of_mem_iff`).
-/
import CodeGraph.Proofs.Resolution.Containment

namespace CodeGraph

/-- The properties of the edges that come from observations. -/
def Term.observedProperties : List String := [callsFunction, instantiates, extendsType, imports]

namespace Corpus

variable {corpus : Corpus} {observation : Observation} {observations : List Observation}
  {edge : Edge}

/-! ### Edges of one observation -/

/-- What an observation shows of its source: a property and the object of it. -/
inductive Shows (corpus : Corpus) (observation : Observation) : String → EdgeObject → Prop where
  | call {choice : Choice} (isCall : observation.kind = .call)
      (chosen : corpus.callChoice? observation = some choice) :
      Shows corpus observation (callProperty choice.entity) (.resolved choice.entity.id)
  | import {importer : SourceFile} (isImport : observation.kind = .import)
      (isImporter : corpus.files.withId? observation.fileId = some importer) :
      Shows corpus observation Term.imports (corpus.importObject importer observation)
  | inheritance {choice : Choice} (isInheritance : observation.kind = .inheritance)
      (chosen : corpus.inheritanceChoice? observation = some choice) :
      Shows corpus observation Term.extendsType (.resolved choice.entity.id)

/-- Whether an observation resolves to what an edge states. -/
def ResolvesTo (corpus : Corpus) (observation : Observation) (edge : Edge) : Prop :=
  edge.subjectId = observation.sourceId ∧ corpus.Shows observation edge.predicate edge.object

theorem Shows.mem_edges {property : String} {object : EdgeObject}
    (shown : corpus.Shows observation property object) :
    ⟨observation.sourceId, property, object, some observation.span⟩ ∈
      (corpus.resolveObservation observation).edges := by
  unfold resolveObservation
  cases shown with
  | call isCall chosen =>
    simp only [isCall, resolveCall, chosen]
    exact List.mem_singleton_self _
  | «import» isImport isImporter =>
    simp only [isImport, resolveImport, isImporter]
    exact List.mem_singleton_self _
  | inheritance isInheritance chosen =>
    simp only [isInheritance, resolveInheritance, chosen]
    exact List.mem_singleton_self _

/-- The edges of an observation state what it resolves to, with its span as the evidence. -/
theorem mem_resolveObservation_iff :
    edge ∈ (corpus.resolveObservation observation).edges ↔
      corpus.ResolvesTo observation edge ∧ edge.evidence = some observation.span := by
  constructor
  · intro member
    obtain ⟨subject, evidence, cases⟩ := mem_resolveObservation member
    refine ⟨⟨subject, ?_⟩, evidence⟩
    rcases cases with ⟨choice, isCall, chosen, predicate, object⟩ |
      ⟨importer, isImport, isImporter, predicate, object⟩ |
      ⟨choice, isInheritance, chosen, predicate, object⟩ <;> rw [predicate, object]
    · exact .call isCall chosen
    · exact .import isImport isImporter
    · exact .inheritance isInheritance chosen
  · rintro ⟨⟨subject, shown⟩, evidence⟩
    have member := shown.mem_edges
    rwa [← subject, ← evidence] at member

theorem ResolvesTo.of_states {other : Edge} (same : EdgeSet.states edge other)
    (resolves : corpus.ResolvesTo observation other) : corpus.ResolvesTo observation edge := by
  have ⟨subject, predicate, object⟩ := Edge.compare_eq_eq_iff.mp (EdgeSet.states_iff.mp same)
  rwa [ResolvesTo, subject, predicate, object]

/-! ### Edges of all observations -/

/-- The edges of an observed property come from the observations alone. -/
theorem exists_observation_of_observed (member : edge ∈ corpus.foundEdges observations)
    (isObserved : edge.predicate ∈ Term.observedProperties) :
    ∃ observation ∈ observations, corpus.ResolvesTo observation edge ∧
      edge.evidence = some observation.span := by
  have apart : (∀ name ∈ Term.isDeclaredIn :: Term.holdingProperties,
      name ∉ Term.observedProperties) ∧ Term.testsFunction ∉ Term.observedProperties ∧
        Term.documents ∉ Term.observedProperties := by decide
  rcases foundEdges_cases member with
    ⟨_, property⟩ | ⟨observation, isObservation, observed, _⟩ | ⟨_, property⟩ | ⟨_, property⟩
  · exact absurd isObserved (apart.1 _ property)
  · exact ⟨observation, isObservation, mem_resolveObservation_iff.mp observed⟩
  · exact absurd (property ▸ isObserved) apart.2.1
  · exact absurd (property ▸ isObserved) apart.2.2

theorem mem_foundEdges_of_observation (isObservation : observation ∈ observations)
    (member : edge ∈ (corpus.resolveObservation observation).edges) :
    edge ∈ corpus.foundEdges observations :=
  List.mem_append_left _ (List.mem_append_left _ (List.mem_append_right _
    (List.mem_flatMap.mpr ⟨observation, isObservation, member⟩)))

/-- The least span of the observations that resolve to an edge. -/
structure IsFirstSpan (corpus : Corpus) (observations : List Observation) (edge : Edge)
    (span : Span) : Prop where
  isGiven : ∃ observation ∈ observations, corpus.ResolvesTo observation edge ∧
    observation.span = span
  isLeast : ∀ observation ∈ observations, corpus.ResolvesTo observation edge →
    (span.compare observation.span).isLE

/-- Every edge of an observed property carries the least span of the observations that resolve to
it. -/
theorem exists_isFirstSpan (member : edge ∈ (corpus.resolve observations).edges)
    (isObserved : edge.predicate ∈ Term.observedProperties) :
    ∃ span, edge.evidence = some span ∧ corpus.IsFirstSpan observations edge span := by
  obtain ⟨⟨found, isFound, same⟩, earliest⟩ := EdgeSet.mem_ofList_iff_isEarliest.mp member
  have samePredicate : edge.predicate = found.predicate :=
    (Edge.compare_eq_eq_iff.mp (EdgeSet.states_iff.mp same)).2.1
  obtain ⟨first, isFirst, resolves, evidence⟩ :=
    exists_observation_of_observed isFound (samePredicate ▸ isObserved)
  obtain ⟨span, isSpan, _⟩ := earliest.isLeast found
    (List.mem_filter.mpr ⟨isFound, same⟩) first.span evidence
  refine ⟨span, isSpan, ?_, fun observation isObservation resolvesToo => ?_⟩
  · obtain ⟨given, isGiven, givenSpan⟩ := earliest.isGiven span isSpan
    have ⟨givenFound, givenSame⟩ := List.mem_filter.mp isGiven
    have givenPredicate : edge.predicate = given.predicate :=
      (Edge.compare_eq_eq_iff.mp (EdgeSet.states_iff.mp givenSame)).2.1
    obtain ⟨observation, isObservation, resolvesToGiven, givenEvidence⟩ :=
      exists_observation_of_observed givenFound (givenPredicate ▸ isObserved)
    exact ⟨observation, isObservation, resolvesToGiven.of_states givenSame,
      Option.some.inj (givenEvidence.symm.trans givenSpan)⟩
  · have shown := mem_foundEdges_of_observation isObservation resolvesToo.2.mem_edges
    have stated : EdgeSet.states edge
        ⟨observation.sourceId, edge.predicate, edge.object, some observation.span⟩ :=
      EdgeSet.states_iff.mpr (Edge.compare_eq_eq_iff.mpr ⟨resolvesToo.1, rfl, rfl⟩)
    obtain ⟨least, isLeast, below⟩ := earliest.isLeast _ (List.mem_filter.mpr ⟨shown, stated⟩)
      observation.span rfl
    rwa [Option.some.inj (isSpan.symm.trans isLeast)]

/-- What an observation shows has its edge in the result. -/
theorem exists_edge_of_shows (isObservation : observation ∈ observations) {property : String}
    {object : EdgeObject} (shown : corpus.Shows observation property object) :
    ∃ edge ∈ (corpus.resolve observations).edges, corpus.ResolvesTo observation edge := by
  obtain ⟨evidence, isEdge⟩ := EdgeSet.exists_mem_ofList
    (mem_foundEdges_of_observation isObservation shown.mem_edges)
  exact ⟨_, isEdge, rfl, shown⟩

/-- A call of a name that something callable has leads to such a thing. -/
theorem exists_shows_of_call (isCall : observation.kind = .call)
    (callable : ∃ entity ∈ corpus.entities, entity.simpleName = observation.target ∧
      entity.isCallable) :
    ∃ property object, corpus.Shows observation property object := by
  obtain ⟨entity, isEntity, named, isCallable⟩ := callable
  have candidate : entity ∈ corpus.entities.callables observation.target :=
    EntityList.mem_named.mpr ⟨isEntity, named, isCallable⟩
  obtain ⟨choice, chosen⟩ := EntityList.exists_choose (List.ne_nil_of_mem candidate)
  exact ⟨_, _, .call isCall chosen⟩

/-- An import in a known file leads somewhere, if only to what is written. -/
theorem exists_shows_of_import (isImport : observation.kind = .import)
    (known : ∃ file ∈ corpus.files, file.id = observation.fileId) :
    ∃ property object, corpus.Shows observation property object := by
  obtain ⟨file, isFile, same⟩ := known
  obtain ⟨importer, isImporter⟩ := FileList.exists_withId? isFile
  exact ⟨_, _, .import isImport (same ▸ isImporter)⟩

/-- The edges depend only on which observations there are. -/
theorem resolve_edges_eq_of_mem_iff {others : List Observation}
    (same : ∀ observation, observation ∈ observations ↔ observation ∈ others) :
    (corpus.resolve observations).edges = (corpus.resolve others).edges := by
  refine EdgeSet.ofList_eq_of_mem_iff fun edge => ?_
  simp only [foundEdges, List.mem_append, List.mem_flatMap, same]

/-- Edges are a set with the earliest evidence. Whatever edges are inserted one after the other, the
list that comes out ascends strictly, holds one edge for each statement, and each edge has the least
of the evidence for what it states; the order and the repetition of what is inserted do not matter.
Therefore every call, instance, derived type and import of a graph carries the least span of the
observations that resolve to it; every call of a name that something callable has and every import
of a known file has its edge; and reordering or repeating observations changes no edge. -/
theorem resolve_carries_earliest (corpus : Corpus) (observations : List Observation) :
    (∀ edges, EdgeSet.IsSetOf (EdgeSet.ofList edges) edges ∧
      ∀ others, (∀ edge, edge ∈ edges ↔ edge ∈ others) →
        EdgeSet.ofList edges = EdgeSet.ofList others) ∧
    (∀ edge ∈ (corpus.resolve observations).edges, edge.predicate ∈ Term.observedProperties →
      ∃ span, edge.evidence = some span ∧ corpus.IsFirstSpan observations edge span) ∧
    (∀ observation ∈ observations,
      (observation.kind = .call ∧ (∃ entity ∈ corpus.entities,
          entity.simpleName = observation.target ∧ entity.isCallable)) ∨
        (observation.kind = .import ∧ ∃ file ∈ corpus.files, file.id = observation.fileId) →
      ∃ edge ∈ (corpus.resolve observations).edges, corpus.ResolvesTo observation edge) ∧
    ∀ others, (∀ observation, observation ∈ observations ↔ observation ∈ others) →
      (corpus.resolve observations).edges = (corpus.resolve others).edges := by
  refine ⟨fun edges => ⟨EdgeSet.isSetOf_ofList edges, fun others same =>
    EdgeSet.ofList_eq_of_mem_iff same⟩, fun edge member isObserved =>
    exists_isFirstSpan member isObserved, fun observation isObservation shows => ?_,
    fun others same => resolve_edges_eq_of_mem_iff same⟩
  rcases shows with ⟨isCall, callable⟩ | ⟨isImport, known⟩
  · obtain ⟨_, _, shown⟩ := exists_shows_of_call isCall callable
    exact exists_edge_of_shows isObservation shown
  · obtain ⟨_, _, shown⟩ := exists_shows_of_import isImport known
    exact exists_edge_of_shows isObservation shown

end Corpus

end CodeGraph
