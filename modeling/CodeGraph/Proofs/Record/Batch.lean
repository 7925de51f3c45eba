/-
This file proves what a batch of records promises, whatever files, entities and edges it is made
of. Every record uses only terms of the vocabulary, each as the sort of term that it is; every edge
leads from a node of the batch to a node of the batch or to text; and every item of the graph gives
either one record or one failure, in the order of the items.

Whether an item gives a record should depend on the item and the batch alone: it does exactly if it
is admissible there (`GraphRecord.IsAdmissible`). `Emission.Settles` says this of one outcome. For
nodes it is a matter of their terms, since they lead nowhere. The edges are checked against the
identifiers of the nodes that were written before them, and these are all nodes of the batch, as no
edge adds one (`Ontology.nodeIds_emit`). So every outcome is right for its item with respect to the
batch that all of the outcomes make up, and the circle closes (`Ontology.settles_emissions`).

The rest is read off the list of outcomes that is paired with the list of items: the records are a
part of the items in their order and are admissible, the failures are failures of the emission, and
together they are as many as the items. A node that is rejected takes all of its edges with it, an
edge between nodes that are kept is rejected for its own terms only, and nothing is dropped without
a failure.
-/
import Mathlib.Data.List.Forall2
import CodeGraph.Proofs.Record.Emission

namespace CodeGraph

/-! ### Terms of a record -/

namespace GraphRecord

/-- Whether all terms of a record are known as the sorts of term that they are used as. -/
def IsKnown (ontology : Ontology) (entry : GraphRecord) : Prop :=
  (match entry with
    | .node _ className properties => ontology.knowsClass className ∧
      ∀ content, properties.get? Term.contentClass = some (.string content) →
        ontology.knowsClass content
    | .edge _ predicate _ _ _ => ontology.knows .objectProperty predicate) ∧
  ∀ name ∈ entry.properties.names,
    ontology.knows .dataProperty name ∨ ontology.knows .annotationProperty name

end GraphRecord

namespace Ontology

variable {ontology : Ontology}

theorem propertyRejection?_eq_none_iff {entry : GraphRecord} :
    ontology.propertyRejection? entry = none ↔ ∀ name ∈ entry.properties.names,
      ontology.knows .dataProperty name ∨ ontology.knows .annotationProperty name := by
  rw [propertyRejection?, Option.map_eq_none_iff, List.find?_eq_none]
  simp only [knowsDataName, Bool.not_eq_true', Bool.not_eq_false, Bool.or_eq_true]

theorem contentRejection?_node_eq_none_iff {id className : String} {properties : PropertyMap} :
    ontology.contentRejection? (.node id className properties) = none ↔
      ∀ content, properties.get? Term.contentClass = some (.string content) →
        ontology.knowsClass content := by
  unfold contentRejection?
  simp only
  split
  · next given found =>
    rw [found]
    split
    · next known =>
      simp only [Option.some.injEq, Json.string.injEq, forall_eq', true_iff]
      exact known
    · next unknown =>
      constructor
      · intro rejected
        cases rejected
      · intro allKnown
        exact absurd (allKnown given rfl) unknown
  · next noText =>
    constructor
    · intro _ content found
      exact absurd found (noText content)
    · intro _
      rfl

/-- A record is rejected exactly if one of its terms is not known. -/
theorem rejection?_eq_none_iff {entry : GraphRecord} :
    ontology.rejection? entry = none ↔ entry.IsKnown ontology := by
  rw [rejection?, Option.or_eq_none_iff, Option.or_eq_none_iff, propertyRejection?_eq_none_iff]
  unfold GraphRecord.IsKnown
  cases entry with
  | node id className properties =>
    rw [contentRejection?_node_eq_none_iff, termRejection?]
    simp only [ite_eq_left_iff, reduceCtorEq, imp_false, Bool.not_eq_true, Bool.not_eq_false]
    constructor
    · rintro ⟨known, names, content⟩
      exact ⟨⟨known, content⟩, names⟩
    · rintro ⟨⟨known, content⟩, names⟩
      exact ⟨known, names, content⟩
  | edge subject predicate object resolved properties =>
    rw [termRejection?]
    simp only [contentRejection?, ite_eq_left_iff, reduceCtorEq, imp_false, Bool.not_eq_true,
      Bool.not_eq_false, and_true]

end Ontology

/-! ### Ends of an edge -/

/-- The identifiers of the nodes of a batch. -/
def EmissionBatch.nodeIds (batch : EmissionBatch) : List String :=
  batch.records.filterMap GraphRecord.nodeId?

namespace GraphRecord

/-- Whether what a record leads from and to is a node of a batch. The object of an edge that is
not resolved is text. -/
def EndsIn (batch : EmissionBatch) : GraphRecord → Prop
  | .node .. => True
  | .edge subject _ object resolved _ =>
    subject ∈ batch.nodeIds ∧ (resolved → object ∈ batch.nodeIds)

/-- Whether a record may stand in a batch. -/
def IsAdmissible (ontology : Ontology) (batch : EmissionBatch) (entry : GraphRecord) : Prop :=
  entry.IsKnown ontology ∧ entry.EndsIn batch

theorem endsIn_of_node {entry : GraphRecord} (isNode : entry.isNode) (batch : EmissionBatch) :
    entry.EndsIn batch := by
  cases entry with
  | node => trivial
  | edge => cases isNode

theorem endsIn_toRecord_iff {batch : EmissionBatch} {edge : Edge} :
    edge.toRecord.EndsIn batch ↔
      edge.subjectId ∈ batch.nodeIds ∧ ∀ id ∈ edge.object.id?, id ∈ batch.nodeIds := by
  unfold Edge.toRecord
  cases edge.object with
  | resolved id => simp [EndsIn, EdgeObject.id?]
  | unresolved text => simp [EndsIn, EdgeObject.id?]

end GraphRecord

theorem Edge.nodeId?_toRecord (edge : Edge) : edge.toRecord.nodeId? = none := by
  unfold Edge.toRecord
  cases edge.object <;> rfl

/-! ### Outcomes -/

namespace Emission

/-- Whether an outcome is the right one for an item: the item's record if that is admissible, and
otherwise a failure of the emission. -/
def Settles (ontology : Ontology) (batch : EmissionBatch) (item : GraphRecord) : Emission → Prop
  | .ok entry => entry = item ∧ item.IsAdmissible ontology batch
  | .error failure => failure.stage = .emit ∧ ¬item.IsAdmissible ontology batch

variable {ontology : Ontology} {batch : EmissionBatch}

theorem settles_ofRecord {item : GraphRecord} (ends : item.EndsIn batch) (path : String) :
    Settles ontology batch item (ofRecord ontology path item) := by
  unfold ofRecord
  split
  · next accepted => exact ⟨rfl, Ontology.rejection?_eq_none_iff.mp accepted, ends⟩
  · next rejection rejected =>
    refine ⟨rfl, ?_⟩
    rintro ⟨known, _⟩
    rw [Ontology.rejection?_eq_none_iff.mpr known] at rejected
    cases rejected

/-- The outcome for an edge is the right one, given the identifiers of the nodes of the batch. -/
theorem settles_edgeEmission (path : String) (edge : Edge) :
    Settles ontology batch edge.toRecord (ontology.edgeEmission batch.nodeIds path edge) := by
  unfold Ontology.edgeEmission
  split
  · next absent =>
    refine ⟨rfl, ?_⟩
    rintro ⟨_, ends⟩
    have present := List.contains_iff_mem.mpr (GraphRecord.endsIn_toRecord_iff.mp ends).1
    rw [present] at absent
    cases absent
  · next subject =>
    rw [Bool.not_eq_true', Bool.not_eq_false, List.contains_iff_mem] at subject
    split
    · next missing isMissing =>
      have ⟨isObject, absent⟩ := Option.filter_eq_some_iff.mp isMissing
      refine ⟨rfl, ?_⟩
      rintro ⟨_, ends⟩
      have present := List.contains_iff_mem.mpr
        ((GraphRecord.endsIn_toRecord_iff.mp ends).2 missing isObject)
      rw [present] at absent
      cases absent
    · next noneMissing =>
      refine settles_ofRecord (GraphRecord.endsIn_toRecord_iff.mpr ⟨subject, ?_⟩) path
      intro id isObject
      have present := Option.filter_eq_none_iff.mp noneMissing id isObject
      rwa [Bool.not_eq_true', Bool.not_eq_false, List.contains_iff_mem] at present

theorem nodeId?_of_edgeEmission {written : List String} {path : String} {edge : Edge} :
    (ontology.edgeEmission written path edge).record?.bind GraphRecord.nodeId? = none := by
  unfold Ontology.edgeEmission
  split
  · rfl
  · split
    · rfl
    · unfold ofRecord
      split
      · exact edge.nodeId?_toRecord
      · rfl

end Emission

/-! ### Batches -/

namespace EmissionBatch

/-- The records that a graph would give if all of them were admissible. -/
def items (files : List FileRecord) (entities : List Entity) (edges : List Edge) :
    List GraphRecord :=
  files.map FileRecord.toRecord ++ entities.map Entity.toRecord ++ edges.map Edge.toRecord

theorem length_items (files : List FileRecord) (entities : List Entity) (edges : List Edge) :
    (items files entities edges).length = files.length + entities.length + edges.length := by
  simp only [items, List.length_append, List.length_map]

theorem length_ofEmissions (emissions : List Emission) :
    (ofEmissions emissions).records.length + (ofEmissions emissions).failures.length =
      emissions.length := by
  induction emissions with
  | nil => rfl
  | cons head rest inductionHypothesis =>
    cases head with
    | ok entry =>
      have kept : (ofEmissions (.ok entry :: rest)).records =
          entry :: (ofEmissions rest).records := rfl
      have failed : (ofEmissions (.ok entry :: rest)).failures = (ofEmissions rest).failures := rfl
      rw [kept, failed, List.length_cons, List.length_cons]
      omega
    | error failure =>
      have kept : (ofEmissions (.error failure :: rest)).records = (ofEmissions rest).records := rfl
      have failed : (ofEmissions (.error failure :: rest)).failures =
          failure :: (ofEmissions rest).failures := rfl
      rw [kept, failed, List.length_cons, List.length_cons]
      omega

section

variable {ontology : Ontology} {batch : EmissionBatch} {items : List GraphRecord}
  {emissions : List Emission}

/-- The records of outcomes that are right are items, in the order of the items. -/
theorem sublist_of_settles
    (settled : List.Forall₂ (Emission.Settles ontology batch) items emissions) :
    (emissions.filterMap Emission.record?).Sublist items := by
  induction settled with
  | nil => exact .slnil
  | @cons item outcome _ _ isSettled _ inductionHypothesis =>
    cases outcome with
    | ok entry =>
      obtain ⟨rfl, _⟩ := isSettled
      exact inductionHypothesis.cons_cons entry
    | error failure => exact inductionHypothesis.cons item

/-- The records of outcomes that are right are admissible. -/
theorem isAdmissible_of_settles
    (settled : List.Forall₂ (Emission.Settles ontology batch) items emissions) :
    ∀ entry ∈ emissions.filterMap Emission.record?, entry.IsAdmissible ontology batch := by
  induction settled with
  | nil => exact fun _ none => absurd none List.not_mem_nil
  | @cons item outcome _ _ isSettled _ inductionHypothesis =>
    cases outcome with
    | ok entry =>
      obtain ⟨rfl, admissible⟩ := isSettled
      exact List.forall_mem_cons.mpr ⟨admissible, inductionHypothesis⟩
    | error failure => exact inductionHypothesis

/-- The failures among outcomes that are right are failures of the emission. -/
theorem stage_of_settles
    (settled : List.Forall₂ (Emission.Settles ontology batch) items emissions) :
    ∀ failure ∈ emissions.filterMap Emission.failure?, failure.stage = .emit := by
  induction settled with
  | nil => exact fun _ none => absurd none List.not_mem_nil
  | @cons item outcome _ _ isSettled _ inductionHypothesis =>
    cases outcome with
    | ok entry => exact inductionHypothesis
    | error failure => exact List.forall_mem_cons.mpr ⟨isSettled.1, inductionHypothesis⟩

end

end EmissionBatch

namespace Ontology

variable (ontology : Ontology) (files : List FileRecord) (entities : List Entity)
  (edges : List Edge)

/-- The identifiers that the edges are checked against are those of the nodes of the batch. -/
theorem nodeIds_emit : (ontology.emit files entities edges).nodeIds =
    (ontology.nodeEmissions (nodeCandidates files entities)).filterMap
      fun emission => emission.record?.bind GraphRecord.nodeId? := by
  have noNode (written : List String) (paths : Edge → String) :
      (edges.map fun edge => ontology.edgeEmission written (paths edge) edge).filterMap
        (fun emission => emission.record?.bind GraphRecord.nodeId?) = [] := by
    refine List.filterMap_eq_nil_iff.mpr fun emission member => ?_
    obtain ⟨edge, _, rfl⟩ := List.mem_map.mp member
    exact Emission.nodeId?_of_edgeEmission
  rw [EmissionBatch.nodeIds, emit, EmissionBatch.ofEmissions, List.filterMap_filterMap, emissions,
    List.filterMap_append, noNode, List.append_nil]

/-- Every item of a graph has the outcome that is right for it. -/
theorem settles_emissions : List.Forall₂
    (Emission.Settles ontology (ontology.emit files entities edges))
    (EmissionBatch.items files entities edges) (ontology.emissions files entities edges) := by
  -- A node leads nowhere, so that its own terms decide; an edge needs the nodes of the batch.
  have nodes : List.Forall₂ (Emission.Settles ontology (ontology.emit files entities edges))
      ((nodeCandidates files entities).map NodeCandidate.entry)
      (ontology.nodeEmissions (nodeCandidates files entities)) := by
    rw [nodeEmissions, List.forall₂_map_left_iff, List.forall₂_map_right_iff, List.forall₂_same]
    intro candidate member
    have isNode : candidate.entry.isNode := by
      rcases List.mem_append.mp member with isFile | isEntity
      · obtain ⟨entry, _, rfl⟩ := List.mem_map.mp isFile
        rfl
      · obtain ⟨entity, _, rfl⟩ := List.mem_map.mp isEntity
        rfl
    exact Emission.settles_ofRecord (GraphRecord.endsIn_of_node isNode _) candidate.path
  have candidates : (nodeCandidates files entities).map NodeCandidate.entry =
      files.map FileRecord.toRecord ++ entities.map Entity.toRecord := by
    rw [nodeCandidates, List.map_append, List.map_map, List.map_map]
    rfl
  rw [candidates] at nodes
  refine List.rel_append nodes ?_
  rw [List.forall₂_map_left_iff, List.forall₂_map_right_iff, List.forall₂_same]
  intro edge _
  rw [← nodeIds_emit ontology files entities edges]
  exact Emission.settles_edgeEmission _ edge

theorem stage_of_mem_failures_emit {failure : Failure}
    (member : failure ∈ (ontology.emit files entities edges).failures) : failure.stage = .emit :=
  EmissionBatch.stage_of_settles (ontology.settles_emissions files entities edges) failure member

/-- Every item gives a record or a failure. -/
theorem length_emit : (ontology.emit files entities edges).records.length +
    (ontology.emit files entities edges).failures.length =
      files.length + entities.length + edges.length := by
  rw [emit, EmissionBatch.length_ofEmissions,
    ← (ontology.settles_emissions files entities edges).length_eq, EmissionBatch.length_items]

/-- Nothing unknown, dangling or lost is emitted, whatever the graph is: every record is admissible
in the batch; each item gives its record if that is admissible and one failure of the emission
otherwise; the records stand in the order of the items; and there are as many records and failures
as there are items. -/
theorem emit_settles_items :
    (∀ entry ∈ (ontology.emit files entities edges).records,
        entry.IsAdmissible ontology (ontology.emit files entities edges)) ∧
      (∃ outcomes, ontology.emit files entities edges = .ofEmissions outcomes ∧
        List.Forall₂ (Emission.Settles ontology (ontology.emit files entities edges))
          (EmissionBatch.items files entities edges) outcomes) ∧
      (ontology.emit files entities edges).records.Sublist
        (EmissionBatch.items files entities edges) ∧
      (ontology.emit files entities edges).records.length +
          (ontology.emit files entities edges).failures.length =
        files.length + entities.length + edges.length := by
  have settled := ontology.settles_emissions files entities edges
  exact ⟨EmissionBatch.isAdmissible_of_settles settled, ⟨_, rfl, settled⟩,
    EmissionBatch.sublist_of_settles settled, ontology.length_emit files entities edges⟩

end Ontology

end CodeGraph
