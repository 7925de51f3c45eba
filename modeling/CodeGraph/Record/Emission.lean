/-
This file turns a graph into the records that may be written. A record may be written when all
its terms are in the vocabulary and, for an edge, when the nodes at its ends are written too.
Each file, entity and edge gives either one record or one failure.
-/
import CodeGraph.Record.Basic
import CodeGraph.Report.Failure
import CodeGraph.Vocabulary.Basic

namespace CodeGraph

/-- Why a record may not be written. -/
inductive Rejection where
  | unknownClass (name : String)
  | unknownObjectProperty (name : String)
  | unknownProperty (name : String)
  | unknownContentClass (name : String)
  /-- The subject of an edge is not written. -/
  | noSubject (predicate subject : String)
  /-- The object of an edge is not written. -/
  | noObject (predicate object : String)
  deriving Repr, DecidableEq

/-- The reason in words. -/
def Rejection.message : Rejection → String
  | unknownClass name => s!"unknown class {name}"
  | unknownObjectProperty name => s!"unknown object property {name}"
  | unknownProperty name => s!"unknown property {name}"
  | unknownContentClass name => s!"unknown content class {name}"
  | noSubject predicate subject => s!"edge {predicate} has no subject node {subject}"
  | noObject predicate object => s!"edge {predicate} has no object node {object}"

namespace Ontology

/-- Why the class of a node or the property of an edge is not in the vocabulary. -/
def termRejection? (ontology : Ontology) : GraphRecord → Option Rejection
  | .node _ className _ =>
    if ontology.knowsClass className then none else some (.unknownClass className)
  | .edge _ predicate _ _ _ =>
    if ontology.knows .objectProperty predicate then none
    else some (.unknownObjectProperty predicate)

/-- Whether a property may hold data. -/
def knowsDataName (ontology : Ontology) (name : String) : Bool :=
  ontology.knows .dataProperty name || ontology.knows .annotationProperty name

/-- Why one of the properties that hold data is not in the vocabulary. -/
def propertyRejection? (ontology : Ontology) (entry : GraphRecord) : Option Rejection :=
  (entry.properties.names.find? (!ontology.knowsDataName ·)).map .unknownProperty

/-- Why the class of the content of a node is not in the vocabulary. -/
def contentRejection? (ontology : Ontology) : GraphRecord → Option Rejection
  | .node _ _ properties =>
    match properties.get? Term.contentClass with
    | some (.string content) =>
      if ontology.knowsClass content then none else some (.unknownContentClass content)
    | _ => none
  | .edge .. => none

/-- The first term of a record that is not in the vocabulary. -/
def rejection? (ontology : Ontology) (entry : GraphRecord) : Option Rejection :=
  (ontology.termRejection? entry).or <|
    (ontology.propertyRejection? entry).or (ontology.contentRejection? entry)

end Ontology

/-- The outcome for one item: the record, or what is wrong with it. -/
abbrev Emission := Except Failure GraphRecord

namespace Emission

/-- The outcome for a record of something in the file with the given path, if nothing else is
wrong with it. -/
def ofRecord (ontology : Ontology) (path : String) (entry : GraphRecord) : Emission :=
  match ontology.rejection? entry with
  | none => .ok entry
  | some rejection => .error ⟨path, .emit, rejection.message⟩

/-- The record of an outcome. -/
def record? : Emission → Option GraphRecord
  | .ok entry => some entry
  | .error _ => none

/-- The failure of an outcome. -/
def failure? : Emission → Option Failure
  | .ok _ => none
  | .error failure => some failure

end Emission

/-- A node that is to be written, with the path of its file. -/
structure NodeCandidate where
  id : String
  path : String
  entry : GraphRecord

/-- The candidates of a graph: its files, then its entities. -/
def nodeCandidates (files : List FileRecord) (entities : List Entity) : List NodeCandidate :=
  files.map (fun entry => ⟨entry.file.id, entry.file.relativePath, entry.toRecord⟩)
    ++ entities.map (fun entity => ⟨entity.id, entity.filePath, entity.toRecord⟩)

/-- The path of the last candidate with an identifier; without one the identifier itself. -/
def NodeCandidate.pathOf (candidates : List NodeCandidate) (id : String) : String :=
  match candidates.reverse.find? (·.id == id) with
  | some candidate => candidate.path
  | none => id

/-- Records that may be written, and what is wrong with the others. -/
structure EmissionBatch where
  records : List GraphRecord
  failures : List Failure

namespace EmissionBatch

/-- The batch of a list of outcomes. -/
def ofEmissions (emissions : List Emission) : EmissionBatch :=
  ⟨emissions.filterMap Emission.record?, emissions.filterMap Emission.failure?⟩

/-- The nodes of a batch. -/
def nodes (batch : EmissionBatch) : List GraphRecord := batch.records.filter (·.isNode)

/-- The edges of a batch. -/
def edges (batch : EmissionBatch) : List GraphRecord := batch.records.filter (·.isEdge)

end EmissionBatch

namespace Ontology

/-- The outcomes for the nodes of a graph. -/
def nodeEmissions (ontology : Ontology) (candidates : List NodeCandidate) : List Emission :=
  candidates.map fun candidate => .ofRecord ontology candidate.path candidate.entry

/-- The outcome for an edge, given the identifiers of the nodes that are written. -/
def edgeEmission (ontology : Ontology) (written : List String) (path : String) (edge : Edge) :
    Emission :=
  if !written.contains edge.subjectId then
    .error ⟨path, .emit, (Rejection.noSubject edge.predicate edge.subjectId).message⟩
  else match edge.object.id?.filter (!written.contains ·) with
    | some missing => .error ⟨path, .emit, (Rejection.noObject edge.predicate missing).message⟩
    | none => .ofRecord ontology path edge.toRecord

/-- The outcomes for a graph: for its files, then for its entities, then for its edges. -/
def emissions (ontology : Ontology) (files : List FileRecord) (entities : List Entity)
    (edges : List Edge) : List Emission :=
  let candidates := nodeCandidates files entities
  let nodes := ontology.nodeEmissions candidates
  let written := nodes.filterMap fun emission => emission.record?.bind GraphRecord.nodeId?
  nodes ++ edges.map fun edge =>
    ontology.edgeEmission written (NodeCandidate.pathOf candidates edge.subjectId) edge

/-- The batch of a graph. -/
def emit (ontology : Ontology) (files : List FileRecord) (entities : List Entity)
    (edges : List Edge) : EmissionBatch :=
  .ofEmissions (ontology.emissions files entities edges)

end Ontology

end CodeGraph
