/-
This file defines the records that a graph is written as: a node with its class, or an edge
between two things, each with properties that hold data. It says how files, entities and edges
become records.
-/
import CodeGraph.Record.PropertyMap
import CodeGraph.Graph.SourceFile
import CodeGraph.Graph.Edge

namespace CodeGraph

/-- A record of the written graph. -/
inductive GraphRecord where
  | node (id className : String) (properties : PropertyMap)
  /-- An edge; if it is not resolved, its object is not a node but what the source says. -/
  | edge (subject predicate object : String) (resolved : Bool) (properties : PropertyMap)

namespace GraphRecord

/-- Whether a record is a node. -/
def isNode : GraphRecord → Bool
  | node .. => true
  | edge .. => false

/-- Whether a record is an edge. -/
def isEdge : GraphRecord → Bool
  | node .. => false
  | edge .. => true

/-- The class of a node, the property that an edge states. -/
def term : GraphRecord → String
  | node _ className _ => className
  | edge _ predicate _ _ _ => predicate

/-- The data of a record. -/
def properties : GraphRecord → PropertyMap
  | node _ _ properties => properties
  | edge _ _ _ _ properties => properties

/-- The identifier of a node. -/
def nodeId? : GraphRecord → Option String
  | node id _ _ => some id
  | edge .. => none

end GraphRecord

/-- The node of a file. -/
def FileRecord.toRecord (entry : FileRecord) : GraphRecord :=
  let file := entry.file
  .node file.id file.carrierClass <| .ofList <| [
    (Term.relativePath, .string file.relativePath),
    (Term.repositoryId, .string file.repositoryId),
    (Term.fileSize, .ofNat file.size),
    (Term.contentClass, .string file.contentClass),
    (Term.parseStatus, .string entry.status.name),
    (Term.label, .string file.fileName)]
    ++ (file.language.map fun language =>
      (Term.programmingLanguage, Json.string language.name)).toList

/-- The node of an entity. -/
def Entity.toRecord (entity : Entity) : GraphRecord :=
  .node entity.id entity.className <| .ofList [
    (Term.canonicalName, .string entity.canonicalName),
    (Term.simpleName, .string entity.simpleName),
    (Term.startLine, .ofNat entity.startLine),
    (Term.endLine, .ofNat entity.endLine),
    (Term.sourceSnippet, .string entity.snippet),
    (Term.relativePath, .string entity.filePath),
    (Term.label, .string entity.simpleName)]

/-- The properties that say where the evidence for an edge is. -/
def evidenceProperties : Option Span → List (String × Json)
  | some span =>
    [(Term.evidenceStartLine, .ofNat span.startLine), (Term.evidenceEndLine, .ofNat span.endLine)]
  | none => []

/-- The record of an edge. -/
def Edge.toRecord (edge : Edge) : GraphRecord :=
  match edge.object with
  | .resolved id =>
    .edge edge.subjectId edge.predicate id true (.ofList (evidenceProperties edge.evidence))
  | .unresolved text =>
    .edge edge.subjectId edge.predicate text false
      (.ofList (evidenceProperties edge.evidence ++ [(Term.rawReference, .string text)]))

end CodeGraph
