/-
This file gives the parts of a graph a form in JSON and reads them from it. What is absent has
no field, and a reader takes an absent field and null for the same.
-/
import CodeGraph.Json.Record
import CodeGraph.Graph.SourceFile
import CodeGraph.Graph.Edge
import CodeGraph.Graph.Observation
import CodeGraph.Report.Failure

namespace CodeGraph

/-- A line number. -/
def Json.line? (value : Json) : Option Nat := value.natural? 32

namespace Span

/-- The JSON form of a span. -/
def toJson (span : Span) : Json :=
  .object [("start_line", .ofNat span.startLine), ("end_line", .ofNat span.endLine)]

/-- The span that a JSON object describes. -/
def ofJson? (value : Json) : Option Span := do
  let startLine ← value.required Json.line? "start_line"
  let endLine ← value.required Json.line? "end_line"
  return ⟨startLine, endLine⟩

end Span

namespace Entity

/-- The JSON form of an entity. -/
def toJson (entity : Entity) : Json :=
  .object <| Json.presentMembers [
    ("id", some (.string entity.id)),
    ("ontology_class", some (.string entity.className)),
    ("kind", some (.string entity.kind.name)),
    ("canonical_name", some (.string entity.canonicalName)),
    ("simple_name", some (.string entity.simpleName)),
    ("file_id", some (.string entity.fileId)),
    ("file_path", some (.string entity.filePath)),
    ("start_line", some (.ofNat entity.startLine)),
    ("end_line", some (.ofNat entity.endLine)),
    ("source_snippet", some (.string entity.snippet)),
    ("parent_id", entity.parentId.map .string)]

/-- The entity that a JSON object describes. -/
def ofJson? (value : Json) : Option Entity := do
  let id ← value.required Json.text? "id"
  let className ← value.required Json.text? "ontology_class"
  let kind ← value.required (·.text?.bind Construct.ofName?) "kind"
  let canonicalName ← value.required Json.text? "canonical_name"
  let simpleName ← value.required Json.text? "simple_name"
  let fileId ← value.required Json.text? "file_id"
  let filePath ← value.required Json.text? "file_path"
  let startLine ← value.required Json.line? "start_line"
  let endLine ← value.required Json.line? "end_line"
  let snippet ← value.required Json.text? "source_snippet"
  let parentId ← value.optional Json.text? "parent_id"
  return {
    id, className, kind, canonicalName, simpleName, fileId, filePath, startLine, endLine,
    snippet, parentId }

end Entity

namespace SourceFile

/-- The JSON form of a file. -/
def toJson (file : SourceFile) : Json :=
  .object <| Json.presentMembers [
    ("id", some (.string file.id)),
    ("repository_id", some (.string file.repositoryId)),
    ("relative_path", some (.string file.relativePath)),
    ("language", file.language.map fun language => .string language.key),
    ("size", some (.ofNat file.size)),
    ("class_carrier", some (.string file.carrierClass)),
    ("class_content", some (.string file.contentClass))]

/-- The file that a JSON object describes. -/
def ofJson? (value : Json) : Option SourceFile := do
  let id ← value.required Json.text? "id"
  let repositoryId ← value.required Json.text? "repository_id"
  let relativePath ← value.required Json.text? "relative_path"
  let language ← value.optional (·.text?.bind Language.ofKey?) "language"
  let size ← value.required (Json.natural? 64) "size"
  let carrierClass ← value.required Json.text? "class_carrier"
  let contentClass ← value.required Json.text? "class_content"
  return { id, repositoryId, relativePath, language, size, carrierClass, contentClass }

end SourceFile

/-- The status with the given name. -/
def ParseStatus.ofName? (text : String) : Option ParseStatus :=
  [parsed, parseFailed, notParsed].find? (·.name == text)

namespace FileRecord

/-- The JSON form of a file with its status. -/
def toJson (entry : FileRecord) : Json :=
  .object [("file", entry.file.toJson), ("status", .string entry.status.name)]

/-- The file with its status that a JSON object describes. -/
def ofJson? (value : Json) : Option FileRecord := do
  let file ← value.required SourceFile.ofJson? "file"
  let status ← value.required (·.text?.bind ParseStatus.ofName?) "status"
  return ⟨file, status⟩

end FileRecord

namespace Observation

/-- The JSON form of an observation. -/
def toJson (observation : Observation) : Json :=
  .object <| Json.presentMembers [
    ("kind", some (.string observation.kind.name)),
    ("source_id", some (.string observation.sourceId)),
    ("file_id", some (.string observation.fileId)),
    ("target", some (.string observation.target)),
    ("receiver", observation.receiver.map .string),
    ("member", observation.member.map .string),
    ("span", some observation.span.toJson)]

/-- The observation that a JSON object describes. -/
def ofJson? (value : Json) : Option Observation := do
  let kind ← value.required (·.text?.bind ObservationKind.ofName?) "kind"
  let sourceId ← value.required Json.text? "source_id"
  let fileId ← value.required Json.text? "file_id"
  let target ← value.required Json.text? "target"
  let receiver ← value.optional Json.text? "receiver"
  let member ← value.optional Json.text? "member"
  let span ← value.required Span.ofJson? "span"
  return { kind, sourceId, fileId, target, receiver, member, span }

end Observation

namespace EdgeObject

/-- The JSON form of an object. -/
def toJson : EdgeObject → Json
  | resolved id => .object [("resolved", .string id)]
  | unresolved text => .object [("unresolved", .string text)]

/-- The object that a JSON object with one member describes. -/
def ofJson? : Json → Option EdgeObject
  | .object [("resolved", .string id)] => some (resolved id)
  | .object [("unresolved", .string text)] => some (unresolved text)
  | _ => none

end EdgeObject

namespace Edge

/-- The JSON form of an edge. -/
def toJson (edge : Edge) : Json :=
  .object <| Json.presentMembers [
    ("subject_id", some (.string edge.subjectId)),
    ("predicate", some (.string edge.predicate)),
    ("object", some edge.object.toJson),
    ("evidence", edge.evidence.map Span.toJson)]

/-- The edge that a JSON object describes. -/
def ofJson? (value : Json) : Option Edge := do
  let subjectId ← value.required Json.text? "subject_id"
  let predicate ← value.required Json.text? "predicate"
  let object ← value.required EdgeObject.ofJson? "object"
  let evidence ← value.optional Span.ofJson? "evidence"
  return { subjectId, predicate, object, evidence }

end Edge

/-- The JSON form of an ambiguity. -/
def Ambiguity.toJson (ambiguity : Ambiguity) : Json :=
  .object [
    ("subject_id", .string ambiguity.subjectId),
    ("file_path", .string ambiguity.filePath),
    ("name", .string ambiguity.name),
    ("line", .ofNat ambiguity.line),
    ("candidates", .ofNat ambiguity.candidates),
    ("chosen", .string ambiguity.chosen)]

namespace Failure

/-- The JSON form of a failure. -/
def toJson (failure : Failure) : Json :=
  .object [
    ("path", .string failure.path),
    ("stage", .string failure.stage.name),
    ("reason", .string failure.reason)]

/-- The failure that a JSON object describes. -/
def ofJson? (value : Json) : Option Failure := do
  let path ← value.required Json.text? "path"
  let stage ← value.required (·.text?.bind Stage.ofName?) "stage"
  let reason ← value.required Json.text? "reason"
  return ⟨path, stage, reason⟩

end Failure

end CodeGraph
