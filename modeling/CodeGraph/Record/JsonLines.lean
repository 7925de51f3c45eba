/-
This file writes records as lines of JSON and reads them again. The field that says which sort
of record it is comes first; an edge without properties has no field for them.
-/
import CodeGraph.Record.Basic
import CodeGraph.Json.Printer
import CodeGraph.Json.Parser

namespace CodeGraph.GraphRecord

/-- The JSON form of a record. -/
def toJson : GraphRecord → Json
  | node id className properties =>
    .object [("record", .string "node"), ("id", .string id), ("class", .string className),
      ("properties", properties.toJson)]
  | edge subject predicate object resolved properties =>
    .object <| [("record", .string "edge"), ("subject", .string subject),
      ("predicate", .string predicate), ("object", .string object),
      ("resolved", .boolean resolved)]
      ++ if properties.isEmpty then [] else [("properties", properties.toJson)]

/-- The node that a JSON object describes. -/
def nodeOfJson? (value : Json) : Option GraphRecord := do
  let id ← value.required Json.text? "id"
  let className ← value.required Json.text? "class"
  let properties ← value.required PropertyMap.ofJson? "properties"
  return node id className properties

/-- The edge that a JSON object describes. -/
def edgeOfJson? (value : Json) : Option GraphRecord := do
  let subject ← value.required Json.text? "subject"
  let predicate ← value.required Json.text? "predicate"
  let object ← value.required Json.text? "object"
  let resolved ← value.required Json.boolean? "resolved"
  let properties ← match value.member? "properties" with
    | some given => PropertyMap.ofJson? given
    | none => some .empty
  return edge subject predicate object resolved properties

/-- The record that a JSON object describes. -/
def ofJson? (value : Json) : Option GraphRecord := do
  let sort ← value.required Json.text? "record"
  if sort = "node" then nodeOfJson? value
  else if sort = "edge" then edgeOfJson? value
  else none

/-- A record as one line, without the end of the line. -/
def toJsonLine (entry : GraphRecord) : String := entry.toJson.print

/-- The record that a line holds. -/
def ofJsonLine? (line : String) : Option GraphRecord := (Json.parse? line).bind ofJson?

/-- A text with one line for each record. -/
def toJsonLines (records : List GraphRecord) : String :=
  String.join (records.map fun entry => entry.toJsonLine ++ "\n")

end CodeGraph.GraphRecord
