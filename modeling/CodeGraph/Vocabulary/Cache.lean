/-
This file gives vocabularies a form on disk: a JSON object with one ascending array of names
for each of the four sets. Reading takes the arrays in any order and with repeated names.
-/
import CodeGraph.Vocabulary.Basic
import CodeGraph.Json.Parser
import CodeGraph.Json.Printer

namespace CodeGraph.Vocabulary

/-- The key under which the set of a sort is kept. -/
def cacheKey : TermKind → String
  | .classTerm => "classes"
  | .objectProperty => "object_properties"
  | .dataProperty => "data_properties"
  | .annotationProperty => "annotation_properties"

/-- The JSON form of a vocabulary. -/
def toJson (vocabulary : Vocabulary) : Json :=
  .object (TermKind.all.map fun kind =>
    (cacheKey kind, .ofStrings (vocabulary.terms kind).toList))

/-- The text of a vocabulary on disk. -/
def cacheText (vocabulary : Vocabulary) : String := vocabulary.toJson.pretty ++ "\n"

/-- The text of a string value. -/
def string? : Json → Option String
  | .string text => some text
  | _ => none

/-- The set of names of an array of strings. -/
def termSet? : Json → Option TermSet
  | .array items => (items.mapM string?).map TermSet.ofList
  | _ => none

/-- The value of the only member with the given key; none if there is no such member or more
than one. -/
def onlyMember? (key : String) (members : List (String × Json)) : Option Json :=
  match members.filter (·.1 == key) with
  | [(_, value)] => some value
  | _ => none

/-- The vocabulary of four JSON values. -/
def ofSets? (classes objectProperties dataProperties annotationProperties : Json) :
    Option Vocabulary := do
  let classes ← termSet? classes
  let objectProperties ← termSet? objectProperties
  let dataProperties ← termSet? dataProperties
  let annotationProperties ← termSet? annotationProperties
  return ⟨classes, objectProperties, dataProperties, annotationProperties⟩

/-- The vocabulary of a JSON value: an object that has each of the four keys once, or the
array of the four sets. -/
def ofJson? : Json → Option Vocabulary
  | .object members => do
    let classes ← onlyMember? (cacheKey .classTerm) members
    let objectProperties ← onlyMember? (cacheKey .objectProperty) members
    let dataProperties ← onlyMember? (cacheKey .dataProperty) members
    let annotationProperties ← onlyMember? (cacheKey .annotationProperty) members
    ofSets? classes objectProperties dataProperties annotationProperties
  | .array [classes, objectProperties, dataProperties, annotationProperties] =>
    ofSets? classes objectProperties dataProperties annotationProperties
  | _ => none

/-- Reads the text of a vocabulary on disk. -/
def ofCacheText (text : String) : Except VocabularyError Vocabulary :=
  match (Json.parse? text).bind ofJson? with
  | some vocabulary => .ok vocabulary
  | none => .error .malformed

end CodeGraph.Vocabulary

namespace CodeGraph.Ontology

/-- The ontology that a text on disk holds. -/
def ofCacheText (text : String) : Except VocabularyError Ontology := do
  ofVocabulary (← Vocabulary.ofCacheText text)

end CodeGraph.Ontology
