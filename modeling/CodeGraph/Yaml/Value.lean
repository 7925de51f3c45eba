/-
This file defines the values of YAML and how records are read from them. Every scalar stands
for its own text, and an empty scalar without quotes stands for an empty list or record too.
-/
import CodeGraph.DataFormat

namespace CodeGraph.Yaml

/-- A YAML value. -/
inductive Value where
  /-- A scalar, and whether it was written between quotes. -/
  | scalar (text : String) (quoted : Bool)
  | sequence (items : List Value)
  | mapping (entries : List (String × Value))
  deriving Repr, Inhabited

namespace Value

/-- The value of something that is not written at all. -/
def absent : Value := .scalar "" false

/-- The text of a scalar. -/
def text? : Value → Option String
  | .scalar text _ => some text
  | _ => none

/-- The items of a sequence. -/
def items? : Value → Option (List Value)
  | .sequence items => some items
  | .scalar "" false => some []
  | _ => none

/-- The value of the entry with a key; none if the key comes twice. -/
def valueAt? (entries : List (String × Value)) (key : String) : Option (Option Value) :=
  match entries.filter (·.1 == key) with
  | [] => some none
  | [(_, value)] => some (some value)
  | _ => none

/-- The named fields of a mapping, none of which comes twice. A sequence gives its items to the
names in their order and has no more items than there are names. -/
def fields? (names : List String) : Value → Option (List (Option Value))
  | .mapping entries => names.mapM (valueAt? entries)
  | .sequence items =>
    if items.length ≤ names.length then some (firstItems names.length items) else none
  | .scalar "" false => some (names.map fun _ => none)
  | .scalar _ _ => none

end Value

/-- How records are read from YAML. -/
def format : DataFormat Value := ⟨Value.text?, Value.items?, Value.fields?⟩

end CodeGraph.Yaml
