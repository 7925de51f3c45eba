/-
This file defines the values of JSON. The members of an object stand in the order in which
they were written, and a key may come twice; a reader of objects decides what that means.
-/

namespace CodeGraph

/-- A JSON value. A number that is no integer is kept as it was written. -/
inductive Json where
  | null
  | boolean (value : Bool)
  | integer (value : Int)
  | real (literal : String)
  | string (value : String)
  | array (items : List Json)
  | object (members : List (String × Json))
  deriving Repr, Inhabited, BEq

namespace Json

/-- A natural number as a JSON value. -/
def ofNat (value : Nat) : Json := .integer value

/-- A text, or null when there is none. -/
def ofOption : Option String → Json
  | some value => .string value
  | none => .null

/-- An array of texts. -/
def ofStrings (items : List String) : Json := .array (items.map .string)

/-- The members whose value is present. -/
def presentMembers (members : List (String × Option Json)) : List (String × Json) :=
  members.filterMap fun (key, value) => value.map (key, ·)

end Json

end CodeGraph
