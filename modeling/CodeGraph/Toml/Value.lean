/-
This file defines the values of TOML and how records are read from them.
-/
import CodeGraph.DataFormat

namespace CodeGraph.Toml

/-- A TOML value. Numbers with a fraction and moments in time are kept as they were written. -/
inductive Value where
  | string (text : String)
  | integer (value : Int)
  | float (literal : String)
  | boolean (value : Bool)
  | moment (literal : String)
  | array (items : List Value)
  | table (members : List (String × Value))
  deriving Repr, Inhabited

namespace Value

/-- The text of a string. -/
def text? : Value → Option String
  | .string text => some text
  | _ => none

/-- The items of an array. -/
def items? : Value → Option (List Value)
  | .array items => some items
  | _ => none

/-- The value of an integer that is not negative. -/
def natural? : Value → Option Nat
  | .integer value => if 0 ≤ value then some value.toNat else none
  | _ => none

/-- The value of a boolean. -/
def boolean? : Value → Option Bool
  | .boolean value => some value
  | _ => none

/-- The named fields of a table. An array gives its items to the names in their order. -/
def fields? (names : List String) : Value → Option (List (Option Value))
  | .table members => some (names.map fun name => members.lookup name)
  | .array items => some (firstItems names.length items)
  | _ => none

end Value

/-- How records are read from TOML. -/
def format : DataFormat Value := ⟨Value.text?, Value.items?, Value.fields?⟩

end CodeGraph.Toml
