/-
This file reads records from JSON objects, field by field. A field that is required must be
there and have the right type; one that is optional may also be absent or null. Members that no
field asks for do not count.
-/
import CodeGraph.Json.Basic

namespace CodeGraph.Json

/-! ### Values -/

/-- The text of a string. -/
def text? : Json → Option String
  | .string text => some text
  | _ => none

/-- A truth value. -/
def boolean? : Json → Option Bool
  | .boolean value => some value
  | _ => none

/-- A natural number that fits into the given number of bits. -/
def natural? (bits : Nat) : Json → Option Nat
  | .integer value => if 0 ≤ value ∧ value.toNat < Nat.pow 2 bits then some value.toNat else none
  | _ => none

/-- The items of an array. -/
def items? : Json → Option (List Json)
  | .array items => some items
  | _ => none

/-- A list of values that can be read. -/
def listOf? {item : Type} (read : Json → Option item) (value : Json) : Option (List item) :=
  value.items?.bind (·.mapM read)

/-- The members of an object. -/
def members? : Json → Option (List (String × Json))
  | .object members => some members
  | _ => none

/-! ### Fields -/

/-- The value of the last member with the given key. -/
def member? (key : String) (record : Json) : Option Json :=
  record.members?.bind fun members => members.reverse.lookup key

/-- A field that has to be there. -/
def required {field : Type} (read : Json → Option field) (key : String) (record : Json) :
    Option field :=
  (record.member? key).bind read

/-- A field that may be absent or null. -/
def optional {field : Type} (read : Json → Option field) (key : String) (record : Json) :
    Option (Option field) :=
  match record.member? key with
  | none | some .null => some none
  | some given => (read given).map some

/-! ### Values with ordered members -/

/-- Puts a member at its place among the ascending members of an object; it takes the place of
a member with the same key. -/
def insertMember (key : String) (value : Json) : List (String × Json) → List (String × Json)
  | [] => [(key, value)]
  | head :: rest =>
    if key < head.1 then (key, value) :: head :: rest
    else if key = head.1 then (key, value) :: rest
    else head :: insertMember key value rest

mutual

/-- The value with the members of every object in ascending order of their keys, of each key
the last one. -/
def ordered : Json → Json
  | .array items => .array (orderedItems items)
  | .object members => .object (orderedMembers members [])
  | scalar => scalar

/-- The items with ordered members. -/
def orderedItems : List Json → List Json
  | [] => []
  | item :: rest => ordered item :: orderedItems rest

/-- Puts members to the ascending ones that are there already. -/
def orderedMembers : List (String × Json) → List (String × Json) → List (String × Json)
  | [], done => done
  | (key, value) :: rest, done => orderedMembers rest (insertMember key (ordered value) done)

end

end CodeGraph.Json
