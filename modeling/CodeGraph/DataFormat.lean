/-
This file says what a reader of records needs to know about the values of a data format. The
same record can then be read from documents in several formats.
-/

namespace CodeGraph

/-- How the values of a data format are looked at. -/
structure DataFormat (value : Type) where
  /-- The text that a value stands for where a text is asked for. -/
  text? : value → Option String
  /-- The items of a value where a list is asked for. -/
  items? : value → Option (List value)
  /-- The values of the named fields of a record, each absent if it is not given. -/
  fields? : List String → value → Option (List (Option value))

namespace DataFormat

variable {value : Type}

/-- A list of texts. -/
def texts? (format : DataFormat value) (list : value) : Option (List String) := do
  (← format.items? list).mapM format.text?

/-- A field with a value of its own where it is not given. -/
def optional {result : Type} (read : value → Option result) (default : result) :
    Option value → Option result
  | some given => read given
  | none => some default

end DataFormat

/-- The given number of items of a list, each absent behind the list's end. -/
def firstItems {item : Type} : Nat → List item → List (Option item)
  | 0, _ => []
  | count + 1, [] => none :: firstItems count []
  | count + 1, first :: rest => some first :: firstItems count rest

end CodeGraph
