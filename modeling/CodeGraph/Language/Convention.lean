/-
This file defines the conventions of languages: how the text of an import leads to a file, and
how the name of a test leads to the function that it tests.
-/
import CodeGraph.Text.Character
import CodeGraph.Text.Trim

namespace CodeGraph

/-- How the text of an import leads to a file. -/
inductive ImportConvention where
  /-- A path relative to the importing file, without its extension or to a directory with an
  index file. A text without a dot at its start may name something outside the repository. -/
  | relative (extensions : List String) (indexFiles bareIsExternal : Bool)
  /-- Names with dots between them; dots at the start lead upwards. -/
  | dotted
  /-- Names with dots between them that end the path of a file. -/
  | packagePath (extensions : List String) (snakeCase : Bool)
  /-- A path of modules from the root, the current module or a parent. -/
  | modulePath
  /-- The path of a directory. -/
  | directory
  /-- The path of a file below any directory. -/
  | feature (extensions : List String)
  deriving Repr, DecidableEq

/-- How the name of a test is made from the name of what it tests. -/
inductive TestConvention where
  | startsWith (mark : String)
  | endsWith (mark : String)
  deriving Repr, DecidableEq

namespace TestConvention

open Text

/-- Whether a mark ends with an ASCII letter, so that a letter in lower case behind it would
make it part of a longer word. -/
def endsWithLetter (mark : String) : Bool := mark.toList.getLast?.any Char.isAlpha

/-- A name, unless it is empty. -/
def nonEmpty? (name : List Char) : Option String :=
  if name.isEmpty then none else some (String.ofList name)

/-- The name of what a test of the given name tests, if the convention makes it a test. -/
def subject? (convention : TestConvention) (name : String) : Option String :=
  match convention with
  | startsWith mark =>
    match afterStart? mark.toList name.toList with
    | none => none
    | some rest =>
      if endsWithLetter mark && rest.head?.any isLowercase then none
      else nonEmpty? (rest.dropWhile (· == '_'))
  | endsWith mark =>
    match beforeEnd? mark.toList name.toList with
    | none => none
    | some rest => nonEmpty? (dropEndWhile (· == '_') rest)

end TestConvention

end CodeGraph
