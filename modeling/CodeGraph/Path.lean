/-
This file holds the operations on paths. A path is a text whose segments are separated by
slashes. Normalizing a path drops the segments that say nothing; collapsing it also follows
the segments that lead back to the parent directory and fails when they leave the repository.
-/
import CodeGraph.Text.Split
import CodeGraph.Text.Trim

namespace CodeGraph.Path

open Text

/-- A segment that names something: neither empty nor a single dot. -/
def isMeaningful (segment : List Char) : Bool := !segment.isEmpty && segment != ['.']

/-- The meaningful segments of a path in which slashes and backslashes separate. -/
def segments (path : String) : List (List Char) :=
  (piecesWhere (fun character => character == '/' || character == '\\') path.toList).filter
    isMeaningful

/-- The path in its normal spelling: its meaningful segments, separated by single slashes. -/
def normalize (path : String) : String := String.ofList (joinPieces '/' (segments path))

/-- The last segment of a path; empty if the path ends in a slash. -/
def fileName (path : String) : String :=
  match splitLast? '/' path.toList with
  | some (_, name) => String.ofList name
  | none => path

/-- The path up to its last slash; empty if it has none. -/
def directory (path : String) : String :=
  match splitLast? '/' path.toList with
  | some (directory, _) => String.ofList directory
  | none => ""

/-- What follows the last dot of the last meaningful segment. There is no extension if that
segment has no dot, starts with its only dot, or leads to the parent directory. -/
def extension? (path : String) : Option String :=
  match ((piecesAt '/' path.toList).filter isMeaningful).getLast? with
  | none => none
  | some name =>
    if name = ['.', '.'] then none
    else match splitLast? '.' name with
      | some (before, after) => if before.isEmpty then none else some (String.ofList after)
      | none => none

/-- A file name up to its first dot; a name that starts with a dot is its own stem. -/
def stem (name : String) : String :=
  match splitFirst? ['.'] name.toList with
  | some (before, _) => if before.isEmpty then name else String.ofList before
  | none => name

/-- A path below a directory; the empty directory and the single dot add nothing. -/
def join (directory rest : String) : String :=
  if directory = "" ∨ directory = "." then rest
  else if rest = "" then directory
  else directory ++ "/" ++ rest

/-- The directory above a directory; the root, written as the empty path, has none. -/
def parent? (directory : String) : Option String :=
  if directory = "" then none else some (Path.directory directory)

/-- A directory and those above it, as many as the fuel allows. -/
def upwards : Nat → String → List String
  | 0, _ => []
  | fuel + 1, directory =>
    directory :: match parent? directory with
      | some above => upwards fuel above
      | none => []

/-- A directory and all those above it, from the inside out. -/
def selfAndAbove (directory : String) : List String := upwards (directory.length + 1) directory

/-- The directory the given number of levels above a directory. -/
def above? : Nat → String → Option String
  | 0, directory => some directory
  | levels + 1, directory => (parent? directory).bind (above? levels)

/-- Whether a path is the given one or lies below some directory at the given one. -/
def hasEnding (ending path : String) : Bool :=
  path == ending || ('/' :: ending.toList).isSuffixOf path.toList

/-- Adds one segment to the segments collapsed so far, the last one first. -/
def collapseSegment (collapsed : Option (List (List Char))) (segment : List Char) :
    Option (List (List Char)) :=
  match collapsed with
  | none => none
  | some done =>
    if segment = ['.', '.'] then
      match done with
      | [] => none
      | _ :: above => some above
    else if isMeaningful segment then some (segment :: done)
    else some done

/-- The path without dot segments; none if it leads above the root on its way. -/
def collapse? (path : String) : Option String :=
  ((piecesAt '/' path.toList).foldl collapseSegment (some [])).map fun done =>
    String.ofList (joinPieces '/' done.reverse)

/-- The dotted name of the module that a file holds: the path without the extension of its
last segment, with dots between the segments. -/
def moduleName (path : String) : String :=
  let withoutExtension := match splitLast? '.' path.toList with
    | some (before, after) =>
      if before.isEmpty || after.contains '/' then path.toList else before
    | none => path.toList
  String.ofList (joinPieces '.' ((piecesAt '/' withoutExtension).filter (!·.isEmpty)))

end CodeGraph.Path
