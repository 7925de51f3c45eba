/-
This file defines ignore files. Each line is a pattern of paths below the directory of the
file; the last one that matches a path says whether the path is ignored or kept.
-/
import CodeGraph.Discovery.Glob
import CodeGraph.Text.Split
import CodeGraph.Text.Trim

namespace CodeGraph

/-- What an ignore file says of a path. -/
inductive Verdict where
  | ignored
  | kept
  deriving Repr, DecidableEq

/-- A line of an ignore file. -/
structure IgnoreRule where
  glob : Glob
  verdict : Verdict
  /-- Whether the rule is about directories only. -/
  onlyDirectories : Bool
  deriving Repr, DecidableEq

namespace IgnoreRule

open Text

/-- A line without its insignificant white space at the end; a blank behind a backslash at the
very end is significant. -/
def significant (line : List Char) : List Char :=
  if ("\\ ".toList).isSuffixOf line then line else dropEndWhile isBlank line

/-- The pattern of a line without a slash at its end, which restricts it to directories, with
the fact that there was one. A backslash before the slash is dropped too. -/
def withoutTrailingSlash (pattern : List Char) : List Char × Bool :=
  match beforeEnd? ['/'] pattern with
  | some shorter => ((beforeEnd? ['\\'] shorter).getD shorter, true)
  | none => (pattern, false)

/-- The pattern of whole paths that a pattern stands for. One without a slash may match below
any directory, and one that ends in two stars does not match the directory before them. -/
def wholePath (isAnchored : Bool) (pattern : List Char) : List Char :=
  let startsAnywhere := ("**/".toList).isPrefixOf pattern || pattern == "**".toList
  let anywhere := if isAnchored || pattern.contains '/' || startsAnywhere then pattern
    else "**/".toList ++ pattern
  if ("/**".toList).isSuffixOf anywhere then anywhere ++ "/*".toList else anywhere

/-- The pattern of a line that is not kept from its meaning by a backslash, with the fact that
it starts at the directory of the file. -/
def withoutLeadingSlash (pattern : List Char) : List Char × Bool :=
  match pattern with
  | '/' :: rest => (rest, true)
  | _ => (pattern, false)

/-- The rule of a line; none for a comment, an empty line and an unsound pattern. -/
def ofLine? (line : String) : Option IgnoreRule :=
  let text := significant line.toList
  if line.toList.head? = some '#' ∨ text.isEmpty then none
  else
    let (verdict, (pattern, isAnchored)) : Verdict × List Char × Bool := match text with
      | '\\' :: '!' :: rest => (.ignored, '!' :: rest, false)
      | '\\' :: '#' :: rest => (.ignored, '#' :: rest, false)
      | '!' :: rest => (.kept, withoutLeadingSlash rest)
      | text => (.ignored, withoutLeadingSlash text)
    let (pattern, onlyDirectories) := withoutTrailingSlash pattern
    (Glob.parse? (String.ofList (wholePath isAnchored pattern))).map fun glob =>
      ⟨glob, verdict, onlyDirectories⟩

end IgnoreRule

/-- The rules of an ignore file, in order. -/
abbrev IgnoreFile := List IgnoreRule

namespace IgnoreFile

/-- The lines of a text in bytes, without the ends of the lines. -/
def byteLines : List UInt8 → List (List UInt8)
  | [] => []
  | byte :: rest =>
    if byte = 10 then [] :: byteLines rest
    else match byteLines rest with
      | [] => [[byte]]
      | line :: lines => (byte :: line) :: lines

/-- A line without a carriage return at its end. -/
def withoutReturn (line : String) : String :=
  match line.toList.reverse with
  | '\r' :: rest => String.ofList rest.reverse
  | _ => line

/-- The lines up to the first one that is not UTF-8. -/
def readableLines (lines : List (List UInt8)) : List String :=
  match lines with
  | [] => []
  | line :: rest =>
    match Text.Utf8.decode line with
    | .ok text => withoutReturn text :: readableLines rest
    | .error _ => []

/-- The mark that may stand at the start of a text. -/
def byteOrderMark : Char := '\ufeff'

/-- The rules of a file with the given bytes. -/
def ofBytes (bytes : List UInt8) : IgnoreFile :=
  match readableLines (byteLines bytes) with
  | [] => []
  | first :: rest =>
    (String.ofList (first.toList.dropWhile (· == byteOrderMark)) :: rest).filterMap
      IgnoreRule.ofLine?

/-- What the file says of a path below its directory. -/
def verdict? (file : IgnoreFile) (path : String) (isDirectory : Bool) : Option Verdict :=
  (file.reverse.find? fun rule =>
    (isDirectory || !rule.onlyDirectories) && rule.glob.isMatch path).map IgnoreRule.verdict

end IgnoreFile

end CodeGraph
