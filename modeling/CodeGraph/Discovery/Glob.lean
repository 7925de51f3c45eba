/-
This file reads the patterns of ignore files and matches paths against them. A pattern is
matched byte by byte: a question mark and a star stand for bytes other than the slash, and two
stars that fill a whole segment stand for any number of segments.
-/
import CodeGraph.RegularExpression.Basic
import CodeGraph.Text.Utf8

namespace CodeGraph

open CodeGraph.RegularExpression

/-- A part of a pattern. -/
inductive GlobToken where
  | literal (character : Char)
  /-- One byte other than a slash. -/
  | anyByte
  /-- Any bytes other than slashes. -/
  | anyName
  /-- Any number of segments at the start. -/
  | leadingSegments
  /-- A slash and whatever follows. -/
  | trailingSegments
  /-- A slash, and any number of segments up to a further slash. -/
  | innerSegments
  /-- One byte of some ranges of characters, or one that is in none of them. -/
  | oneOf (isNegated : Bool) (ranges : List (Char × Char))
  /-- One of several patterns. -/
  | either (alternatives : List (List GlobToken))
  deriving Repr, Inhabited

namespace GlobToken

/-! ### Meaning -/

/-- The bytes of a character. -/
def bytesOf (character : Char) : List Nat :=
  (Text.Utf8.encode (String.singleton character)).map UInt8.toNat

/-- The expression of one byte. -/
def byteExpression (byte : Nat) : Expression := .oneOf (.interval byte byte)

/-- The bytes other than the slash. -/
def nameBytes : CharacterSet := .complement (.single '/')

/-- Any byte. -/
def allBytes : CharacterSet := .complement .empty

/-- The bytes that a range of characters stands for. A character of several bytes stands for
each of them; the last byte of the first character and the first byte of the last character
bound the range. -/
def rangeBytes (range : Char × Char) : CharacterSet :=
  let single (byte : Nat) : CharacterSet := .interval byte byte
  let union (bytes : List Nat) : CharacterSet :=
    bytes.foldr (fun byte set => .union (single byte) set) .empty
  let first := bytesOf range.1
  if range.1 = range.2 then union first
  else match first.getLast?, bytesOf range.2 with
    | some low, high :: others =>
      .union (union first.dropLast) (.union (.interval low high) (union others))
    | _, _ => .empty

/-- Several expressions in sequence. -/
def inSequence (expressions : List Expression) : Expression :=
  expressions.foldr Expression.andThen .empty

/-- One of several expressions, of which those of the empty text do not count. -/
def oneOfExpressions (expressions : List Expression) : Expression :=
  match expressions.filter (· != .empty) with
  | [] => .empty
  | first :: rest => rest.foldl .alternative first

/-- Any bytes. -/
def anything : Expression := .star (.oneOf allBytes)

/-- A slash. -/
def slash : Expression := .oneOf (.single '/')

mutual

/-- The expression of a part. -/
def toExpression : GlobToken → Expression
  | .literal character => inSequence ((bytesOf character).map byteExpression)
  | .anyByte => .oneOf nameBytes
  | .anyName => .star (.oneOf nameBytes)
  | .leadingSegments =>
    .alternative (.alternative .empty slash) (.sequence anything slash)
  | .trailingSegments => .sequence slash anything
  | .innerSegments => .alternative slash (inSequence [slash, anything, slash])
  | .oneOf isNegated ranges =>
    let set := ranges.foldr (fun range set => .union (rangeBytes range) set) CharacterSet.empty
    .oneOf (if isNegated then .complement set else set)
  | .either alternatives => oneOfExpressions (alternativeExpressions alternatives)

/-- The expression of parts in sequence. -/
def sequenceExpression : List GlobToken → Expression
  | [] => .empty
  | token :: rest => Expression.andThen (toExpression token) (sequenceExpression rest)

/-- The expressions of several patterns. -/
def alternativeExpressions : List (List GlobToken) → List Expression
  | [] => []
  | tokens :: rest => sequenceExpression tokens :: alternativeExpressions rest

end

end GlobToken

/-- A pattern of paths. -/
structure Glob where
  expression : Expression
  deriving Repr, DecidableEq

namespace Glob

/-- The pattern of a sequence of parts. Segments at the start alone match everything. -/
def ofTokens (tokens : List GlobToken) : Glob :=
  let body := match tokens with
    | [.leadingSegments] => GlobToken.anything
    | tokens => GlobToken.sequenceExpression tokens
  ⟨.sequence (.assertion .textStart) (.sequence body (.assertion .textEnd))⟩

/-- Whether a path matches. -/
def isMatch (glob : Glob) (path : String) : Bool :=
  glob.expression.isMatch <|
    String.ofList ((Text.Utf8.encode path).map fun byte => Char.ofNat byte.toNat)

/-! ### Reading -/

/-- The parts of a pattern that are read so far, the last one first, within the patterns around
them. -/
structure Reading where
  current : List GlobToken
  /-- The finished patterns of the innermost choice. -/
  finished : List (List GlobToken)
  /-- The parts before each open choice, with the finished patterns of the choice around it. -/
  outer : List (List GlobToken × List (List GlobToken))
  /-- Whether a bracket was found that is not closed. All brackets behind it stand for
  themselves. -/
  hasOpenBracket : Bool

namespace Reading

/-- Adds a part. -/
def push (reading : Reading) (token : GlobToken) : Reading :=
  { reading with current := token :: reading.current }

/-- Whether a choice is open. -/
def isNested (reading : Reading) : Bool := !reading.outer.isEmpty

/-- Opens a choice. -/
def openChoice (reading : Reading) : Reading :=
  { reading with
    current := []
    finished := []
    outer := (reading.current, reading.finished) :: reading.outer }

/-- Goes on to the next pattern of a choice. -/
def nextChoice (reading : Reading) : Reading :=
  { reading with
    current := []
    finished := reading.finished ++ [reading.current.reverse] }

/-- Closes a choice, if one is open. -/
def closeChoice? (reading : Reading) : Option Reading :=
  match reading.outer with
  | [] => none
  | (before, finished) :: outer =>
    let choice := GlobToken.either (reading.finished ++ [reading.current.reverse])
    some { reading with current := choice :: before, finished, outer }

end Reading

/-- A set of characters in brackets. -/
inductive Bracket where
  | closed (token : GlobToken) (rest : List Char)
  /-- The bracket is not closed. -/
  | unclosed
  /-- A range ends before it starts. -/
  | reversed

/-- The ranges with one character more; within a range it is the end of the last one, which is
none if it comes before its start. -/
def extendRanges (inRange : Bool) (character : Char) (ranges : List (Char × Char)) :
    Option (List (Char × Char)) :=
  if inRange then
    match ranges with
    | (first, _) :: others =>
      if character < first then none else some ((first, character) :: others)
    | [] => some [(character, character)]
  else some ((character, character) :: ranges)

/-- Reads the inside of brackets; the ranges found so far stand in reverse. -/
def readBracket (isNegated isFirst inRange : Bool) (ranges : List (Char × Char)) :
    List Char → Bracket
  | [] => .unclosed
  | character :: rest =>
    if character == ']' && !isFirst then
      let ranges := if inRange then ('-', '-') :: ranges else ranges
      .closed (.oneOf isNegated ranges.reverse) rest
    else if character == '-' && !isFirst && !inRange then
      readBracket isNegated false true ranges rest
    else match extendRanges inRange character ranges with
      | some ranges => readBracket isNegated false false ranges rest
      | none => .reversed

/-- Reads a set of characters behind its opening bracket. -/
def readClass : List Char → Bracket
  | '!' :: rest | '^' :: rest => readBracket true true false [] rest
  | rest => readBracket false true false [] rest

/-- What a star stands for, given the character before it and the rest of the pattern behind
it, with the rest that is left. -/
def readStar (reading : Reading) (previous : Option Char) (rest : List Char) :
    Reading × List Char :=
  match rest with
  | '*' :: rest =>
    let plain := ((reading.push .anyName).push .anyName, rest)
    match reading.current with
    | [] =>
      match rest with
      | [] => (reading.push .leadingSegments, [])
      | '/' :: rest => (reading.push .leadingSegments, rest)
      | _ => plain
    | last :: before =>
      let replaceLast (token : GlobToken) (rest : List Char) :=
        let token := match last with
          | .leadingSegments => .leadingSegments
          | .trailingSegments => .trailingSegments
          | _ => token
        ({ reading with current := token :: before }, rest)
      let startsSegment := previous == some '/'
        || (reading.isNested && (previous == some ',' || previous == some '\x7b'))
      if !startsSegment then plain
      else match rest with
        | [] => replaceLast .trailingSegments []
        | '/' :: rest => replaceLast .innerSegments rest
        | next :: _ =>
          if reading.isNested && (next == ',' || next == '\x7d') then
            replaceLast .trailingSegments rest
          else plain
  | rest => (reading.push .anyName, rest)

/-- Reads the part that a character starts; none if the pattern is not sound. -/
def readPart (reading : Reading) (previous : Option Char) (character : Char)
    (rest : List Char) : Option (Reading × List Char) :=
  match character with
  | '?' => some (reading.push .anyByte, rest)
  | '*' => some (readStar reading previous rest)
  | '[' =>
    if reading.hasOpenBracket then some (reading.push (.literal '['), rest)
    else match readClass rest with
      | .closed token rest => some (reading.push token, rest)
      | .unclosed => some ({ reading with hasOpenBracket := true }.push (.literal '['), rest)
      | .reversed => none
  | '\x7b' => some (reading.openChoice, rest)
  | '\x7d' => reading.closeChoice?.map (·, rest)
  | ',' => some (if reading.isNested then reading.nextChoice else reading.push (.literal ','), rest)
  | '\\' =>
    match rest with
    | [] => none
    | escaped :: rest => some (reading.push (.literal escaped), rest)
  | character => some (reading.push (.literal character), rest)

/-- Reads the parts of a pattern; every part takes at least one character, so the fuel may be
the number of characters. -/
def readParts : Nat → Reading → Option Char → List Char → Option Reading
  | _, reading, _, [] => some reading
  | 0, _, _, _ :: _ => none
  | fuel + 1, reading, previous, character :: rest =>
    match readPart reading previous character rest with
    | none => none
    | some (reading, left) =>
      let taken := (character :: rest).take (rest.length + 1 - left.length)
      readParts fuel reading taken.getLast? left

/-- Reads a pattern; none if it is not sound. -/
def parse? (text : String) : Option Glob :=
  let characters := text.toList
  match readParts characters.length ⟨[], [], [], false⟩ none characters with
  | some reading =>
    if reading.isNested then none else some (ofTokens reading.current.reverse)
  | none => none

end Glob

end CodeGraph
