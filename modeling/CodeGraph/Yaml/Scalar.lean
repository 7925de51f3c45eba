/-
This file reads the scalars of YAML: plain ones and those between quotes, on one line or
several. Line breaks within a scalar are folded: one break becomes a space, and of several
breaks all but the first are kept. A reader keeps track of the column.
-/
import CodeGraph.Yaml.Value
import CodeGraph.Json.Parser

namespace CodeGraph.Yaml

/-- A place in a text: its column and what follows. -/
structure Place where
  column : Nat
  rest : List Char

namespace Place

/-- The place behind so many characters of the same line. -/
def advance (place : Place) (count : Nat) : Place :=
  ⟨place.column + count, place.rest.drop count⟩

/-- The place behind the spaces and tabs of a line. -/
def skipSpaces (place : Place) : Place :=
  place.advance (place.rest.takeWhile fun character => character == ' ' || character == '\t').length

/-- The rest of a text behind the line break at its start. -/
def afterBreak? : List Char → Option (List Char)
  | '\r' :: '\n' :: rest => some rest
  | '\n' :: rest => some rest
  | '\r' :: rest => some rest
  | _ => none

/-- Whether the line ends here. -/
def atLineEnd (place : Place) : Bool :=
  place.rest.isEmpty || (afterBreak? place.rest).isSome

/-- The place where the line ends. -/
def toLineEnd (place : Place) : Place :=
  place.advance
    (place.rest.takeWhile fun character => character != '\n' && character != '\r').length

end Place

/-- Whether a character is a space, a tab, a line break, or absent. -/
def isSeparator (next : Option Char) : Bool :=
  match next with
  | none => true
  | some character =>
    character == ' ' || character == '\t' || character == '\n' || character == '\r'

/-- Whether a text starts with a marker that ends a document. -/
def isDocumentMarker (text : List Char) : Bool :=
  ("---".toList.isPrefixOf text || "...".toList.isPrefixOf text) && isSeparator text[3]?

/-- Passes over line breaks and blank lines within a scalar: the number of breaks and the place
of the next character that is no space. -/
def skipBreaks (steps : Nat) (place : Place) : Nat × Place :=
  match steps with
  | 0 => (0, place)
  | steps + 1 =>
    match Place.afterBreak? place.skipSpaces.rest with
    | some rest =>
      let (breaks, place) := skipBreaks steps ⟨0, rest⟩
      (breaks + 1, place)
    | none => (0, place.skipSpaces)

/-- What so many line breaks within a scalar become. -/
def foldedBreaks (breaks : Nat) : List Char :=
  if breaks = 1 then [' '] else List.replicate (breaks - 1) '\n'

/-! ### Quoted scalars -/

/-- The character that a letter stands for after a backslash. -/
def simpleEscape? (letter : Char) : Option Char :=
  match letter with
  | '0' => some '\x00'
  | 'a' => some '\x07'
  | 'b' => some '\x08'
  | 't' | '\t' => some '\t'
  | 'n' => some '\n'
  | 'v' => some '\x0b'
  | 'f' => some '\x0c'
  | 'r' => some '\r'
  | 'e' => some '\x1b'
  | ' ' => some ' '
  | '"' => some '"'
  | '/' => some '/'
  | '\\' => some '\\'
  | 'N' => some '\u0085'
  | '_' => some '\u00a0'
  | 'L' => some '\u2028'
  | 'P' => some '\u2029'
  | _ => none

/-- The number of hexadecimal digits behind the letter of an escape by code point. -/
def codePointDigits? (letter : Char) : Option Nat :=
  match letter with
  | 'x' => some 2
  | 'u' => some 4
  | 'U' => some 8
  | _ => none

/-- Reads what follows a backslash. -/
def readEscape (place : Place) : Option (Char × Place) :=
  match place.rest with
  | [] => none
  | letter :: rest =>
    match codePointDigits? letter with
    | none => (simpleEscape? letter).map (·, place.advance 1)
    | some count =>
      let digits := rest.take count
      if digits.length = count && digits.all fun digit => (Json.hexDigit? digit).isSome then
        let value :=
          digits.foldl (fun value digit => value * 16 + (Json.hexDigit? digit).getD 0) 0
        if value < 0xd800 ∨ (0xe000 ≤ value ∧ value < 0x110000) then
          some (Char.ofNat value, place.advance (count + 1))
        else none
      else none

/-- Reads a scalar between quotation marks, behind the opening one. -/
def readDouble (steps : Nat) (place : Place) : Option (List Char × Place) :=
  match steps with
  | 0 => none
  | steps + 1 =>
    let (breaks, after) := skipBreaks (place.rest.length + 1) place
    if 0 < breaks then
      if after.column = 0 && isDocumentMarker after.rest then none
      else (readDouble steps after).map fun (found, place) => (foldedBreaks breaks ++ found, place)
    else match place.rest with
      | [] => none
      | '"' :: _ => some ([], place.advance 1)
      | '\\' :: rest =>
        if (Place.afterBreak? rest).isSome then
          let (breaks, after) := skipBreaks (rest.length + 1) (place.advance 1)
          (readDouble steps after).map fun (found, place) =>
            (List.replicate (breaks - 1) '\n' ++ found, place)
        else do
          let (character, place) ← readEscape (place.advance 1)
          let (found, place) ← readDouble steps place
          return (character :: found, place)
      | character :: _ =>
        (readDouble steps (place.advance 1)).map fun (found, place) => (character :: found, place)

/-- Reads a scalar between apostrophes, behind the opening one. -/
def readSingle (steps : Nat) (place : Place) : Option (List Char × Place) :=
  match steps with
  | 0 => none
  | steps + 1 =>
    let (breaks, after) := skipBreaks (place.rest.length + 1) place
    if 0 < breaks then
      if after.column = 0 && isDocumentMarker after.rest then none
      else (readSingle steps after).map fun (found, place) => (foldedBreaks breaks ++ found, place)
    else match place.rest with
      | [] => none
      | '\'' :: '\'' :: _ =>
        (readSingle steps (place.advance 2)).map fun (found, place) => ('\'' :: found, place)
      | '\'' :: _ => some ([], place.advance 1)
      | character :: _ =>
        (readSingle steps (place.advance 1)).map fun (found, place) => (character :: found, place)

/-- Reads a scalar between quotes. -/
def readQuoted (place : Place) : Option (String × Place) :=
  let found := match place.rest with
    | '"' :: rest => readDouble (rest.length + 1) (place.advance 1)
    | '\'' :: rest => readSingle (rest.length + 1) (place.advance 1)
    | _ => none
  found.map fun (text, place) => (String.ofList text, place)

/-! ### Plain scalars -/

/-- The characters that delimit collections in the flow style. -/
def isFlowIndicator (character : Char) : Bool :=
  character == ',' || character == '[' || character == ']' || character == '\x7b'
    || character == '\x7d'

/-- Whether a plain scalar may start here. -/
def startsPlain (inFlow : Bool) (text : List Char) : Bool :=
  match text with
  | [] => false
  | first :: rest =>
    if first == '-' || first == '?' || first == ':' then
      !isSeparator rest.head? && !(inFlow && rest.head?.any isFlowIndicator)
    else !(isSeparator (some first) || isFlowIndicator first
      || "#&*!|>'\"%@\x60".toList.contains first)

/-- Whether a plain scalar ends before the given text. -/
def endsPlain (inFlow : Bool) (text : List Char) : Bool :=
  match text with
  | [] => true
  | ':' :: rest => isSeparator rest.head? || (inFlow && rest.head?.any isFlowIndicator)
  | first :: _ => isSeparator (some first) || (inFlow && isFlowIndicator first)

/-- The number of characters of a plain scalar that stand on its first line; spaces belong to
it only before more of it. The spaces passed since its last character are counted. -/
def plainLength (inFlow : Bool) (spaces : Nat) : List Char → Nat
  | [] => 0
  | character :: rest =>
    if character == ' ' || character == '\t' then plainLength inFlow (spaces + 1) rest
    else if endsPlain inFlow (character :: rest) || (character == '#' && 0 < spaces) then 0
    else spaces + 1 + plainLength inFlow 0 rest

/-- Reads a plain scalar. It goes on on the next line if that is indented to the given column at
least and does not start a comment or end the document. -/
def readPlain (steps : Nat) (inFlow : Bool) (least : Nat) (place : Place) : List Char × Place :=
  match steps with
  | 0 => ([], place)
  | steps + 1 =>
    let length := plainLength inFlow 0 place.rest
    let line := place.rest.take length
    let place := place.advance length
    let (breaks, after) := skipBreaks (place.rest.length + 1) place
    if 0 < breaks && least ≤ after.column && !endsPlain inFlow after.rest
        && after.rest.head? != some '#'
        && !(after.column == 0 && isDocumentMarker after.rest) then
      let (more, place) := readPlain steps inFlow least after
      (line ++ foldedBreaks breaks ++ more, place)
    else (line, place)

end CodeGraph.Yaml
