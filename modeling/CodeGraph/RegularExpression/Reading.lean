/-
This file reads the small parts of a regular expression's text: spaces and comments where they
are allowed, numbers, flags, group names and what follows a backslash. A reader takes the state
of the text and gives what it read together with the state behind it; it fails on a text that
is no regular expression.
-/
import CodeGraph.RegularExpression.Basic
import CodeGraph.Json.Parser
import CodeGraph.Text.Trim

namespace CodeGraph.RegularExpression

open Text

/-- The flags that hold at a place of the text. -/
structure Flags where
  ignoreCase : Bool := false
  multiLine : Bool := false
  dotMatchesNewline : Bool := false
  carriageReturnLines : Bool := false
  ignoreSpace : Bool := false
  unicode : Bool := true
  deriving Repr

/-- The state of a text that is being read. -/
structure Reader where
  flags : Flags := {}
  groupNames : List (List Char) := []
  rest : List Char
  deriving Repr

namespace Reader

/-- Goes on with another rest of the text. -/
def goTo (reader : Reader) (rest : List Char) : Reader := { reader with rest }

/-- A text without the spaces and comments at its start. A comment goes from a number sign to
the end of its line; a line that is not ended by the text's bound is one step. -/
def skipSpaceChars : Nat → List Char → List Char
  | 0, text => text
  | bound + 1, text =>
    match text.dropWhile isBlank with
    | '#' :: comment => skipSpaceChars bound ((comment.dropWhile (· != '\n')).drop 1)
    | rest => rest

/-- Passes over spaces and comments if the flags say so. -/
def skipSpace (reader : Reader) : Reader :=
  if reader.flags.ignoreSpace then
    reader.goTo (skipSpaceChars (reader.rest.length + 1) reader.rest)
  else reader

/-- The reader behind the given characters, if they come next. -/
def after? (reader : Reader) (wanted : String) : Option Reader :=
  (afterStart? wanted.toList reader.rest).map reader.goTo

end Reader

/-! ### Numbers -/

/-- The largest number that a repetition may name. -/
def largestCount : Nat := 4294967295

/-- Reads a number with spaces around it. -/
def readCount (reader : Reader) : Option (Nat × Reader) :=
  let digits := reader.rest.dropWhile isBlank
  match digits.span Char.isDigit with
  | ([], _) => none
  | (found, rest) =>
    let value := Json.digitsToNat found
    if value ≤ largestCount then some (value, reader.goTo (rest.dropWhile isBlank)) else none

/-- Reads the bounds of a counted repetition behind its opening brace. -/
def readBounds (reader : Reader) : Option ((Nat × Option Nat) × Reader) := do
  let (least, reader) ← readCount reader
  match reader.rest with
  | '\x7d' :: rest => return ((least, some least), reader.goTo rest)
  | ',' :: rest =>
    let reader := (reader.goTo rest).skipSpace
    match reader.rest with
    | '\x7d' :: rest => return ((least, none), reader.goTo rest)
    | _ =>
      let (most, reader) ← readCount reader
      match reader.rest with
      | '\x7d' :: rest =>
        if least ≤ most then return ((least, some most), reader.goTo rest) else none
      | _ => none
  | _ => none

/-! ### Flags and names -/

/-- The flags with one of them set or cleared; none for a letter that names no flag. -/
def Flags.set? (flags : Flags) (letter : Char) (value : Bool) : Option Flags :=
  match letter with
  | 'i' => some { flags with ignoreCase := value }
  | 'm' => some { flags with multiLine := value }
  | 's' => some { flags with dotMatchesNewline := value }
  | 'R' => some { flags with carriageReturnLines := value }
  | 'x' => some { flags with ignoreSpace := value }
  | 'u' => some { flags with unicode := value }
  | 'U' => some flags
  | _ => none

/-- Reads flags up to a colon or a closing parenthesis, which is not read. No flag comes twice,
and a minus sign comes at most once and before a flag. -/
def readFlags (flags : Flags) (value : Bool) (seen : List Char) :
    List Char → Option (Flags × List Char)
  | [] => none
  | letter :: rest =>
    if letter = ':' ∨ letter = ')' then
      if seen.head? = some '-' then none else some (flags, letter :: rest)
    else if seen.contains letter then none
    else if letter = '-' then readFlags flags false (letter :: seen) rest
    else match flags.set? letter value with
      | some flags => readFlags flags value (letter :: seen) rest
      | none => none

/-- Whether a character may start the name of a group. -/
def startsGroupName (character : Char) : Bool := character == '_' || isAlphabetic character

/-- Whether a character may go on with the name of a group. -/
def continuesGroupName (character : Char) : Bool :=
  character == '_' || character == '.' || character == '[' || character == ']'
    || isAlphanumeric character

/-- Reads the name of a group up to its closing angle bracket; no two groups share a name. -/
def readGroupName (reader : Reader) : Option Reader :=
  match reader.rest.span (· != '>') with
  | (first :: name, _ :: rest) =>
    if startsGroupName first && name.all continuesGroupName
        && !reader.groupNames.contains (first :: name) then
      some { reader with groupNames := (first :: name) :: reader.groupNames, rest }
    else none
  | _ => none

/-! ### Escapes -/

/-- What an escape stands for. -/
inductive Escape where
  | literal (character : Char)
  | set (members : CharacterSet)
  | condition (assertion : Assertion)

/-- The characters with a meaning of their own. -/
def metaCharacters : List Char := "\\.+*?()|[]\x7b\x7d^$#&-~".toList

/-- Whether a character stands for itself behind a backslash. -/
def isEscapable (character : Char) : Bool :=
  metaCharacters.contains character
    || (isAscii character && !character.isAlphanum && character != '<' && character != '>')

/-- The characters of words under the flags. -/
def Flags.wordSet (flags : Flags) : CharacterSet :=
  if flags.unicode then .word else asciiWord

/-- A set or its complement. Without Unicode the members are bytes and stay below 0x80. -/
def Flags.checked (flags : Flags) (negated : Bool) (set : CharacterSet) : Option CharacterSet :=
  let set := if negated then .complement set else set
  if flags.unicode || set.isAsciiBytes then some set else none

/-- The set that one of the letters of the digit, space and word classes names. -/
def classOfLetter? (flags : Flags) (letter : Char) : Option CharacterSet :=
  match letter with
  | 'd' | 'D' => some (if flags.unicode then .digit else asciiDigit)
  | 's' | 'S' => some (if flags.unicode then .blank else asciiBlank)
  | 'w' | 'W' => some flags.wordSet
  | _ => none

/-- The character with the code point that hexadecimal digits write down. -/
def characterOfHex? (digits : List Char) : Option Char :=
  if digits.isEmpty || !(digits.all fun digit => (Json.hexDigit? digit).isSome) then none
  else
    let value := digits.foldl (fun value digit => value * 16 + (Json.hexDigit? digit).getD 0) 0
    if value < 0xd800 ∨ (0xe000 ≤ value ∧ value < 0x110000) then some (Char.ofNat value) else none

/-- Reads hexadecimal digits: so many, or any number of them in braces. -/
def readHex (count : Nat) (reader : Reader) : Option (Char × Reader) :=
  match reader.rest with
  | '\x7b' :: rest =>
    match rest.span (· != '\x7d') with
    | (digits, _ :: rest) => (characterOfHex? digits).map (·, reader.goTo rest)
    | (_, []) => none
  | rest =>
    if rest.length < count then none
    else (characterOfHex? (rest.take count)).map (·, reader.goTo (rest.drop count))

/-- Reads the name of a property: one letter, or a name in braces. -/
def readPropertyName (reader : Reader) : Option (List Char × Reader) :=
  match reader.rest with
  | '\x7b' :: rest =>
    match rest.span (· != '\x7d') with
    | (name, _ :: rest) => some (name, reader.goTo rest)
    | (_, []) => none
  | '\\' :: _ => none
  | letter :: rest => some ([letter], reader.goTo rest)
  | [] => none

/-- The value of a property written after its name and an equality sign or a colon, and
whether the sign negates it. -/
def propertyValue (name : List Char) : List Char × Bool :=
  match name.span (fun character => character != '=' && character != ':') with
  | (before, _ :: value) => (value, before.getLast? == some '!')
  | (name, []) => (name, false)

/-- The conditions that a name in braces after a word boundary stands for. -/
def namedBoundary? (wordSet : CharacterSet) (name : String) : Option Assertion :=
  match name with
  | "start" => some (.wordStart wordSet)
  | "end" => some (.wordEnd wordSet)
  | "start-half" => some (.noWordBefore wordSet)
  | "end-half" => some (.noWordAfter wordSet)
  | _ => none

/-- Reads the condition that follows a word boundary's letter. Braces that hold letters and
hyphens only name a special boundary, others are a repetition. -/
def readBoundary (reader : Reader) : Option (Assertion × Reader) :=
  let wordSet := reader.flags.wordSet
  match reader.rest with
  | '\x7b' :: rest =>
    match rest.span (fun character => character == '-' || character.isAlpha) with
    | ([], _) => some (.wordBoundary wordSet, reader)
    | (name, '\x7d' :: rest) =>
      (namedBoundary? wordSet (String.ofList name)).map (·, reader.goTo rest)
    | _ => none
  | _ => some (.wordBoundary wordSet, reader)

/-- Reads what follows a backslash. -/
def readEscape (reader : Reader) : Option (Escape × Reader) :=
  match reader.rest with
  | [] => none
  | letter :: rest =>
    let next := reader.goTo rest
    let flags := reader.flags
    match classOfLetter? flags letter with
    | some set => (flags.checked letter.isUpper set).map fun set => (.set set, next)
    | none =>
      if isEscapable letter then some (.literal letter, next)
      else match letter with
        | 'x' => (readHex 2 next).map fun (found, next) => (.literal found, next)
        | 'u' => (readHex 4 next).map fun (found, next) => (.literal found, next)
        | 'U' => (readHex 8 next).map fun (found, next) => (.literal found, next)
        | 'a' => some (.literal '\x07', next)
        | 'f' => some (.literal '\x0c', next)
        | 't' => some (.literal '\t', next)
        | 'n' => some (.literal '\n', next)
        | 'r' => some (.literal '\r', next)
        | 'v' => some (.literal '\x0b', next)
        | 'A' => some (.condition .textStart, next)
        | 'z' => some (.condition .textEnd, next)
        | 'B' => some (.condition (.notWordBoundary flags.wordSet), next)
        | '<' => some (.condition (.wordStart flags.wordSet), next)
        | '>' => some (.condition (.wordEnd flags.wordSet), next)
        | 'b' => (readBoundary next).map fun (condition, next) => (.condition condition, next)
        | 'p' | 'P' => do
          if !flags.unicode then none
          let (name, next) ← readPropertyName next
          let (value, negated) := propertyValue name
          let set ← propertySet? value
          let set := if flags.ignoreCase then .caseClosure set else set
          return (.set (if negated != (letter == 'P') then .complement set else set), next)
        | _ => none

end CodeGraph.RegularExpression
