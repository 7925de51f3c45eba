/-
This file writes JSON values: on one line without spaces, or over several lines with an
indentation of two spaces. Within a string only the quote, the backslash and the characters
below the space are escaped.
-/
import CodeGraph.Json.Basic
import CodeGraph.Digest.Sha256

namespace CodeGraph.Json

/-- A character as it is written within a string. -/
def escapedCharacter (character : Char) : List Char :=
  if character = '"' then ['\\', '"']
  else if character = '\\' then ['\\', '\\']
  else if character = '\x08' then ['\\', 'b']
  else if character = '\x0c' then ['\\', 'f']
  else if character = '\n' then ['\\', 'n']
  else if character = '\r' then ['\\', 'r']
  else if character = '\t' then ['\\', 't']
  else if character.toNat < 0x20 then
    ['\\', 'u', '0', '0', Digest.hexDigit (character.toNat / 16),
      Digest.hexDigit (character.toNat % 16)]
  else [character]

/-- A string between quotes. -/
def printString (text : String) : List Char :=
  '"' :: text.toList.flatMap escapedCharacter ++ ['"']

/-- A value that holds no other value. -/
def printScalar : Json → List Char
  | .null => "null".toList
  | .boolean true => "true".toList
  | .boolean false => "false".toList
  | .integer value => (toString value).toList
  | .real literal => literal.toList
  | .string value => printString value
  | .array _ | .object _ => []

mutual

/-- A value on one line without spaces. -/
def printChars : Json → List Char
  | .array items => '[' :: printItems items ++ [']']
  | .object members => '\x7b' :: printMembers members ++ ['\x7d']
  | scalar => printScalar scalar

/-- The items of an array, separated by commas. -/
def printItems : List Json → List Char
  | [] => []
  | [item] => printChars item
  | item :: next :: rest => printChars item ++ ',' :: printItems (next :: rest)

/-- The members of an object, separated by commas. -/
def printMembers : List (String × Json) → List Char
  | [] => []
  | [(key, value)] => printString key ++ ':' :: printChars value
  | (key, value) :: next :: rest =>
    printString key ++ ':' :: printChars value ++ ',' :: printMembers (next :: rest)

end

/-- A value on one line without spaces. -/
def print (value : Json) : String := String.ofList (printChars value)

/-- A new line with the given indentation. -/
def newLine (depth : Nat) : List Char := '\n' :: List.replicate (2 * depth) ' '

mutual

/-- A value over several lines; the lines inside it are indented one step deeper. -/
def prettyChars (depth : Nat) : Json → List Char
  | .array [] => ['[', ']']
  | .array items => '[' :: prettyItems (depth + 1) items ++ newLine depth ++ [']']
  | .object [] => ['\x7b', '\x7d']
  | .object members => '\x7b' :: prettyMembers (depth + 1) members ++ newLine depth ++ ['\x7d']
  | scalar => printScalar scalar

/-- The items of an array, each on its own line. -/
def prettyItems (depth : Nat) : List Json → List Char
  | [] => []
  | [item] => newLine depth ++ prettyChars depth item
  | item :: next :: rest =>
    newLine depth ++ prettyChars depth item ++ ',' :: prettyItems depth (next :: rest)

/-- The members of an object, each on its own line. -/
def prettyMembers (depth : Nat) : List (String × Json) → List Char
  | [] => []
  | [(key, value)] => newLine depth ++ printString key ++ [':', ' '] ++ prettyChars depth value
  | (key, value) :: next :: rest =>
    newLine depth ++ printString key ++ [':', ' '] ++ prettyChars depth value
      ++ ',' :: prettyMembers depth (next :: rest)

end

/-- A value over several lines. -/
def pretty (value : Json) : String := String.ofList (prettyChars 0 value)

end CodeGraph.Json
