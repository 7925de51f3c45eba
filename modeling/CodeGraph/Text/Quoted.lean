/-
This file writes a text between double quotes, for use inside a message. Quotes, backslashes
and the usual control characters are escaped by a backslash, all other characters without a
glyph of their own by their code point in braces.
-/
import CodeGraph.Text.Character

namespace CodeGraph.Text

/-- A number in lower-case hexadecimal digits. -/
def hexadecimal (number : Nat) : List Char := Nat.toDigits 16 number

/-- A code point in braces after a backslash and a `u`. -/
def escapedCodePoint (character : Char) : List Char :=
  ['\\', 'u', '\x7b'] ++ hexadecimal character.toNat ++ ['\x7d']

/-- A character as it is written between quotes. -/
def quotedCharacter (character : Char) : List Char :=
  if character = '\x00' then ['\\', '0']
  else if character = '\t' then ['\\', 't']
  else if character = '\r' then ['\\', 'r']
  else if character = '\n' then ['\\', 'n']
  else if character = '"' then ['\\', '"']
  else if character = '\\' then ['\\', '\\']
  else if isGraphemeExtend character || !isPrintable character then escapedCodePoint character
  else [character]

/-- A text between double quotes. -/
def quoted (text : String) : String :=
  String.ofList ('"' :: text.toList.flatMap quotedCharacter ++ ['"'])

end CodeGraph.Text
