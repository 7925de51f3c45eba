/-
This file asks what a character is: blank, a control character, a letter, a number, in upper
or lower case, part of a word. It also maps characters to upper and lower case and lists the
characters that differ from a given one in case only. The answers are those of the Unicode
standard; the ASCII characters are answered without a table.
-/
import CodeGraph.Text.Unicode.Property
import CodeGraph.Text.Unicode.CaseMapping

namespace CodeGraph.Text

open Unicode

/-- White space, in the sense of the property White_Space. -/
def isBlank (character : Char) : Bool :=
  Property.whiteSpace.contains character.toNat

/-- A control character: U+0000 to U+001F and U+007F to U+009F. -/
def isControl (character : Char) : Bool :=
  character.toNat < 0x20 || (0x7f ≤ character.toNat && character.toNat < 0xa0)

/-- An ASCII character. -/
def isAscii (character : Char) : Bool := character.toNat < 0x80

/-- A letter, in the sense of the property Alphabetic. -/
def isAlphabetic (character : Char) : Bool :=
  if isAscii character then character.isAlpha else Property.alphabetic.contains character.toNat

/-- A number of any kind. -/
def isNumeric (character : Char) : Bool :=
  if isAscii character then character.isDigit else Property.numeric.contains character.toNat

/-- A letter or a number. -/
def isAlphanumeric (character : Char) : Bool := isAlphabetic character || isNumeric character

/-- A character in lower case. -/
def isLowercase (character : Char) : Bool :=
  if isAscii character then character.isLower else Property.lowercase.contains character.toNat

/-- A character in upper case. -/
def isUppercase (character : Char) : Bool :=
  if isAscii character then character.isUpper else Property.uppercase.contains character.toNat

/-- A decimal digit of any script. -/
def isDecimalDigit (character : Char) : Bool :=
  if isAscii character then character.isDigit
  else Category.decimalNumber.contains character.toNat

/-- A character of a word: a letter, a mark, a decimal digit, a connector or a join control. -/
def isWord (character : Char) : Bool :=
  if isAscii character then character.isAlphanum || character == '_'
  else Property.word.contains character.toNat

/-- A character that extends the one before it. -/
def isGraphemeExtend (character : Char) : Bool :=
  !isAscii character && Property.graphemeExtend.contains character.toNat

/-- A character with a glyph: assigned, and neither a control, a format character, private,
nor a separator other than the space. -/
def isPrintable (character : Char) : Bool :=
  if isAscii character then !isControl character
  else Category.assigned.contains character.toNat
    && !(RangeTable.union [Category.control, Category.format, Category.privateUse,
      Category.lineSeparator, Category.paragraphSeparator,
      Category.spaceSeparator]).contains character.toNat

/-- The characters that a character becomes in lower case. -/
def toLowercase (character : Char) : List Char :=
  if isAscii character then [character.toLower]
  else (CaseMapping.lowercase.apply character.toNat).map Char.ofNat

/-- The characters that a character becomes in upper case. -/
def toUppercase (character : Char) : List Char :=
  if isAscii character then [character.toUpper]
  else (CaseMapping.uppercase.apply character.toNat).map Char.ofNat

/-- An ASCII character whose case variants are ASCII characters too: every one but the two
letters that the Kelvin sign and the long s fold to. -/
def hasAsciiVariants (character : Char) : Bool :=
  isAscii character && character.toLower != 'k' && character.toLower != 's'

/-- The characters that agree with the given one up to case, itself included. -/
def caseVariants (character : Char) : List Char :=
  if hasAsciiVariants character then [character, character.toLower, character.toUpper]
  else character :: (CaseMapping.foldClass character.toNat).map Char.ofNat

/-- A text in lower case, character by character. -/
def lowercase (text : String) : String :=
  String.ofList (text.toList.flatMap toLowercase)

/-- A text with its ASCII letters in lower case. -/
def asciiLowercase (text : String) : String :=
  String.ofList (text.toList.map Char.toLower)

end CodeGraph.Text
