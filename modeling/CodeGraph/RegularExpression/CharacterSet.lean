/-
This file defines the sets of characters that a regular expression names: intervals of code
points, the classes of Unicode, and what set operations and the neglect of case make of them.
Membership is decided by the structure of the description.
-/
import CodeGraph.Text.Character
import CodeGraph.Text.Unicode.RangeTable

namespace CodeGraph.RegularExpression

open Text

/-- A description of a set of code points. -/
inductive CharacterSet where
  /-- No character. -/
  | empty
  /-- The code points from the first to the last one. -/
  | interval (first last : Nat)
  /-- The code points of a table. -/
  | table (ranges : Unicode.RangeTable)
  /-- The characters of words. -/
  | word
  /-- The decimal digits. -/
  | digit
  /-- White space. -/
  | blank
  | union (left right : CharacterSet)
  | intersection (left right : CharacterSet)
  | complement (set : CharacterSet)
  /-- The set with all characters that differ from a member in case only. -/
  | caseClosure (set : CharacterSet)
  /-- The set with all ASCII letters that differ from a member in case only. -/
  | asciiCaseClosure (set : CharacterSet)
  deriving Repr, DecidableEq

namespace CharacterSet

/-- The set of one character. -/
def single (character : Char) : CharacterSet := .interval character.toNat character.toNat

/-- The set of the given characters. -/
def ofList (characters : List Char) : CharacterSet :=
  characters.foldr (fun character set => .union (single character) set) .empty

/-- The members of the first set that are not in the second. -/
def difference (left right : CharacterSet) : CharacterSet :=
  .intersection left (.complement right)

/-- The members of exactly one of two sets. -/
def symmetricDifference (left right : CharacterSet) : CharacterSet :=
  .union (difference left right) (difference right left)

/-- Whether a code point is in a set. -/
def contains (codePoint : Nat) : CharacterSet → Bool
  | .empty => false
  | .interval first last => first ≤ codePoint && codePoint ≤ last
  | .table ranges => ranges.contains codePoint
  | .word => isWord (Char.ofNat codePoint)
  | .digit => isDecimalDigit (Char.ofNat codePoint)
  | .blank => isBlank (Char.ofNat codePoint)
  | .union left right => contains codePoint left || contains codePoint right
  | .intersection left right => contains codePoint left && contains codePoint right
  | .complement set => !contains codePoint set
  | .caseClosure set =>
    contains codePoint set
      || (caseVariants (Char.ofNat codePoint)).any fun variant => contains variant.toNat set
  | .asciiCaseClosure set =>
    contains codePoint set
      || (codePoint < 0x80 && (contains (Char.ofNat codePoint).toLower.toNat set
        || contains (Char.ofNat codePoint).toUpper.toNat set))

/-- Whether a set has no members among the code points 0x80 to 0xff. As a set of bytes it then
never matches a part of a longer encoding. -/
def isAsciiBytes (set : CharacterSet) : Bool :=
  (List.range 0x80).all fun offset => !set.contains (0x80 + offset)

end CharacterSet

/-! ### The named classes -/

/-- The interval between two ASCII characters. -/
def asciiInterval (first last : Char) : CharacterSet := .interval first.toNat last.toNat

/-- The union of a list of sets. -/
def unionOf (sets : List CharacterSet) : CharacterSet := sets.foldr .union .empty

/-- The ASCII letters in lower case. -/
def asciiLower : CharacterSet := asciiInterval 'a' 'z'

/-- The ASCII letters in upper case. -/
def asciiUpper : CharacterSet := asciiInterval 'A' 'Z'

/-- The ASCII digits. -/
def asciiDigit : CharacterSet := asciiInterval '0' '9'

/-- The ASCII letters. -/
def asciiLetter : CharacterSet := .union asciiUpper asciiLower

/-- The ASCII characters of words. -/
def asciiWord : CharacterSet := unionOf [asciiDigit, asciiLetter, .single '_']

/-- The ASCII white space, the vertical tab included. -/
def asciiBlank : CharacterSet := .union (.interval 0x09 0x0d) (.single ' ')

/-- The class of ASCII characters with the given name between colons. -/
def asciiClass? (name : String) : Option CharacterSet :=
  match name with
  | "alnum" => some (.union asciiDigit asciiLetter)
  | "alpha" => some asciiLetter
  | "ascii" => some (.interval 0 0x7f)
  | "blank" => some (.ofList ['\t', ' '])
  | "cntrl" => some (.union (.interval 0 0x1f) (.interval 0x7f 0x7f))
  | "digit" => some asciiDigit
  | "graph" => some (asciiInterval '!' '~')
  | "lower" => some asciiLower
  | "print" => some (asciiInterval ' ' '~')
  | "punct" => some (unionOf [asciiInterval '!' '/', asciiInterval ':' '@',
      asciiInterval '[' '\x60', asciiInterval '\x7b' '~'])
  | "space" => some asciiBlank
  | "upper" => some asciiUpper
  | "word" => some asciiWord
  | "xdigit" => some (unionOf [asciiDigit, asciiInterval 'A' 'F', asciiInterval 'a' 'f'])
  | _ => none

/-- A property name without its case and without spaces, hyphens and underscores. -/
def plainPropertyName (name : List Char) : String :=
  String.ofList ((name.filter fun character =>
    character != ' ' && character != '-' && character != '_').map Char.toLower)

/-- The long names of the general categories, each with its short name. -/
def categoryNames : List (String × String) := [
  ("letter", "L"), ("casedletter", "LC"), ("uppercaseletter", "Lu"), ("lowercaseletter", "Ll"),
  ("titlecaseletter", "Lt"), ("modifierletter", "Lm"), ("otherletter", "Lo"), ("mark", "M"),
  ("combiningmark", "M"), ("nonspacingmark", "Mn"), ("spacingmark", "Mc"),
  ("enclosingmark", "Me"), ("number", "N"), ("decimalnumber", "Nd"), ("digit", "Nd"),
  ("letternumber", "Nl"), ("othernumber", "No"), ("punctuation", "P"), ("punct", "P"),
  ("connectorpunctuation", "Pc"), ("dashpunctuation", "Pd"), ("openpunctuation", "Ps"),
  ("closepunctuation", "Pe"), ("initialpunctuation", "Pi"), ("finalpunctuation", "Pf"),
  ("otherpunctuation", "Po"), ("symbol", "S"), ("mathsymbol", "Sm"), ("currencysymbol", "Sc"),
  ("modifiersymbol", "Sk"), ("othersymbol", "So"), ("separator", "Z"), ("spaceseparator", "Zs"),
  ("lineseparator", "Zl"), ("paragraphseparator", "Zp"), ("control", "Cc"), ("cntrl", "Cc"),
  ("format", "Cf"), ("privateuse", "Co")]

/-- The set of a category with the given short name in any case. -/
def categorySet? (name : String) : Option CharacterSet :=
  match name.toList with
  | first :: rest =>
    (Unicode.Category.find? (String.ofList (first.toUpper :: rest))).map .table
  | [] => none

/-- The set of characters with a property of the Unicode standard. -/
def propertySet? (name : List Char) : Option CharacterSet :=
  let plain := plainPropertyName name
  match plain with
  | "any" => some (.interval 0 0x10ffff)
  | "ascii" => some (.interval 0 0x7f)
  | "assigned" => some (.table Unicode.Category.assigned)
  | "lc" | "casedletter" => some (unionOf ((["lu", "ll", "lt"].filterMap categorySet?)))
  | "alphabetic" | "alpha" => some (.table Unicode.Property.alphabetic)
  | "lowercase" | "lower" => some (.table Unicode.Property.lowercase)
  | "uppercase" | "upper" => some (.table Unicode.Property.uppercase)
  | "whitespace" | "wspace" | "space" => some .blank
  | _ =>
    match categoryNames.lookup plain with
    | some short => categorySet? short
    | none => categorySet? plain

end CodeGraph.RegularExpression
