/-
This file reads the TOML values that hold no other value: strings of the four kinds, integers
in four bases, numbers with a fraction, booleans and moments in time. A reader gives what it
read and the rest of the text.
-/
import CodeGraph.Toml.Value
import CodeGraph.Json.Parser
import CodeGraph.Text.Trim

namespace CodeGraph.Toml

open Text

/-! ### Strings -/

/-- A character that may stand in comments and strings: no control character but the tab. -/
def isPlain (character : Char) : Bool :=
  character == '\t' || (0x20 ≤ character.toNat && character.toNat != 0x7f)

/-- The character that a letter stands for after a backslash. -/
def simpleEscape? (letter : Char) : Option Char :=
  match letter with
  | 'b' => some '\x08'
  | 't' => some '\t'
  | 'n' => some '\n'
  | 'f' => some '\x0c'
  | 'r' => some '\r'
  | '"' => some '"'
  | '\\' => some '\\'
  | _ => none

/-- The character whose code point the given number of hexadecimal digits writes down. -/
def codePoint? (count : Nat) (text : List Char) : Option (Char × List Char) :=
  let digits := text.take count
  if digits.length = count && digits.all fun digit => (Json.hexDigit? digit).isSome then
    let value := digits.foldl (fun value digit => value * 16 + (Json.hexDigit? digit).getD 0) 0
    if value < 0xd800 ∨ (0xe000 ≤ value ∧ value < 0x110000) then
      some (Char.ofNat value, text.drop count)
    else none
  else none

/-- Reads what follows a backslash. -/
def readEscape (text : List Char) : Option (Char × List Char) :=
  match text with
  | 'u' :: rest => codePoint? 4 rest
  | 'U' :: rest => codePoint? 8 rest
  | letter :: rest => (simpleEscape? letter).map (·, rest)
  | [] => none

/-- Reads a string up to its closing quotation mark on the same line. -/
def readBasic (steps : Nat) (text : List Char) : Option (List Char × List Char) :=
  match steps, text with
  | 0, _ | _, [] => none
  | _, '"' :: rest => some ([], rest)
  | steps + 1, '\\' :: rest => do
    let (character, rest) ← readEscape rest
    let (found, rest) ← readBasic steps rest
    return (character :: found, rest)
  | steps + 1, character :: rest =>
    if isPlain character then
      (readBasic steps rest).map fun (found, rest) => (character :: found, rest)
    else none

/-- Reads a literal string up to its closing apostrophe on the same line. -/
def readLiteral (text : List Char) : Option (List Char × List Char) :=
  match text.span (· != '\'') with
  | (found, _ :: rest) => if found.all isPlain then some (found, rest) else none
  | (_, []) => none

/-- The rest of a text after a newline at its start. -/
def afterNewline? : List Char → Option (List Char)
  | '\n' :: rest => some rest
  | '\r' :: '\n' :: rest => some rest
  | _ => none

/-- The rest of a text without a newline at its start. -/
def dropNewline (text : List Char) : List Char := (afterNewline? text).getD text

/-- Spaces and tabs. -/
def isSpace (character : Char) : Bool := character == ' ' || character == '\t'

/-- The rest of a text after the line that a backslash ends, and after the blank space at the
start of the next line that holds something. -/
def afterLineContinuation? (text : List Char) : Option (List Char) :=
  (afterNewline? (text.dropWhile isSpace)).map fun rest =>
    rest.dropWhile fun character => isSpace character || character == '\n' || character == '\r'

/-- The closing marks at the start of a text: three, with up to two more that belong to the
string. -/
def closingMarks? (mark : Char) (text : List Char) : Option (List Char × List Char) :=
  let (marks, rest) := text.span (· == mark)
  if marks.length < 3 then none
  else
    let extra := min (marks.length - 3) 2
    some (List.replicate extra mark, marks.drop (3 + extra) ++ rest)

/-- Reads a string over several lines up to its closing quotation marks. -/
def readBasicLines (steps : Nat) (text : List Char) : Option (List Char × List Char) :=
  match steps with
  | 0 => none
  | steps + 1 =>
    match closingMarks? '"' text with
    | some closed => some closed
    | none =>
      match text with
      | [] => none
      | '\\' :: rest =>
        match afterLineContinuation? rest with
        | some rest => readBasicLines steps rest
        | none => do
          let (character, rest) ← readEscape rest
          let (found, rest) ← readBasicLines steps rest
          return (character :: found, rest)
      | character :: rest =>
        match afterNewline? text with
        | some rest => (readBasicLines steps rest).map fun (found, rest) => ('\n' :: found, rest)
        | none =>
          if isPlain character then
            (readBasicLines steps rest).map fun (found, rest) => (character :: found, rest)
          else none

/-- Reads a literal string over several lines up to its closing apostrophes. -/
def readLiteralLines (steps : Nat) (text : List Char) : Option (List Char × List Char) :=
  match steps with
  | 0 => none
  | steps + 1 =>
    match closingMarks? '\'' text with
    | some closed => some closed
    | none =>
      match text with
      | [] => none
      | character :: rest =>
        match afterNewline? text with
        | some rest =>
          (readLiteralLines steps rest).map fun (found, rest) => ('\n' :: found, rest)
        | none =>
          if isPlain character then
            (readLiteralLines steps rest).map fun (found, rest) => (character :: found, rest)
          else none

/-- Reads a string of any kind; none if the text does not start with one. -/
def readString (text : List Char) : Option (List Char × List Char) :=
  match text with
  | '"' :: '"' :: '"' :: rest => readBasicLines (rest.length + 1) (dropNewline rest)
  | '"' :: rest => readBasic (rest.length + 1) rest
  | '\'' :: '\'' :: '\'' :: rest => readLiteralLines (rest.length + 1) (dropNewline rest)
  | '\'' :: rest => readLiteral rest
  | _ => none

/-! ### Numbers and moments -/

/-- The digits of a number without the underscores between them; none if an underscore does not
stand between two digits. -/
def plainDigits? (isDigit : Char → Bool) (text : List Char) : Option (List Char) :=
  let groups := piecesAt '_' text
  if groups.all fun group => !group.isEmpty && group.all isDigit then some groups.flatten
  else none

/-- A list of characters without a sign at its start, and whether that sign is a minus. -/
def splitSign (text : List Char) : Bool × List Char :=
  match text with
  | '-' :: rest => (true, rest)
  | '+' :: rest => (false, rest)
  | rest => (false, rest)

/-- The number that digits of a base write down. -/
def valueOfDigits (base : Nat) (digits : List Char) : Nat :=
  digits.foldl (fun value digit => value * base + (Json.hexDigit? digit).getD 0) 0

/-- The digits of a whole number: a zero, or digits that do not start with one. -/
def wholeDigits? (text : List Char) : Option (List Char) := do
  let digits ← plainDigits? Char.isDigit text
  match digits with
  | ['0'] => some digits
  | '0' :: _ => none
  | _ => some digits

/-- An octal digit. -/
def isOctal (digit : Char) : Bool := '0' ≤ digit && digit ≤ '7'

/-- A binary digit. -/
def isBinary (digit : Char) : Bool := digit == '0' || digit == '1'

/-- The integer that a word writes down. Only decimal integers have a sign. -/
def integer? (word : List Char) : Option Int := do
  let value : Int ← match word with
    | '0' :: 'x' :: digits =>
      (plainDigits? (fun digit => (Json.hexDigit? digit).isSome) digits).map
        fun digits => Int.ofNat (valueOfDigits 16 digits)
    | '0' :: 'o' :: digits =>
      (plainDigits? isOctal digits).map fun digits => Int.ofNat (valueOfDigits 8 digits)
    | '0' :: 'b' :: digits =>
      (plainDigits? isBinary digits).map fun digits => Int.ofNat (valueOfDigits 2 digits)
    | word =>
      let (negative, unsigned) := splitSign word
      (wholeDigits? unsigned).map fun digits =>
        let magnitude := Int.ofNat (valueOfDigits 10 digits)
        if negative then -magnitude else magnitude
  if -9223372036854775808 ≤ value ∧ value ≤ 9223372036854775807 then some value else none

/-- Whether a word is a number with a fraction or an exponent, or infinite, or no number. -/
def isFloat (word : List Char) : Bool :=
  let (_, unsigned) := splitSign word
  if unsigned = "inf".toList || unsigned = "nan".toList then true
  else
    let (mantissa, exponent) := unsigned.span fun character => character != 'e' && character != 'E'
    let (whole, fraction) := mantissa.span (· != '.')
    let soundExponent := match exponent with
      | [] => true
      | _ :: digits => (plainDigits? Char.isDigit (splitSign digits).2).isSome
    let soundFraction := match fraction with
      | [] => true
      | _ :: digits => (plainDigits? Char.isDigit digits).isSome
    (wholeDigits? whole).isSome && soundFraction && soundExponent
      && !(fraction.isEmpty && exponent.isEmpty)

/-- The number that exactly so many digits write down. -/
def fixedDigits? (count : Nat) (digits : List Char) : Option Nat :=
  if digits.length = count && digits.all Char.isDigit then some (valueOfDigits 10 digits) else none

/-- The number of days of a month. -/
def daysOfMonth (year month : Nat) : Nat :=
  if month = 2 then
    if year % 4 = 0 ∧ (year % 100 ≠ 0 ∨ year % 400 = 0) then 29 else 28
  else if month = 4 ∨ month = 6 ∨ month = 9 ∨ month = 11 then 30
  else 31

/-- Whether a word is a date. -/
def isDate (word : List Char) : Bool :=
  match piecesAt '-' word with
  | [year, month, day] =>
    match fixedDigits? 4 year, fixedDigits? 2 month, fixedDigits? 2 day with
    | some year, some month, some day =>
      1 ≤ month && month ≤ 12 && 1 ≤ day && day ≤ daysOfMonth year month
    | _, _, _ => false
  | _ => false

/-- Whether a word is a number of two digits below a bound. -/
def isTwoDigits (bound : Nat) (word : List Char) : Bool :=
  (fixedDigits? 2 word).any (· < bound)

/-- Whether a word is a time of day. -/
def isTime (word : List Char) : Bool :=
  match piecesAt ':' word with
  | [hour, minute, second] =>
    let (whole, fraction) := second.span (· != '.')
    isTwoDigits 24 hour && isTwoDigits 60 minute && isTwoDigits 61 whole
      && (fraction.isEmpty || (1 < fraction.length && (fraction.drop 1).all Char.isDigit))
  | _ => false

/-- Whether a word is the difference of a time to universal time. -/
def isOffset (word : List Char) : Bool :=
  match word with
  | [mark] => mark == 'Z' || mark == 'z'
  | sign :: rest =>
    (sign == '+' || sign == '-') && match piecesAt ':' rest with
      | [hour, minute] => isTwoDigits 24 hour && isTwoDigits 60 minute
      | _ => false
  | [] => false

/-- Whether a word is a time of day with or without an offset. -/
def isTimeWithOffset (word : List Char) : Bool :=
  let (time, offset) := word.span fun character =>
    character.isDigit || character == ':' || character == '.'
  isTime time && (offset.isEmpty || isOffset offset)

/-- Whether a word is a date, a time of day, or both. -/
def isMoment (word : List Char) : Bool :=
  isTime word || isDate word
    || (isDate (word.take 10) && match word.drop 10 with
      | mark :: time => (mark == 'T' || mark == 't' || mark == ' ') && isTimeWithOffset time
      | [] => false)

/-- A character that numbers, booleans and moments are written with. -/
def isWordCharacter (character : Char) : Bool :=
  character.isAlphanum || character == '+' || character == '-' || character == '_'
    || character == '.' || character == ':'

/-- The value of a word. -/
def valueOfWord? (word : List Char) : Option Value :=
  if word = "true".toList then some (.boolean true)
  else if word = "false".toList then some (.boolean false)
  else match integer? word with
    | some value => some (.integer value)
    | none =>
      if isFloat word then some (.float (String.ofList word))
      else if isMoment word then some (.moment (String.ofList word))
      else none

/-- Reads the word at the start of a text. A space belongs to it between a date and a time. -/
def readWord (text : List Char) : List Char × List Char :=
  let (word, rest) := text.span isWordCharacter
  match rest with
  | ' ' :: digit :: more =>
    if isDate word && digit.isDigit then
      let (time, rest) := (digit :: more).span isWordCharacter
      (word ++ ' ' :: time, rest)
    else (word, rest)
  | _ => (word, rest)

end CodeGraph.Toml
