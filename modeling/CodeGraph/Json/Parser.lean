/-
This file reads JSON texts. Reading is strict: the text holds one value and nothing after it
but white space, strings hold no bare control characters, and escaped surrogates come in
pairs.
-/
import CodeGraph.Json.Basic

namespace CodeGraph.Json

/-- The white space of JSON. -/
def isSpace (character : Char) : Bool :=
  character == ' ' || character == '\n' || character == '\r' || character == '\t'

/-- The rest of a text after its white space. -/
def skipSpace (text : List Char) : List Char := text.dropWhile isSpace

/-- The value of a hexadecimal digit. -/
def hexDigit? (digit : Char) : Option Nat :=
  if '0' ≤ digit ∧ digit ≤ '9' then some (digit.toNat - '0'.toNat)
  else if 'a' ≤ digit ∧ digit ≤ 'f' then some (digit.toNat - 'a'.toNat + 10)
  else if 'A' ≤ digit ∧ digit ≤ 'F' then some (digit.toNat - 'A'.toNat + 10)
  else none

/-- The number that four hexadecimal digits write down. -/
def hexFour? (d0 d1 d2 d3 : Char) : Option Nat := do
  let v0 ← hexDigit? d0
  let v1 ← hexDigit? d1
  let v2 ← hexDigit? d2
  let v3 ← hexDigit? d3
  return ((v0 * 16 + v1) * 16 + v2) * 16 + v3

/-- The character that a letter stands for after a backslash. -/
def simpleEscape? (letter : Char) : Option Char :=
  if letter = '"' then some '"'
  else if letter = '\\' then some '\\'
  else if letter = '/' then some '/'
  else if letter = 'b' then some '\x08'
  else if letter = 'f' then some '\x0c'
  else if letter = 'n' then some '\n'
  else if letter = 'r' then some '\r'
  else if letter = 't' then some '\t'
  else none

/-- Reads the inside of a string up to its closing quote. -/
def readString : List Char → Option (List Char × List Char)
  | [] => none
  | '"' :: rest => some ([], rest)
  | '\\' :: 'u' :: d0 :: d1 :: d2 :: d3 :: rest =>
    match hexFour? d0 d1 d2 d3 with
    | none => none
    | some unit =>
      if 0xd800 ≤ unit ∧ unit < 0xdc00 then
        match rest with
        | '\\' :: 'u' :: e0 :: e1 :: e2 :: e3 :: rest =>
          match hexFour? e0 e1 e2 e3 with
          | none => none
          | some low =>
            if 0xdc00 ≤ low ∧ low < 0xe000 then
              (readString rest).map fun (text, rest) =>
                (Char.ofNat (0x10000 + (unit - 0xd800) * 0x400 + (low - 0xdc00)) :: text, rest)
            else none
        | _ => none
      else if 0xdc00 ≤ unit ∧ unit < 0xe000 then none
      else (readString rest).map fun (text, rest) => (Char.ofNat unit :: text, rest)
  | '\\' :: letter :: rest =>
    match simpleEscape? letter with
    | none => none
    | some character => (readString rest).map fun (text, rest) => (character :: text, rest)
  | character :: rest =>
    if character.toNat < 0x20 ∨ character = '\\' then none
    else (readString rest).map fun (text, rest) => (character :: text, rest)

/-- Reads one or more digits. -/
def readDigits (text : List Char) : Option (List Char × List Char) :=
  match text.span Char.isDigit with
  | ([], _) => none
  | found => some found

/-- The natural number that digits write down. -/
def digitsToNat (digits : List Char) : Nat :=
  digits.foldl (fun value digit => value * 10 + (digit.toNat - '0'.toNat)) 0

/-- Reads the digits before the point: a zero, or digits that do not start with one. -/
def readWhole (text : List Char) : Option (List Char × List Char) :=
  match text with
  | '0' :: rest => if rest.head?.any Char.isDigit then none else some (['0'], rest)
  | _ => readDigits text

/-- Reads the point and the digits after it, if there is a point. -/
def readFraction (text : List Char) : Option (List Char × List Char) :=
  match text with
  | '.' :: rest => (readDigits rest).map fun (digits, rest) => ('.' :: digits, rest)
  | _ => some ([], text)

/-- Reads an exponent, if there is one. -/
def readExponent (text : List Char) : Option (List Char × List Char) :=
  match text with
  | mark :: rest =>
    if mark = 'e' ∨ mark = 'E' then
      match rest with
      | sign :: digits =>
        if sign = '+' ∨ sign = '-' then
          (readDigits digits).map fun (digits, rest) => (mark :: sign :: digits, rest)
        else (readDigits rest).map fun (digits, rest) => (mark :: digits, rest)
      | [] => none
    else some ([], text)
  | [] => some ([], [])

/-- Reads a number. -/
def readNumber (text : List Char) : Option (Json × List Char) := do
  let (sign, unsigned) := match text with
    | '-' :: rest => (['-'], rest)
    | _ => ([], text)
  let (whole, rest) ← readWhole unsigned
  let (fraction, rest) ← readFraction rest
  let (exponent, rest) ← readExponent rest
  if fraction.isEmpty && exponent.isEmpty then
    let magnitude : Int := digitsToNat whole
    return (.integer (if sign.isEmpty then magnitude else -magnitude), rest)
  else return (.real (String.ofList (sign ++ whole ++ fraction ++ exponent)), rest)

/-- The rest of a text after the given word. -/
def afterWord? (word : String) (text : List Char) : Option (List Char) :=
  if word.toList.isPrefixOf text then some (text.drop word.length) else none

mutual

/-- Reads one value, with the given depth of nesting at most. -/
def readValue (depth : Nat) (text : List Char) : Option (Json × List Char) :=
  match depth with
  | 0 => none
  | depth + 1 =>
    match skipSpace text with
    | '[' :: rest =>
      match skipSpace rest with
      | ']' :: rest => some (.array [], rest)
      | rest => (readItems depth rest).map fun (items, rest) => (.array items, rest)
    | '\x7b' :: rest =>
      match skipSpace rest with
      | '\x7d' :: rest => some (.object [], rest)
      | rest => (readMembers depth rest).map fun (members, rest) => (.object members, rest)
    | '"' :: rest =>
      (readString rest).map fun (text, rest) => (.string (String.ofList text), rest)
    | 'n' :: rest => (afterWord? "ull" rest).map (.null, ·)
    | 't' :: rest => (afterWord? "rue" rest).map (.boolean true, ·)
    | 'f' :: rest => (afterWord? "alse" rest).map (.boolean false, ·)
    | rest => readNumber rest

/-- Reads the items of an array up to its closing bracket. -/
def readItems (depth : Nat) (text : List Char) : Option (List Json × List Char) :=
  match depth with
  | 0 => none
  | depth + 1 =>
    match readValue depth text with
    | none => none
    | some (item, rest) =>
      match skipSpace rest with
      | ']' :: rest => some ([item], rest)
      | ',' :: rest => (readItems depth rest).map fun (items, rest) => (item :: items, rest)
      | _ => none

/-- Reads the members of an object up to its closing brace. -/
def readMembers (depth : Nat) (text : List Char) : Option (List (String × Json) × List Char) :=
  match depth with
  | 0 => none
  | depth + 1 =>
    match skipSpace text with
    | '"' :: rest =>
      match readString rest with
      | none => none
      | some (key, rest) =>
        match skipSpace rest with
        | ':' :: rest =>
          match readValue depth rest with
          | none => none
          | some (value, rest) =>
            let member := (String.ofList key, value)
            match skipSpace rest with
            | '\x7d' :: rest => some ([member], rest)
            | ',' :: rest =>
              (readMembers depth rest).map fun (members, rest) => (member :: members, rest)
            | _ => none
        | _ => none
    | _ => none

end

/-- Reads a text as one JSON value. Every step of the reader consumes a character, so the
length of the text bounds the steps. -/
def parse? (text : String) : Option Json :=
  match readValue (2 * text.length + 2) text.toList with
  | some (value, rest) => if (skipSpace rest).isEmpty then some value else none
  | none => none

end CodeGraph.Json
