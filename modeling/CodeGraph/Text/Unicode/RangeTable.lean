/-
This file defines the range tables in which the character properties of the Unicode standard
are written down. A table is a list of closed intervals of code points, read from lines of
hexadecimal text, and membership asks whether some interval holds the code point.
-/
import CodeGraph.Text.Split

namespace CodeGraph.Text.Unicode

/-- A set of code points as a list of closed intervals. -/
structure RangeTable where
  /-- The intervals, each with its first and its last code point. -/
  ranges : List (Nat × Nat)
  deriving Repr, DecidableEq

/-- The value of one hexadecimal digit in lower case; any other character counts as zero. -/
def hexDigitValue (digit : Char) : Nat :=
  if '0' ≤ digit ∧ digit ≤ '9' then digit.toNat - '0'.toNat
  else if 'a' ≤ digit ∧ digit ≤ 'f' then digit.toNat - 'a'.toNat + 10
  else 0

/-- The number that a run of hexadecimal digits writes down. -/
def hexValue (digits : List Char) : Nat :=
  digits.foldl (fun value digit => value * 16 + hexDigitValue digit) 0

/-- The words of the lines of a table, which are separated by single spaces. -/
def tableWords (lines : List String) : List (List Char) :=
  lines.flatMap fun line => piecesAt ' ' line.toList

namespace RangeTable

/-- One interval: `first-last`, or one code point that stands for itself. -/
def intervalOfWord (word : List Char) : Nat × Nat :=
  match piecesAt '-' word with
  | [first, last] => (hexValue first, hexValue last)
  | _ => (hexValue word, hexValue word)

/-- Reads a table from its lines. -/
def ofLines (lines : List String) : RangeTable :=
  ⟨(tableWords lines).map intervalOfWord⟩

/-- Whether a code point lies in one of the intervals. -/
def contains (table : RangeTable) (codePoint : Nat) : Bool :=
  table.ranges.any fun (first, last) => first ≤ codePoint && codePoint ≤ last

/-- The table that holds the code points of every given table. -/
def union (tables : List RangeTable) : RangeTable :=
  ⟨tables.flatMap RangeTable.ranges⟩

end RangeTable

end CodeGraph.Text.Unicode
