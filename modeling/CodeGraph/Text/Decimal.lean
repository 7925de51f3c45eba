/-
This file reads and writes unsigned numbers in decimal digits.
-/

namespace CodeGraph.Text

/-- The number that a list of ASCII digits writes down; none if the list is empty or holds
another character. -/
def digitsValue? (digits : List Char) : Option Nat :=
  if digits.isEmpty then none
  else digits.foldl (fun value digit =>
    match value with
    | none => none
    | some value =>
      if digit.isDigit then some (value * 10 + (digit.toNat - '0'.toNat)) else none) (some 0)

/-- The number below a bound that a text writes down, with an optional plus sign. -/
def unsigned? (bound : Nat) (text : List Char) : Option Nat :=
  let digits := match text with
    | '+' :: digits => digits
    | digits => digits
  match digitsValue? digits with
  | some value => if value < bound then some value else none
  | none => none

end CodeGraph.Text
