/-
This file removes characters from the ends of a text. What is left of a trimmed text starts
and ends with a character that is not removed, unless nothing is left.
-/
import CodeGraph.Text.Character

namespace CodeGraph.Text

/-- A list without its last characters that satisfy a test. -/
def dropEndWhile (drop : Char → Bool) (text : List Char) : List Char :=
  (text.reverse.dropWhile drop).reverse

/-- A list without its first and last characters that satisfy a test. -/
def trimWhere (drop : Char → Bool) (text : List Char) : List Char :=
  dropEndWhile drop (text.dropWhile drop)

/-- A text without the white space at its ends. -/
def trim (text : String) : String := String.ofList (trimWhere isBlank text.toList)

/-- A text without the white space at its end. -/
def trimEnd (text : String) : String := String.ofList (dropEndWhile isBlank text.toList)

/-- The rest of a list after the given start, if it starts so. -/
def afterStart? : List Char → List Char → Option (List Char)
  | [], text => some text
  | _ :: _, [] => none
  | wanted :: start, character :: rest =>
    if wanted = character then afterStart? start rest else none

/-- The rest of a list before the given end, if it ends so. -/
def beforeEnd? (ending text : List Char) : Option (List Char) :=
  (afterStart? ending.reverse text.reverse).map List.reverse

/-- A list without the given start, which is removed as often as the fuel allows. -/
def dropStarts (start : List Char) : Nat → List Char → List Char
  | 0, text => text
  | fuel + 1, text =>
    match afterStart? start text with
    | some rest => dropStarts start fuel rest
    | none => text

/-- A list without any repetition of the given start. -/
def trimStarts (start text : List Char) : List Char := dropStarts start text.length text

/-- A list without any repetition of the given end. -/
def trimEndings (ending text : List Char) : List Char :=
  (trimStarts ending.reverse text.reverse).reverse

theorem afterStart?_eq_some_iff {start text rest : List Char} :
    afterStart? start text = some rest ↔ text = start ++ rest := by
  induction start generalizing text with
  | nil => simp [afterStart?]
  | cons wanted start inductionHypothesis =>
    cases text with
    | nil => simp [afterStart?]
    | cons character text =>
      by_cases same : wanted = character
      · simp [afterStart?, same, inductionHypothesis]
      · simp [afterStart?, same, Ne.symm same]

end CodeGraph.Text
