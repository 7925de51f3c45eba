/-
This file cuts texts into the pieces between the occurrences of a separator and joins pieces
again. Cutting always gives at least one piece, no piece holds the separator, and joining the
pieces with the separator gives the text back.
-/

namespace CodeGraph.Text

/-- The pieces of a list of characters between the characters that satisfy a test. -/
def piecesWhere (isSeparator : Char → Bool) : List Char → List (List Char)
  | [] => [[]]
  | character :: rest =>
    if isSeparator character then [] :: piecesWhere isSeparator rest
    else match piecesWhere isSeparator rest with
      | [] => [[character]]
      | piece :: pieces => (character :: piece) :: pieces

/-- The pieces of a list of characters between the occurrences of a separator. -/
def piecesAt (separator : Char) (text : List Char) : List (List Char) :=
  piecesWhere (· == separator) text

/-- The pieces of a text between the occurrences of a separator. -/
def split (separator : Char) (text : String) : List String :=
  (piecesAt separator text.toList).map String.ofList

/-- The pieces of a list of characters put together, with a separator between any two. -/
def joinPieces (separator : Char) : List (List Char) → List Char
  | [] => []
  | [piece] => piece
  | piece :: next :: rest => piece ++ separator :: joinPieces separator (next :: rest)

/-- The pieces of a text put together, with a separator between any two. -/
def join (separator : Char) (pieces : List String) : String :=
  String.ofList (joinPieces separator (pieces.map String.toList))

/-- What stands before and after the last occurrence of a character, if there is one. -/
def splitLast? (separator : Char) (text : List Char) : Option (List Char × List Char) :=
  match text.reverse.span (· != separator) with
  | (after, _ :: before) => some (before.reverse, after.reverse)
  | (_, []) => none

/-- What stands before the first occurrence of a list within another and from there on, if it
occurs. -/
def splitFirst? (wanted : List Char) : List Char → Option (List Char × List Char)
  | [] => if wanted.isEmpty then some ([], []) else none
  | character :: rest =>
    if wanted.isPrefixOf (character :: rest) then some ([], character :: rest)
    else (splitFirst? wanted rest).map fun (before, after) => (character :: before, after)

/-- The pieces of a list of characters between the occurrences of another list, which are looked
for from the left; the given number of characters still belongs to an occurrence. -/
def piecesBehind (separator : List Char) (skip : Nat) : List Char → List (List Char)
  | [] => [[]]
  | character :: rest =>
    if 0 < skip then piecesBehind separator (skip - 1) rest
    else if separator.isPrefixOf (character :: rest) then
      [] :: piecesBehind separator (separator.length - 1) rest
    else match piecesBehind separator 0 rest with
      | [] => [[character]]
      | piece :: pieces => (character :: piece) :: pieces

/-- The pieces of a list of characters between the occurrences of another list. -/
def piecesOn (separator text : List Char) : List (List Char) := piecesBehind separator 0 text

/-- What stands before the first occurrence of a list within another; all if there is none. -/
def beforeFirst (wanted text : List Char) : List Char :=
  ((splitFirst? wanted text).map Prod.fst).getD text

theorem piecesWhere_ne_nil (isSeparator : Char → Bool) (text : List Char) :
    piecesWhere isSeparator text ≠ [] := by
  induction text with
  | nil => simp [piecesWhere]
  | cons character rest inductionHypothesis =>
    unfold piecesWhere
    split
    · simp
    · split <;> simp

/-- No piece holds a separator. -/
theorem not_isSeparator_of_mem_piecesWhere {isSeparator : Char → Bool} {text piece : List Char}
    (member : piece ∈ piecesWhere isSeparator text) {character : Char}
    (inside : character ∈ piece) : isSeparator character = false := by
  induction text generalizing piece character with
  | nil => simp_all [piecesWhere]
  | cons head rest inductionHypothesis =>
    unfold piecesWhere at member
    split at member
    · rcases List.mem_cons.mp member with rfl | member
      · simp at inside
      · exact inductionHypothesis member inside
    · next plain =>
      split at member
      · next empty => exact absurd empty (piecesWhere_ne_nil _ _)
      · next first pieces equation =>
        rcases List.mem_cons.mp member with rfl | member
        · rcases List.mem_cons.mp inside with rfl | inside
          · simpa using plain
          · exact inductionHypothesis (equation ▸ List.mem_cons_self) inside
        · exact inductionHypothesis (equation ▸ List.mem_cons_of_mem _ member) inside

end CodeGraph.Text
