/-
This file proves which characters there are in a text that is put together from others: cutting a
text adds no characters, and joining pieces adds only the separator.

So the name of the module that a file holds has no characters but dots and those of the file's
path. Nothing else has to be known of how the name is made to see that a character which is in no
path is in no name either.
-/
import Mathlib.Data.List.TakeDrop
import CodeGraph.Path

namespace CodeGraph

namespace Text

theorem mem_of_mem_piecesWhere {isSeparator : Char → Bool} {text piece : List Char}
    (isPiece : piece ∈ piecesWhere isSeparator text) {character : Char}
    (member : character ∈ piece) : character ∈ text := by
  induction text generalizing piece with
  | nil =>
    rw [piecesWhere, List.mem_singleton] at isPiece
    exact isPiece ▸ member
  | cons head rest inductionHypothesis =>
    unfold piecesWhere at isPiece
    split at isPiece
    · rcases List.mem_cons.mp isPiece with rfl | isPiece
      · cases member
      · exact List.mem_cons_of_mem _ (inductionHypothesis isPiece member)
    · split at isPiece
      · rw [List.mem_singleton.mp isPiece, List.mem_singleton] at member
        exact member ▸ List.mem_cons_self
      · next first pieces equation =>
        rcases List.mem_cons.mp isPiece with rfl | isPiece
        · rcases List.mem_cons.mp member with rfl | member
          · exact List.mem_cons_self
          · exact List.mem_cons_of_mem _
              (inductionHypothesis (equation ▸ List.mem_cons_self) member)
        · exact List.mem_cons_of_mem _
            (inductionHypothesis (equation ▸ List.mem_cons_of_mem _ isPiece) member)

theorem mem_joinPieces {separator character : Char} {pieces : List (List Char)}
    (member : character ∈ joinPieces separator pieces) :
    character = separator ∨ ∃ piece ∈ pieces, character ∈ piece := by
  induction pieces with
  | nil => cases member
  | cons piece rest inductionHypothesis =>
    cases rest with
    | nil => exact .inr ⟨piece, List.mem_cons_self, member⟩
    | cons next others =>
      rw [joinPieces, List.mem_append, List.mem_cons] at member
      rcases member with here | same | there
      · exact .inr ⟨piece, List.mem_cons_self, here⟩
      · exact .inl same
      · rcases inductionHypothesis there with same | ⟨other, isPiece, inside⟩
        · exact .inl same
        · exact .inr ⟨other, List.mem_cons_of_mem _ isPiece, inside⟩

theorem mem_intercalate {separator : String} {character : Char} {parts : List String}
    (member : character ∈ (separator.intercalate parts).toList) :
    character ∈ separator.toList ∨ ∃ part ∈ parts, character ∈ part.toList := by
  induction parts with
  | nil =>
    rw [String.intercalate_nil] at member
    cases member
  | cons part rest inductionHypothesis =>
    by_cases last : rest = []
    · rw [last, String.intercalate_singleton] at member
      exact .inr ⟨part, List.mem_cons_self, member⟩
    · rw [String.intercalate_cons_of_ne_nil last, String.toList_append, String.toList_append,
        List.mem_append, List.mem_append] at member
      rcases member with (here | between) | there
      · exact .inr ⟨part, List.mem_cons_self, here⟩
      · exact .inl between
      · rcases inductionHypothesis there with between | ⟨other, isPart, inside⟩
        · exact .inl between
        · exact .inr ⟨other, List.mem_cons_of_mem _ isPart, inside⟩

/-- What stands before the last separator stands in the text. -/
theorem mem_of_mem_splitLast? {separator character : Char} {text before after : List Char}
    (split : splitLast? separator text = some (before, after)) (member : character ∈ before) :
    character ∈ text := by
  unfold splitLast? at split
  rw [List.span_eq_takeWhile_dropWhile] at split
  cases rest : text.reverse.dropWhile (· != separator) with
  | nil =>
    rw [rest] at split
    cases split
  | cons first others =>
    rw [rest] at split
    cases split
    have suffix := List.dropWhile_suffix (l := text.reverse) (· != separator)
    exact List.mem_reverse.mp (suffix.subset
      (rest ▸ List.mem_cons_of_mem _ (List.mem_reverse.mp member)))

end Text

/-- The module of a file holds no character that its path does not hold, dots apart. -/
theorem Path.mem_of_mem_moduleName {path : String} {character : Char}
    (member : character ∈ (moduleName path).toList) :
    character = '.' ∨ character ∈ path.toList := by
  unfold moduleName at member
  simp only [String.toList_ofList] at member
  rcases Text.mem_joinPieces member with same | ⟨piece, isPiece, inside⟩
  · exact .inl same
  · have inStem := Text.mem_of_mem_piecesWhere (List.mem_filter.mp isPiece).1 inside
    split at inStem
    · next before after split =>
      split at inStem
      · exact .inr inStem
      · exact .inr (Text.mem_of_mem_splitLast? split inStem)
    · exact .inr inStem

end CodeGraph
