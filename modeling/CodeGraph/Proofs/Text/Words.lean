/-
This file proves that no character of a word is white space.

For ASCII this is a matter of a few cases. Beyond it both are read from tables, and no interval of
the one table meets an interval of the other. That is a property of a table (`IsWithoutBlanks`)
which holds of a union if it holds of each part, and of a part if it holds of each line; so a table
is checked line by line, with the characters of each line named, and only they are evaluated.
-/
import CodeGraph.Text.Character

namespace CodeGraph.Text

namespace Unicode

/-- The words of lines whose characters are given. -/
theorem forall_mem_tableWords {lines : List String} {motive : List Char → Prop}
    (holds : ∀ line ∈ lines, ∃ characters, line = String.ofList characters ∧
      ∀ word ∈ piecesAt ' ' characters, motive word) : ∀ word ∈ tableWords lines, motive word := by
  intro word member
  obtain ⟨line, isLine, isWord⟩ := List.mem_flatMap.mp member
  obtain ⟨characters, rfl, holdsHere⟩ := holds line isLine
  rw [String.toList_ofList] at isWord
  exact holdsHere word isWord

/-- An interval without white space. -/
def LeavesOutBlanks (interval : Nat × Nat) : Prop :=
  ∀ blanks ∈ Property.whiteSpace.ranges, interval.2 < blanks.1 ∨ blanks.2 < interval.1

instance (interval : Nat × Nat) : Decidable (LeavesOutBlanks interval) :=
  inferInstanceAs (Decidable (∀ _ ∈ _, _))

namespace RangeTable

/-- A table whose intervals are all without white space. -/
def IsWithoutBlanks (table : RangeTable) : Prop :=
  ∀ interval ∈ table.ranges, LeavesOutBlanks interval

theorem IsWithoutBlanks.ofLines {lines : List String}
    (holds : ∀ line ∈ lines, ∃ characters, line = String.ofList characters ∧
      ∀ word ∈ piecesAt ' ' characters, LeavesOutBlanks (intervalOfWord word)) :
    (RangeTable.ofLines lines).IsWithoutBlanks :=
  List.forall_mem_map.mpr (forall_mem_tableWords holds)

theorem IsWithoutBlanks.union {tables : List RangeTable}
    (holds : ∀ table ∈ tables, table.IsWithoutBlanks) :
    (RangeTable.union tables).IsWithoutBlanks := by
  intro interval member
  obtain ⟨table, isTable, inTable⟩ := List.mem_flatMap.mp member
  exact holds table isTable interval inTable

theorem IsWithoutBlanks.contains_eq_false {table : RangeTable} (without : table.IsWithoutBlanks)
    {codePoint : Nat} (isBlank : Property.whiteSpace.contains codePoint = true) :
    table.contains codePoint = false := by
  obtain ⟨blanks, areBlanks, inside⟩ := List.any_eq_true.mp isBlank
  refine List.any_eq_false.mpr fun interval member covers => ?_
  have apart := without interval member blanks areBlanks
  simp only [Bool.and_eq_true, decide_eq_true_eq] at inside covers
  omega

end RangeTable

open Category RangeTable

theorem isWithoutBlanks_letters :
    ∀ table ∈ [uppercaseLetter, lowercaseLetter, titlecaseLetter, modifierLetter, otherLetter,
      letterNumber, Property.otherAlphabetic], table.IsWithoutBlanks := by
  repeat
    refine List.forall_mem_cons.mpr ⟨.ofLines ?_, ?_⟩
    · repeat refine List.forall_mem_cons.mpr ⟨⟨_, rfl, by decide +kernel⟩, ?_⟩
      exact fun _ member => nomatch member
  exact fun _ member => nomatch member

theorem isWithoutBlanks_marks_and_digits :
    ∀ table ∈ [nonspacingMark, spacingMark, enclosingMark, decimalNumber, connectorPunctuation],
      table.IsWithoutBlanks := by
  repeat
    refine List.forall_mem_cons.mpr ⟨.ofLines ?_, ?_⟩
    · repeat refine List.forall_mem_cons.mpr ⟨⟨_, rfl, by decide +kernel⟩, ?_⟩
      exact fun _ member => nomatch member
  exact fun _ member => nomatch member

theorem isWithoutBlanks_word : Property.word.IsWithoutBlanks := by
  have joining : Property.joinControl.IsWithoutBlanks :=
    List.forall_mem_singleton.mpr (by decide)
  refine .union (List.forall_mem_cons.mpr ⟨.union isWithoutBlanks_letters, ?_⟩)
  exact List.forall_mem_append.mpr
    ⟨isWithoutBlanks_marks_and_digits, List.forall_mem_singleton.mpr joining⟩

end Unicode

/-- No character of a word is white space. -/
theorem isWord_eq_false_of_isBlank {character : Char} (blank : isBlank character = true) :
    isWord character = false := by
  unfold isWord
  split
  · next ascii =>
    have asciiBlanks : ∀ codePoint < 0x80, isBlank (Char.ofNat codePoint) = true →
        ((Char.ofNat codePoint).isAlphanum || Char.ofNat codePoint == '_') = false := by
      decide +kernel
    have isAscii : character.toNat < 0x80 := of_decide_eq_true ascii
    have checked := asciiBlanks character.toNat isAscii
    rw [Char.ofNat_toNat] at checked
    exact checked blank
  · exact Unicode.isWithoutBlanks_word.contains_eq_false blank

end CodeGraph.Text
