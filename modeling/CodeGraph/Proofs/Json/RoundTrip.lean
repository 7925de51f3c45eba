/-
This file proves that a value is read as it is written, if all its numbers are integers, whether it
is written on one line or over several.

What it is for a text to spell a value, and that such a text is read as that value, is known
already (`Spells`). So it is enough to show that each of the two ways to write a value spells it,
and the reader with its fuel does not occur here. The induction is on the value. Items and members
are written with separators between them and none behind the last one, so the facts about lists
assume that there is an item and that all of them are spelled, and go along the list. Over several
lines each item is preceded by an indentation, which is white space whatever the depth; the depth
is arbitrary in the induction.

Of the scalars only an integer needs care. Its first character is a digit or a minus sign, which no
other value starts with (`StartsInteger`), and the library's reading of its digits gives it back.

What is written on one line holds no control character: those in strings are escaped, and the other
parts are made of a few characters. This is what makes a line out of a record.
-/
import Mathlib.Data.Bool.AllAny
import CodeGraph.Proofs.Json.Reading

namespace CodeGraph.Json

/-- A value whose numbers are integers. -/
inductive IsExact : Json → Prop where
  | null : IsExact .null
  | boolean (value : Bool) : IsExact (.boolean value)
  | integer (value : Int) : IsExact (.integer value)
  | string (value : String) : IsExact (.string value)
  | array {items : List Json} (exact : ∀ item ∈ items, IsExact item) : IsExact (.array items)
  | object {members : List (String × Json)} (exact : ∀ member ∈ members, IsExact member.2) :
      IsExact (.object members)

/-! ### Scalars -/

/-- A character that an integer can start with. -/
def StartsInteger (character : Char) : Prop := character.isDigit ∨ character = '-'

instance (character : Char) : Decidable (StartsInteger character) :=
  inferInstanceAs (Decidable (_ ∨ _))

theorem exists_start_of_integer (value : Int) : ∃ first others,
    (toString value).toList = first :: others ∧ StartsInteger first := by
  rw [Int.toString_eq_repr, Int.repr_eq_if]
  split
  · cases digits : Nat.toDigits 10 value.toNat with
    | nil => exact absurd digits Nat.toDigits_ne_nil
    | cons first others =>
      refine ⟨first, others, by rw [Nat.toList_repr, digits], .inl ?_⟩
      exact Nat.isDigit_of_mem_toDigits (by decide) (by decide) (digits ▸ List.mem_cons_self)
  · exact ⟨'-', _, String.toList_append, .inr rfl⟩

/-- White space and what starts another value start no integer. -/
theorem StartsInteger.ne_of_mem {first other : Char} (starts : StartsInteger first)
    (member : other ∈ [' ', '\n', '\r', '\t', '[', '\x7b', '"', 'n', 't', 'f']) :
    first ≠ other := by
  have different : ∀ other ∈ [' ', '\n', '\r', '\t', '[', '\x7b', '"', 'n', 't', 'f'],
      ¬StartsInteger other := List.all_iff_forall_prop.mp rfl
  rintro rfl
  exact different first member starts

theorem StartsInteger.isSpace_eq_false {first : Char} (starts : StartsInteger first) :
    isSpace first = false := by
  simp only [isSpace, Bool.or_eq_false_iff, beq_eq_false_iff_ne]
  exact ⟨⟨⟨starts.ne_of_mem (by decide), starts.ne_of_mem (by decide)⟩,
    starts.ne_of_mem (by decide)⟩, starts.ne_of_mem (by decide)⟩

theorem afterWord?_append (word : String) (rest : List Char) :
    afterWord? word (word.toList ++ rest) = some rest := by
  rw [afterWord?, if_pos (List.isPrefixOf_iff_prefix.mpr (List.prefix_append _ _)),
    ← String.length_toList, List.drop_left]

theorem spells_null : Spells (printScalar .null) .null := by
  intro depth rest _ _
  show readValue (depth + 1) ('n' :: ("ull".toList ++ rest)) = _
  rw [readValue, skipSpace_cons (by decide)]
  simp only [afterWord?_append, Option.map_some]

theorem spells_boolean (value : Bool) : Spells (printScalar (.boolean value)) (.boolean value) := by
  intro depth rest _ _
  cases value with
  | true =>
    show readValue (depth + 1) ('t' :: ("rue".toList ++ rest)) = _
    rw [readValue, skipSpace_cons (by decide)]
    simp only [afterWord?_append, Option.map_some]
  | false =>
    show readValue (depth + 1) ('f' :: ("alse".toList ++ rest)) = _
    rw [readValue, skipSpace_cons (by decide)]
    simp only [afterWord?_append, Option.map_some]

theorem spells_integer (value : Int) : Spells (printScalar (.integer value)) (.integer value) := by
  intro depth rest ends _
  have number : readNumber (printScalar (.integer value) ++ rest) = some (.integer value, rest) :=
    readNumber_toString value ends
  obtain ⟨first, others, written, starts⟩ := exists_start_of_integer value
  have start : printScalar (.integer value) = first :: others := written
  rw [start, List.cons_append] at number ⊢
  rw [readValue, skipSpace_cons starts.isSpace_eq_false]
  split
  case h_7 => exact number
  all_goals
    next equation => exact absurd (List.cons.inj equation).1 (starts.ne_of_mem (by decide))

theorem spells_string (text : String) : Spells (printScalar (.string text)) (.string text) := by
  intro depth rest _ _
  have written : printScalar (.string text) ++ rest =
      '"' :: (text.toList.flatMap escapedCharacter ++ '"' :: rest) := by
    simp [printScalar, printString]
  rw [written, readValue, skipSpace_cons (by decide)]
  simp only [readString_flatMap, Option.map_some, String.ofList_toList]

/-! ### One line -/

theorem spellsItems_printItems {items : List Json} (nonempty : items ≠ [])
    (spells : ∀ item ∈ items, Spells (printChars item) item) :
    SpellsItems (printItems items) items := by
  induction items with
  | nil => exact absurd rfl nonempty
  | cons item others inductionHypothesis =>
    have ⟨itemSpelled, othersSpelled⟩ := List.forall_mem_cons.mp spells
    cases others with
    | nil =>
      rw [printItems]
      exact itemSpelled.spellsItems
    | cons next others =>
      rw [printItems]
      exact itemSpelled.spellsItems_cons
        (inductionHypothesis (List.cons_ne_nil next others) othersSpelled)

theorem spellsMembers_printMembers {members : List (String × Json)} (nonempty : members ≠ [])
    (spells : ∀ member ∈ members, Spells (printChars member.2) member.2) :
    SpellsMembers (printMembers members) members := by
  induction members with
  | nil => exact absurd rfl nonempty
  | cons member others inductionHypothesis =>
    obtain ⟨key, value⟩ := member
    have ⟨valueSpelled, othersSpelled⟩ := List.forall_mem_cons.mp spells
    cases others with
    | nil =>
      rw [printMembers]
      exact valueSpelled.spellsMembers key
    | cons next others =>
      rw [printMembers]
      exact valueSpelled.spellsMembers_cons key
        (inductionHypothesis (List.cons_ne_nil next others) othersSpelled)

/-- What is written for a value on one line spells it. -/
theorem IsExact.spells_printChars {value : Json} (exact : value.IsExact) :
    Spells (printChars value) value := by
  induction exact with
  | null => exact spells_null
  | boolean value => exact spells_boolean value
  | integer value => exact spells_integer value
  | string value => exact spells_string value
  | @array items _ inductionHypothesis =>
    by_cases empty : items = []
    · subst empty
      exact spells_emptyArray
    · exact (spellsItems_printItems empty inductionHypothesis).spells isSpaces_nil
  | @object members _ inductionHypothesis =>
    by_cases empty : members = []
    · subst empty
      exact spells_emptyObject
    · exact (spellsMembers_printMembers empty inductionHypothesis).spells isSpaces_nil

/-- The text of a value is the text of that value only. -/
theorem IsExact.parse?_print {value : Json} (exact : value.IsExact) :
    parse? value.print = some value := by
  have read := exact.spells_printChars.parse? isSpaces_nil
  rwa [List.append_nil] at read

/-! ### Several lines -/

theorem isSpaces_newLine (depth : Nat) : IsSpaces (newLine depth) :=
  List.forall_mem_cons.mpr ⟨rfl, fun _ member => (List.eq_of_mem_replicate member) ▸ rfl⟩

theorem spellsItems_prettyItems {items : List Json} {depth : Nat} (nonempty : items ≠ [])
    (spells : ∀ item ∈ items, Spells (prettyChars depth item) item) :
    SpellsItems (prettyItems depth items) items := by
  induction items with
  | nil => exact absurd rfl nonempty
  | cons item others inductionHypothesis =>
    have ⟨itemSpelled, othersSpelled⟩ := List.forall_mem_cons.mp spells
    have indented := itemSpelled.append_left (isSpaces_newLine depth)
    cases others with
    | nil =>
      rw [prettyItems]
      exact indented.spellsItems
    | cons next others =>
      rw [prettyItems]
      exact indented.spellsItems_cons
        (inductionHypothesis (List.cons_ne_nil next others) othersSpelled)

theorem spellsMembers_prettyMembers {members : List (String × Json)} {depth : Nat}
    (nonempty : members ≠ [])
    (spells : ∀ member ∈ members, Spells (prettyChars depth member.2) member.2) :
    SpellsMembers (prettyMembers depth members) members := by
  induction members with
  | nil => exact absurd rfl nonempty
  | cons member others inductionHypothesis =>
    obtain ⟨key, value⟩ := member
    have ⟨valueSpelled, othersSpelled⟩ := List.forall_mem_cons.mp spells
    have indented := isSpaces_newLine depth
    have spaced : Spells ([' '] ++ prettyChars depth value) value :=
      valueSpelled.append_left (List.forall_mem_singleton.mpr rfl)
    cases others with
    | nil =>
      rw [prettyMembers, List.append_assoc, List.append_assoc]
      exact (spaced.spellsMembers key).append_left indented
    | cons next others =>
      have both := spaced.spellsMembers_cons key
        (inductionHypothesis (List.cons_ne_nil next others) othersSpelled)
      have written : prettyMembers depth ((key, value) :: next :: others) =
          newLine depth ++ (printString key ++ ':' :: ([' '] ++ prettyChars depth value) ++
            ',' :: prettyMembers depth (next :: others)) := by
        simp [prettyMembers]
      rw [written]
      exact both.append_left indented

/-- What is written for a value over several lines spells it, at whatever depth it stands. -/
theorem IsExact.spells_prettyChars {value : Json} (exact : value.IsExact) (depth : Nat) :
    Spells (prettyChars depth value) value := by
  induction exact generalizing depth with
  | null => exact spells_null
  | boolean value => exact spells_boolean value
  | integer value => exact spells_integer value
  | string value => exact spells_string value
  | @array items _ inductionHypothesis =>
    cases items with
    | nil => exact spells_emptyArray
    | cons item others =>
      have inside := spellsItems_prettyItems (List.cons_ne_nil item others)
        fun other member => inductionHypothesis other member (depth + 1)
      rw [prettyChars, List.cons_append, List.cons_append, List.append_assoc]
      · exact inside.spells (isSpaces_newLine depth)
      · exact List.cons_ne_nil item others
  | @object members _ inductionHypothesis =>
    cases members with
    | nil => exact spells_emptyObject
    | cons member others =>
      have inside := spellsMembers_prettyMembers (List.cons_ne_nil member others)
        fun other isMember => inductionHypothesis other isMember (depth + 1)
      rw [prettyChars, List.cons_append, List.cons_append, List.append_assoc]
      · exact inside.spells (isSpaces_newLine depth)
      · exact List.cons_ne_nil member others

/-- A value that is written over several lines is read as that value, also with more white space
behind it. -/
theorem IsExact.parse?_pretty_append {value : Json} (exact : value.IsExact) {spaces : String}
    (areSpaces : IsSpaces spaces.toList) : parse? (value.pretty ++ spaces) = some value := by
  have read := (exact.spells_prettyChars 0).parse? areSpaces
  rwa [String.ofList_append, String.ofList_toList] at read

/-! ### The characters of a line -/

theorem mem_printItems {items : List Json} {character : Char}
    (member : character ∈ printItems items) :
    character = ',' ∨ ∃ item ∈ items, character ∈ printChars item := by
  induction items with
  | nil => cases member
  | cons item others inductionHypothesis =>
    cases others with
    | nil => exact .inr ⟨item, List.mem_cons_self, by rwa [printItems] at member⟩
    | cons next others =>
      rw [printItems, List.mem_append, List.mem_cons] at member
      rcases member with here | comma | there
      · exact .inr ⟨item, List.mem_cons_self, here⟩
      · exact .inl comma
      · rcases inductionHypothesis there with comma | ⟨other, isItem, inside⟩
        · exact .inl comma
        · exact .inr ⟨other, .tail _ isItem, inside⟩

theorem mem_printMembers {members : List (String × Json)} {character : Char}
    (member : character ∈ printMembers members) :
    character = ',' ∨ character = ':' ∨
      ∃ entry ∈ members, character ∈ printString entry.1 ∨ character ∈ printChars entry.2 := by
  induction members with
  | nil => cases member
  | cons entry others inductionHypothesis =>
    cases others with
    | nil =>
      rw [printMembers, List.mem_append, List.mem_cons] at member
      rcases member with inKey | colon | inValue
      · exact .inr (.inr ⟨entry, List.mem_cons_self, .inl inKey⟩)
      · exact .inr (.inl colon)
      · exact .inr (.inr ⟨entry, List.mem_cons_self, .inr inValue⟩)
    | cons next others =>
      rw [printMembers, List.mem_append, List.mem_append, List.mem_cons, List.mem_cons] at member
      rcases member with (inKey | colon | inValue) | comma | there
      · exact .inr (.inr ⟨entry, List.mem_cons_self, .inl inKey⟩)
      · exact .inr (.inl colon)
      · exact .inr (.inr ⟨entry, List.mem_cons_self, .inr inValue⟩)
      · exact .inl comma
      · rcases inductionHypothesis there with comma | colon | ⟨other, isEntry, inside⟩
        · exact .inl comma
        · exact .inr (.inl colon)
        · exact .inr (.inr ⟨other, .tail _ isEntry, inside⟩)

theorem not_control_of_mem_toString {value : Int} {character : Char}
    (member : character ∈ (toString value).toList) : 0x20 ≤ character.toNat := by
  have digit {number : Nat} (isDigit : character ∈ Nat.toDigits 10 number) :
      0x20 ≤ character.toNat := by
    have bounds : character.isDigit := Nat.isDigit_of_mem_toDigits (by decide) (by decide) isDigit
    rw [Char.isDigit, Bool.and_eq_true, decide_eq_true_eq] at bounds
    exact Nat.le_trans (by decide) (UInt32.le_iff_toNat_le.mp bounds.1)
  rw [Int.toString_eq_repr, Int.repr_eq_if] at member
  split at member
  · exact digit (Nat.toList_repr ▸ member)
  · rw [String.toList_append, List.mem_append, Nat.toList_repr] at member
    rcases member with sign | isDigit
    · rw [List.mem_singleton.mp sign]
      decide
    · exact digit isDigit

/-- What is written for a value holds no control character. -/
theorem IsExact.not_control_of_mem {value : Json} (exact : value.IsExact) :
    ∀ character ∈ printChars value, 0x20 ≤ character.toNat := by
  induction exact with
  | null => exact List.all_iff_forall_prop.mp rfl
  | boolean value => cases value <;> exact List.all_iff_forall_prop.mp rfl
  | integer value => exact fun _ member => not_control_of_mem_toString member
  | string value => exact fun _ member => not_control_of_mem_printString member
  | array _ inductionHypothesis =>
    intro character member
    rw [printChars, List.mem_append, List.mem_cons, List.mem_singleton] at member
    rcases member with (rfl | inside) | rfl
    · decide
    · rcases mem_printItems inside with rfl | ⟨item, isItem, inItem⟩
      · decide
      · exact inductionHypothesis item isItem character inItem
    · decide
  | object _ inductionHypothesis =>
    intro character member
    rw [printChars, List.mem_append, List.mem_cons, List.mem_singleton] at member
    rcases member with (rfl | inside) | rfl
    · decide
    · rcases mem_printMembers inside with rfl | rfl | ⟨entry, isEntry, inKey | inValue⟩
      · decide
      · decide
      · exact not_control_of_mem_printString inKey
      · exact inductionHypothesis entry isEntry character inValue
    · decide

/-- A value is written on one line, which is not empty. -/
theorem IsExact.print_ne_empty {value : Json} (exact : value.IsExact) : value.print ≠ "" := by
  intro empty
  have none := congrArg String.toList empty
  rw [print, String.toList_ofList] at none
  exact exact.spells_printChars.ne_nil none

end CodeGraph.Json
