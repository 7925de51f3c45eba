/-
This file proves how the reader goes over a text that is put together from the texts of smaller
values.

The reader takes a value off the front of a text and hands on the rest. So a text spells a value if
the reader takes that value off its front, whatever stands behind it (`Spells`). For numbers the
rest must not go on with what could be a part of the number; as behind a value there is nothing but
the end, white space, a comma or a closing bracket, this condition is handed from the outside to
the inside. White space in front of a value, of an item or of a member is skipped, and so is white
space before a closing bracket or brace. Therefore the texts of the items spell the array however
they are laid out.

The reader is given a depth that bounds its steps, since the three parts of it call each other. A
text is never shorter than the steps needed for it, so its length is depth enough; each fact here
is proved for every depth that is at least the length, and the depth left for a part is at least
the length of that part because the brackets and separators are characters, too.
-/
import Mathlib.Data.List.DropRight
import CodeGraph.Proofs.Json.Strings

namespace CodeGraph.Json

/-! ### White space -/

/-- A text that is white space only. -/
def IsSpaces (spaces : List Char) : Prop := ∀ character ∈ spaces, isSpace character = true

theorem isSpaces_nil : IsSpaces [] := List.forall_mem_nil _

theorem skipSpace_append {spaces : List Char} (areSpaces : IsSpaces spaces) (text : List Char) :
    skipSpace (spaces ++ text) = skipSpace text :=
  List.dropWhile_append_of_pos areSpaces

theorem skipSpace_cons {character : Char} (notSpace : isSpace character = false)
    (rest : List Char) : skipSpace (character :: rest) = character :: rest :=
  List.dropWhile_cons_of_neg (by simp [notSpace])

theorem skipSpace_skipSpace (text : List Char) : skipSpace (skipSpace text) = skipSpace text :=
  List.dropWhile_idempotent _ text

/-- The three readers do not see the white space in front of a text. -/
theorem readValue_skipSpace (depth : Nat) (text : List Char) :
    readValue depth (skipSpace text) = readValue depth text := by
  cases depth with
  | zero => rw [readValue, readValue]
  | succ depth => rw [readValue, readValue, skipSpace_skipSpace]

theorem readItems_skipSpace (depth : Nat) (text : List Char) :
    readItems depth (skipSpace text) = readItems depth text := by
  cases depth with
  | zero => rw [readItems, readItems]
  | succ depth => rw [readItems, readItems, readValue_skipSpace]

theorem readMembers_skipSpace (depth : Nat) (text : List Char) :
    readMembers depth (skipSpace text) = readMembers depth text := by
  cases depth with
  | zero => rw [readMembers, readMembers]
  | succ depth => rw [readMembers, readMembers, skipSpace_skipSpace]

/-- No number goes on with white space or with what ends an item. -/
theorem endsNumber_cons {character : Char}
    (ends : character ∈ [',', ']', '\x7d', ' ', '\n', '\r', '\t']) (rest : List Char) :
    EndsNumber (character :: rest) := by
  rintro other ⟨⟩
  have plain : ∀ character ∈ [',', ']', '\x7d', ' ', '\n', '\r', '\t'],
      character.isDigit = false ∧ character ≠ '.' ∧ character ≠ 'e' ∧ character ≠ 'E' := by
    simp
  exact plain character ends

theorem EndsNumber.append {spaces rest : List Char} (areSpaces : IsSpaces spaces)
    (ends : EndsNumber rest) : EndsNumber (spaces ++ rest) := by
  cases spaces with
  | nil => exact ends
  | cons first others =>
    refine endsNumber_cons ?_ _
    have isFirst := areSpaces first List.mem_cons_self
    simp only [isSpace, Bool.or_eq_true, beq_iff_eq] at isFirst
    simp only [List.mem_cons, List.not_mem_nil, or_false]
    tauto

/-! ### Values -/

/-- The reader takes the value off the front of the text, whatever stands behind it. -/
def Spells (text : List Char) (value : Json) : Prop :=
  ∀ depth rest, EndsNumber rest → text.length ≤ depth + 1 →
    readValue (depth + 1) (text ++ rest) = some (value, rest)

/-- Nothing is read off an empty text or off one that starts with a closing bracket. -/
theorem readValue_nil (depth : Nat) : readValue depth [] = none := by
  cases depth with
  | zero => rw [readValue]
  | succ depth => rw [readValue]; rfl

theorem readValue_closing (depth : Nat) (rest : List Char) :
    readValue depth (']' :: rest) = none := by
  cases depth with
  | zero => rw [readValue]
  | succ depth =>
    have noDigits : readDigits (']' :: rest) = none := by
      rw [readDigits, List.span_eq_takeWhile_dropWhile, List.takeWhile_cons_of_neg (by decide)]
    rw [readValue, skipSpace_cons (by decide)]
    show readNumber (']' :: rest) = none
    simp [readNumber, readWhole, noDigits]

theorem readItems_closing (depth : Nat) (rest : List Char) :
    readItems depth (']' :: rest) = none := by
  cases depth with
  | zero => rw [readItems]
  | succ depth => rw [readItems, readValue_closing]

theorem readMembers_closing (depth : Nat) (rest : List Char) :
    readMembers depth ('\x7d' :: rest) = none := by
  cases depth with
  | zero => rw [readMembers]
  | succ depth => rw [readMembers, skipSpace_cons (by decide)]; rfl

section Values

variable {text : List Char} {value : Json} (spells : Spells text value)
include spells

theorem Spells.ne_nil : text ≠ [] := by
  rintro rfl
  have read := spells 0 [] (fun _ none => by cases none) (Nat.zero_le _)
  rw [List.append_nil, readValue_nil] at read
  cases read

theorem Spells.length_pos : 0 < text.length := List.length_pos_iff.mpr spells.ne_nil

theorem Spells.append_left {spaces : List Char} (areSpaces : IsSpaces spaces) :
    Spells (spaces ++ text) value := by
  intro depth rest ends enough
  rw [List.length_append] at enough
  rw [List.append_assoc, ← readValue_skipSpace, skipSpace_append areSpaces, readValue_skipSpace]
  exact spells depth rest ends (by omega)

/-- A text that spells a value between white space is the text of that value. -/
theorem Spells.parse? {spaces : List Char} (areSpaces : IsSpaces spaces) :
    parse? (String.ofList (text ++ spaces)) = some value := by
  have ends : EndsNumber spaces := by
    rw [← List.append_nil spaces]
    exact EndsNumber.append areSpaces fun _ none => by cases none
  have nothing : skipSpace spaces = [] := by
    rw [← List.append_nil spaces, skipSpace_append areSpaces, skipSpace, List.dropWhile_nil]
  have read := spells (2 * (String.ofList (text ++ spaces)).length + 1) spaces ends (by
    rw [String.length_ofList, List.length_append]
    omega)
  rw [Json.parse?, String.toList_ofList, read]
  simp only [nothing, List.isEmpty_nil, if_pos]

end Values

/-! ### Arrays -/

/-- The reader takes the items off the front of the text, up to a closing bracket. -/
def SpellsItems (text : List Char) (items : List Json) : Prop :=
  ∀ depth spaces rest, IsSpaces spaces → text.length ≤ depth →
    readItems (depth + 1) (text ++ (spaces ++ ']' :: rest)) = some (items, rest)

section Arrays

variable {text others : List Char} {item : Json} {items : List Json}

theorem Spells.spellsItems (spells : Spells text item) : SpellsItems text [item] := by
  intro depth spaces rest areSpaces enough
  obtain ⟨depth, rfl⟩ := Nat.exists_eq_add_one.mpr (Nat.lt_of_lt_of_le spells.length_pos enough)
  have ends : EndsNumber (spaces ++ ']' :: rest) :=
    EndsNumber.append areSpaces (endsNumber_cons (by decide) rest)
  rw [readItems, spells depth _ ends enough]
  simp only [skipSpace_append areSpaces, skipSpace_cons (by decide : isSpace ']' = false)]

theorem Spells.spellsItems_cons (spells : Spells text item)
    (spellsItems : SpellsItems others items) :
    SpellsItems (text ++ ',' :: others) (item :: items) := by
  intro depth spaces rest areSpaces enough
  have inhabited := spells.length_pos
  rw [List.length_append, List.length_cons] at enough
  obtain ⟨depth, rfl⟩ := Nat.exists_eq_add_one.mpr (by omega : 0 < depth)
  rw [List.append_assoc, List.cons_append, readItems,
    spells depth _ (endsNumber_cons (by decide) _) (by omega)]
  simp only [skipSpace_cons (by decide : isSpace ',' = false),
    spellsItems depth spaces rest areSpaces (by omega), Option.map_some]

theorem spells_emptyArray : Spells ['[', ']'] (.array []) := by
  intro depth rest _ _
  rw [List.cons_append, readValue, skipSpace_cons (by decide)]
  rfl

theorem SpellsItems.spells {spaces : List Char} (spellsItems : SpellsItems text items)
    (areSpaces : IsSpaces spaces) : Spells ('[' :: (text ++ (spaces ++ [']']))) (.array items) := by
  intro depth rest _ enough
  rw [List.length_cons, List.length_append, List.length_append, List.length_singleton] at enough
  obtain ⟨depth, rfl⟩ := Nat.exists_eq_add_one.mpr (by omega : 0 < depth)
  have back := spellsItems depth spaces rest areSpaces (by omega)
  have behind : '[' :: (text ++ (spaces ++ [']'])) ++ rest =
      '[' :: (text ++ (spaces ++ ']' :: rest)) := by simp
  rw [← readItems_skipSpace] at back
  rw [behind, readValue, skipSpace_cons (by decide)]
  simp only
  split
  · next closing => rw [closing, readItems_closing] at back; cases back
  · rw [back, Option.map_some]

end Arrays

/-! ### Objects -/

/-- The reader takes the members off the front of the text, up to a closing brace. -/
def SpellsMembers (text : List Char) (members : List (String × Json)) : Prop :=
  ∀ depth spaces rest, IsSpaces spaces → text.length ≤ depth →
    readMembers (depth + 1) (text ++ (spaces ++ '\x7d' :: rest)) = some (members, rest)

section Objects

variable {text others : List Char} {value : Json} {members : List (String × Json)}

theorem SpellsMembers.append_left {spaces : List Char} (areSpaces : IsSpaces spaces)
    (spellsMembers : SpellsMembers text members) : SpellsMembers (spaces ++ text) members := by
  intro depth behind rest areBehind enough
  rw [List.length_append] at enough
  rw [List.append_assoc, ← readMembers_skipSpace, skipSpace_append areSpaces,
    readMembers_skipSpace]
  exact spellsMembers depth behind rest areBehind (by omega)

theorem Spells.spellsMembers (spells : Spells text value) (key : String) :
    SpellsMembers (printString key ++ ':' :: text) [(key, value)] := by
  intro depth spaces rest areSpaces enough
  rw [List.length_append, List.length_cons] at enough
  obtain ⟨depth, rfl⟩ := Nat.exists_eq_add_one.mpr (by omega : 0 < depth)
  have ends : EndsNumber (spaces ++ '\x7d' :: rest) :=
    EndsNumber.append areSpaces (endsNumber_cons (by decide) rest)
  have written : printString key ++ ':' :: text ++ (spaces ++ '\x7d' :: rest) =
      '"' :: (key.toList.flatMap escapedCharacter ++
        '"' :: ':' :: (text ++ (spaces ++ '\x7d' :: rest))) := by
    simp [printString]
  rw [written, readMembers, skipSpace_cons (by decide)]
  simp only [readString_flatMap, skipSpace_cons (by decide : isSpace ':' = false),
    spells depth _ ends (by omega), skipSpace_append areSpaces,
    skipSpace_cons (by decide : isSpace '\x7d' = false), String.ofList_toList]

theorem Spells.spellsMembers_cons (spells : Spells text value) (key : String)
    (spellsMembers : SpellsMembers others members) :
    SpellsMembers (printString key ++ ':' :: text ++ ',' :: others) ((key, value) :: members) := by
  intro depth spaces rest areSpaces enough
  rw [List.length_append, List.length_append, List.length_cons, List.length_cons] at enough
  obtain ⟨depth, rfl⟩ := Nat.exists_eq_add_one.mpr (by omega : 0 < depth)
  have written : printString key ++ ':' :: text ++ ',' :: others ++ (spaces ++ '\x7d' :: rest) =
      '"' :: (key.toList.flatMap escapedCharacter ++
        '"' :: ':' :: (text ++ ',' :: (others ++ (spaces ++ '\x7d' :: rest)))) := by
    simp [printString]
  rw [written, readMembers, skipSpace_cons (by decide)]
  simp only [readString_flatMap, skipSpace_cons (by decide : isSpace ':' = false),
    spells depth _ (endsNumber_cons (by decide : ',' ∈ _) _) (by omega),
    skipSpace_cons (by decide : isSpace ',' = false),
    spellsMembers depth spaces rest areSpaces (by omega), Option.map_some, String.ofList_toList]

theorem spells_emptyObject : Spells ['\x7b', '\x7d'] (.object []) := by
  intro depth rest _ _
  rw [List.cons_append, readValue, skipSpace_cons (by decide)]
  rfl

theorem SpellsMembers.spells {spaces : List Char} (spellsMembers : SpellsMembers text members)
    (areSpaces : IsSpaces spaces) :
    Spells ('\x7b' :: (text ++ (spaces ++ ['\x7d']))) (.object members) := by
  intro depth rest _ enough
  rw [List.length_cons, List.length_append, List.length_append, List.length_singleton] at enough
  obtain ⟨depth, rfl⟩ := Nat.exists_eq_add_one.mpr (by omega : 0 < depth)
  have back := spellsMembers depth spaces rest areSpaces (by omega)
  have behind : '\x7b' :: (text ++ (spaces ++ ['\x7d'])) ++ rest =
      '\x7b' :: (text ++ (spaces ++ '\x7d' :: rest)) := by simp
  rw [← readMembers_skipSpace] at back
  rw [behind, readValue, skipSpace_cons (by decide)]
  simp only
  split
  · next closing => rw [closing, readMembers_closing] at back; cases back
  · rw [back, Option.map_some]

end Objects

end CodeGraph.Json
