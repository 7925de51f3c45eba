/-
This file proves that strings and integers are read as they are written.

A string is read character by character. Each character is written as itself, as an escape of two
characters, or as an escape with the number of a control character. In each of these cases reading
goes over what was written and adds the character, whatever follows
(`readString_escapedCharacter`). So the inside of a string is read by induction up to its closing
quote, which is not one of the characters written for it. No control character is written for a
string, since all of them are escaped and the digits of their numbers are none.

An integer ends where something follows that can be no part of a number: no digit, point or
exponent (`EndsNumber`). The digits of a natural number are read up to there, and the number they
write down is that number. The reader refuses a leading zero; only zero is written with one. Behind
a sign the same digits are read as the number below zero.
-/
import Mathlib.Data.List.Basic
import Mathlib.Data.List.TakeDrop
import Mathlib.Tactic.SplitIfs
import CodeGraph.Json.Parser
import CodeGraph.Json.Printer

namespace CodeGraph.Json

/-! ### Strings -/

theorem hexDigit?_hexDigit : ∀ value < 16, hexDigit? (Digest.hexDigit value) = some value := by
  decide

/-- Reading goes over a plain character and adds it. -/
theorem readString_cons {character : Char} (notQuote : character ≠ '"')
    (notBackslash : character ≠ '\\') (notControl : ¬character.toNat < 0x20) (rest : List Char) :
    readString (character :: rest) =
      (readString rest).map fun (text, rest) => (character :: text, rest) := by
  rw [readString.eq_def]
  split
  · next equation => cases equation
  · next equation => exact absurd (List.cons.inj equation).1 notQuote
  · next equation => exact absurd (List.cons.inj equation).1 notBackslash
  · next equation => exact absurd (List.cons.inj equation).1 notBackslash
  · next equation =>
    obtain ⟨rfl, rfl⟩ := List.cons.inj equation
    rw [if_neg (by simp [notControl, notBackslash])]

/-- Reading goes over an escape of two characters and adds the character it stands for. -/
theorem readString_escape {letter character : Char} (escape : simpleEscape? letter = some character)
    (rest : List Char) : readString ('\\' :: letter :: rest) =
      (readString rest).map fun (text, rest) => (character :: text, rest) := by
  have notUnicode : letter ≠ 'u' := by
    rintro rfl
    cases escape
  rw [readString.eq_def]
  split
  · next equation => cases equation
  · next equation => cases equation
  · next equation => exact absurd (List.cons.inj (List.cons.inj equation).2).1 notUnicode
  · next equation =>
    obtain ⟨rfl, rfl⟩ := List.cons.inj (List.cons.inj equation).2
    rw [escape]
  · next notEscape equation =>
    obtain ⟨same, others⟩ := List.cons.inj equation
    exact (notEscape letter rest same.symm others.symm).elim

/-- Reading goes over the escape of a control character and adds that character. -/
theorem readString_unicodeEscape {character : Char} (isControl : character.toNat < 0x20)
    (rest : List Char) :
    readString ('\\' :: 'u' :: '0' :: '0' :: Digest.hexDigit (character.toNat / 16) ::
        Digest.hexDigit (character.toNat % 16) :: rest) =
      (readString rest).map fun (text, rest) => (character :: text, rest) := by
  have unit : hexFour? '0' '0' (Digest.hexDigit (character.toNat / 16))
      (Digest.hexDigit (character.toNat % 16)) = some character.toNat := by
    have zero : hexDigit? '0' = some 0 := by decide
    rw [hexFour?, zero, hexDigit?_hexDigit _ (by omega), hexDigit?_hexDigit _ (by omega)]
    show some _ = some _
    congr 1
    omega
  rw [readString, unit]
  simp only
  rw [if_neg (by omega), if_neg (by omega), Char.ofNat_toNat]

/-- A character is read as it is written within a string. -/
theorem readString_escapedCharacter (character : Char) (rest : List Char) :
    readString (escapedCharacter character ++ rest) =
      (readString rest).map fun (text, rest) => (character :: text, rest) := by
  unfold escapedCharacter
  split_ifs with quote backslash backspace formFeed newline carriageReturn tab control
  · subst quote
    exact readString_escape (by decide) rest
  · subst backslash
    exact readString_escape (by decide) rest
  · subst backspace
    exact readString_escape (by decide) rest
  · subst formFeed
    exact readString_escape (by decide) rest
  · subst newline
    exact readString_escape (by decide) rest
  · subst carriageReturn
    exact readString_escape (by decide) rest
  · subst tab
    exact readString_escape (by decide) rest
  · exact readString_unicodeEscape control rest
  · exact readString_cons quote backslash control rest

/-- The inside of a string is read up to its closing quote. -/
theorem readString_flatMap (text rest : List Char) :
    readString (text.flatMap escapedCharacter ++ '"' :: rest) = some (text, rest) := by
  induction text with
  | nil => rw [List.flatMap_nil, List.nil_append, readString]
  | cons character text inductionHypothesis =>
    rw [List.flatMap_cons, List.append_assoc, readString_escapedCharacter, inductionHypothesis]
    rfl

theorem not_control_of_mem_escapedCharacter {character written : Char}
    (member : written ∈ escapedCharacter character) : 0x20 ≤ written.toNat := by
  have digit : ∀ value < 16, 0x20 ≤ (Digest.hexDigit value).toNat := by decide
  have pair (letter : Char) (plain : 0x20 ≤ letter.toNat) (inPair : written ∈ ['\\', letter]) :
      0x20 ≤ written.toNat := by
    rcases List.mem_cons.mp inPair with rfl | last
    · decide
    · exact List.mem_singleton.mp last ▸ plain
  unfold escapedCharacter at member
  split_ifs at member with quote backslash backspace formFeed newline carriageReturn tab control
  · exact pair _ (by decide) member
  · exact pair _ (by decide) member
  · exact pair _ (by decide) member
  · exact pair _ (by decide) member
  · exact pair _ (by decide) member
  · exact pair _ (by decide) member
  · exact pair _ (by decide) member
  · have high := digit (character.toNat / 16) (by omega)
    have low := digit (character.toNat % 16) (by omega)
    simp only [List.mem_cons, List.not_mem_nil, or_false] at member
    rcases member with rfl | rfl | rfl | rfl | rfl | rfl
    · decide
    · decide
    · decide
    · decide
    · exact high
    · exact low
  · rw [List.mem_singleton.mp member]
    omega

/-- What is written for a string holds no control character. -/
theorem not_control_of_mem_printString {text : String} {character : Char}
    (member : character ∈ printString text) : 0x20 ≤ character.toNat := by
  rw [printString, List.mem_append, List.mem_cons, List.mem_singleton] at member
  rcases member with (rfl | inside) | rfl
  · decide
  · obtain ⟨source, _, isWritten⟩ := List.mem_flatMap.mp inside
    exact not_control_of_mem_escapedCharacter isWritten
  · decide

/-! ### Integers -/

/-- What can follow a number: no digit, point or exponent. -/
def EndsNumber (rest : List Char) : Prop :=
  ∀ character ∈ rest.head?, character.isDigit = false ∧ character ≠ '.' ∧ character ≠ 'e' ∧
    character ≠ 'E'

/-- Digits are read up to where the number ends. -/
theorem readDigits_append {digits rest : List Char} (nonempty : digits ≠ [])
    (areDigits : ∀ digit ∈ digits, digit.isDigit) (ends : EndsNumber rest) :
    readDigits (digits ++ rest) = some (digits, rest) := by
  have stop : rest.takeWhile Char.isDigit = [] ∧ rest.dropWhile Char.isDigit = rest := by
    cases rest with
    | nil => exact ⟨rfl, rfl⟩
    | cons first others =>
      have notDigit := (ends first rfl).1
      exact ⟨List.takeWhile_cons_of_neg (by simp [notDigit]),
        List.dropWhile_cons_of_neg (by simp [notDigit])⟩
  rw [readDigits, List.span_eq_takeWhile_dropWhile, List.takeWhile_append_of_pos areDigits,
    List.dropWhile_append_of_pos areDigits, stop.1, stop.2, List.append_nil]
  cases digits with
  | nil => exact absurd rfl nonempty
  | cons digit others => rfl

/-- The digits of a natural number write it down. -/
theorem digitsToNat_toDigits (value : Nat) : digitsToNat (Nat.toDigits 10 value) = value := by
  have same : digitsToNat (Nat.toDigits 10 value) =
      Nat.ofDigitChars 10 (Nat.toDigits 10 value) 0 := by
    unfold digitsToNat Nat.ofDigitChars
    simp only [Nat.mul_comm]
  rw [same, Nat.ofDigitChars_toDigits (by decide) (by decide)]

/-- Only zero is written with a leading zero. -/
theorem head?_toDigits_ne_zero {value : Nat} (positive : value ≠ 0) :
    (Nat.toDigits 10 value).head? ≠ some '0' := by
  induction value using Nat.strongRecOn with
  | _ value inductionHypothesis =>
    rw [Nat.toDigits_eq_if (by decide)]
    split
    · next small =>
      exact (by decide : ∀ digit < 10, digit ≠ 0 → [Nat.digitChar digit].head? ≠ some '0')
        value small positive
    · rw [List.head?_append_of_ne_nil _ Nat.toDigits_ne_nil]
      exact inductionHypothesis (value / 10) (by omega) (by omega)

theorem readWhole_toDigits (value : Nat) {rest : List Char} (ends : EndsNumber rest) :
    readWhole (Nat.toDigits 10 value ++ rest) = some (Nat.toDigits 10 value, rest) := by
  by_cases isZero : value = 0
  · subst isZero
    have notDigit : rest.head?.any Char.isDigit = false := by
      cases rest with
      | nil => rfl
      | cons first others => exact (ends first rfl).1
    show (if rest.head?.any Char.isDigit then none else some (['0'], rest)) = some (['0'], rest)
    rw [notDigit]
    rfl
  · have areDigits : ∀ digit ∈ Nat.toDigits 10 value, digit.isDigit :=
      fun _ => Nat.isDigit_of_mem_toDigits (by decide) (by decide)
    have digits := readDigits_append Nat.toDigits_ne_nil areDigits ends
    unfold readWhole
    split
    · next others equation =>
      have head := congrArg List.head? equation
      rw [List.head?_append_of_ne_nil _ Nat.toDigits_ne_nil] at head
      exact absurd head (head?_toDigits_ne_zero isZero)
    · exact digits

theorem readFraction_of_ends {rest : List Char} (ends : EndsNumber rest) :
    readFraction rest = some ([], rest) := by
  unfold readFraction
  split
  · exact absurd rfl (ends _ rfl).2.1
  · rfl

theorem readExponent_of_ends {rest : List Char} (ends : EndsNumber rest) :
    readExponent rest = some ([], rest) := by
  unfold readExponent
  split
  · next mark others =>
    have ⟨_, _, notSmall, notLarge⟩ := ends mark rfl
    rw [if_neg (by simp [notSmall, notLarge])]
  · rfl

/-- A natural number is read as it is written, behind a sign or without one. -/
theorem readNumber_toDigits (value : Nat) {rest : List Char} (ends : EndsNumber rest) :
    readNumber (Nat.toDigits 10 value ++ rest) = some (.integer value, rest) ∧
      readNumber ('-' :: Nat.toDigits 10 value ++ rest) = some (.integer (-value), rest) := by
  have noSign : ∀ others, Nat.toDigits 10 value ++ rest ≠ '-' :: others := by
    intro others same
    have head := congrArg List.head? same
    rw [List.head?_append_of_ne_nil _ Nat.toDigits_ne_nil] at head
    have isDigit : '-'.isDigit := Nat.isDigit_of_mem_toDigits (by decide) (by decide)
      (List.mem_of_head? head)
    exact absurd isDigit (by decide)
  constructor
  · unfold readNumber
    split
    next sign unsigned equation =>
      split at equation
      · next others isSigned => exact absurd isSigned (noSign others)
      · obtain ⟨rfl, rfl⟩ := Prod.mk.inj equation
        simp only [readWhole_toDigits value ends, readFraction_of_ends ends,
          readExponent_of_ends ends, Option.bind_eq_bind, Option.bind_some, digitsToNat_toDigits]
        rfl
  · unfold readNumber
    rw [List.cons_append]
    simp only [readWhole_toDigits value ends, readFraction_of_ends ends, readExponent_of_ends ends,
      Option.bind_eq_bind, Option.bind_some, digitsToNat_toDigits]
    rfl

/-- An integer is read as it is written. -/
theorem readNumber_toString (value : Int) {rest : List Char} (ends : EndsNumber rest) :
    readNumber ((toString value).toList ++ rest) = some (.integer value, rest) := by
  rw [Int.toString_eq_repr, Int.repr_eq_if]
  split
  · next positive =>
    rw [Nat.toList_repr, (readNumber_toDigits _ ends).1, Int.toNat_of_nonneg positive]
  · next negative =>
    rw [String.toList_append, Nat.toList_repr]
    show readNumber ('-' :: Nat.toDigits 10 (-value).toNat ++ rest) = _
    rw [(readNumber_toDigits _ ends).2, Int.toNat_of_nonneg (by omega), Int.neg_neg]

end CodeGraph.Json
