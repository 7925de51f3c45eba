/-
This file proves that texts are ordered like their bytes.

Two lists of bytes are compared at the first byte in which they differ, and it has to be seen that
this byte decides as the characters do. Of two characters the lesser one has the lesser encoding,
already within the encodings, so that what follows them does not count. For well-formed sequences
of the same length this goes byte by byte, as the code points are put together from the payloads in
that order; a shorter sequence has a lesser first byte (`StandFor.append_lt_append`). From
character to character it carries over to texts. Since both orders are total, the converse follows.
-/
import CodeGraph.Proofs.Text.Utf8

namespace CodeGraph.Text.Utf8

/-! ### Characters -/

theorem cons_lt_cons_of_toNat_lt {first other : UInt8} (less : first.toNat < other.toNat)
    (rest others : List UInt8) : first :: rest < other :: others :=
  List.cons_lt_cons_iff.mpr (.inl less)

/-- Bytes that continue behind the same byte are compared from there on, those behind a lesser one
are not compared any more. -/
theorem cons_lt_cons_of_toNat_le {first other : UInt8} {rest others : List UInt8}
    (below : first.toNat ≤ other.toNat) (behind : first.toNat = other.toNat → rest < others) :
    first :: rest < other :: others := by
  rcases Nat.lt_or_eq_of_le below with less | same
  · exact cons_lt_cons_of_toNat_lt less rest others
  · exact List.cons_lt_cons_iff.mpr (.inr ⟨UInt8.toNat_inj.mp same, behind same⟩)

/-- A sequence that stands for a lesser code point is less, whatever follows the two. -/
theorem StandFor.append_lt_append {bytes others : List UInt8} {value greater : Nat}
    (stand : StandFor bytes value) (otherStand : StandFor others greater) (less : value < greater)
    (rest behind : List UInt8) : bytes ++ rest < others ++ behind := by
  have valid := otherStand.isValidChar
  cases stand with
  | one ascii =>
    cases otherStand with
    | one _ => exact cons_lt_cons_of_toNat_lt less _ _
    | two low _ _ => exact cons_lt_cons_of_toNat_lt (by omega) _ _
    | three low _ _ _ => exact cons_lt_cons_of_toNat_lt (by omega) _ _
    | four low _ _ _ _ => exact cons_lt_cons_of_toNat_lt (by omega) _ _
  | two low high isSecond =>
    have second := toNat_of_isContinuation isSecond
    cases otherStand with
    | one ascii => omega
    | two otherLow otherHigh otherSecond =>
      have otherPayload := toNat_of_isContinuation otherSecond
      refine cons_lt_cons_of_toNat_le (by omega) fun sameFirst => ?_
      exact cons_lt_cons_of_toNat_lt (by omega) _ _
    | three otherLow _ _ _ => exact cons_lt_cons_of_toNat_lt (by omega) _ _
    | four otherLow _ _ _ _ => exact cons_lt_cons_of_toNat_lt (by omega) _ _
  | three low high isSecond isThird =>
    have ⟨continues, lowest, _⟩ := isSecondOfThree_iff.mp isSecond
    have second := toNat_of_isContinuation continues
    have third := toNat_of_isContinuation isThird
    cases otherStand with
    | one ascii => omega
    | two otherLow otherHigh otherSecond =>
      have otherPayload := toNat_of_isContinuation otherSecond
      omega
    | three otherLow otherHigh otherSecond otherThird =>
      have secondPayload := toNat_of_isContinuation (isSecondOfThree_iff.mp otherSecond).1
      have thirdPayload := toNat_of_isContinuation otherThird
      refine cons_lt_cons_of_toNat_le (by omega) fun sameFirst => ?_
      refine cons_lt_cons_of_toNat_le (by omega) fun sameSecond => ?_
      exact cons_lt_cons_of_toNat_lt (by omega) _ _
    | four otherLow _ _ _ _ => exact cons_lt_cons_of_toNat_lt (by omega) _ _
  | four low high isSecond isThird isFourth =>
    have ⟨continues, lowest, _⟩ := isSecondOfFour_iff.mp isSecond
    have second := toNat_of_isContinuation continues
    have third := toNat_of_isContinuation isThird
    have fourth := toNat_of_isContinuation isFourth
    cases otherStand with
    | one ascii => omega
    | two otherLow otherHigh otherSecond =>
      have otherPayload := toNat_of_isContinuation otherSecond
      omega
    | three otherLow otherHigh otherSecond otherThird =>
      have secondPayload := toNat_of_isContinuation (isSecondOfThree_iff.mp otherSecond).1
      have thirdPayload := toNat_of_isContinuation otherThird
      omega
    | four otherLow otherHigh otherSecond otherThird otherFourth =>
      have secondPayload := toNat_of_isContinuation (isSecondOfFour_iff.mp otherSecond).1
      have thirdPayload := toNat_of_isContinuation otherThird
      have fourthPayload := toNat_of_isContinuation otherFourth
      refine cons_lt_cons_of_toNat_le (by omega) fun sameFirst => ?_
      refine cons_lt_cons_of_toNat_le (by omega) fun sameSecond => ?_
      refine cons_lt_cons_of_toNat_le (by omega) fun sameThird => ?_
      exact cons_lt_cons_of_toNat_lt (by omega) _ _

theorem utf8EncodeChar_append_lt_append {character other : Char} (less : character < other)
    (rest behind : List UInt8) :
    String.utf8EncodeChar character ++ rest < String.utf8EncodeChar other ++ behind :=
  (standFor_utf8EncodeChar character).append_lt_append (standFor_utf8EncodeChar other) less rest
    behind

/-! ### Texts -/

theorem flatMap_lt_of_lt {characters others : List Char} (less : characters < others) :
    characters.flatMap String.utf8EncodeChar < others.flatMap String.utf8EncodeChar := by
  induction less with
  | nil =>
    next other rest =>
    have ⟨first, behind, spelled⟩ :=
      List.exists_cons_of_ne_nil (String.utf8EncodeChar_ne_nil : String.utf8EncodeChar other ≠ [])
    rw [List.flatMap_nil, List.flatMap_cons, spelled]
    exact List.Lex.nil
  | cons _ inductionHypothesis => exact List.append_left_lt inductionHypothesis
  | rel less => exact utf8EncodeChar_append_lt_append less _ _

theorem encode_lt_of_lt {left right : String} (less : left < right) :
    encode left < encode right := by
  rw [encode_eq_flatMap, encode_eq_flatMap]
  exact flatMap_lt_of_lt less

/-- Texts are ordered like their bytes. -/
theorem encode_le_encode_iff {left right : String} :
    encode left ≤ encode right ↔ left ≤ right := by
  constructor
  · intro below
    exact String.not_lt.mp fun above => below (encode_lt_of_lt above)
  · intro below less
    have notSame : left ≠ right := fun same => List.lt_irrefl _ (same ▸ less)
    exact List.lt_asymm less (encode_lt_of_lt (Std.lt_of_le_of_ne below notSame))

/-- Comparing texts is comparing their bytes. -/
theorem isLE_compare_iff {left right : String} :
    (Ord.compare left right).isLE ↔ encode left ≤ encode right := by
  rw [encode_le_encode_iff]
  exact isLE_compareOfLessAndEq String.le_antisymm String.not_le String.le_total

theorem length_encode (text : String) : (encode text).length = text.utf8ByteSize := by
  rw [encode, String.toUTF8_eq_toByteArray, toByteArray_eq_utf8Encode, ByteArray.toList,
    toList_loop_eq, List.drop_zero, List.reverse_nil, List.nil_append, Array.length_toList]
  rw [← toByteArray_eq_utf8Encode]
  rfl

end CodeGraph.Text.Utf8
