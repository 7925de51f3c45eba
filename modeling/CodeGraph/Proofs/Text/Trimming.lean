/-
This file proves what is left of a text whose ends are cut off.

A start that is removed again and again is removed exactly as often as it stands there. Every text
is some repetitions of a start and a rest that does not begin with it, by induction on the length
(`exists_replicate_append`); the fuel of the search is the length of the text, and each repetition
of a start that is not empty takes some of it. Ends are starts of the reversed text.

Characters are removed while they satisfy a test, and the equations for that say what happens to a
text in front of which or behind which such characters stand. Conversely a text is what trimming
leaves of it between characters that are removed (`exists_trimWhere_between`). Together these show
that blanks around a text do not change its pieces once they are trimmed themselves: what stands in
front belongs to the first piece and what stands behind to the last one, as a blank is no
separator.
-/
import Mathlib.Data.List.TakeWhile
import CodeGraph.Proofs.Text.Pieces

namespace CodeGraph.Text

/-! ### Repeated starts and ends -/

theorem afterStart?_eq_none_iff {start text : List Char} :
    afterStart? start text = none ↔ ¬ start <+: text := by
  rw [Option.eq_none_iff_forall_ne_some, List.IsPrefix, not_exists]
  exact forall_congr' fun rest => not_congr (afterStart?_eq_some_iff.trans eq_comm)

/-- With enough fuel a start is removed as often as it stands at the front. -/
theorem dropStarts_replicate_append {start rest : List Char} {count fuel : Nat}
    (enough : count ≤ fuel) (ended : ¬ start <+: rest) :
    dropStarts start fuel ((List.replicate count start).flatten ++ rest) = rest := by
  induction fuel generalizing count with
  | zero =>
    obtain rfl := Nat.le_zero.mp enough
    rfl
  | succ fuel inductionHypothesis =>
    rw [dropStarts]
    cases count with
    | zero =>
      rw [List.replicate_zero, List.flatten_nil, List.nil_append, afterStart?_eq_none_iff.mpr ended]
    | succ count =>
      rw [List.replicate_succ, List.flatten_cons, List.append_assoc,
        afterStart?_eq_some_iff.mpr rfl]
      exact inductionHypothesis (Nat.le_of_succ_le_succ enough)

section Starts

variable {start : List Char} (nonempty : start ≠ [])
include nonempty

theorem trimStarts_replicate_append (count : Nat) {rest : List Char} (ended : ¬ start <+: rest) :
    trimStarts start ((List.replicate count start).flatten ++ rest) = rest := by
  refine dropStarts_replicate_append ?_ ended
  have hasLength := List.length_pos_iff.mpr nonempty
  have enough := Nat.le_mul_of_pos_right count hasLength
  rw [List.length_append, List.length_flatten, List.map_replicate, List.sum_replicate_nat]
  omega

theorem trimStarts_eq_self {text : List Char} (ended : ¬ start <+: text) :
    trimStarts start text = text := trimStarts_replicate_append nonempty 0 ended

/-- Every text is some repetitions of a start and what is left without them. -/
theorem exists_replicate_append (text : List Char) :
    ∃ count rest, text = (List.replicate count start).flatten ++ rest ∧ ¬ start <+: rest := by
  induction size : text.length using Nat.strongRecOn generalizing text with
  | ind _ inductionHypothesis =>
    by_cases starts : start <+: text
    · obtain ⟨behind, rfl⟩ := starts
      have hasLength := List.length_pos_iff.mpr nonempty
      rw [List.length_append] at size
      obtain ⟨count, rest, rfl, ended⟩ := inductionHypothesis _ (by omega) behind rfl
      exact ⟨count + 1, rest, by simp [List.replicate_succ], ended⟩
    · exact ⟨0, text, rfl, starts⟩

end Starts

theorem trimEndings_eq_self {ending text : List Char} (nonempty : ending ≠ [])
    (ended : ¬ ending <:+ text) : trimEndings ending text = text := by
  have noEnding : ¬ ending.reverse <+: text.reverse := mt List.reverse_prefix.mp ended
  rw [trimEndings, trimStarts_eq_self (mt List.reverse_eq_nil_iff.mp nonempty) noEnding,
    List.reverse_reverse]

theorem trimEndings_append {ending text : List Char} (nonempty : ending ≠ [])
    (ended : ¬ ending <:+ text) : trimEndings ending (text ++ ending) = text := by
  have noEnding : ¬ ending.reverse <+: text.reverse := mt List.reverse_prefix.mp ended
  have once := trimStarts_replicate_append (mt List.reverse_eq_nil_iff.mp nonempty) 1 noEnding
  rw [List.replicate_one, List.flatten_singleton] at once
  rw [trimEndings, List.reverse_append, once, List.reverse_reverse]

/-! ### Characters at the ends -/

section Ends

variable {drop : Char → Bool} {text front back : List Char}

theorem dropEndWhile_append (dropped : ∀ character ∈ back, drop character = true) :
    dropEndWhile drop (text ++ back) = dropEndWhile drop text := by
  rw [dropEndWhile, List.reverse_append, List.dropWhile_append_of_pos fun character member =>
    dropped character (List.mem_reverse.mp member), dropEndWhile]

theorem dropEndWhile_eq_self (kept : ∀ last ∈ text.getLast?, drop last = false) :
    dropEndWhile drop text = text := by
  rcases List.eq_nil_or_concat text with rfl | ⟨before, last, rfl⟩
  · rfl
  · have isKept := kept last (by simp)
    simp [dropEndWhile, isKept]

/-- A text without characters to be removed is not changed by trimming. -/
theorem trimWhere_eq_self (kept : ∀ character ∈ text, drop character = false) :
    trimWhere drop text = text := by
  have noStart : text.dropWhile drop = text :=
    List.dropWhile_eq_self_iff.mpr fun isLong =>
      Bool.eq_false_iff.mp (kept _ (List.getElem_mem isLong))
  rw [trimWhere, noStart]
  exact dropEndWhile_eq_self fun last isLast => kept last (List.mem_of_getLast? isLast)

/-- Behind characters that are kept only the end is trimmed. -/
theorem trimWhere_append_of_kept (nonempty : front ≠ [])
    (kept : ∀ character ∈ front, drop character = false) :
    trimWhere drop (front ++ text) = front ++ dropEndWhile drop text := by
  obtain ⟨first, rest, rfl⟩ := List.exists_cons_of_ne_nil nonempty
  have isKept := kept first List.mem_cons_self
  have noStart : (first :: rest ++ text).dropWhile drop = first :: rest ++ text := by
    rw [List.cons_append, List.dropWhile_cons, isKept]
    rfl
  have noEnd : (first :: rest).reverse.dropWhile drop = (first :: rest).reverse :=
    List.dropWhile_eq_self_iff.mpr fun isLong => Bool.eq_false_iff.mp
      (kept _ (List.mem_reverse.mp (List.getElem_mem isLong)))
  rw [trimWhere, noStart, dropEndWhile, List.reverse_append, List.dropWhile_append, noEnd,
    dropEndWhile]
  split
  · next nothing => rw [List.isEmpty_iff.mp nothing, List.reverse_reverse]; simp
  · rw [List.reverse_append, List.reverse_reverse]

theorem trimWhere_append_left (dropped : ∀ character ∈ front, drop character = true) :
    trimWhere drop (front ++ text) = trimWhere drop text := by
  rw [trimWhere, List.dropWhile_append_of_pos dropped, trimWhere]

theorem trimWhere_append_right (dropped : ∀ character ∈ back, drop character = true) :
    trimWhere drop (text ++ back) = trimWhere drop text := by
  rw [trimWhere, trimWhere, List.dropWhile_append]
  split
  · next nothing =>
    rw [List.isEmpty_iff.mp nothing, ← List.nil_append (back.dropWhile drop)]
    exact dropEndWhile_append fun character member =>
      dropped character ((List.dropWhile_sublist drop).subset member)
  · exact dropEndWhile_append dropped

variable (drop text) in
/-- A text is what trimming leaves of it between characters that are removed. -/
theorem exists_trimWhere_between :
    ∃ front back, text = front ++ trimWhere drop text ++ back ∧
      (∀ character ∈ front, drop character = true) ∧
      ∀ character ∈ back, drop character = true := by
  refine ⟨text.takeWhile drop, ((text.dropWhile drop).reverse.takeWhile drop).reverse, ?_,
    fun character member => List.mem_takeWhile_imp member,
    fun character member => List.mem_takeWhile_imp (List.mem_reverse.mp member)⟩
  have ends : trimWhere drop text ++ ((text.dropWhile drop).reverse.takeWhile drop).reverse =
      text.dropWhile drop := by
    rw [trimWhere, dropEndWhile, ← List.reverse_append, List.takeWhile_append_dropWhile,
      List.reverse_reverse]
  rw [List.append_assoc, ends, List.takeWhile_append_dropWhile]

/-- Nothing is left exactly of a text in which every character is removed. -/
theorem trimWhere_eq_nil_iff :
    trimWhere drop text = [] ↔ ∀ character ∈ text, drop character = true := by
  constructor
  · intro nothing
    obtain ⟨front, back, spelled, frontDropped, backDropped⟩ := exists_trimWhere_between drop text
    rw [nothing, List.append_nil] at spelled
    exact spelled ▸ List.forall_mem_append.mpr ⟨frontDropped, backDropped⟩
  · intro dropped
    have removed : trimWhere drop (text ++ []) = trimWhere drop [] := trimWhere_append_left dropped
    rwa [List.append_nil] at removed

end Ends

/-! ### Pieces between blanks -/

variable {isSeparator : Char → Bool}

/-- Characters in front of a text that do not separate belong to its first piece. -/
theorem exists_piecesWhere_append_left {front : List Char}
    (plain : ∀ character ∈ front, isSeparator character = false) (text : List Char) :
    ∃ first others, piecesWhere isSeparator text = first :: others ∧
      piecesWhere isSeparator (front ++ text) = (front ++ first) :: others := by
  obtain ⟨first, others, pieces⟩ := List.exists_cons_of_ne_nil (piecesWhere_ne_nil isSeparator text)
  refine ⟨first, others, pieces, ?_⟩
  induction front with
  | nil => exact pieces
  | cons character front inductionHypothesis =>
    have ⟨isPlain, restPlain⟩ := List.forall_mem_cons.mp plain
    rw [List.cons_append, piecesWhere, isPlain, inductionHypothesis restPlain]
    rfl

/-- Characters behind a text that do not separate belong to its last piece. -/
theorem exists_piecesWhere_append_right {back : List Char}
    (plain : ∀ character ∈ back, isSeparator character = false) (text : List Char) :
    ∃ others last, piecesWhere isSeparator text = others ++ [last] ∧
      piecesWhere isSeparator (text ++ back) = others ++ [last ++ back] := by
  induction text with
  | nil => exact ⟨[], [], rfl, piecesWhere_eq_singleton plain⟩
  | cons character text inductionHypothesis =>
    obtain ⟨others, last, pieces, longer⟩ := inductionHypothesis
    rw [List.cons_append, piecesWhere, piecesWhere, pieces, longer]
    by_cases separates : isSeparator character = true
    · exact ⟨[] :: others, last, by simp [separates], by simp [separates]⟩
    · cases others with
      | nil => exact ⟨[], character :: last, by simp [separates], by simp [separates]⟩
      | cons first others =>
        exact ⟨(character :: first) :: others, last, by simp [separates], by simp [separates]⟩

/-- Trimming a text does not change its trimmed pieces, if nothing that is removed separates. -/
theorem map_trimWhere_piecesWhere {drop : Char → Bool}
    (plain : ∀ character, drop character = true → isSeparator character = false)
    (text : List Char) :
    (piecesWhere isSeparator (trimWhere drop text)).map (trimWhere drop) =
      (piecesWhere isSeparator text).map (trimWhere drop) := by
  obtain ⟨front, back, spelled, frontDropped, backDropped⟩ := exists_trimWhere_between drop text
  obtain ⟨first, others, withoutFront, withFront⟩ := exists_piecesWhere_append_left
    (fun character member => plain character (frontDropped character member)) (trimWhere drop text)
  obtain ⟨before, last, withoutBack, withBack⟩ := exists_piecesWhere_append_right
    (fun character member => plain character (backDropped character member))
    (front ++ trimWhere drop text)
  calc (piecesWhere isSeparator (trimWhere drop text)).map (trimWhere drop)
      = (piecesWhere isSeparator (front ++ trimWhere drop text)).map (trimWhere drop) := by
        rw [withoutFront, withFront, List.map_cons, List.map_cons,
          trimWhere_append_left frontDropped]
    _ = (piecesWhere isSeparator (front ++ trimWhere drop text ++ back)).map (trimWhere drop) := by
        rw [withoutBack, withBack, List.map_append, List.map_append, List.map_singleton,
          List.map_singleton, trimWhere_append_right backDropped]
    _ = (piecesWhere isSeparator text).map (trimWhere drop) := by rw [← spelled]

end CodeGraph.Text
