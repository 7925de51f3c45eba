/-
This file proves that pieces can be joined and cut apart again. The searches for a separator run
over the characters of a text, and so do the inductions; what they give is then stated without a
search.

Of a separator that is one character everything follows from two facts: it keeps the pieces before
it and behind it apart (`piecesWhere_append_cons`), and a text without separators is one piece.
With a longer separator a piece could hold the beginning of it, or two occurrences could overlap;
it is enough that no piece holds the first character of the separator, for then it is found where
it stands and not before (`piecesOn_intercalate`). In the same way what is looked for first is
found where it was put, if the text before it lacks its first character, or if the part before its
last character and the text before it both lack that one.

The second half is about paths. A segment holds no separator and is not empty, so segments that are
joined with slashes are the segments of the result (`segments_joinPieces_eq`), and two paths have
the same normal spelling exactly if they have the same segments (`normalize_eq_iff`). The name of a
file is the last segment its path is put together from, and the stem of a name is what stands
before its first dot, unless the name starts with one (`isStem_iff`).
-/
import Mathlib.Data.List.TakeDrop
import CodeGraph.Path

namespace CodeGraph

/-! ### Pieces of a text -/

namespace Text

/-- The pieces are those that the library cuts a list into. -/
theorem piecesWhere_eq_splitOnP (isSeparator : Char → Bool) (text : List Char) :
    piecesWhere isSeparator text = text.splitOnP isSeparator := by
  induction text with
  | nil => rfl
  | cons character rest inductionHypothesis =>
    rw [piecesWhere, List.splitOnP_cons_eq_if_modifyHead, inductionHypothesis]
    cases pieces : rest.splitOnP isSeparator with
    | nil => exact absurd pieces (List.splitOnP_ne_nil isSeparator rest)
    | cons piece others => rfl

/-- A separator between two texts keeps their pieces apart. -/
theorem piecesWhere_append_cons {isSeparator : Char → Bool} {separator : Char}
    (separates : isSeparator separator = true) (before after : List Char) :
    piecesWhere isSeparator (before ++ separator :: after) =
      piecesWhere isSeparator before ++ piecesWhere isSeparator after := by
  induction before with
  | nil => simp [piecesWhere, separates]
  | cons character rest inductionHypothesis =>
    rw [List.cons_append, piecesWhere, inductionHypothesis, piecesWhere]
    cases pieces : piecesWhere isSeparator rest with
    | nil => exact absurd pieces (piecesWhere_ne_nil isSeparator rest)
    | cons piece others =>
      split
      · rfl
      · rfl

/-- A text without separators is one piece. -/
theorem piecesWhere_eq_singleton {isSeparator : Char → Bool} {text : List Char}
    (plain : ∀ character ∈ text, isSeparator character = false) :
    piecesWhere isSeparator text = [text] := by
  induction text with
  | nil => rfl
  | cons character rest inductionHypothesis =>
    have notFirst := plain character List.mem_cons_self
    rw [piecesWhere, inductionHypothesis fun other member => plain other (.tail _ member)]
    simp [notFirst]

theorem piecesAt_append_cons (separator : Char) (before after : List Char) :
    piecesAt separator (before ++ separator :: after) =
      piecesAt separator before ++ piecesAt separator after :=
  @piecesWhere_append_cons (· == separator) separator (beq_self_eq_true separator) before after

theorem piecesAt_eq_singleton {separator : Char} {text : List Char} (plain : separator ∉ text) :
    piecesAt separator text = [text] :=
  piecesWhere_eq_singleton fun _ inside => beq_false_of_ne fun same => plain (same ▸ inside)

/-- Pieces without separators are joined to a text that has them as its pieces. -/
theorem piecesAt_joinPieces {separator : Char} {pieces : List (List Char)}
    (nonempty : pieces ≠ []) (plain : ∀ piece ∈ pieces, separator ∉ piece) :
    piecesAt separator (joinPieces separator pieces) = pieces := by
  induction pieces with
  | nil => exact absurd rfl nonempty
  | cons piece rest inductionHypothesis =>
    have first := piecesAt_eq_singleton (plain piece List.mem_cons_self)
    cases rest with
    | nil => exact first
    | cons next others =>
      have behind := inductionHypothesis (List.cons_ne_nil next others)
        fun other member => plain other (.tail _ member)
      rw [joinPieces, piecesAt_append_cons, first, behind, List.singleton_append]

/-- Separators at the start of a text cut off nothing but empty pieces. -/
theorem filter_piecesAt_replicate_append (separator : Char) (count : Nat) (text : List Char) :
    (piecesAt separator (List.replicate count separator ++ text)).filter (!·.isEmpty) =
      (piecesAt separator text).filter (!·.isEmpty) := by
  induction count with
  | zero => rfl
  | succ count inductionHypothesis =>
    have first := piecesAt_append_cons separator [] (List.replicate count separator ++ text)
    rw [List.nil_append] at first
    rw [List.replicate_succ, List.cons_append, first, List.filter_append, inductionHypothesis]
    rfl

/-- Between two groups of pieces stands one separator. -/
theorem joinPieces_append {separator : Char} {front back : List (List Char)}
    (frontNonempty : front ≠ []) (backNonempty : back ≠ []) :
    joinPieces separator (front ++ back) =
      joinPieces separator front ++ separator :: joinPieces separator back := by
  induction front with
  | nil => exact absurd rfl frontNonempty
  | cons piece rest inductionHypothesis =>
    cases rest with
    | nil =>
      obtain ⟨next, others, rfl⟩ := List.exists_cons_of_ne_nil backNonempty
      rfl
    | cons next others =>
      rw [List.cons_append, List.cons_append, joinPieces, ← List.cons_append,
        inductionHypothesis (List.cons_ne_nil next others), joinPieces, List.append_assoc,
        List.cons_append]

theorem map_joinPieces (change : Char → Char) (separator : Char) (pieces : List (List Char)) :
    (joinPieces separator pieces).map change =
      joinPieces (change separator) (pieces.map (List.map change)) := by
  induction pieces with
  | nil => rfl
  | cons piece rest inductionHypothesis =>
    cases rest with
    | nil => rfl
    | cons next others => simpa [joinPieces] using inductionHypothesis

/-! ### Pieces between longer separators -/

/-- The rest of a separator is skipped. -/
theorem piecesBehind_append_of_length (separator front text : List Char) :
    piecesBehind separator front.length (front ++ text) = piecesBehind separator 0 text := by
  induction front with
  | nil => rfl
  | cons character front inductionHypothesis =>
    rw [List.cons_append, List.length_cons, piecesBehind, if_pos (Nat.succ_pos _),
      Nat.add_sub_cancel, inductionHypothesis]

section PiecesOn

variable {first : Char} {rest piece : List Char} (plain : first ∉ piece)
include plain

/-- A piece without the first character of the separator ends where the separator stands. -/
theorem piecesOn_append_separator (text : List Char) :
    piecesOn (first :: rest) (piece ++ (first :: rest) ++ text) =
      piece :: piecesOn (first :: rest) text := by
  unfold piecesOn
  induction piece with
  | nil =>
    have isHere : (first :: rest).isPrefixOf (first :: (rest ++ text)) = true :=
      List.isPrefixOf_iff_prefix.mpr ⟨text, rfl⟩
    rw [List.nil_append, List.cons_append, piecesBehind, if_neg (Nat.lt_irrefl 0), if_pos isHere,
      List.length_cons, Nat.add_sub_cancel, piecesBehind_append_of_length]
  | cons character piece inductionHypothesis =>
    have ⟨differs, piecePlain⟩ := not_or.mp (mt List.mem_cons.mpr plain)
    have notHere : (first :: rest).isPrefixOf
        (character :: (piece ++ (first :: rest) ++ text)) = false := by
      simp [List.isPrefixOf, differs]
    rw [List.cons_append, List.cons_append, piecesBehind, if_neg (Nat.lt_irrefl 0), notHere,
      inductionHypothesis piecePlain]
    rfl

theorem piecesOn_eq_singleton : piecesOn (first :: rest) piece = [piece] := by
  unfold piecesOn
  induction piece with
  | nil => rfl
  | cons character piece inductionHypothesis =>
    have ⟨differs, piecePlain⟩ := not_or.mp (mt List.mem_cons.mpr plain)
    have notHere : (first :: rest).isPrefixOf (character :: piece) = false := by
      simp [List.isPrefixOf, differs]
    rw [piecesBehind, if_neg (Nat.lt_irrefl 0), notHere, inductionHypothesis piecePlain]
    rfl

end PiecesOn

/-- Texts without the first character of a separator are the pieces of what they are joined to. -/
theorem piecesOn_intercalate {separator : String} {first : Char} {rest : List Char}
    (spelled : separator.toList = first :: rest) {texts : List String} (nonempty : texts ≠ [])
    (plain : ∀ text ∈ texts, first ∉ text.toList) :
    piecesOn separator.toList (separator.intercalate texts).toList = texts.map String.toList := by
  rw [spelled]
  induction texts with
  | nil => exact absurd rfl nonempty
  | cons text others inductionHypothesis =>
    have ⟨isPlain, othersPlain⟩ := List.forall_mem_cons.mp plain
    by_cases last : others = []
    · rw [last, String.intercalate_singleton, piecesOn_eq_singleton isPlain]
      rfl
    · rw [String.intercalate_cons_of_ne_nil last, String.toList_append, String.toList_append,
        spelled, piecesOn_append_separator isPlain, inductionHypothesis last othersPlain,
        List.map_cons]

/-! ### The first and the last separator -/

theorem bne_of_mem_reverse {separator : Char} {text : List Char} (plain : separator ∉ text) :
    ∀ character ∈ text.reverse, (character != separator) = true :=
  fun _ member => bne_iff_ne.mpr fun same => plain (same ▸ List.mem_reverse.mp member)

theorem splitLast?_append_cons {separator : Char} {after : List Char} (plain : separator ∉ after)
    (before : List Char) :
    splitLast? separator (before ++ separator :: after) = some (before, after) := by
  have run := bne_of_mem_reverse plain
  rw [splitLast?, List.span_eq_takeWhile_dropWhile, List.reverse_append, List.reverse_cons,
    List.append_assoc, List.takeWhile_append_of_pos run, List.dropWhile_append_of_pos run]
  simp

theorem splitLast?_eq_none {separator : Char} {text : List Char} (plain : separator ∉ text) :
    splitLast? separator text = none := by
  have run := bne_of_mem_reverse plain
  have nothing : text.reverse.dropWhile (· != separator) = [] := by
    rw [← List.append_nil text.reverse, List.dropWhile_append_of_pos run, List.dropWhile_nil]
  rw [splitLast?, List.span_eq_takeWhile_dropWhile, nothing]

/-- The last separator stands between what is before it and what is behind it. -/
theorem eq_append_of_splitLast? {separator : Char} {text before after : List Char}
    (isSplit : splitLast? separator text = some (before, after)) :
    text = before ++ separator :: after := by
  by_cases hasSeparator : separator ∈ text.reverse
  · obtain ⟨behind, front, spelled, plain⟩ := List.eq_append_cons_of_mem hasSeparator
    have isText : text = front.reverse ++ separator :: behind.reverse := by
      rw [← List.reverse_reverse text, spelled]
      simp
    rw [isText, splitLast?_append_cons (mt List.mem_reverse.mp plain)] at isSplit
    cases isSplit
    exact isText
  · rw [splitLast?_eq_none (mt List.mem_reverse.mpr hasSeparator)] at isSplit
    cases isSplit

/-- What has a character that the text does not have does not occur in it. -/
theorem splitFirst?_eq_none_of_not_mem {wanted text : List Char} {character : Char}
    (inside : character ∈ wanted) (plain : character ∉ text) : splitFirst? wanted text = none := by
  induction text with
  | nil => rw [splitFirst?, if_neg (by simpa using List.ne_nil_of_mem inside)]
  | cons first rest inductionHypothesis =>
    have notHere : ¬ wanted.isPrefixOf (first :: rest) = true := fun isHere =>
      plain ((List.isPrefixOf_iff_prefix.mp isHere).subset inside)
    have restPlain := (not_or.mp (mt List.mem_cons.mpr plain)).2
    rw [splitFirst?, if_neg notHere, inductionHypothesis restPlain, Option.map_none]

theorem splitFirst?_eq_none {wanted : Char} {text : List Char} (plain : wanted ∉ text) :
    splitFirst? [wanted] text = none :=
  splitFirst?_eq_none_of_not_mem (List.mem_singleton_self wanted) plain

/-- What is looked for starts behind the characters that it does not start with. -/
theorem splitFirst?_append_of_head_not_mem {first : Char} {rest before : List Char}
    (plain : first ∉ before) (text : List Char) :
    splitFirst? (first :: rest) (before ++ text) =
      (splitFirst? (first :: rest) text).map fun parts => (before ++ parts.1, parts.2) := by
  induction before with
  | nil => simp
  | cons character before inductionHypothesis =>
    have ⟨differs, beforePlain⟩ := not_or.mp (mt List.mem_cons.mpr plain)
    have notHere : (first :: rest).isPrefixOf (character :: (before ++ text)) = false := by
      simp [List.isPrefixOf, differs]
    rw [List.cons_append, splitFirst?, notHere, inductionHypothesis beforePlain]
    cases splitFirst? (first :: rest) text <;> simp

theorem splitFirst?_append_self {wanted : List Char} (nonempty : wanted ≠ []) (text : List Char) :
    splitFirst? wanted (wanted ++ text) = some ([], wanted ++ text) := by
  obtain ⟨first, rest, rfl⟩ := List.exists_cons_of_ne_nil nonempty
  have isHere : (first :: rest).isPrefixOf (first :: (rest ++ text)) = true :=
    List.isPrefixOf_iff_prefix.mpr ⟨text, rfl⟩
  rw [List.cons_append, splitFirst?, isHere, if_pos rfl]

/-- What is looked for stands first behind the characters that do not hold its last one. -/
theorem splitFirst?_append_of_last_not_mem {front before : List Char} {last : Char}
    (frontPlain : last ∉ front) (beforePlain : last ∉ before) (text : List Char) :
    splitFirst? (front ++ [last]) (before ++ (front ++ [last]) ++ text) =
      some (before, front ++ [last] ++ text) := by
  induction before with
  | nil => exact splitFirst?_append_self (by simp) text
  | cons character before inductionHypothesis =>
    -- Where it stood here, its last character would be one before the place where it does stand.
    have notHere : ¬ front ++ [last] <+: character :: (before ++ (front ++ [last]) ++ text) := by
      intro isHere
      have isShorter : front ++ [last] <+: character :: before ++ front := by
        refine List.prefix_of_prefix_length_le isHere ⟨last :: text, by simp⟩ ?_
        simp only [List.length_append, List.length_cons, List.length_nil]
        omega
      rcases List.mem_append.mp (isShorter.subset (List.mem_append_right front
        (List.mem_singleton_self last))) with inBefore | inFront
      · exact beforePlain inBefore
      · exact frontPlain inFront
    rw [List.cons_append, List.cons_append, splitFirst?,
      if_neg (mt List.isPrefixOf_iff_prefix.mp notHere),
      inductionHypothesis (mt (List.mem_cons_of_mem character) beforePlain), Option.map_some]

theorem beforeFirst_eq_self {wanted text : List Char} {character : Char}
    (inside : character ∈ wanted) (absent : character ∉ text) : beforeFirst wanted text = text := by
  rw [beforeFirst, splitFirst?_eq_none_of_not_mem inside absent, Option.map_none, Option.getD_none]

theorem beforeFirst_append {wanted before : List Char} {first : Char}
    (starts : wanted.head? = some first) (absent : first ∉ before) (text : List Char) :
    beforeFirst wanted (before ++ text) = before ++ beforeFirst wanted text := by
  obtain ⟨rest, rfl⟩ := List.head?_eq_some_iff.mp starts
  rw [beforeFirst, splitFirst?_append_of_head_not_mem absent, beforeFirst]
  cases splitFirst? (first :: rest) text with
  | none => rfl
  | some parts => rfl

end Text

/-! ### Segments of a path -/

namespace Path

open Text

/-- A character that separates the segments of a path. -/
def isSeparator (character : Char) : Bool := character == '/' || character == '\\'

/-- A text that is a segment by itself. -/
def IsSegment (text : List Char) : Prop :=
  isMeaningful text = true ∧ ∀ character ∈ text, isSeparator character = false

theorem IsSegment.segments_ofList {text : List Char} (isSegment : IsSegment text) :
    segments (String.ofList text) = [text] := by
  have pieces : piecesWhere isSeparator text = [text] := piecesWhere_eq_singleton isSegment.2
  show (piecesWhere isSeparator (String.ofList text).toList).filter isMeaningful = [text]
  rw [String.toList_ofList, pieces, List.filter_cons_of_pos isSegment.1, List.filter_nil]

theorem isSegment_of_mem_segments {path : String} {segment : List Char}
    (member : segment ∈ segments path) : IsSegment segment := by
  obtain ⟨isPiece, meaningful⟩ := List.mem_filter.mp member
  exact ⟨meaningful, fun character inside => not_isSeparator_of_mem_piecesWhere isPiece inside⟩

/-- A slash keeps the segments of two paths apart. -/
theorem segments_append_slash (before after : String) :
    segments (before ++ "/" ++ after) = segments before ++ segments after := by
  have slash : (before ++ "/" ++ after).toList = before.toList ++ '/' :: after.toList := by simp
  unfold segments
  rw [slash, piecesWhere_append_cons rfl, List.filter_append]

/-- The segments of joined texts are those of each of them. -/
theorem segments_joinPieces (texts : List (List Char)) :
    segments (String.ofList (joinPieces '/' texts)) =
      texts.flatMap fun text => segments (String.ofList text) := by
  induction texts with
  | nil => rfl
  | cons text rest inductionHypothesis =>
    cases rest with
    | nil => rw [joinPieces, List.flatMap_singleton]
    | cons next others =>
      have joined : String.ofList (joinPieces '/' (text :: next :: others)) =
          String.ofList text ++ "/" ++ String.ofList (joinPieces '/' (next :: others)) := by
        simp [joinPieces, String.append_assoc]
      rw [joined, segments_append_slash, inductionHypothesis]
      rfl

/-- Segments are joined to a path that has them as its segments. -/
theorem segments_joinPieces_eq {texts : List (List Char)}
    (areSegments : ∀ text ∈ texts, IsSegment text) :
    segments (String.ofList (joinPieces '/' texts)) = texts := by
  rw [segments_joinPieces]
  induction texts with
  | nil => rfl
  | cons text rest inductionHypothesis =>
    rw [List.flatMap_cons, (areSegments text List.mem_cons_self).segments_ofList,
      inductionHypothesis fun other member => areSegments other (.tail _ member),
      List.singleton_append]

/-- A path in its normal spelling has the segments of the path. -/
theorem segments_normalize (path : String) : segments (normalize path) = segments path :=
  segments_joinPieces_eq fun _ member => isSegment_of_mem_segments member

/-- Paths have the same normal spelling exactly if they have the same segments. -/
theorem normalize_eq_iff {path other : String} :
    normalize path = normalize other ↔ segments path = segments other := by
  constructor
  · intro same
    rw [← segments_normalize path, same, segments_normalize]
  · intro same
    rw [normalize, same, normalize]

/-! ### Names of files -/

/-- The name of a path that is put together from segments is the last of them. -/
theorem fileName_join (front : List String) {last : String} (noSlash : '/' ∉ last.toList) :
    fileName (Text.join '/' (front ++ [last])) = last := by
  cases front with
  | nil =>
    have alone : Text.join '/' [last] = last := String.ofList_toList
    rw [List.nil_append, alone, fileName, splitLast?_eq_none noSlash]
  | cons segment rest =>
    have joined : (Text.join '/' (segment :: rest ++ [last])).toList =
        joinPieces '/' ((segment :: rest).map String.toList) ++ '/' :: last.toList := by
      rw [Text.join, String.toList_ofList, List.map_append, List.map_singleton, List.map_cons,
        joinPieces_append (List.cons_ne_nil _ _) (List.cons_ne_nil _ _), joinPieces]
    rw [fileName, joined, splitLast?_append_cons noSlash]
    exact String.ofList_toList

/-- A name without dots is its own stem. -/
theorem stem_eq_self {name : String} (noDot : '.' ∉ name.toList) : stem name = name := by
  rw [stem, splitFirst?_eq_none noDot]

theorem stem_append_dot {before : String} (nonempty : before ≠ "") (noDot : '.' ∉ before.toList)
    (rest : String) : stem (before ++ "." ++ rest) = before := by
  have spelled : (before ++ "." ++ rest).toList = before.toList ++ (['.'] ++ rest.toList) := by
    simp [String.toList_append]
  have notEmpty : before.toList.isEmpty = false := by simpa using nonempty
  rw [stem, spelled, splitFirst?_append_of_head_not_mem noDot,
    splitFirst?_append_self (List.cons_ne_nil _ _)]
  simp [notEmpty]

theorem stem_of_startsWithDot {name : String} (starts : name.toList.head? = some '.') :
    stem name = name := by
  obtain ⟨rest, spelled⟩ := List.head?_eq_some_iff.mp starts
  have found : splitFirst? ['.'] ('.' :: rest) = some ([], '.' :: rest) :=
    splitFirst?_append_self (List.cons_ne_nil _ _) rest
  rw [stem, spelled, found]
  rfl

/-- The text of a name before its first dot; the whole name if it has no dot or starts with one. -/
def IsStem (name stem : String) : Prop :=
  stem = name ∧ (name.toList.head? = some '.' ∨ '.' ∉ name.toList) ∨
    stem ≠ "" ∧ '.' ∉ stem.toList ∧ ∃ rest, name = stem ++ "." ++ rest

theorem isStem_iff {name other : String} : IsStem name other ↔ stem name = other := by
  constructor
  · rintro (⟨rfl, starts | noDot⟩ | ⟨nonempty, noDot, rest, rfl⟩)
    · exact stem_of_startsWithDot starts
    · exact stem_eq_self noDot
    · exact stem_append_dot nonempty noDot rest
  · rintro rfl
    by_cases hasDot : '.' ∈ name.toList
    · obtain ⟨before, rest, spelled, noDot⟩ := List.eq_append_cons_of_mem hasDot
      by_cases isFirst : before = []
      · subst isFirst
        have starts : name.toList.head? = some '.' := by rw [spelled]; rfl
        exact .inl ⟨stem_of_startsWithDot starts, .inl starts⟩
      · have named : name = String.ofList before ++ "." ++ String.ofList rest := by
          rw [← String.toList_inj, spelled]
          simp [String.toList_append]
        have nonempty : String.ofList before ≠ "" := by simpa using isFirst
        rw [← String.toList_ofList (l := before)] at noDot
        rw [named, stem_append_dot nonempty noDot]
        exact .inr ⟨nonempty, noDot, _, rfl⟩
    · exact .inl ⟨stem_eq_self hasDot, .inr hasDot⟩

end Path

end CodeGraph
