/-
This file proves that collapsing gives paths a sound normal form.

Collapsing keeps the names on the way from the root, and two dots take the last of them back. It
fails where there is none left. Of the names kept so far only their number matters for that. So
failing is described by counting (`LeadsOut`): in some beginning of the segments, more of them lead
up than names lead down, with the depth at which one starts in favour of the names. For each sort
of segment there is an equation that says what becomes of this condition, and the induction follows
the search along them (`foldl_collapseSegment_eq_none_iff`). What stands behind the place where a
path leads out does not bring it back.

What collapsing gives is put together from names alone, so it is left as it is when it is collapsed
again. A path may be collapsed in two parts, since what is kept of the first part is all that the
second part sees of it (`collapse?_append_slash`).
-/
import CodeGraph.Proofs.Path.Following

namespace CodeGraph.Path

open Text

/-- A segment that is a name: it is not empty, and it is none of the dots that stand for a
directory. -/
def IsOrdinary (segment : List Char) : Prop :=
  segment ≠ [] ∧ segment ≠ ['.'] ∧ segment ≠ ['.', '.']

instance (segment : List Char) : Decidable (IsOrdinary segment) :=
  inferInstanceAs (Decidable (segment ≠ [] ∧ segment ≠ ['.'] ∧ segment ≠ ['.', '.']))

theorem isOrdinary_iff {segment : List Char} :
    IsOrdinary segment ↔ ¬ (segment = [] ∨ segment = ['.']) ∧ segment ≠ ['.', '.'] := by
  rw [IsOrdinary, not_or, and_assoc]

theorem IsPlain.isOrdinary {segment : List Char} (plain : IsPlain segment) : IsOrdinary segment :=
  isOrdinary_iff.mpr ⟨isMeaningful_iff.mp plain.meaningful, plain.notParent⟩

theorem splitOn_eq_piecesAt (separator : Char) (text : List Char) :
    text.splitOn separator = piecesAt separator text :=
  (piecesWhere_eq_splitOnP (· == separator) text).symm

/-! ### Leaving the repository -/

/-- Segments lead above the root from a place at some depth: up to one of them, more lead up than
the depth and the names before allow. -/
def LeadsOut (depth : Nat) (segments : List (List Char)) : Prop :=
  ∃ front, front <+: segments ∧ depth + front.countP (IsOrdinary ·) < front.count ['.', '.']

section LeadsOut

variable {depth : Nat} {segment : List Char} {rest : List (List Char)}

theorem not_leadsOut_nil : ¬ LeadsOut depth [] := by
  rintro ⟨front, isFront, less⟩
  rw [List.prefix_nil.mp isFront] at less
  exact Nat.not_lt_zero _ less

/-- The first segment counts in every beginning that leads out. -/
theorem leadsOut_cons_iff :
    LeadsOut depth (segment :: rest) ↔ ∃ front, front <+: rest ∧
      depth + (segment :: front).countP (IsOrdinary ·) < (segment :: front).count ['.', '.'] := by
  constructor
  · rintro ⟨front, isFront, less⟩
    rcases List.prefix_cons_iff.mp isFront with rfl | ⟨behind, rfl, isBehind⟩
    · exact absurd less (Nat.not_lt_zero _)
    · exact ⟨behind, isBehind, less⟩
  · rintro ⟨front, isFront, less⟩
    exact ⟨segment :: front, List.cons_prefix_cons.mpr ⟨rfl, isFront⟩, less⟩

theorem leadsOut_here_iff (isHere : segment = [] ∨ segment = ['.']) :
    LeadsOut depth (segment :: rest) ↔ LeadsOut depth rest := by
  have notOrdinary : ¬ IsOrdinary segment := fun ordinary => (isOrdinary_iff.mp ordinary).1 isHere
  have notAbove : segment ≠ ['.', '.'] := by rcases isHere with rfl | rfl <;> decide
  rw [leadsOut_cons_iff]
  simp only [List.countP_cons, notOrdinary, List.count_cons_of_ne notAbove, decide_false,
    Bool.false_eq_true, if_false, Nat.add_zero]
  rfl

theorem leadsOut_above_root : LeadsOut 0 (['.', '.'] :: rest) :=
  leadsOut_cons_iff.mpr ⟨[], List.nil_prefix, by decide⟩

theorem leadsOut_above_iff :
    LeadsOut (depth + 1) (['.', '.'] :: rest) ↔ LeadsOut depth rest := by
  have notOrdinary : ¬ IsOrdinary ['.', '.'] := by decide
  rw [leadsOut_cons_iff]
  simp only [List.countP_cons, notOrdinary, List.count_cons_self, decide_false,
    Bool.false_eq_true, if_false, Nat.add_zero, Nat.add_right_comm depth 1, Nat.succ_lt_succ_iff]
  rfl

theorem leadsOut_name_iff (ordinary : IsOrdinary segment) :
    LeadsOut depth (segment :: rest) ↔ LeadsOut (depth + 1) rest := by
  rw [leadsOut_cons_iff]
  simp only [List.countP_cons, ordinary, List.count_cons_of_ne (isOrdinary_iff.mp ordinary).2,
    decide_true, if_true, ← Nat.add_assoc, Nat.add_right_comm depth _ 1]
  rfl

end LeadsOut

/-- Collapsing fails exactly if the segments lead above the root from the names kept so far. -/
theorem foldl_collapseSegment_eq_none_iff {segments done : List (List Char)} :
    segments.foldl collapseSegment (some done) = none ↔ LeadsOut done.length segments := by
  induction segments generalizing done with
  | nil => exact iff_of_false nofun not_leadsOut_nil
  | cons segment rest inductionHypothesis =>
    rw [List.foldl_cons]
    by_cases isHere : segment = [] ∨ segment = ['.']
    · have stays : collapseSegment (some done) segment = some done := by
        rcases isHere with rfl | rfl <;> rfl
      rw [stays, inductionHypothesis, leadsOut_here_iff isHere]
    by_cases isAbove : segment = ['.', '.']
    · subst isAbove
      cases done with
      | nil => exact iff_of_true (foldl_collapseSegment_none rest) leadsOut_above_root
      | cons last above => exact inductionHypothesis.trans leadsOut_above_iff.symm
    · have descends : collapseSegment (some done) segment = some (segment :: done) := by
        simp only [collapseSegment, if_neg isAbove, if_pos (isMeaningful_iff.mpr isHere)]
      rw [descends, inductionHypothesis, leadsOut_name_iff (isOrdinary_iff.mpr ⟨isHere, isAbove⟩)]
      rfl

theorem collapse?_eq_none_iff {path : String} :
    collapse? path = none ↔ LeadsOut 0 (path.toList.splitOn '/') := by
  rw [collapse?, Option.map_eq_none_iff, foldl_collapseSegment_eq_none_iff, splitOn_eq_piecesAt]
  rfl

/-! ### Two parts of a path -/

theorem foldl_collapseSegment_append_slash (front back : String) :
    (piecesAt '/' (front ++ "/" ++ back).toList).foldl collapseSegment (some []) =
      (piecesAt '/' back.toList).foldl collapseSegment
        ((piecesAt '/' front.toList).foldl collapseSegment (some [])) := by
  have spelled : (front ++ "/" ++ back).toList = front.toList ++ '/' :: back.toList := by simp
  rw [spelled, piecesAt_append_cons, List.foldl_append]

theorem collapse?_append_slash_eq_none {front : String} (leadsOut : collapse? front = none)
    (back : String) : collapse? (front ++ "/" ++ back) = none := by
  rw [collapse?, foldl_collapseSegment_append_slash, Option.map_eq_none_iff.mp leadsOut,
    foldl_collapseSegment_none, Option.map_none]

/-- What stands behind a path sees of it only what it is collapsed to. -/
theorem collapse?_append_slash {front collapsed : String}
    (isCollapsed : collapse? front = some collapsed) (back : String) :
    collapse? (front ++ "/" ++ back) = collapse? (collapsed ++ "/" ++ back) := by
  obtain ⟨done, isDone, rfl⟩ := Option.map_eq_some_iff.mp isCollapsed
  have plain : ∀ name ∈ done.reverse, IsPlain name := fun name member =>
    isPlain_of_mem_foldl_collapseSegment (fun _ isPiece => not_mem_of_mem_piecesAt isPiece)
      (List.forall_mem_nil _) isDone name (List.mem_reverse.mp member)
  rw [collapse?, collapse?, foldl_collapseSegment_append_slash, foldl_collapseSegment_append_slash,
    String.toList_ofList, foldl_collapseSegment_joinPieces plain, isDone, List.reverse_reverse]

/-- Collapsing is a sound normal form. It fails exactly if in some beginning of the path two dots
are more often than names; otherwise it gives the root or a path of names alone, which is left as
it is. A path with a rest behind it is collapsed like what it is collapsed to with that rest. -/
theorem collapse?_is_normal_form (path : String) :
    (collapse? path = none ↔ ∃ front, front <+: path.toList.splitOn '/' ∧
      front.countP (IsOrdinary ·) < front.count ['.', '.']) ∧
    (∀ collapsed, collapse? path = some collapsed →
      (collapsed = "" ∨ ∀ segment ∈ collapsed.toList.splitOn '/', IsOrdinary segment) ∧
        collapse? collapsed = some collapsed) ∧
    ∀ rest, (collapse? path = none → collapse? (path ++ "/" ++ rest) = none) ∧
      ∀ collapsed, collapse? path = some collapsed →
        collapse? (path ++ "/" ++ rest) = collapse? (collapsed ++ "/" ++ rest) := by
  refine ⟨?_, fun collapsed isCollapsed => ⟨?_, isCollapsed_of_collapse? isCollapsed⟩,
    fun rest => ⟨fun leadsOut => collapse?_append_slash_eq_none leadsOut rest,
      fun collapsed isCollapsed => collapse?_append_slash isCollapsed rest⟩⟩
  · rw [collapse?_eq_none_iff, LeadsOut]
    simp only [Nat.zero_add]
  · refine or_iff_not_imp_left.mpr fun notRoot segment member => ?_
    rw [splitOn_eq_piecesAt] at member
    exact ((isCollapsed_of_collapse? isCollapsed).isPlain_of_mem_piecesAt notRoot segment
      member).isOrdinary

/-- A path that comes back to the root is collapsed to the root, so dots behind it lead out. -/
theorem collapse?_is_normal_form_of_sample :
    collapse? "a/./b/..//.." = some "" ∧ collapse? ("a/./b/..//.." ++ "/" ++ "../c") = none := by
  have isRoot : collapse? "a/./b/..//.." = some "" := by decide +kernel
  refine ⟨isRoot, ?_⟩
  rw [((collapse?_is_normal_form "a/./b/..//..").2.2 "../c").2 "" isRoot]
  exact (collapse?_is_normal_form ("" ++ "/" ++ "../c")).1.mpr
    ⟨[[], ['.', '.']], by decide +kernel, by decide +kernel⟩

end CodeGraph.Path
