/-
This file proves that collapsing a path is following it from the root.

Segments are followed one by one: a name leads down, two dots lead back up, and at the root, where
nothing is above, they lead nowhere. `Follows` is the relation that these steps make up, and for
each sort of segment there is an equation for it. Collapsing keeps the names on the way with the
last one first, so it finds exactly the place that the segments lead to
(`foldl_collapseSegment_eq_some_iff`), and the path that comes out is made of the names on the way
to that place.

The relation goes along a list of segments, and the segments of a directory with a rest behind it
are those of both. So a path that is put together from a directory and a rest leads where the rest
leads from that directory, however the directory is written (`follows_join_iff`). From the root the
names on the way are plain, because only names are added to it.
-/
import CodeGraph.Proofs.Path.Collapse

namespace CodeGraph.Path

open Text

/-- The segments lead from one place to another. A place is the list of the names on the way to it
from the root. -/
inductive Follows : List (List Char) → List (List Char) → List (List Char) → Prop
  /-- Without segments one stays where one is. -/
  | stop {place : List (List Char)} : Follows place [] place
  /-- An empty segment and a single dot lead nowhere else. -/
  | stay {place rest target : List (List Char)} {segment : List Char}
      (isHere : segment = [] ∨ segment = ['.']) (behind : Follows place rest target) :
      Follows place (segment :: rest) target
  /-- Two dots lead to the place above. -/
  | up {place rest target : List (List Char)} {name : List Char}
      (behind : Follows place rest target) : Follows (place ++ [name]) (['.', '.'] :: rest) target
  /-- A name leads to the place of that name. -/
  | down {place rest target : List (List Char)} {name : List Char} (isNamed : name ≠ [])
      (notHere : name ≠ ['.']) (notAbove : name ≠ ['.', '.'])
      (behind : Follows (place ++ [name]) rest target) : Follows place (name :: rest) target

theorem isMeaningful_iff {segment : List Char} :
    isMeaningful segment = true ↔ ¬ (segment = [] ∨ segment = ['.']) := by
  rw [isMeaningful, not_or]
  simp

/-! ### One segment -/

section Segment

variable {place rest target : List (List Char)} {segment : List Char}

theorem follows_here_iff (isHere : segment = [] ∨ segment = ['.']) :
    Follows place (segment :: rest) target ↔ Follows place rest target := by
  constructor
  · intro follows
    cases follows with
    | stay _ behind => exact behind
    | up => simp at isHere
    | down isNamed notHere => exact absurd isHere (not_or.mpr ⟨isNamed, notHere⟩)
  · exact Follows.stay isHere

theorem not_follows_above_root : ¬ Follows [] (['.', '.'] :: rest) target := by
  intro follows
  generalize start : ([] : List (List Char)) = root at follows
  cases follows with
  | stay isHere => simp at isHere
  | up => simp at start
  | down _ _ notAbove => exact notAbove rfl

theorem follows_above_iff :
    Follows (place ++ [segment]) (['.', '.'] :: rest) target ↔ Follows place rest target := by
  constructor
  · intro follows
    generalize start : place ++ [segment] = below at follows
    cases follows with
    | stay isHere => simp at isHere
    | up behind => exact (List.append_inj_left' start rfl) ▸ behind
    | down _ _ notAbove => exact absurd rfl notAbove
  · exact Follows.up

theorem follows_name_iff (notHere : ¬ (segment = [] ∨ segment = ['.']))
    (notAbove : segment ≠ ['.', '.']) :
    Follows place (segment :: rest) target ↔ Follows (place ++ [segment]) rest target := by
  have ⟨isNamed, notDot⟩ := not_or.mp notHere
  constructor
  · intro follows
    cases follows with
    | stay isHere => exact absurd isHere notHere
    | up => exact absurd rfl notAbove
    | down _ _ _ behind => exact behind
  · exact Follows.down isNamed notDot notAbove

end Segment

/-! ### Paths -/

/-- The names that are kept, the last one first, are those on the way. -/
theorem foldl_collapseSegment_eq_some_iff {segments place target : List (List Char)} :
    segments.foldl collapseSegment (some place.reverse) = some target.reverse ↔
      Follows place segments target := by
  induction segments generalizing place with
  | nil =>
    rw [List.foldl_nil, Option.some_inj, List.reverse_inj]
    refine ⟨fun same => same ▸ .stop, fun follows => ?_⟩
    cases follows
    rfl
  | cons segment rest inductionHypothesis =>
    rw [List.foldl_cons]
    by_cases isHere : segment = [] ∨ segment = ['.']
    · have stays : collapseSegment (some place.reverse) segment = some place.reverse := by
        rcases isHere with rfl | rfl <;> rfl
      rw [stays, inductionHypothesis, follows_here_iff isHere]
    by_cases isAbove : segment = ['.', '.']
    · subst isAbove
      rcases List.eq_nil_or_concat place with rfl | ⟨above, name, rfl⟩
      · have leaves :
            collapseSegment (some ([] : List (List Char)).reverse) ['.', '.'] = none := rfl
        rw [leaves, foldl_collapseSegment_none]
        exact iff_of_false nofun not_follows_above_root
      · have rises : collapseSegment (some (above ++ [name]).reverse) ['.', '.'] =
            some above.reverse := by
          rw [List.reverse_append]
          rfl
        rw [List.concat_eq_append, rises, inductionHypothesis, follows_above_iff]
    · have descends : collapseSegment (some place.reverse) segment =
          some (place ++ [segment]).reverse := by
        simp only [collapseSegment, if_neg isAbove, if_pos (isMeaningful_iff.mpr isHere),
          List.reverse_append, List.reverse_singleton, List.singleton_append]
      rw [descends, inductionHypothesis, follows_name_iff isHere isAbove]

theorem collapse?_eq_some_iff {path collapsed : String} :
    collapse? path = some collapsed ↔ ∃ names, Follows [] (piecesAt '/' path.toList) names ∧
      collapsed = String.ofList (joinPieces '/' names) := by
  rw [collapse?, Option.map_eq_some_iff]
  constructor
  · rintro ⟨done, isDone, rfl⟩
    refine ⟨done.reverse, foldl_collapseSegment_eq_some_iff.mp ?_, rfl⟩
    rwa [List.reverse_reverse]
  · rintro ⟨names, follows, rfl⟩
    refine ⟨names.reverse, foldl_collapseSegment_eq_some_iff.mpr follows, ?_⟩
    rw [List.reverse_reverse]

/-- What stands behind the segments may be empty: it leads nowhere else. -/
theorem follows_append_empty_iff {place segments target : List (List Char)} :
    Follows place (segments ++ [[]]) target ↔ Follows place segments target := by
  simp only [← foldl_collapseSegment_eq_some_iff, List.foldl_append, List.foldl_cons,
    List.foldl_nil]
  cases segments.foldl collapseSegment (some place.reverse) <;> rfl

/-- A path below a directory is followed along the directory and then along the rest. -/
theorem follows_join_iff {directory rest : String} {names : List (List Char)} :
    Follows [] (piecesAt '/' (join directory rest).toList) names ↔
      Follows [] (piecesAt '/' directory.toList ++ piecesAt '/' rest.toList) names := by
  unfold join
  split
  · next isRoot =>
    rcases isRoot with rfl | rfl
    · exact (follows_here_iff (.inl rfl)).symm
    · exact (follows_here_iff (.inr rfl)).symm
  · split
    · next noRest =>
      subst noRest
      exact follows_append_empty_iff.symm
    · have spelled : (directory ++ "/" ++ rest).toList =
          directory.toList ++ '/' :: rest.toList := by simp
      rw [spelled, piecesAt_append_cons]

/-- From the root segments lead along plain names. -/
theorem Follows.isPlain {segments names : List (List Char)} (follows : Follows [] segments names)
    (noSlash : ∀ segment ∈ segments, '/' ∉ segment) : ∀ name ∈ names, IsPlain name := by
  have kept := isPlain_of_mem_foldl_collapseSegment noSlash (List.forall_mem_nil _)
    (foldl_collapseSegment_eq_some_iff.mpr follows)
  exact fun name member => kept name (List.mem_reverse.mpr member)

theorem not_mem_of_mem_piecesAt {separator : Char} {text piece : List Char}
    (isPiece : piece ∈ piecesAt separator text) : separator ∉ piece := fun inside =>
  absurd (not_isSeparator_of_mem_piecesWhere isPiece inside) (by simp)

end CodeGraph.Path
