/-
This file proves what collapsing a path gives.

Of the segments of a path only the plain ones are kept: those that neither stand for the directory
they are in nor lead to the one above. A plain segment is added to what is collapsed so far, and
every other segment leaves it or takes one away; so what is kept is plain at every step. Conversely
plain segments that are put together are all kept, since cutting the path gives them back. A path
is therefore left as it is when it is collapsed exactly if it is put together from plain segments
(`isCollapsed_iff`), and what a path is collapsed to is such a path. The root is the path without
segments, which is cut into one empty piece; that is the only case to be kept apart. A plain name
below a collapsed directory makes a collapsed path.
-/
import CodeGraph.Proofs.Text.Pieces

namespace CodeGraph.Path

open Text

/-- A segment that names something in its directory. -/
structure IsPlain (segment : List Char) : Prop where
  meaningful : isMeaningful segment = true
  notParent : segment ≠ ['.', '.']
  noSlash : '/' ∉ segment

instance (segment : List Char) : Decidable (IsPlain segment) :=
  decidable_of_iff (isMeaningful segment = true ∧ segment ≠ ['.', '.'] ∧ '/' ∉ segment)
    ⟨fun ⟨meaningful, notParent, noSlash⟩ => ⟨meaningful, notParent, noSlash⟩,
      fun plain => ⟨plain.meaningful, plain.notParent, plain.noSlash⟩⟩

/-- A path that is left as it is when it is collapsed. -/
def IsCollapsed (path : String) : Prop := collapse? path = some path

instance (path : String) : Decidable (IsCollapsed path) :=
  inferInstanceAs (Decidable (collapse? path = some path))

/-! ### Segments one by one -/

theorem collapseSegment_of_isPlain {segment : List Char} (plain : IsPlain segment)
    (done : List (List Char)) : collapseSegment (some done) segment = some (segment :: done) := by
  simp only [collapseSegment, if_neg plain.notParent, if_pos plain.meaningful]

theorem foldl_collapseSegment_of_isPlain {segments : List (List Char)}
    (plain : ∀ segment ∈ segments, IsPlain segment) (done : List (List Char)) :
    segments.foldl collapseSegment (some done) = some (segments.reverse ++ done) := by
  induction segments generalizing done with
  | nil => rfl
  | cons segment rest inductionHypothesis =>
    rw [List.foldl_cons, collapseSegment_of_isPlain (plain segment List.mem_cons_self),
      inductionHypothesis fun other member => plain other (.tail _ member), List.reverse_cons,
      List.append_assoc, List.singleton_append]

theorem isPlain_of_mem_collapseSegment {segment : List Char} {done collapsed : List (List Char)}
    (noSlash : '/' ∉ segment) (plain : ∀ earlier ∈ done, IsPlain earlier)
    (isCollapsed : collapseSegment (some done) segment = some collapsed) :
    ∀ kept ∈ collapsed, IsPlain kept := by
  simp only [collapseSegment] at isCollapsed
  split at isCollapsed
  · cases done with
    | nil => cases isCollapsed
    | cons last above =>
      cases isCollapsed
      exact fun kept member => plain kept (.tail _ member)
  · next notParent =>
    split at isCollapsed
    · next meaningful =>
      cases isCollapsed
      exact List.forall_mem_cons.mpr ⟨⟨meaningful, notParent, noSlash⟩, plain⟩
    · cases isCollapsed
      exact plain

theorem foldl_collapseSegment_none (segments : List (List Char)) :
    segments.foldl collapseSegment none = none := by
  induction segments with
  | nil => rfl
  | cons segment rest inductionHypothesis => exact inductionHypothesis

theorem isPlain_of_mem_foldl_collapseSegment {segments done collapsed : List (List Char)}
    (noSlash : ∀ segment ∈ segments, '/' ∉ segment) (plain : ∀ earlier ∈ done, IsPlain earlier)
    (isCollapsed : segments.foldl collapseSegment (some done) = some collapsed) :
    ∀ kept ∈ collapsed, IsPlain kept := by
  induction segments generalizing done with
  | nil => exact Option.some.inj isCollapsed ▸ plain
  | cons segment rest inductionHypothesis =>
    rw [List.foldl_cons] at isCollapsed
    cases step : collapseSegment (some done) segment with
    | none =>
      rw [step, foldl_collapseSegment_none] at isCollapsed
      cases isCollapsed
    | some next =>
      rw [step] at isCollapsed
      have nextPlain :=
        isPlain_of_mem_collapseSegment (noSlash segment List.mem_cons_self) plain step
      exact inductionHypothesis (fun other member => noSlash other (.tail _ member)) nextPlain
        isCollapsed

/-! ### Collapsed paths -/

/-- Plain segments that are put together are kept when the path is collapsed. -/
theorem foldl_collapseSegment_joinPieces {segments : List (List Char)}
    (plain : ∀ segment ∈ segments, IsPlain segment) :
    (piecesAt '/' (joinPieces '/' segments)).foldl collapseSegment (some []) =
      some segments.reverse := by
  by_cases isRoot : segments = []
  · subst isRoot
    rfl
  · rw [piecesAt_joinPieces isRoot fun segment member => (plain segment member).noSlash,
      foldl_collapseSegment_of_isPlain plain, List.append_nil]

/-- Plain segments are joined to a collapsed path. -/
theorem isCollapsed_joinPieces {segments : List (List Char)}
    (plain : ∀ segment ∈ segments, IsPlain segment) :
    IsCollapsed (String.ofList (joinPieces '/' segments)) := by
  rw [IsCollapsed, collapse?, String.toList_ofList, foldl_collapseSegment_joinPieces plain,
    Option.map_some, List.reverse_reverse]

/-- What a path is collapsed to is put together from plain segments. -/
theorem exists_isPlain_of_collapse? {path collapsed : String}
    (isCollapsed : collapse? path = some collapsed) :
    ∃ segments, (∀ segment ∈ segments, IsPlain segment) ∧
      collapsed = String.ofList (joinPieces '/' segments) := by
  obtain ⟨done, isDone, rfl⟩ := Option.map_eq_some_iff.mp isCollapsed
  have plain : ∀ kept ∈ done, IsPlain kept := by
    refine isPlain_of_mem_foldl_collapseSegment (fun piece isPiece inside => ?_)
      (List.forall_mem_nil _) isDone
    exact absurd (not_isSeparator_of_mem_piecesWhere isPiece inside) (by simp)
  exact ⟨done.reverse, fun kept member => plain kept (List.mem_reverse.mp member), rfl⟩

theorem isCollapsed_iff {path : String} :
    IsCollapsed path ↔ ∃ segments, (∀ segment ∈ segments, IsPlain segment) ∧
      path = String.ofList (joinPieces '/' segments) := by
  refine ⟨exists_isPlain_of_collapse?, ?_⟩
  rintro ⟨segments, plain, rfl⟩
  exact isCollapsed_joinPieces plain

theorem isCollapsed_of_collapse? {path collapsed : String}
    (isCollapsed : collapse? path = some collapsed) : IsCollapsed collapsed :=
  isCollapsed_iff.mpr (exists_isPlain_of_collapse? isCollapsed)

/-- A collapsed path other than the root is cut into plain segments. -/
theorem IsCollapsed.isPlain_of_mem_piecesAt {path : String} (isCollapsed : IsCollapsed path)
    (notRoot : path ≠ "") : ∀ segment ∈ piecesAt '/' path.toList, IsPlain segment := by
  obtain ⟨segments, plain, rfl⟩ := isCollapsed_iff.mp isCollapsed
  have nonempty : segments ≠ [] := by
    rintro rfl
    exact notRoot rfl
  rw [String.toList_ofList,
    piecesAt_joinPieces nonempty fun segment member => (plain segment member).noSlash]
  exact plain

/-- A plain name below a collapsed directory makes a collapsed path. -/
theorem IsCollapsed.join {directory name : String} (isCollapsed : IsCollapsed directory)
    (plain : IsPlain name.toList) : IsCollapsed (join directory name) := by
  have alone : IsCollapsed name := by
    have joined := isCollapsed_joinPieces (List.forall_mem_singleton.mpr plain)
    rwa [joinPieces, String.ofList_toList] at joined
  have named : name ≠ "" := by
    rintro rfl
    exact absurd plain.meaningful (by decide)
  unfold Path.join
  by_cases isRoot : directory = "" ∨ directory = "."
  · rwa [if_pos isRoot]
  · rw [if_neg isRoot, if_neg named]
    obtain ⟨segments, arePlain, rfl⟩ := isCollapsed_iff.mp isCollapsed
    have nonempty : segments ≠ [] := by
      rintro rfl
      exact isRoot (.inl rfl)
    refine isCollapsed_iff.mpr ⟨segments ++ [name.toList], ?_, ?_⟩
    · exact List.forall_mem_append.mpr ⟨arePlain, List.forall_mem_singleton.mpr plain⟩
    · rw [joinPieces_append nonempty (List.cons_ne_nil _ []), joinPieces]
      simp [String.append_assoc]

end CodeGraph.Path
