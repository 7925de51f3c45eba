/-
This file proves what a set of edges is: the ascending list that holds each statement of the given
edges once, with the earliest of the evidence that was given for it.

Edges are compared by what they state and not by their evidence, so the comparison is an order on
statements only, and insertion keeps a list in which it ascends strictly (`Ascending.insert`). The
members are found by leaving statements out. A test that ignores the evidence can be made before or
after a set is built (`filter_ofList`); with the test for one statement, what is left is a set of
edges that all state the same, which is a single edge with the earliest evidence
(`ofList_of_states`). So an edge is a member exactly if it is stated and has this evidence
(`mem_ofList_iff`).

The earliest evidence is computed by a fold, which keeps the first of two equal spans. `IsEarliest`
says what it is without the fold: the span of one of the edges that no other one is less than, and
none if none of them has any. It depends only on which edges there are, and so does the set: it is
the only ascending list with these members (`ofList_eq_of_mem_iff`). Neither the order nor the
repetition of edges makes a difference.
-/
import Mathlib.Data.List.Induction
import Mathlib.Data.List.Nodup
import CodeGraph.Graph.Edge
import CodeGraph.Proofs.Sorting

namespace CodeGraph

/-! ### Comparisons -/

theorem compareOn_eq_eq_iff {item key : Type} [Ord key] [Std.LawfulEqOrd key]
    (keyOf : item → key) {left right : item} :
    compareOn keyOf left right = .eq ↔ keyOf left = keyOf right :=
  show compare (keyOf left) (keyOf right) = .eq ↔ _ from Std.LawfulEqCmp.compare_eq_iff_eq

instance Span.transCmp_compare : Std.TransCmp Span.compare := by
  unfold Span.compare
  infer_instance

instance Span.lawfulEqCmp_compare : Std.LawfulEqCmp Span.compare where
  eq_of_compare {left right} same := by
    rw [Span.compare, compareLex_eq_eq, compareOn_eq_eq_iff, compareOn_eq_eq_iff] at same
    cases left
    cases right
    exact congrArg₂ Span.mk same.1 same.2

instance EdgeObject.transCmp_compare : Std.TransCmp EdgeObject.compare := by
  unfold EdgeObject.compare
  infer_instance

theorem EdgeObject.compare_eq_eq_iff {left right : EdgeObject} :
    left.compare right = .eq ↔ left = right := by
  rw [EdgeObject.compare, compareLex_eq_eq, compareOn_eq_eq_iff, compareOn_eq_eq_iff]
  cases left <;> cases right <;> simp [isUnresolved, text]

instance Edge.transCmp_compareObject :
    Std.TransCmp fun left right : Edge => left.object.compare right.object where
  eq_swap {left right} :=
    show left.object.compare right.object = (right.object.compare left.object).swap from
      Std.OrientedCmp.eq_swap
  isLE_trans {first second third} :=
    show (first.object.compare second.object).isLE → (second.object.compare third.object).isLE →
      (first.object.compare third.object).isLE from Std.TransCmp.isLE_trans

instance Edge.transCmp_compare : Std.TransCmp Edge.compare := by
  unfold Edge.compare
  infer_instance

/-- Edges compare equal when they state the same, whatever their evidence. -/
theorem Edge.compare_eq_eq_iff {left right : Edge} :
    left.compare right = .eq ↔
      left.subjectId = right.subjectId ∧ left.predicate = right.predicate ∧
        left.object = right.object := by
  rw [Edge.compare, compareLex_eq_eq, compareLex_eq_eq, compareOn_eq_eq_iff, compareOn_eq_eq_iff,
    EdgeObject.compare_eq_eq_iff]

/-! ### Evidence -/

theorem earlierEvidence_some (first second : Span) :
    earlierEvidence (some first) (some second) =
      if (first.compare second).isLE then some first else some second := rfl

theorem earlierEvidence_eq_or (first second : Option Span) :
    earlierEvidence first second = first ∨ earlierEvidence first second = second := by
  cases first with
  | none => exact .inr rfl
  | some first =>
    cases second with
    | none => exact .inl rfl
    | some second =>
      rw [earlierEvidence_some]
      split
      · exact .inl rfl
      · exact .inr rfl

/-- The earlier of two spans is not after either of them. -/
theorem exists_isLE_of_earlierEvidence {first second : Option Span} {span : Span}
    (given : span ∈ first ∨ span ∈ second) :
    ∃ earlier ∈ earlierEvidence first second, (earlier.compare span).isLE := by
  have itself : (span.compare span).isLE := Std.ReflCmp.isLE_rfl
  cases first with
  | none => exact ⟨span, given.resolve_left nofun, itself⟩
  | some first =>
    cases second with
    | none => exact ⟨span, given.resolve_right nofun, itself⟩
    | some second =>
      rw [earlierEvidence_some]
      split
      · next below =>
        refine ⟨first, rfl, ?_⟩
        rcases given with same | same
        · exact Option.some.inj same ▸ itself
        · exact Option.some.inj same ▸ below
      · next notBelow =>
        refine ⟨second, rfl, ?_⟩
        rcases given with same | same
        · rw [← Option.some.inj same]
          exact (Bool.or_eq_true_iff.mp (isLE_total first second)).resolve_left notBelow
        · exact Option.some.inj same ▸ itself

namespace EdgeSet

/-- The earliest evidence for any of the given edges. -/
def earliest (edges : List Edge) : Option Span :=
  (edges.map Edge.evidence).foldl earlierEvidence none

theorem earliest_append_singleton (edges : List Edge) (edge : Edge) :
    earliest (edges ++ [edge]) = earlierEvidence (earliest edges) edge.evidence := by
  simp [earliest]

/-- Evidence that is the least of what some edges have: the span of one of them, which no other of
their spans is less than; and none if none of them has any. -/
structure IsEarliest (evidence : Option Span) (edges : List Edge) : Prop where
  isGiven : ∀ span ∈ evidence, ∃ edge ∈ edges, edge.evidence = some span
  isLeast : ∀ edge ∈ edges, ∀ other ∈ edge.evidence,
    ∃ span ∈ evidence, (span.compare other).isLE

namespace IsEarliest

variable {evidence : Option Span} {edges : List Edge}

/-- One more edge brings its own evidence. -/
theorem append_singleton (before : IsEarliest evidence edges) (edge : Edge) :
    IsEarliest (earlierEvidence evidence edge.evidence) (edges ++ [edge]) where
  isGiven span isSpan := by
    rcases earlierEvidence_eq_or evidence edge.evidence with same | same <;> rw [same] at isSpan
    · obtain ⟨other, member, isOther⟩ := before.isGiven span isSpan
      exact ⟨other, List.mem_append_left _ member, isOther⟩
    · exact ⟨edge, List.mem_append_right _ (List.mem_singleton_self edge), isSpan⟩
  isLeast given member other isOther := by
    rcases List.mem_append.mp member with old | new
    · obtain ⟨span, isSpan, below⟩ := before.isLeast given old other isOther
      obtain ⟨earlier, isEarlier, notAfter⟩ := exists_isLE_of_earlierEvidence (.inl isSpan)
      exact ⟨earlier, isEarlier, Std.TransCmp.isLE_trans notAfter below⟩
    · rw [List.mem_singleton.mp new] at isOther
      exact exists_isLE_of_earlierEvidence (.inr isOther)

/-- Whether evidence is the least depends only on which edges there are. -/
theorem congr {others : List Edge} (least : IsEarliest evidence edges)
    (same : ∀ edge, edge ∈ edges ↔ edge ∈ others) : IsEarliest evidence others where
  isGiven span isSpan := by
    obtain ⟨edge, member, isEvidence⟩ := least.isGiven span isSpan
    exact ⟨edge, (same edge).mp member, isEvidence⟩
  isLeast edge member := least.isLeast edge ((same edge).mpr member)

/-- The span that is the least is no less than one that is the least, too. -/
theorem exists_isLE {other : Option Span} (least : IsEarliest evidence edges)
    (otherLeast : IsEarliest other edges) {span : Span} (isOther : span ∈ other) :
    ∃ earlier ∈ evidence, (earlier.compare span).isLE := by
  obtain ⟨edge, member, isEvidence⟩ := otherLeast.isGiven span isOther
  exact least.isLeast edge member span isEvidence

/-- Only one evidence is the least. -/
theorem unique {other : Option Span} (least : IsEarliest evidence edges)
    (otherLeast : IsEarliest other edges) : evidence = other := by
  cases evidence with
  | none =>
    refine (Option.eq_none_iff_forall_not_mem.mpr fun span isOther => ?_).symm
    obtain ⟨_, absent, _⟩ := least.exists_isLE otherLeast isOther
    cases absent
  | some first =>
    obtain ⟨second, isSecond, below⟩ := otherLeast.exists_isLE least rfl
    obtain ⟨_, isFirst, above⟩ := least.exists_isLE otherLeast isSecond
    obtain rfl := Option.some.inj isFirst
    rw [isSecond, Std.LawfulEqCmp.eq_of_compare (eq_of_isLE_of_isLE above below)]

end IsEarliest

theorem isEarliest_earliest (edges : List Edge) : IsEarliest (earliest edges) edges := by
  induction edges using List.reverseRecOn with
  | nil => exact ⟨nofun, nofun⟩
  | append_singleton edges edge inductionHypothesis =>
    rw [earliest_append_singleton]
    exact inductionHypothesis.append_singleton edge

/-! ### Insertion -/

/-- A list of edges that ascends strictly, so that no two of them state the same. -/
def Ascending (set : List Edge) : Prop := set.Pairwise fun left right => left.compare right = .lt

theorem compare_eq_of_mem_insert {edge member : Edge} {set : List Edge}
    (isMember : member ∈ insert edge set) :
    edge.compare member = .eq ∨ ∃ other ∈ set, other.compare member = .eq := by
  induction set with
  | nil =>
    rw [insert, List.mem_singleton] at isMember
    exact .inl (isMember ▸ Std.ReflCmp.compare_self)
  | cons head rest inductionHypothesis =>
    unfold insert at isMember
    split at isMember
    · rcases List.mem_cons.mp isMember with rfl | isMember
      · exact .inl Std.ReflCmp.compare_self
      · exact .inr ⟨member, isMember, Std.ReflCmp.compare_self⟩
    · rcases List.mem_cons.mp isMember with rfl | isMember
      · exact .inr ⟨head, List.mem_cons_self, Edge.compare_eq_eq_iff.mpr ⟨rfl, rfl, rfl⟩⟩
      · exact .inr ⟨member, List.mem_cons_of_mem _ isMember, Std.ReflCmp.compare_self⟩
    · rcases List.mem_cons.mp isMember with rfl | isMember
      · exact .inr ⟨_, List.mem_cons_self, Std.ReflCmp.compare_self⟩
      · rcases inductionHypothesis isMember with same | ⟨other, otherMember, same⟩
        · exact .inl same
        · exact .inr ⟨other, List.mem_cons_of_mem _ otherMember, same⟩

/-- What is above an edge is above every edge that states the same. -/
theorem compare_lt_of_compare_eq {edge other third : Edge} (below : edge.compare other = .lt)
    (same : other.compare third = .eq) : edge.compare third = .lt :=
  Std.TransCmp.lt_of_lt_of_eq below same

theorem Ascending.insert {set : List Edge} (ascending : Ascending set) (edge : Edge) :
    Ascending (insert edge set) := by
  induction set with
  | nil => exact List.pairwise_singleton _ _
  | cons head rest inductionHypothesis =>
    have ⟨above, restAscending⟩ := List.pairwise_cons.mp ascending
    unfold EdgeSet.insert
    split
    · next below =>
      refine List.pairwise_cons.mpr ⟨fun other member => ?_, ascending⟩
      rcases List.mem_cons.mp member with rfl | member
      · exact below
      · exact Std.TransCmp.lt_trans below (above other member)
    · refine List.pairwise_cons.mpr ⟨fun other member => ?_, restAscending⟩
      have same : Edge.compare
          { head with evidence := earlierEvidence head.evidence edge.evidence } head = .eq :=
        Edge.compare_eq_eq_iff.mpr ⟨rfl, rfl, rfl⟩
      exact Std.TransCmp.lt_of_eq_of_lt same (above other member)
    · next greater =>
      refine List.pairwise_cons.mpr ⟨fun other member => ?_, inductionHypothesis restAscending⟩
      rcases compare_eq_of_mem_insert member with same | ⟨old, oldMember, same⟩
      · exact compare_lt_of_compare_eq (Std.OrientedCmp.lt_of_gt greater) same
      · exact compare_lt_of_compare_eq (above old oldMember) same

theorem ofList_append_singleton (edges : List Edge) (edge : Edge) :
    ofList (edges ++ [edge]) = insert edge (ofList edges) := by
  simp [ofList]

theorem ascending_ofList (edges : List Edge) : Ascending (ofList edges) := by
  induction edges using List.reverseRecOn with
  | nil => exact .nil
  | append_singleton edges edge inductionHypothesis =>
    rw [ofList_append_singleton]
    exact inductionHypothesis.insert edge

/-! ### Leaving statements out -/

/-- A test of edges that looks at what they state and not at their evidence. -/
def IgnoresEvidence (keep : Edge → Bool) : Prop :=
  ∀ left right : Edge, left.compare right = .eq → keep left = keep right

/-- An edge that is below all others comes first. -/
theorem insert_of_lt {edge : Edge} {set : List Edge}
    (below : ∀ other ∈ set, edge.compare other = .lt) : insert edge set = edge :: set := by
  cases set with
  | nil => rfl
  | cons head rest => rw [insert, below head List.mem_cons_self]

theorem insert_cons_of_eq {edge head : Edge} (same : edge.compare head = .eq) (rest : List Edge) :
    insert edge (head :: rest) =
      { head with evidence := earlierEvidence head.evidence edge.evidence } :: rest := by
  rw [insert, same]

theorem insert_cons_of_gt {edge head : Edge} (above : edge.compare head = .gt)
    (rest : List Edge) : insert edge (head :: rest) = head :: insert edge rest := by
  rw [insert, above]

theorem filter_insert {keep : Edge → Bool} (ignores : IgnoresEvidence keep) (edge : Edge)
    {set : List Edge} (ascending : Ascending set) :
    (insert edge set).filter keep =
      if keep edge then insert edge (set.filter keep) else set.filter keep := by
  induction set with
  | nil => by_cases kept : keep edge <;> simp [insert, kept]
  | cons head rest inductionHypothesis =>
    have ⟨above, restAscending⟩ := List.pairwise_cons.mp ascending
    cases order : edge.compare head with
    | lt =>
      have below : ∀ other ∈ head :: rest, edge.compare other = .lt :=
        List.forall_mem_cons.mpr
          ⟨order, fun other member => Std.TransCmp.lt_trans order (above other member)⟩
      rw [insert_of_lt below, insert_of_lt fun other member =>
        below other (List.mem_filter.mp member).1]
      by_cases kept : keep edge
      · rw [List.filter_cons_of_pos kept, if_pos kept]
      · rw [List.filter_cons_of_neg kept, if_neg kept]
    | eq =>
      rw [insert_cons_of_eq order]
      have sameHead : keep { head with
          evidence := earlierEvidence head.evidence edge.evidence } = keep head :=
        ignores _ _ (Edge.compare_eq_eq_iff.mpr ⟨rfl, rfl, rfl⟩)
      have sameEdge : keep edge = keep head := ignores _ _ order
      by_cases kept : keep head
      · rw [List.filter_cons_of_pos (sameHead.trans kept), List.filter_cons_of_pos kept,
          if_pos (sameEdge.trans kept), insert_cons_of_eq order]
      · rw [List.filter_cons_of_neg (by rw [sameHead]; exact kept), List.filter_cons_of_neg kept,
          if_neg (by rw [sameEdge]; exact kept)]
    | gt =>
      rw [insert_cons_of_gt order]
      by_cases kept : keep head
      · rw [List.filter_cons_of_pos kept, List.filter_cons_of_pos kept,
          inductionHypothesis restAscending]
        split
        · rw [insert_cons_of_gt order]
        · rfl
      · rw [List.filter_cons_of_neg kept, List.filter_cons_of_neg kept,
          inductionHypothesis restAscending]

/-- Statements may be left out before or after a set is made. -/
theorem filter_ofList {keep : Edge → Bool} (ignores : IgnoresEvidence keep) (edges : List Edge) :
    (ofList edges).filter keep = ofList (edges.filter keep) := by
  induction edges using List.reverseRecOn with
  | nil => rfl
  | append_singleton edges edge inductionHypothesis =>
    rw [ofList_append_singleton, filter_insert ignores edge (ascending_ofList edges),
      inductionHypothesis, List.filter_append]
    by_cases kept : keep edge
    · rw [if_pos kept, List.filter_cons_of_pos kept, List.filter_nil, ofList_append_singleton]
    · rw [if_neg kept, List.filter_cons_of_neg kept, List.filter_nil, List.append_nil]

/-! ### Members -/

/-- Whether an edge states the same as a given one. -/
def states (edge other : Edge) : Bool := edge.compare other == .eq

theorem states_iff {edge other : Edge} : states edge other ↔ edge.compare other = .eq :=
  beq_iff_eq

theorem ignoresEvidence_states (edge : Edge) : IgnoresEvidence (states edge) := by
  intro left right same
  rw [Bool.eq_iff_iff, states_iff, states_iff]
  exact ⟨fun stated => Std.TransCmp.eq_trans stated same,
    fun stated => Std.TransCmp.eq_trans stated (Std.OrientedCmp.eq_symm same)⟩

/-- Edges that all state the same make a set of one edge with the earliest evidence. -/
theorem ofList_of_states {edge : Edge} {edges : List Edge}
    (stated : ∀ other ∈ edges, states edge other) (nonempty : edges ≠ []) :
    ofList edges = [{ edge with evidence := earliest edges }] := by
  induction edges using List.reverseRecOn with
  | nil => exact absurd rfl nonempty
  | append_singleton edges last inductionHypothesis =>
    have lastStated := states_iff.mp
      (stated last (List.mem_append_right _ (List.mem_singleton_self _)))
    rw [ofList_append_singleton, earliest_append_singleton]
    by_cases empty : edges = []
    · subst empty
      have ⟨subject, predicate, object⟩ := Edge.compare_eq_eq_iff.mp lastStated
      show [last] = _
      cases last
      simp_all [earliest, earlierEvidence]
    · rw [inductionHypothesis
        (fun other member => stated other (List.mem_append_left _ member)) empty]
      have same : last.compare { edge with evidence := earliest edges } = .eq := by
        have ⟨subject, predicate, object⟩ := Edge.compare_eq_eq_iff.mp lastStated
        exact Edge.compare_eq_eq_iff.mpr ⟨subject.symm, predicate.symm, object.symm⟩
      rw [insert, same]

/-- The members of a set: each statement that is made, with the earliest evidence for it. -/
theorem mem_ofList_iff {edge : Edge} {edges : List Edge} :
    edge ∈ ofList edges ↔
      (∃ other ∈ edges, states edge other) ∧
        edge.evidence = earliest (edges.filter (states edge)) := by
  have itself : states edge edge := states_iff.mpr Std.ReflCmp.compare_self
  have kept : edge ∈ ofList edges ↔ edge ∈ ofList (edges.filter (states edge)) := by
    rw [← filter_ofList (ignoresEvidence_states edge), List.mem_filter, and_iff_left itself]
  rw [kept]
  by_cases empty : edges.filter (states edge) = []
  · rw [empty]
    refine iff_of_false List.not_mem_nil fun stated => ?_
    obtain ⟨other, member, same⟩ := stated.1
    exact List.filter_eq_nil_iff.mp empty other member same
  · rw [ofList_of_states (fun other member => (List.mem_filter.mp member).2) empty,
      List.mem_singleton]
    obtain ⟨other, member⟩ := List.exists_mem_of_ne_nil _ empty
    have ⟨otherMember, same⟩ := List.mem_filter.mp member
    refine ⟨fun equal => ⟨⟨other, otherMember, same⟩, ?_⟩, fun stated => ?_⟩
    · exact congrArg Edge.evidence equal
    · rw [← stated.2]

/-- Whatever is stated has its edge in the set. -/
theorem exists_mem_ofList {edge : Edge} {edges : List Edge} (member : edge ∈ edges) :
    ∃ evidence, { edge with evidence := evidence } ∈ ofList edges := by
  refine ⟨earliest (edges.filter (states edge)), mem_ofList_iff.mpr ⟨⟨edge, member, ?_⟩, rfl⟩⟩
  exact states_iff.mpr (Edge.compare_eq_eq_iff.mpr ⟨rfl, rfl, rfl⟩)

/-- Every edge of a set states what one of the given edges states. -/
theorem exists_of_mem_ofList {edge : Edge} {edges : List Edge} (member : edge ∈ ofList edges) :
    ∃ other ∈ edges, edge.subjectId = other.subjectId ∧ edge.predicate = other.predicate ∧
      edge.object = other.object := by
  obtain ⟨⟨other, otherMember, same⟩, -⟩ := mem_ofList_iff.mp member
  exact ⟨other, otherMember, Edge.compare_eq_eq_iff.mp (states_iff.mp same)⟩

/-- The evidence of a member is the least that was given for what it states. -/
theorem mem_ofList_iff_isEarliest {edge : Edge} {edges : List Edge} :
    edge ∈ ofList edges ↔
      (∃ other ∈ edges, states edge other) ∧
        IsEarliest edge.evidence (edges.filter (states edge)) := by
  rw [mem_ofList_iff]
  refine and_congr_right fun _ => ⟨fun same => ?_, fun least => ?_⟩
  · rw [same]
    exact isEarliest_earliest _
  · exact least.unique (isEarliest_earliest _)

/-! ### What a set is -/

theorem Ascending.nodup {set : List Edge} (ascending : Ascending set) : set.Nodup :=
  ascending.imp fun {left right} below same => by
    rw [same, show right.compare right = .eq from Std.ReflCmp.compare_self] at below
    cases below

/-- No two members of a set state the same. -/
theorem Ascending.eq_of_states {set : List Edge} (ascending : Ascending set) {first second : Edge}
    (isFirst : first ∈ set) (isSecond : second ∈ set) (same : states first second) :
    first = second := by
  induction set with
  | nil => cases isFirst
  | cons head rest inductionHypothesis =>
    have ⟨above, restAscending⟩ := List.pairwise_cons.mp ascending
    have equal := states_iff.mp same
    rcases List.mem_cons.mp isFirst with rfl | inRest <;>
      rcases List.mem_cons.mp isSecond with rfl | alsoInRest
    · rfl
    · rw [above second alsoInRest] at equal
      cases equal
    · rw [Std.OrientedCmp.gt_of_lt (above first inRest)] at equal
      cases equal
    · exact inductionHypothesis restAscending inRest alsoInRest

theorem Ascending.eq_of_mem_iff {set other : List Edge} (ascending : Ascending set)
    (otherAscending : Ascending other) (same : ∀ edge, edge ∈ set ↔ edge ∈ other) :
    set = other := by
  refine List.Perm.eq_of_pairwise (fun left right _ _ below above => ?_) ascending otherAscending
    ((List.perm_ext_iff_of_nodup ascending.nodup otherAscending.nodup).mpr same)
  rw [Std.OrientedCmp.gt_of_lt below] at above
  cases above

/-- What a list of edges has to be as the set of the given ones: it ascends strictly, it holds
exactly one edge for each statement and no other, and each has the least of the evidence for what
it states. -/
structure IsSetOf (set edges : List Edge) : Prop where
  ascends : Ascending set
  holdsOnce : ∀ edge ∈ edges, ∃! member, member ∈ set ∧ states member edge
  holdsOnly : ∀ member ∈ set, ∃ edge ∈ edges, states member edge
  isEarliest : ∀ member ∈ set, IsEarliest member.evidence (edges.filter (states member))

theorem isSetOf_ofList (edges : List Edge) : IsSetOf (ofList edges) edges where
  ascends := ascending_ofList edges
  holdsOnce edge member := by
    obtain ⟨evidence, isMember⟩ := exists_mem_ofList member
    have stated : states { edge with evidence } edge :=
      states_iff.mpr (Edge.compare_eq_eq_iff.mpr ⟨rfl, rfl, rfl⟩)
    refine ⟨_, ⟨isMember, stated⟩, fun other ⟨isOther, otherStated⟩ => ?_⟩
    refine (ascending_ofList edges).eq_of_states isOther isMember (states_iff.mpr ?_)
    exact Std.TransCmp.eq_trans (states_iff.mp otherStated)
      (Std.OrientedCmp.eq_symm (states_iff.mp stated))
  holdsOnly _ isMember := (mem_ofList_iff_isEarliest.mp isMember).1
  isEarliest _ isMember := (mem_ofList_iff_isEarliest.mp isMember).2

/-- A set depends neither on the order nor on the repetition of the edges. -/
theorem ofList_eq_of_mem_iff {edges others : List Edge}
    (same : ∀ edge, edge ∈ edges ↔ edge ∈ others) : ofList edges = ofList others := by
  refine (ascending_ofList edges).eq_of_mem_iff (ascending_ofList others) fun edge => ?_
  have sameStated (other : Edge) :
      other ∈ edges.filter (states edge) ↔ other ∈ others.filter (states edge) := by
    rw [List.mem_filter, List.mem_filter, same]
  rw [mem_ofList_iff_isEarliest, mem_ofList_iff_isEarliest]
  refine and_congr (by simp only [same]) ⟨fun least => ?_, fun least => ?_⟩
  · exact least.congr sameStated
  · exact least.congr fun other => (sameStated other).symm

/-- A set does not depend on the order of the edges. -/
theorem ofList_eq_of_perm {edges others : List Edge} (perm : edges.Perm others) :
    ofList edges = ofList others :=
  ofList_eq_of_mem_iff fun _ => perm.mem_iff

end EdgeSet

end CodeGraph
