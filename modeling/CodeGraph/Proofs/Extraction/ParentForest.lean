/-
This file proves that the parents of definitions form a forest, and that the searches for ancestors
are exact in it.

A table of parents is a forest if every parent is a place of the table and every place has a way up
that ends (`ParentTable.IsForest`). By their place in the source parents stand before their
children: the pass over the definitions gives each of them one of the containers that are open, and
those were met earlier. So the table it makes is a forest, by induction on the place. An owner then
changes the parent of one definition, and only to a type that the definition is no ancestor of.
Ways up that do not meet the definition are the same as before, and those that do go on along the
way of the type, which does not come back (`ParentTable.IsForest.set`). So every single link keeps
the forest, and with them the whole pass.

The searches go up with fuel. In a forest a way up meets no place twice, so it is shorter than the
table, and the fuel, which is the length of the table, is never used up. Hence the ancestors of a
definition are its whole way up (`ancestors_eq`), and the test for an ancestor says whether a place
is on it (`isAncestor_eq`). The linking of owners relies on that test, which is why the forest has
to be known after each link.
-/
import CodeGraph.Extraction.Parents
import CodeGraph.Proofs.Ascent

namespace CodeGraph

namespace ParentTable

variable {parents : ParentTable}

/-- A table in which every parent is a place of the table and every place has a way up. -/
structure IsForest (parents : ParentTable) : Prop where
  bounded : ∀ {index parent : Nat}, parents.parent? index = some parent → parent < parents.length
  grounded : ∀ index : Nat, ∃ way, Ascent parents.parent? index way

theorem parent?_eq_none {index : Nat} (outside : parents.length ≤ index) :
    parents.parent? index = none := by
  rw [parent?, List.getElem?_eq_none outside]
  rfl

theorem lt_length_of_parent? {index parent : Nat} (isParent : parents.parent? index = some parent) :
    index < parents.length := by
  rcases Nat.lt_or_ge index parents.length with inside | outside
  · exact inside
  · rw [parent?_eq_none outside] at isParent
    cases isParent

/-! ### Fuel -/

/-- The way up needs no more fuel than it has steps. -/
theorem chain_eq {index : Nat} {way : List Nat} (ascent : Ascent parents.parent? index way)
    {fuel : Nat} (enough : way.length < fuel) :
    parents.chain fuel (some index) = index :: way := by
  induction ascent generalizing fuel with
  | top noneAbove =>
    cases fuel with
    | zero => cases enough
    | succ fuel => rw [chain, noneAbove, chain]
  | step isAbove _ inductionHypothesis =>
    cases fuel with
    | zero => cases enough
    | succ fuel => rw [chain, isAbove, inductionHypothesis (Nat.lt_of_succ_lt_succ enough)]

/-- With enough fuel the search for an ancestor finds exactly the places on the way up. -/
theorem leadsTo_eq {index : Nat} {way : List Nat} (ascent : Ascent parents.parent? index way)
    (ancestor : Nat) {fuel : Nat} (enough : way.length < fuel) :
    parents.leadsTo ancestor fuel (some index) = decide (ancestor ∈ index :: way) := by
  induction ascent generalizing fuel with
  | top noneAbove =>
    cases fuel with
    | zero => cases enough
    | succ fuel =>
      rw [leadsTo, noneAbove, leadsTo, Bool.or_false, Bool.eq_iff_iff, beq_iff_eq,
        decide_eq_true_iff, List.mem_singleton, eq_comm]
  | step isAbove _ inductionHypothesis =>
    cases fuel with
    | zero => cases enough
    | succ fuel =>
      rw [leadsTo, isAbove, inductionHypothesis (Nat.lt_of_succ_lt_succ enough),
        Bool.eq_iff_iff, Bool.or_eq_true_iff, beq_iff_eq, decide_eq_true_iff,
        decide_eq_true_iff, eq_comm, ← List.mem_cons]

namespace IsForest

variable (forest : parents.IsForest) {index : Nat} {way : List Nat}
include forest

theorem lt_length_of_mem (ascent : Ascent parents.parent? index way) {place : Nat}
    (member : place ∈ way) : place < parents.length := by
  induction ascent with
  | top => cases member
  | step isAbove _ inductionHypothesis =>
    rcases List.mem_cons.mp member with rfl | member
    · exact forest.bounded isAbove
    · exact inductionHypothesis member

/-- The way up from a place of a forest is shorter than the forest. -/
theorem length_lt (ascent : Ascent parents.parent? index way) (inside : index < parents.length) :
    way.length < parents.length := by
  refine Nat.lt_of_lt_of_eq (ascent.length_lt_of_subset fun place member => ?_)
    (List.length_range : (List.range parents.length).length = _)
  rcases List.mem_cons.mp member with rfl | member
  · exact List.mem_range.mpr inside
  · exact List.mem_range.mpr (forest.lt_length_of_mem ascent member)

/-- The ancestors of a definition are its whole way up. -/
theorem ancestors_eq (ascent : Ascent parents.parent? index way) :
    parents.ancestors index = way := by
  cases ascent with
  | top noneAbove => rw [ancestors, noneAbove, chain]
  | step isAbove rest =>
    rw [ancestors, isAbove, chain_eq rest (forest.length_lt rest (forest.bounded isAbove))]

/-- The test for an ancestor says whether a definition is another one or on the way up from
it. -/
theorem isAncestor_eq (ascent : Ascent parents.parent? index way)
    (inside : index < parents.length) (ancestor : Nat) :
    parents.isAncestor ancestor index = decide (ancestor ∈ index :: way) :=
  leadsTo_eq ascent ancestor (forest.length_lt ascent inside)

/-- The ancestors of a definition are its parent and the ancestors of that one. -/
theorem ancestors_of_parent? {parent : Nat} (isParent : parents.parent? index = some parent) :
    parents.ancestors index = parent :: parents.ancestors parent := by
  obtain ⟨way, ascent⟩ := forest.grounded parent
  rw [forest.ancestors_eq ascent, forest.ancestors_eq (.step isParent ascent)]

end IsForest

/-! ### One link -/

theorem parent?_set_self {index target : Nat} (inside : index < parents.length) :
    parent? (parents.set index (some target)) index = some target := by
  rw [parent?, List.getElem?_set_self inside]
  rfl

theorem parent?_set_of_ne {index other target : Nat} (different : other ≠ index) :
    parent? (parents.set index (some target)) other = parents.parent? other := by
  rw [parent?, List.getElem?_set_ne (Ne.symm different)]
  rfl

/-- A definition may be put below another one that it is no ancestor of. -/
theorem IsForest.set (forest : parents.IsForest) {index target : Nat}
    (inside : index < parents.length) (targetInside : target < parents.length)
    (apart : parents.isAncestor index target = false) :
    IsForest (parents.set index (some target)) where
  bounded {place parent} isParent := by
    rw [List.length_set]
    by_cases same : place = index
    · subst same
      rw [parent?_set_self inside] at isParent
      exact Option.some.inj isParent ▸ targetInside
    · rw [parent?_set_of_ne same] at isParent
      exact forest.bounded isParent
  grounded place := by
    obtain ⟨targetWay, targetAscent⟩ := forest.grounded target
    rw [forest.isAncestor_eq targetAscent targetInside, decide_eq_false_iff_not] at apart
    have moved : Ascent (parent? (parents.set index (some target))) target targetWay :=
      targetAscent.congr fun there member =>
        parent?_set_of_ne fun same => apart (same ▸ member)
    obtain ⟨way, ascent⟩ := forest.grounded place
    induction ascent with
    | @top here noneAbove =>
      by_cases same : here = index
      · subst same
        exact ⟨_, .step (parent?_set_self inside) moved⟩
      · exact ⟨_, .top ((parent?_set_of_ne same).trans noneAbove)⟩
    | @step here above _ isAbove _ inductionHypothesis =>
      by_cases same : here = index
      · subst same
        exact ⟨_, .step (parent?_set_self inside) moved⟩
      · obtain ⟨rest, restAscent⟩ := inductionHypothesis
        exact ⟨_, .step ((parent?_set_of_ne same).trans isAbove) restAscent⟩

/-- A table in which every parent stands before its child is a forest. -/
theorem isForest_of_lt
    (before : ∀ {index parent : Nat}, parents.parent? index = some parent → parent < index) :
    parents.IsForest where
  bounded isParent := Nat.lt_trans (before isParent) (lt_length_of_parent? isParent)
  grounded := Ascent.exists_of_lt fun _ _ isParent => before isParent

end ParentTable

namespace Definition

open ParentTable

/-! ### Lexical parents -/

theorem length_parentsWithin (index : Nat) (scopes : Scopes) (definitions : List Definition) :
    (parentsWithin index scopes definitions).length = definitions.length := by
  induction definitions generalizing index scopes with
  | nil => rfl
  | cons definition rest inductionHypothesis =>
    rw [parentsWithin, List.length_cons, List.length_cons, inductionHypothesis]

/-- The container that a definition is given is one of the open ones. -/
theorem exists_mem_of_parentOf? {scopes : Scopes} {definition : Definition} {parent : Nat}
    (isParent : scopes.parentOf? definition = some parent) :
    ∃ scope ∈ scopes, scope.1 = parent := by
  have innermost (isHead : scopes.head?.map Prod.fst = some parent) :
      ∃ scope ∈ scopes, scope.1 = parent := by
    obtain ⟨scope, found, same⟩ := Option.map_eq_some_iff.mp isHead
    exact ⟨scope, List.mem_of_head? found, same⟩
  unfold Scopes.parentOf? at isParent
  split at isParent
  · rcases Option.or_eq_some_iff.mp isParent with isType | ⟨-, isHead⟩
    · obtain ⟨scope, found, same⟩ := Option.map_eq_some_iff.mp isType
      exact ⟨scope, List.mem_of_find?_eq_some found, same⟩
    · exact innermost isHead
  · exact innermost isParent

/-- If the open containers stand before a place, so do the parents of what follows from there
on. -/
theorem parent?_parentsWithin_lt {start : Nat} {scopes : Scopes} {definitions : List Definition}
    (before : ∀ scope ∈ scopes, scope.1 < start) {index parent : Nat}
    (isParent : parent? (parentsWithin start scopes definitions) index = some parent) :
    parent < start + index := by
  induction definitions generalizing start scopes index with
  | nil =>
    rw [parentsWithin, parent?_eq_none (Nat.zero_le _)] at isParent
    cases isParent
  | cons definition rest inductionHypothesis =>
    have enclosingBefore : ∀ scope ∈ scopes.within definition.range, scope.1 < start :=
      fun scope member => before scope ((List.dropWhile_suffix _).subset member)
    unfold parentsWithin at isParent
    cases index with
    | zero =>
      obtain ⟨scope, member, rfl⟩ := exists_mem_of_parentOf? (Option.join_eq_some_iff.mp isParent |>
        Option.some.inj)
      exact enclosingBefore scope member
    | succ index =>
      rw [← Nat.add_assoc, Nat.add_right_comm]
      refine inductionHypothesis (fun scope member => ?_) isParent
      split at member
      · rcases List.mem_cons.mp member with rfl | member
        · exact Nat.lt_succ_self _
        · exact Nat.lt_succ_of_lt (enclosingBefore scope member)
      · exact Nat.lt_succ_of_lt (enclosingBefore scope member)

/-- The lexical parents are a forest. -/
theorem isForest_lexicalParents (definitions : List Definition) :
    IsForest (lexicalParents definitions) :=
  isForest_of_lt fun isParent => by
    simpa using parent?_parentsWithin_lt (fun scope member => absurd member List.not_mem_nil)
      isParent

/-! ### Owners -/

theorem mem_typesNamed_of_ownerIndex? {definitions : List Definition} {parents : ParentTable}
    {index target : Nat} {owner : String}
    (isTarget : ownerIndex? definitions parents index owner = some target) :
    target ∈ typesNamed definitions owner index := by
  rcases Option.or_eq_some_iff.mp isTarget with sameScope | ⟨-, first⟩
  · exact List.mem_of_find?_eq_some sameScope
  · exact List.mem_of_head? first

theorem lt_length_of_ownerIndex? {definitions : List Definition} {parents : ParentTable}
    {index target : Nat} {owner : String}
    (isTarget : ownerIndex? definitions parents index owner = some target) :
    target < definitions.length := by
  obtain ⟨⟨definition, place⟩, member, rfl⟩ :=
    List.mem_map.mp (mem_typesNamed_of_ownerIndex? isTarget)
  exact (List.mem_zipIdx' (List.mem_filter.mp member).1).1

/-- What linking an owner does: nothing, or it puts the definition below the type that the owner
means, which the definition is no ancestor of. -/
theorem linkOwner_cases (definitions : List Definition) (parents : ParentTable)
    (definition : Definition) (index : Nat) :
    linkOwner definitions parents (definition, index) = parents ∨
      ∃ owner target, definition.owner = some owner ∧
        isTypeAt definitions (parents.parent? index) = false ∧
        ownerIndex? definitions parents index owner = some target ∧
        parents.isAncestor index target = false ∧
        linkOwner definitions parents (definition, index) = parents.set index (some target) := by
  cases isOwned : definition.owner with
  | none => exact .inl (by rw [linkOwner, isOwned])
  | some owner =>
    cases inType : isTypeAt definitions (parents.parent? index) with
    | true => exact .inl (by rw [linkOwner, isOwned]; simp [inType])
    | false =>
      cases isTarget : ownerIndex? definitions parents index owner with
      | none => exact .inl (by rw [linkOwner, isOwned]; simp [inType, isTarget])
      | some target =>
        cases apart : parents.isAncestor index target with
        | true => exact .inl (by rw [linkOwner, isOwned]; simp [inType, isTarget, apart])
        | false =>
          refine .inr ⟨owner, target, rfl, rfl, isTarget, apart, ?_⟩
          rw [linkOwner, isOwned]
          simp [inType, isTarget, apart]

theorem length_linkOwner (definitions : List Definition) (parents : ParentTable)
    (entry : Definition × Nat) : (linkOwner definitions parents entry).length = parents.length := by
  rcases linkOwner_cases definitions parents entry.1 entry.2 with same | ⟨_, _, _, _, _, _, linked⟩
  · rw [same]
  · rw [linked, List.length_set]

/-- Linking one owner keeps the forest. -/
theorem isForest_linkOwner {definitions : List Definition} {parents : ParentTable}
    (forest : parents.IsForest) (full : parents.length = definitions.length)
    {entry : Definition × Nat} (inside : entry.2 < definitions.length) :
    IsForest (linkOwner definitions parents entry) := by
  rcases linkOwner_cases definitions parents entry.1 entry.2 with
    same | ⟨owner, target, _, _, isTarget, apart, linked⟩
  · rwa [same]
  · rw [linked]
    exact forest.set (full ▸ inside) (full ▸ lt_length_of_ownerIndex? isTarget) apart

/-- Linking owners one after the other keeps the forest at every step. -/
theorem isForest_foldl_linkOwner {definitions : List Definition} {parents : ParentTable}
    (forest : parents.IsForest) (full : parents.length = definitions.length)
    {entries : List (Definition × Nat)} (inside : ∀ entry ∈ entries, entry.2 < definitions.length) :
    IsForest (entries.foldl (linkOwner definitions) parents) ∧
      (entries.foldl (linkOwner definitions) parents).length = definitions.length := by
  induction entries generalizing parents with
  | nil => exact ⟨forest, full⟩
  | cons entry rest inductionHypothesis =>
    exact inductionHypothesis
      (isForest_linkOwner forest full (inside entry List.mem_cons_self))
      ((length_linkOwner definitions parents entry).trans full)
      fun other member => inside other (List.mem_cons_of_mem _ member)

private theorem isForest_and_length_parents (definitions : List Definition) :
    IsForest (parents definitions) ∧ (parents definitions).length = definitions.length :=
  isForest_foldl_linkOwner (isForest_lexicalParents definitions)
    (length_parentsWithin 0 [] definitions) fun _ member => (List.mem_zipIdx' member).1

/-- The parents of definitions are a forest. -/
theorem isForest_parents (definitions : List Definition) : IsForest (parents definitions) :=
  (isForest_and_length_parents definitions).1

theorem length_parents (definitions : List Definition) :
    (parents definitions).length = definitions.length :=
  (isForest_and_length_parents definitions).2

end Definition

end CodeGraph
