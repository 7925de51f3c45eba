/-
This file proves what linking owners does to the parents of definitions: that they are a forest at
every step, and where a definition with an owner ends up.

The parents are a forest before the first link, between any two and behind the last one. What is
said of forests elsewhere in terms of ways up is said here in terms of the relation between a
definition and its parent. Its transitive closure never leads from a definition back to it; its
reflexive closure is what the test for an ancestor decides (`isAncestor_iff`). That the test does
not give up early is a statement of its own, about the fuel (`exhausts`): a way up has fewer steps
than the table has places.

A type beside a definition is one that has the same lexical parent and the name of the owner
(`IsTypeBeside`). Only functions have owners, so types keep their lexical parents through all
links, and when the owner is linked the search looks through exactly these types, in ascending
order; hence it finds the first of them. The link is made unless the definition is an ancestor of
that type. But the two have one parent, and in a forest neither of two things with one parent is
above the other. So the definition ends up below the first type beside it
(`exists_parent?_of_isTypeBeside`).
-/
import Mathlib.Order.Bounds.Defs
import CodeGraph.Proofs.Extraction.Enclosure
import CodeGraph.Proofs.Extraction.Ownership

namespace CodeGraph

namespace ParentTable

variable {parents : ParentTable} {index : Nat} {way : List Nat}

/-- Whether a definition has another one as its parent. -/
def HasParent (parents : ParentTable) (index parent : Nat) : Prop :=
  parents.parent? index = some parent

/-- Whether the search for an ancestor is cut short because its fuel is used up. -/
def exhausts (parents : ParentTable) (ancestor : Nat) : Nat → Option Nat → Bool
  | _, none => false
  | 0, some _ => true
  | fuel + 1, some index =>
    index != ancestor && parents.exhausts ancestor fuel (parents.parent? index)

/-- No search uses up more fuel than the way up has steps. -/
theorem exhausts_eq_false (ascent : Ascent parents.parent? index way) (ancestor : Nat) {fuel : Nat}
    (enough : way.length < fuel) : parents.exhausts ancestor fuel (some index) = false := by
  induction ascent generalizing fuel with
  | top noneAbove =>
    cases fuel with
    | zero => cases enough
    | succ fuel => rw [exhausts, noneAbove, exhausts, Bool.and_false]
  | step isAbove _ inductionHypothesis =>
    cases fuel with
    | zero => cases enough
    | succ fuel =>
      rw [exhausts, isAbove, inductionHypothesis (Nat.lt_of_succ_lt_succ enough), Bool.and_false]

namespace IsForest

variable (forest : parents.IsForest)
include forest

/-- In a forest nothing is its own ancestor. -/
theorem not_transGen (index : Nat) : ¬ Relation.TransGen parents.HasParent index index := by
  obtain ⟨way, ascent⟩ := forest.grounded index
  exact fun cycle => ascent.not_mem (ascent.mem_iff_transGen.mpr cycle)

/-- The walk to the ancestors of a definition is its whole way up. -/
theorem ascent_ancestors (index : Nat) :
    Ascent parents.parent? index (parents.ancestors index) := by
  obtain ⟨way, ascent⟩ := forest.grounded index
  rwa [forest.ancestors_eq ascent]

theorem exhausts_eq_false (inside : index < parents.length) (ancestor : Nat) :
    parents.exhausts ancestor parents.length (some index) = false := by
  obtain ⟨way, ascent⟩ := forest.grounded index
  exact ParentTable.exhausts_eq_false ascent ancestor (forest.length_lt ascent inside)

/-- The test for an ancestor finds exactly what is reached by going up from parent to parent. -/
theorem isAncestor_iff (inside : index < parents.length) (ancestor : Nat) :
    parents.isAncestor ancestor index ↔ Relation.ReflTransGen parents.HasParent index ancestor := by
  obtain ⟨way, ascent⟩ := forest.grounded index
  rw [forest.isAncestor_eq ascent inside, decide_eq_true_iff, List.mem_cons,
    ascent.mem_iff_transGen, Relation.reflTransGen_iff_eq_or_transGen]
  rfl

/-- Of two definitions with one parent neither is an ancestor of the other. -/
theorem isAncestor_eq_false_of_same_parent {other : Nat} (inside : other < parents.length)
    (apart : index ≠ other) (same : parents.parent? other = parents.parent? index) :
    parents.isAncestor index other = false := by
  obtain ⟨way, ascent⟩ := forest.grounded index
  rw [forest.isAncestor_eq (ascent.of_same same) inside, decide_eq_false_iff_not, List.mem_cons,
    not_or]
  exact ⟨apart, ascent.not_mem⟩

end IsForest

end ParentTable

namespace Definition

open ParentTable

variable {definitions : List Definition} {index place : Nat} {definition : Definition}
  {owner : String}

/-! ### One link after the other -/

theorem parentsBefore_succ (isDefinition : definitions[index]? = some definition) :
    parentsBefore definitions (index + 1) =
      linkOwner definitions (parentsBefore definitions index) (definition, index) := by
  have entry : definitions.zipIdx[index]? = some (definition, index) := by
    rw [List.getElem?_zipIdx, isDefinition, Nat.zero_add]
    rfl
  rw [parentsBefore, List.take_add_one, entry, List.foldl_append]
  rfl

theorem parentsBefore_length (definitions : List Definition) :
    parentsBefore definitions definitions.length = parents definitions := by
  rw [parentsBefore, List.take_of_length_le (Nat.le_of_eq List.length_zipIdx)]
  rfl

/-- Without an owner a definition keeps its lexical parent through all links. -/
theorem parent?_parentsBefore_of_unowned (isDefinition : definitions[place]? = some definition)
    (unowned : definition.owner = none) (index : Nat) :
    (parentsBefore definitions index).parent? place =
      (lexicalParents definitions).parent? place := by
  refine parent?_foldl_linkOwner_of_unowned fun entry member same => ?_
  have isEntry := List.mem_zipIdx_iff_getElem?.mp (List.mem_of_mem_take member)
  rw [same] at isEntry
  rwa [Option.some.inj (isEntry.symm.trans isDefinition)]

/-! ### Types beside a definition -/

/-- Only functions say to which type they belong. -/
def OnlyFunctionsOwned (definitions : List Definition) : Prop :=
  ∀ definition ∈ definitions, definition.owner.isSome → definition.kind = .functionDefinition

/-- Another definition that is a type with the name of an owner and has the lexical parent of the
one at an index. -/
structure IsTypeBeside (definitions : List Definition) (index : Nat) (owner : String)
    (place : Nat) : Prop where
  isType : ∃ definition, definitions[place]? = some definition ∧ definition.kind.isType ∧
    definition.name = owner
  other : place ≠ index
  sameParent : (lexicalParents definitions).parent? place =
    (lexicalParents definitions).parent? index

theorem pairwise_typesNamed (definitions : List Definition) (owner : String) (index : Nat) :
    (typesNamed definitions owner index).Pairwise (· < ·) :=
  List.pairwise_map.mpr ((pairwise_snd_zipIdx definitions).filter _)

/-- The items of an ascending list that are accepted begin with the one that is found. -/
theorem isLeast_of_find? {items : List Nat} (ascending : items.Pairwise (· < ·))
    {accept : Nat → Bool} {first : Nat} (found : items.find? accept = some first) :
    IsLeast {item | item ∈ items ∧ accept item} first := by
  obtain ⟨accepted, front, back, rfl, refused⟩ := List.find?_eq_some_iff_append.mp found
  refine ⟨⟨List.mem_append_right _ List.mem_cons_self, accepted⟩, ?_⟩
  rintro item ⟨member, itemAccepted⟩
  rcases List.mem_append.mp member with inFront | inBack
  · have := refused item inFront
    rw [itemAccepted] at this
    cases this
  · rcases List.mem_cons.mp inBack with rfl | behind
    · exact Nat.le_refl _
    · have ⟨_, ascendingBack, _⟩ := List.pairwise_append.mp ascending
      exact Nat.le_of_lt ((List.pairwise_cons.mp ascendingBack).1 item behind)

/-- Where only functions have owners, the search for a type in the scope of a definition looks for
the types beside it. -/
theorem mem_candidates_iff (only : OnlyFunctionsOwned definitions) :
    (place ∈ typesNamed definitions owner index ∧
        (parentsBefore definitions index).parent? place ==
          (parentsBefore definitions index).parent? index) ↔
      IsTypeBeside definitions index owner place := by
  rw [typesNamed, List.mem_map, beq_iff_eq, parent?_parentsBefore_self]
  have keeps {type : Definition} (isDefinition : definitions[place]? = some type)
      (isType : type.kind.isType) : (parentsBefore definitions index).parent? place =
        (lexicalParents definitions).parent? place := by
    refine parent?_parentsBefore_of_unowned isDefinition ?_ index
    refine Option.not_isSome_iff_eq_none.mp fun owned => ?_
    rw [only type (List.mem_of_getElem? isDefinition) owned] at isType
    cases isType
  constructor
  · rintro ⟨⟨⟨type, _⟩, member, rfl⟩, sameParent⟩
    obtain ⟨isEntry, accepted⟩ := List.mem_filter.mp member
    simp only [Bool.and_eq_true, bne_iff_ne, beq_iff_eq] at accepted
    obtain ⟨⟨other, isType⟩, named⟩ := accepted
    have isDefinition := List.mem_zipIdx_iff_getElem?.mp isEntry
    exact ⟨⟨type, isDefinition, isType, named⟩, other, keeps isDefinition isType ▸ sameParent⟩
  · rintro ⟨⟨type, isDefinition, isType, named⟩, other, sameParent⟩
    refine ⟨⟨(type, place), List.mem_filter.mpr
      ⟨List.mem_zipIdx_iff_getElem?.mpr isDefinition, ?_⟩, rfl⟩,
      (keeps isDefinition isType).trans sameParent⟩
    simp only [Bool.and_eq_true, bne_iff_ne, beq_iff_eq]
    exact ⟨⟨other, isType⟩, named⟩

/-- An owner means the first type beside the definition, if there is one. -/
theorem exists_ownerIndex?_eq (only : OnlyFunctionsOwned definitions)
    (beside : IsTypeBeside definitions index owner place) :
    ∃ first, IsLeast {place | IsTypeBeside definitions index owner place} first ∧
      ownerIndex? definitions (parentsBefore definitions index) index owner = some first := by
  obtain ⟨member, accepted⟩ := (mem_candidates_iff only).mpr beside
  obtain ⟨first, found⟩ : ∃ first, (typesNamed definitions owner index).find? (fun candidate =>
      (parentsBefore definitions index).parent? candidate ==
        (parentsBefore definitions index).parent? index) = some first :=
    Option.isSome_iff_exists.mp (List.find?_isSome.mpr ⟨place, member, accepted⟩)
  refine ⟨first, ?_, ?_⟩
  · have least := isLeast_of_find? (pairwise_typesNamed definitions owner index) found
    simpa only [mem_candidates_iff only] using least
  · rw [ownerIndex?]
    exact Option.or_eq_some_iff.mpr (.inl found)

/-- A definition outside of all types is put below the first type beside it that its owner names. -/
theorem exists_parent?_of_isTypeBeside (only : OnlyFunctionsOwned definitions)
    (isDefinition : definitions[index]? = some definition) (isOwned : definition.owner = some owner)
    (outside : isTypeAt definitions ((lexicalParents definitions).parent? index) = false)
    (beside : IsTypeBeside definitions index owner place) :
    ∃ first, IsLeast {place | IsTypeBeside definitions index owner place} first ∧
      (parents definitions).parent? index = some first := by
  obtain ⟨first, least, isTarget⟩ := exists_ownerIndex?_eq only beside
  refine ⟨first, least, ?_⟩
  have ⟨_, sameParent⟩ := (mem_candidates_iff only).mpr least.1
  have forest := isForest_parentsBefore definitions index
  have full := length_parentsBefore definitions index
  have apart : (parentsBefore definitions index).isAncestor index first = false :=
    forest.isAncestor_eq_false_of_same_parent (full ▸ lt_length_of_ownerIndex? isTarget)
      least.1.other.symm (beq_iff_eq.mp sameParent)
  have stillOutside :
      isTypeAt definitions ((parentsBefore definitions index).parent? index) = false := by
    rwa [parent?_parentsBefore_self]
  have linked : linkOwner definitions (parentsBefore definitions index) (definition, index) =
      (parentsBefore definitions index).set index (some first) := by
    rw [linkOwner, isOwned]
    simp [stillOutside, isTarget, apart]
  rw [parent?_parents_eq isDefinition, linked]
  exact parent?_set_self (full ▸ (List.getElem?_eq_some_iff.mp isDefinition).1)

/-- The parents of definitions are a forest at every step. Before the first owner is linked and
after each link no definition is its own ancestor, the walk to the ancestors comes to its end, and
the search for an ancestor does so within its fuel and is exact. Where only functions have owners,
a definition outside of all types with a type beside it that its owner names ends up below the first
such type, as a method if it is a function. -/
theorem parents_form_forest (definitions : List Definition) :
    parentsBefore definitions 0 = lexicalParents definitions ∧
    (∀ index definition, definitions[index]? = some definition →
      parentsBefore definitions (index + 1) =
        linkOwner definitions (parentsBefore definitions index) (definition, index)) ∧
    parentsBefore definitions definitions.length = parents definitions ∧
    (∀ step index, ¬ Relation.TransGen (parentsBefore definitions step).HasParent index index ∧
      Ascent (parentsBefore definitions step).parent? index
        ((parentsBefore definitions step).ancestors index) ∧
      ∀ ancestor, index < definitions.length →
        (parentsBefore definitions step).exhausts ancestor definitions.length (some index) = false ∧
        ((parentsBefore definitions step).isAncestor ancestor index ↔
          Relation.ReflTransGen (parentsBefore definitions step).HasParent index ancestor)) ∧
    (OnlyFunctionsOwned definitions → ∀ index definition owner,
      definitions[index]? = some definition → definition.owner = some owner →
        isTypeAt definitions ((lexicalParents definitions).parent? index) = false →
          (∃ place, IsTypeBeside definitions index owner place) →
            ∃ first, IsLeast {place | IsTypeBeside definitions index owner place} first ∧
              (parents definitions).parent? index = some first ∧
              (definition.kind = .functionDefinition → ∀ file source,
                (entityAt file source definitions index definition).className =
                  Term.methodDefinition)) := by
  refine ⟨rfl, fun _ _ => parentsBefore_succ, parentsBefore_length definitions,
    fun step index => ?_, ?_⟩
  · have forest := isForest_parentsBefore definitions step
    have full := length_parentsBefore definitions step
    refine ⟨forest.not_transGen index, forest.ascent_ancestors index, fun ancestor inside => ?_⟩
    rw [← full] at inside ⊢
    exact ⟨forest.exhausts_eq_false inside ancestor, forest.isAncestor_iff inside ancestor⟩
  · rintro only index definition owner isDefinition isOwned outside ⟨place, beside⟩
    obtain ⟨first, least, isParent⟩ :=
      exists_parent?_of_isTypeBeside only isDefinition isOwned outside beside
    refine ⟨first, least, isParent, fun isFunction file source => ?_⟩
    rw [className_entityAt]
    exact className_eq_method_of_owner isFunction (isOwned ▸ rfl)

/-- Of two types of one name a method is put below the one in its own module. -/
theorem parents_form_forest_of_typesApart :
    (parents (typesApart "P" "P")).parent? 3 = some 2 ∧
      (entityAt moduleFile ⟨[]⟩ (typesApart "P" "P") 3 (typesApart "P" "P")[3]).className =
        Term.methodDefinition := by
  have only : OnlyFunctionsOwned (typesApart "P" "P") := by
    unfold OnlyFunctionsOwned
    decide
  have beside : IsTypeBeside (typesApart "P" "P") 3 "P" 2 :=
    ⟨⟨_, rfl, rfl, rfl⟩, by decide, by decide +kernel⟩
  obtain ⟨-, -, -, -, links⟩ := parents_form_forest (typesApart "P" "P")
  obtain ⟨first, least, isParent, isMethod⟩ :=
    links only 3 _ "P" rfl rfl (by decide +kernel) ⟨2, beside⟩
  -- The other type and the module itself lie in the file, not in the module.
  have isSecond : first = 2 := by
    have apart : ∀ place < 2, (lexicalParents (typesApart "P" "P")).parent? place ≠
        (lexicalParents (typesApart "P" "P")).parent? 3 := by decide +kernel
    rcases Nat.lt_or_eq_of_le (least.2 beside) with before | same
    · exact absurd least.1.sameParent (apart first before)
    · exact same
  exact ⟨isSecond ▸ isParent, isMethod rfl moduleFile ⟨[]⟩⟩

end Definition

end CodeGraph
