/-
This file defines finite sets of terms. A set is the list of its members in strictly
ascending order, so two sets with the same members are equal.
-/

namespace CodeGraph

/-- A set of terms, as the ascending list of its members. -/
structure TermSet where
  toList : List String
  ascending : toList.Pairwise (· < ·)
  deriving DecidableEq

namespace TermSet

/-- Puts a term at its place in an ascending list, unless it is there already. -/
def insertSorted (term : String) : List String → List String
  | [] => [term]
  | head :: rest =>
    if term < head then term :: head :: rest
    else if term = head then head :: rest
    else head :: insertSorted term rest

theorem mem_insertSorted {term other : String} {terms : List String} :
    other ∈ insertSorted term terms ↔ other = term ∨ other ∈ terms := by
  induction terms with
  | nil => simp [insertSorted]
  | cons head rest inductionHypothesis =>
    unfold insertSorted
    split
    · simp
    · split
      · next same => subst same; simp
      · simp only [List.mem_cons, inductionHypothesis]
        constructor
        · rintro (here | new | there)
          · exact .inr (.inl here)
          · exact .inl new
          · exact .inr (.inr there)
        · rintro (new | here | there)
          · exact .inr (.inl new)
          · exact .inl here
          · exact .inr (.inr there)

theorem pairwise_insertSorted {term : String} {terms : List String}
    (ascending : terms.Pairwise (· < ·)) : (insertSorted term terms).Pairwise (· < ·) := by
  induction terms with
  | nil => simp [insertSorted]
  | cons head rest inductionHypothesis =>
    have ⟨above, restAscending⟩ := List.pairwise_cons.mp ascending
    unfold insertSorted
    split
    · next before =>
      refine List.pairwise_cons.mpr ⟨fun other member => ?_, ascending⟩
      rcases List.mem_cons.mp member with rfl | member
      · exact before
      · exact String.lt_trans before (above other member)
    · next notBefore =>
      split
      · exact ascending
      · next different =>
        refine List.pairwise_cons.mpr ⟨fun other member => ?_, inductionHypothesis restAscending⟩
        rcases mem_insertSorted.mp member with rfl | member
        · rcases Decidable.em (head < other) with after | notAfter
          · exact after
          · exact absurd (String.le_antisymm (String.not_lt.mp notAfter)
              (String.not_lt.mp notBefore)) different
        · exact above other member

/-- The set without members. -/
def empty : TermSet := ⟨[], .nil⟩

instance : Inhabited TermSet := ⟨empty⟩

/-- The set with one more member. -/
def insert (term : String) (set : TermSet) : TermSet :=
  ⟨insertSorted term set.toList, pairwise_insertSorted set.ascending⟩

/-- The set of the terms of a list. -/
def ofList (terms : List String) : TermSet := terms.foldr insert empty

/-- Whether a term is a member. -/
def contains (set : TermSet) (term : String) : Bool := set.toList.contains term

/-- The number of members. -/
def size (set : TermSet) : Nat := set.toList.length

theorem contains_insert (set : TermSet) (term other : String) :
    (set.insert term).contains other = (other == term || set.contains other) := by
  rw [Bool.eq_iff_iff]
  simp [contains, insert, mem_insertSorted]

theorem contains_ofList (terms : List String) (other : String) :
    (ofList terms).contains other = terms.contains other := by
  induction terms with
  | nil => rfl
  | cons term terms inductionHypothesis =>
    show ((ofList terms).insert term).contains other = _
    rw [contains_insert, inductionHypothesis, List.contains_cons]

end TermSet

end CodeGraph
