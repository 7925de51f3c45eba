/-
This file proves that sets of terms, and vocabularies with them, are determined by the names that
they hold.

A set is the only ascending list of its members, so two sets with the same members are equal, and
two vocabularies are equal if their sets for each sort of terms are. Declaring a name adds it to
the set of its sort and to no other. So a vocabulary that is put together from declarations depends
on nothing but which declarations there are, in whatever order and however often.
-/
import Mathlib.Data.List.Basic
import CodeGraph.Vocabulary.Turtle

namespace CodeGraph

/-! ### Sets -/

namespace TermSet

theorem contains_iff_mem {set : TermSet} {term : String} :
    set.contains term = true ↔ term ∈ set.toList := List.contains_iff_mem

theorem nodup_toList (set : TermSet) : set.toList.Nodup :=
  set.ascending.imp fun before => Std.ne_of_lt before

/-- Two sets with the same members are equal. -/
theorem ext_contains {first second : TermSet}
    (same : ∀ term, first.contains term = true ↔ second.contains term = true) :
    first = second := by
  have perm : first.toList.Perm second.toList :=
    (List.perm_ext_iff_of_nodup first.nodup_toList second.nodup_toList).mpr fun term =>
      contains_iff_mem.symm.trans ((same term).trans contains_iff_mem)
  have lists : first.toList = second.toList :=
    perm.eq_of_pairwise (fun _ _ _ _ before after => absurd before (String.lt_asymm after))
      first.ascending second.ascending
  cases first
  cases second
  congr

/-- A set is read back from the list of its members. -/
theorem ofList_toList (set : TermSet) : ofList set.toList = set :=
  ext_contains fun term => by rw [contains_ofList]; rfl

theorem size_eq_zero_iff {set : TermSet} :
    set.size = 0 ↔ ∀ term, set.contains term = false := by
  rw [size, List.length_eq_zero_iff, List.eq_nil_iff_forall_not_mem]
  exact forall_congr' fun term => by
    rw [← contains_iff_mem, Bool.not_eq_true]

end TermSet

/-! ### Vocabularies -/

theorem TermKind.mem_all (kind : TermKind) : kind ∈ TermKind.all := by cases kind <;> decide

namespace Vocabulary

/-- Two vocabularies that hold the same names in the sets of each sort are equal. -/
theorem ext_contains {first second : Vocabulary}
    (same : ∀ kind name,
      (first.terms kind).contains name = true ↔ (second.terms kind).contains name = true) :
    first = second := by
  have sets (kind : TermKind) : first.terms kind = second.terms kind :=
    TermSet.ext_contains (same kind)
  cases first
  cases second
  exact mk.injEq .. ▸ ⟨sets .classTerm, sets .objectProperty, sets .dataProperty,
    sets .annotationProperty⟩

theorem size_eq_zero_iff {vocabulary : Vocabulary} :
    vocabulary.size = 0 ↔ ∀ kind name, (vocabulary.terms kind).contains name = false := by
  have total : vocabulary.size = (vocabulary.terms .classTerm).size +
      (vocabulary.terms .objectProperty).size + (vocabulary.terms .dataProperty).size +
        (vocabulary.terms .annotationProperty).size := by
    simp [size, TermKind.all]
  rw [total]
  constructor
  · intro none kind
    refine TermSet.size_eq_zero_iff.mp ?_
    cases kind <;> omega
  · intro none
    have noSize (kind : TermKind) := TermSet.size_eq_zero_iff.mpr (none kind)
    rw [noSize, noSize, noSize, noSize]

/-- A declaration adds its name to the set of its sort. -/
theorem contains_declare {vocabulary : Vocabulary} {name other : String} {kind sort : TermKind} :
    ((vocabulary.declare name kind).terms sort).contains other = true ↔
      (other, sort) = (name, kind) ∨ (vocabulary.terms sort).contains other = true := by
  cases kind <;> cases sort <;> simp [declare, terms, TermSet.contains_insert]

/-- The vocabulary of some declarations holds what is declared. -/
theorem contains_ofDeclarations {declarations : List (String × TermKind)} {name : String}
    {kind : TermKind} :
    ((ofDeclarations declarations).terms kind).contains name = true ↔
      (name, kind) ∈ declarations := by
  have run (vocabulary : Vocabulary) :
      ((declarations.foldl (fun vocabulary declaration =>
        vocabulary.declare declaration.1 declaration.2) vocabulary).terms kind).contains name = true
          ↔ (name, kind) ∈ declarations ∨ (vocabulary.terms kind).contains name = true := by
    induction declarations generalizing vocabulary with
    | nil => simp
    | cons declaration rest inductionHypothesis =>
      rw [List.foldl_cons, inductionHypothesis, contains_declare, List.mem_cons]
      exact or_left_comm.trans or_assoc.symm
  have nothing : (empty.terms kind).contains name = false := by cases kind <;> rfl
  refine (run empty).trans ?_
  rw [nothing]
  simp

/-- A vocabulary depends on nothing but which declarations there are. -/
theorem ofDeclarations_congr {declarations others : List (String × TermKind)}
    (same : ∀ declaration, declaration ∈ declarations ↔ declaration ∈ others) :
    ofDeclarations declarations = ofDeclarations others :=
  ext_contains fun kind name =>
    contains_ofDeclarations.trans ((same (name, kind)).trans contains_ofDeclarations.symm)

end Vocabulary

end CodeGraph
