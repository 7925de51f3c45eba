/-
This file makes the definitions of a file computable by proof.

The search for matches and the merging of definitions sort by merging, which recurses on the length
of a list and does not reduce. Inserting one item after the other reduces. Both ways of sorting are
stable, so they come to the same list (`mergeSort_eq_insertionSort`): one more item at the front is
put behind all that are less and before all others, whichever way is taken. What an example
computes is therefore the definition itself, rewritten.
-/
import Mathlib.Data.List.Sort
import CodeGraph.Proofs.Extraction.Definitions
import CodeGraph.Proofs.Sorting

namespace CodeGraph

/-! ### Sorting by insertion -/

section

variable {item : Type} {isLE : item → item → Bool}

theorem orderedInsert_append {head : item} {before after : List item}
    (less : ∀ other ∈ before, isLE head other = false)
    (notLess : ∀ other ∈ after, isLE head other) :
    (before ++ after).orderedInsert (isLE · ·) head = before ++ head :: after := by
  induction before with
  | nil =>
    cases after with
    | nil => rfl
    | cons first rest => exact List.orderedInsert_cons_of_le _ _ (notLess first List.mem_cons_self)
  | cons first rest inductionHypothesis =>
    have ⟨lessFirst, lessRest⟩ := List.forall_mem_cons.mp less
    rw [List.cons_append, List.orderedInsert_of_not_le _ _ (by simp [lessFirst]),
      inductionHypothesis lessRest, List.cons_append]

/-- Sorting by merging and sorting by insertion are the same. -/
theorem mergeSort_eq_insertionSort
    (trans : ∀ first second third, isLE first second → isLE second third → isLE first third)
    (total : ∀ left right, isLE left right || isLE right left) (items : List item) :
    items.mergeSort isLE = items.insertionSort (isLE · ·) := by
  induction items with
  | nil => rw [List.mergeSort_nil, List.insertionSort_nil]
  | cons head rest inductionHypothesis =>
    obtain ⟨before, after, whole, tail, less⟩ := List.mergeSort_cons trans total head rest
    have ascending := List.pairwise_mergeSort trans total (head :: rest)
    rw [whole] at ascending
    rw [List.insertionSort_cons, ← inductionHypothesis, whole, tail, orderedInsert_append]
    · exact fun other member => by simpa using less other member
    · exact (List.pairwise_cons.mp (List.pairwise_append.mp ascending).2.1).1

end

namespace Pattern

theorem precedes_iff {left right : Nat × Match} :
    precedes left right ↔ left.2.last < right.2.last ∨
      left.2.last = right.2.last ∧ left.1 ≤ right.1 := by
  simp [precedes]

/-- The matches of a pattern within a tree, sorted by insertion. -/
def matchesIn (source : SourceText) (pattern : Pattern) (tree : SyntaxTree) : List Match :=
  let found := tree.subtrees.flatMap fun subtree =>
    (matchesAt source pattern subtree).map fun found => (subtree.root.index, found)
  dropRepeated [] ((found.insertionSort (precedes · ·)).map Prod.snd)

theorem search_eq_matchesIn : search = matchesIn := by
  funext source pattern tree
  rw [search, matchesIn, mergeSort_eq_insertionSort]
  · intro first second third
    simp only [precedes_iff]
    omega
  · intro left right
    rw [Bool.or_eq_true, precedes_iff, precedes_iff]
    omega

end Pattern

theorem sortBy_eq_insertionSort {item : Type} (compare : item → item → Ordering)
    [Std.TransCmp compare] (items : List item) :
    sortBy compare items = items.insertionSort fun left right => (compare left right).isLE := by
  refine mergeSort_eq_insertionSort (fun _ _ _ => Std.TransCmp.isLE_trans) (fun left right => ?_)
    items
  exact isLE_total left right

/-- The definitions of a syntax tree, found and sorted by insertion. -/
theorem Extraction.definitionsIn_eq (language : Language) (source : SourceText)
    (tree : SyntaxTree) :
    definitionsIn language source tree =
      (((language.queries.flatMap fun (kind, patterns) =>
        patterns.zipIdx.flatMap fun (pattern, index) =>
          (pattern.matchesIn source tree).map (Capture.ofMatch source kind index)).filterMap
            definition?).foldl (fun merged definition => Definition.addMerged definition merged)
              []).insertionSort fun left right => (Definition.compare left right).isLE := by
  rw [definitionsIn, Definition.merge, sortBy_eq_insertionSort, Capture.ofTable,
    Pattern.search_eq_matchesIn]

end CodeGraph
