/-
This file sorts lists by a comparison. Sorting is stable: items that compare equal keep their
order.
-/

namespace CodeGraph

/-- The items of a list in ascending order. -/
def sortBy {item : Type} (compare : item → item → Ordering) (items : List item) : List item :=
  items.mergeSort fun left right => (compare left right).isLE

/-- The first of the least items of a list. -/
def leastBy? {item : Type} (compare : item → item → Ordering) (items : List item) : Option item :=
  (sortBy compare items).head?

variable {item : Type} (compare : item → item → Ordering)

theorem sortBy_perm (items : List item) : (sortBy compare items).Perm items :=
  List.mergeSort_perm items _

theorem mem_sortBy {entry : item} {items : List item} :
    entry ∈ sortBy compare items ↔ entry ∈ items :=
  (sortBy_perm compare items).mem_iff

/-- A sorted list ascends. -/
theorem pairwise_sortBy [Std.TransCmp compare] (items : List item) :
    (sortBy compare items).Pairwise fun left right => (compare left right).isLE := by
  refine List.pairwise_mergeSort (fun first second third firstLe secondLe => ?_)
    (fun left right => ?_) items
  · exact Std.TransCmp.isLE_trans firstLe secondLe
  · have swap : compare right left = (compare left right).swap := Std.OrientedCmp.eq_swap
    rw [swap]
    cases compare left right <;> rfl

end CodeGraph
