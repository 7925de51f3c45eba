/-
This file proves what sorting keeps.

Where a comparison tells the items of a list apart, the sorted list depends on nothing but which
items there are: two sorted lists with the same items are equal because the order is antisymmetric
on these items (`sortBy_eq_of_perm`). Where it does not, sorting is still stable. One more item at
the front is put behind all that are less and before all others (`exists_sortBy_cons`), and by
induction along this leaving items out and sorting may change places (`filter_sortBy`).
-/
import CodeGraph.Sorting

namespace CodeGraph

variable {item : Type} (compare : item → item → Ordering)

/-- A comparison tells the items of a list apart: those that compare equal are equal. -/
def Separates (items : List item) : Prop :=
  ∀ left ∈ items, ∀ right ∈ items, compare left right = .eq → left = right

variable {compare}

theorem Separates.filter {items : List item} (separates : Separates compare items)
    (accept : item → Bool) : Separates compare (items.filter accept) := by
  intro left leftMember right rightMember
  exact separates left (List.mem_filter.mp leftMember).1 right (List.mem_filter.mp rightMember).1

/-! ### The least item -/

theorem mem_of_leastBy? {items : List item} {least : item}
    (isLeast : leastBy? compare items = some least) : least ∈ items :=
  (mem_sortBy compare).mp (List.mem_of_head? isLeast)

theorem exists_leastBy? {items : List item} (inhabited : items ≠ []) :
    ∃ least, leastBy? compare items = some least := by
  have sorted : sortBy compare items ≠ [] := fun none => by
    have perm := sortBy_perm compare items
    rw [none] at perm
    exact inhabited perm.nil_eq.symm
  exact ⟨_, List.head?_eq_some_head sorted⟩

section

variable [Std.TransCmp compare]

theorem isLE_total (left right : item) :
    (compare left right).isLE || (compare right left).isLE := by
  rw [show compare right left = (compare left right).swap from Std.OrientedCmp.eq_swap]
  cases compare left right <;> rfl

theorem eq_of_isLE_of_isLE {left right : item} (below : (compare left right).isLE)
    (above : (compare right left).isLE) : compare left right = .eq := by
  rw [show compare right left = (compare left right).swap from Std.OrientedCmp.eq_swap] at above
  cases order : compare left right <;> simp_all

/-! ### Order of the input -/

/-- A list is sorted into the same list in whatever order it stands, if the comparison tells its
items apart. -/
theorem sortBy_eq_of_perm {items others : List item} (separates : Separates compare items)
    (perm : items.Perm others) : sortBy compare items = sortBy compare others := by
  refine List.Perm.eq_of_pairwise ?_ (pairwise_sortBy compare items)
    (pairwise_sortBy compare others)
    ((sortBy_perm compare items).trans (perm.trans (sortBy_perm compare others).symm))
  intro left right leftMember rightMember below above
  refine separates left ((mem_sortBy compare).mp leftMember) right ?_
    (eq_of_isLE_of_isLE below above)
  exact perm.mem_iff.mpr ((mem_sortBy compare).mp rightMember)

/-- The least item does not depend on the order either. -/
theorem leastBy?_eq_of_perm {items others : List item} (separates : Separates compare items)
    (perm : items.Perm others) : leastBy? compare items = leastBy? compare others := by
  rw [leastBy?, leastBy?, sortBy_eq_of_perm separates perm]

/-! ### Leaving items out -/

variable (compare) in
/-- Sorting puts one more item behind all that are less. -/
theorem exists_sortBy_cons (head : item) (rest : List item) :
    ∃ before after, sortBy compare (head :: rest) = before ++ head :: after ∧
      sortBy compare rest = before ++ after ∧
      (∀ other ∈ before, (compare head other).isLE = false) ∧
      ∀ other ∈ after, (compare head other).isLE := by
  obtain ⟨before, after, whole, tail, greater⟩ :=
    @List.mergeSort_cons item (fun left right => (compare left right).isLE)
      (fun _ _ _ => Std.TransCmp.isLE_trans) isLE_total head rest
  refine ⟨before, after, whole, tail, fun other member => ?_, fun other member => ?_⟩
  · simpa using greater other member
  · have ascending := pairwise_sortBy compare (head :: rest)
    rw [show sortBy compare (head :: rest) = before ++ head :: after from whole] at ascending
    exact (List.pairwise_cons.mp (List.pairwise_append.mp ascending).2.1).1 other member

/-- Two lists that a test cuts in two are cut at the same place. -/
theorem append_inj_of_cut (test : item → Bool) {before after front back : List item}
    (same : before ++ after = front ++ back)
    (beforePasses : ∀ entry ∈ before, test entry) (afterFails : ∀ entry ∈ after, test entry = false)
    (frontPasses : ∀ entry ∈ front, test entry) (backFails : ∀ entry ∈ back, test entry = false) :
    before = front ∧ after = back := by
  have passing : before = front := by
    have filtered := congrArg (List.filter test) same
    rwa [List.filter_append, List.filter_append, List.filter_eq_self.mpr beforePasses,
      List.filter_eq_self.mpr frontPasses,
      List.filter_eq_nil_iff.mpr fun entry member => by simp [afterFails entry member],
      List.filter_eq_nil_iff.mpr fun entry member => by simp [backFails entry member],
      List.append_nil, List.append_nil] at filtered
  subst passing
  exact ⟨rfl, List.append_cancel_left same⟩

/-- Items may be left out before or after a list is sorted. -/
theorem filter_sortBy (accept : item → Bool) (items : List item) :
    (sortBy compare items).filter accept = sortBy compare (items.filter accept) := by
  induction items with
  | nil => simp [sortBy]
  | cons head rest inductionHypothesis =>
    obtain ⟨before, after, whole, tail, greater, least⟩ := exists_sortBy_cons compare head rest
    rw [tail, List.filter_append] at inductionHypothesis
    rw [whole, List.filter_append]
    by_cases accepted : accept head
    · obtain ⟨front, back, wholeKept, tailKept, greaterKept, leastKept⟩ :=
        exists_sortBy_cons compare head (rest.filter accept)
      rw [List.filter_cons_of_pos accepted, List.filter_cons_of_pos accepted, wholeKept]
      have parts := append_inj_of_cut (fun other => !(compare head other).isLE)
        (inductionHypothesis.trans tailKept)
        (fun entry member => by simpa using greater entry (List.mem_filter.mp member).1)
        (fun entry member => by rw [least entry (List.mem_filter.mp member).1]; rfl)
        (fun entry member => by simpa using greaterKept entry member)
        (fun entry member => by rw [leastKept entry member]; rfl)
      rw [parts.1, parts.2]
    · rw [List.filter_cons_of_neg accepted, List.filter_cons_of_neg accepted, inductionHypothesis]

end

end CodeGraph
