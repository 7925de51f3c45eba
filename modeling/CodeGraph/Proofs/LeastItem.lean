/-
This file proves what the least item of a list is, for any comparison that is an order up to
equality: of the items that no other item is less than it is the first.

The search takes the head of the sorted list. Sorting is stable, so a new head of the list becomes
the least item unless one behind it is less (`leastBy?_cons`), and the proofs go by induction along
this equation. They come to a description without any search: the least item is less than all that
stand before it, and no item behind it is less (`leastBy?_eq_some_iff`). Where the comparison tells
items apart the place does not matter; where it does not, the least item with its place is the
least in the order that compares places last (`IsLeastAt`). That form shows that it stays the least
when another item is left out.

The least item may be found in stages: keep the items with the least key first, and take the least
of those (`leastBy?_filter_key`). This is how filters that run before a comparison become a part of
it.

A search that goes from larger items to smaller ones and stops where it finds something is
described by what is largest: no larger item gives anything. Lists that are tried from the longest
to the shortest are a case of this.
-/
import CodeGraph.Proofs.Sorting
import Mathlib.Data.List.Basic

namespace CodeGraph

variable {item : Type} {compare : item → item → Ordering} [Std.TransCmp compare]

/-! ### The first of the least items -/

theorem isLE_of_leastBy? {items : List item} {least other : item}
    (isLeast : leastBy? compare items = some least) (member : other ∈ items) :
    (compare least other).isLE := by
  obtain ⟨others, sorted⟩ := List.head?_eq_some_iff.mp isLeast
  have ascending := pairwise_sortBy compare items
  rw [sorted] at ascending
  have place : other ∈ least :: others := sorted ▸ (mem_sortBy compare).mpr member
  obtain rfl | behind := List.mem_cons.mp place
  · rw [show compare other other = .eq from Std.ReflCmp.compare_self]
    rfl
  · exact (List.pairwise_cons.mp ascending).1 other behind

variable (compare) in
/-- A new head is the least item unless one behind it is less. -/
theorem leastBy?_cons (head : item) (rest : List item) :
    leastBy? compare (head :: rest) =
      match leastBy? compare rest with
      | none => some head
      | some least => if (compare head least).isLE then some head else some least := by
  obtain ⟨before, after, whole, tail, less, notLess⟩ := exists_sortBy_cons compare head rest
  rw [leastBy?, leastBy?, whole, tail]
  cases before with
  | cons first others =>
    exact (if_neg (Bool.eq_false_iff.mp (less first List.mem_cons_self))).symm
  | nil =>
    cases after with
    | nil => rfl
    | cons first others => exact (if_pos (notLess first List.mem_cons_self)).symm

theorem exists_split_of_leastBy? {items : List item} {least : item}
    (isLeast : leastBy? compare items = some least) :
    ∃ front back, items = front ++ least :: back ∧ ∀ other ∈ front, compare least other = .lt := by
  induction items with
  | nil => cases (mem_of_leastBy? isLeast)
  | cons head rest inductionHypothesis =>
    rw [leastBy?_cons] at isLeast
    split at isLeast
    · cases isLeast
      exact ⟨[], rest, rfl, by simp⟩
    · next found leastRest =>
      split at isLeast
      · cases isLeast
        exact ⟨[], rest, rfl, by simp⟩
      · next notBelow =>
        obtain ⟨front, back, rfl, less⟩ := inductionHypothesis (leastRest.trans isLeast)
        refine ⟨head :: front, back, rfl, List.forall_mem_cons.mpr ⟨?_, less⟩⟩
        cases isLeast
        exact Std.OrientedCmp.gt_iff_lt.mp (by cases order : compare head least <;> simp_all)

/-- The least item is less than all that stand before it, and no item behind it is less. -/
theorem leastBy?_eq_some_iff {items : List item} {least : item} :
    leastBy? compare items = some least ↔
      ∃ front back, items = front ++ least :: back ∧
        (∀ other ∈ front, compare least other = .lt) ∧
        ∀ other ∈ back, (compare least other).isLE := by
  constructor
  · intro isLeast
    obtain ⟨front, back, split, less⟩ := exists_split_of_leastBy? isLeast
    refine ⟨front, back, split, less, fun other behind => isLE_of_leastBy? isLeast ?_⟩
    exact split ▸ List.mem_append_right front (List.mem_cons_of_mem least behind)
  · rintro ⟨front, back, rfl, less, notLess⟩
    induction front with
    | nil =>
      rw [List.nil_append, leastBy?_cons]
      split
      · rfl
      · next found leastBack => exact if_pos (notLess found (mem_of_leastBy? leastBack))
    | cons head front inductionHypothesis =>
      obtain ⟨lessHead, lessFront⟩ := List.forall_mem_cons.mp less
      rw [List.cons_append, leastBy?_cons, inductionHypothesis lessFront]
      refine if_neg fun below => ?_
      rw [Std.OrientedCmp.gt_iff_lt.mpr lessHead] at below
      cases below

/-- Where the comparison tells the items apart, the least item is the one that none is less than. -/
theorem leastBy?_eq_some_iff_of_separates {items : List item} {least : item}
    (separates : Separates compare items) :
    leastBy? compare items = some least ↔
      least ∈ items ∧ ∀ other ∈ items, (compare least other).isLE := by
  constructor
  · intro isLeast
    exact ⟨mem_of_leastBy? isLeast, fun other => isLE_of_leastBy? isLeast⟩
  · rintro ⟨member, below⟩
    obtain ⟨found, isLeast⟩ := @exists_leastBy? _ compare _ (List.ne_nil_of_mem member)
    have foundMember := mem_of_leastBy? isLeast
    have same : compare least found = .eq :=
      eq_of_isLE_of_isLE (below found foundMember) (isLE_of_leastBy? isLeast member)
    rw [isLeast, separates least member found foundMember same]

omit [Std.TransCmp compare] in
theorem leastBy?_eq_none_iff {items : List item} :
    leastBy? compare items = none ↔ items = [] := by
  constructor
  · intro nothing
    by_contra inhabited
    obtain ⟨least, isLeast⟩ := @exists_leastBy? _ compare _ inhabited
    rw [nothing] at isLeast
    cases isLeast
  · rintro rfl
    simp [leastBy?, sortBy]

/-! ### The place of the least item -/

omit [Std.TransCmp compare] in
variable (compare) in
/-- The least item of a list stands at a place: of items that compare equal the earlier is less. -/
def IsLeastAt (items : List item) (place : Nat) (least : item) : Prop :=
  items[place]? = some least ∧ ∀ other entry, items[other]? = some entry →
    (compareLex (fun left right => compare left.1 right.1) (compareOn Prod.snd)
      (least, place) (entry, other)).isLE

theorem isLeastAt_iff {items : List item} {place : Nat} {least : item} :
    IsLeastAt compare items place least ↔
      ∃ front back, items = front ++ least :: back ∧ front.length = place ∧
        (∀ other ∈ front, compare least other = .lt) ∧
        ∀ other ∈ back, (compare least other).isLE := by
  simp only [IsLeastAt, compareLex, compareOn, Ordering.isLE_then_iff_or, Nat.isLE_compare]
  constructor
  · rintro ⟨found, isLeast⟩
    obtain ⟨inside, rfl⟩ := List.getElem?_eq_some_iff.mp found
    refine ⟨items.take place, items.drop (place + 1), ?_,
      List.length_take_of_le (Nat.le_of_lt inside), ?_, ?_⟩
    · rw [← List.drop_eq_getElem_cons, List.take_append_drop]
    · intro entry member
      obtain ⟨other, before, rfl⟩ := List.mem_take_iff_getElem.mp member
      obtain less | ⟨-, notBefore⟩ := isLeast other _ (List.getElem?_eq_getElem (by omega))
      · exact less
      · omega
    · intro entry member
      obtain ⟨other, behind⟩ := List.mem_iff_getElem?.mp member
      rw [List.getElem?_drop] at behind
      obtain less | ⟨equal, -⟩ := isLeast _ entry behind
      · rw [less]
        rfl
      · rw [equal]
        rfl
  · rintro ⟨front, back, rfl, rfl, less, notLess⟩
    refine ⟨by simp, fun other entry found => ?_⟩
    obtain before | behind := Nat.lt_or_ge other front.length
    · rw [List.getElem?_append_left before] at found
      exact .inl (less entry (List.mem_of_getElem? found))
    · rw [List.getElem?_append_right behind] at found
      obtain rfl | member := List.mem_cons.mp (List.mem_of_getElem? found)
      · exact .inr ⟨Std.ReflCmp.compare_self, behind⟩
      · cases order : compare least entry with
        | lt => exact .inl rfl
        | eq => exact .inr ⟨rfl, behind⟩
        | gt => simpa [order] using notLess entry member

theorem leastBy?_eq_some_iff_exists_isLeastAt {items : List item} {least : item} :
    leastBy? compare items = some least ↔ ∃ place, IsLeastAt compare items place least := by
  rw [leastBy?_eq_some_iff]
  constructor
  · rintro ⟨front, back, split, bounds⟩
    exact ⟨front.length, isLeastAt_iff.mpr ⟨front, back, split, rfl, bounds⟩⟩
  · rintro ⟨_, isLeast⟩
    obtain ⟨front, back, split, -, bounds⟩ := isLeastAt_iff.mp isLeast
    exact ⟨front, back, split, bounds⟩

/-- The least item stays the least when another place is left out. -/
theorem IsLeastAt.leastBy?_eraseIdx {items : List item} {place other : Nat} {least : item}
    (isLeast : IsLeastAt compare items place least) (elsewhere : other ≠ place) :
    leastBy? compare (items.eraseIdx other) = some least := by
  obtain ⟨front, back, rfl, rfl, less, notLess⟩ := isLeastAt_iff.mp isLeast
  rw [leastBy?_eq_some_iff]
  obtain before | behind := Nat.lt_or_gt_of_ne elsewhere
  · refine ⟨front.eraseIdx other, back, List.eraseIdx_append_of_lt_length before _, ?_, notLess⟩
    exact fun entry member => less entry (List.mem_of_mem_eraseIdx member)
  · refine ⟨front, back.eraseIdx (other - front.length - 1), ?_, less, ?_⟩
    · rw [List.eraseIdx_append_of_length_le (Nat.le_of_lt behind)]
      obtain ⟨gap, same⟩ := Nat.exists_eq_add_of_lt behind
      rw [show other - front.length = gap + 1 by omega]
      rfl
    · exact fun entry member => notLess entry (List.mem_of_mem_eraseIdx member)

/-! ### Least items in stages -/

instance transCmp_eq : Std.TransCmp fun _ _ : item => Ordering.eq where
  eq_swap := rfl
  isLE_trans _ _ := rfl

/-- Where no two items differ the first one is the least. -/
theorem leastBy?_eq_head? (items : List item) :
    leastBy? (fun _ _ => .eq) items = items.head? := by
  cases items with
  | nil => simp [leastBy?, sortBy]
  | cons first rest => exact leastBy?_eq_some_iff.mpr ⟨[], rest, rfl, by simp, by simp⟩

/-- The least of the items with the least key is the item that is least by its key and then by the
comparison. -/
theorem leastBy?_filter_key {key : Type} [Ord key] [Std.TransOrd key] [Std.LawfulEqOrd key]
    [DecidableEq key] (keyOf : item → key) {items : List item} {leastKey : key}
    (isReached : ∃ entry ∈ items, keyOf entry = leastKey)
    (isLeast : ∀ entry ∈ items, (Ord.compare leastKey (keyOf entry)).isLE) :
    leastBy? compare (items.filter (keyOf · = leastKey)) =
      leastBy? (compareLex (compareOn keyOf) compare) items := by
  obtain ⟨reaching, reachingMember, reached⟩ := isReached
  obtain ⟨least, found⟩ := @exists_leastBy? _ (compareLex (compareOn keyOf) compare) _
    (List.ne_nil_of_mem reachingMember)
  have sameKey : keyOf least = leastKey := by
    have below := isLE_of_leastBy? found reachingMember
    rw [compareLex, Ordering.isLE_then_iff_and, compareOn, reached] at below
    exact (Std.LawfulEqCmp.eq_of_compare
      (eq_of_isLE_of_isLE (isLeast least (mem_of_leastBy? found)) below.1)).symm
  rw [found, leastBy?_eq_some_iff]
  obtain ⟨front, back, rfl, less, notLess⟩ := leastBy?_eq_some_iff.mp found
  have byComparison : ∀ entry, keyOf entry = leastKey →
      compareLex (compareOn keyOf) compare least entry = compare least entry := by
    intro entry same
    have equal : compareOn keyOf least entry = .eq := by
      rw [compareOn, sameKey, same]
      exact Std.ReflCmp.compare_self
    rw [compareLex, equal, Ordering.eq_then]
  refine ⟨front.filter (keyOf · = leastKey), back.filter (keyOf · = leastKey), ?_, ?_, ?_⟩
  · rw [List.filter_append, List.filter_cons, if_pos (decide_eq_true sameKey)]
  · intro entry member
    obtain ⟨inFront, same⟩ := List.mem_filter.mp member
    rw [← byComparison entry (of_decide_eq_true same)]
    exact less entry inFront
  · intro entry member
    obtain ⟨inBack, same⟩ := List.mem_filter.mp member
    rw [← byComparison entry (of_decide_eq_true same)]
    exact notLess entry inBack

/-! ### The first item that gives something -/

omit [Std.TransCmp compare] in
/-- Where larger items come first, the first item that gives something is the one such that no
larger one gives anything. -/
theorem findSome?_eq_some_iff_of_pairwise {result : Type} {size : item → Nat}
    {search : item → Option result} {items : List item}
    (ordered : items.Pairwise fun earlier later => size later < size earlier) {found : result} :
    items.findSome? search = some found ↔ ∃ entry ∈ items, search entry = some found ∧
      ∀ larger ∈ items, size entry < size larger → search larger = none := by
  rw [List.findSome?_eq_some_iff]
  constructor
  · rintro ⟨front, entry, back, rfl, isFound, nothing⟩
    refine ⟨entry, by simp, isFound, fun larger member more => ?_⟩
    rcases List.mem_append.mp member with inFront | behind
    · exact nothing larger inFront
    · have after := (List.pairwise_append.mp ordered).2.1
      rcases List.mem_cons.mp behind with rfl | inBack
      · exact absurd more (Nat.lt_irrefl _)
      · exact absurd ((List.pairwise_cons.mp after).1 larger inBack) (Nat.lt_asymm more)
  · rintro ⟨entry, member, isFound, nothing⟩
    obtain ⟨front, back, rfl⟩ := List.append_of_mem member
    refine ⟨front, entry, back, rfl, isFound, fun larger inFront => ?_⟩
    refine nothing larger (List.mem_append_left _ inFront) ?_
    exact (List.pairwise_append.mp ordered).2.2 larger inFront entry List.mem_cons_self

omit [Std.TransCmp compare] in
/-- Where longer lists come first, the first list that gives something is the longest such one. The
empty list is not among them, but none is longer than that. -/
theorem findSome?_eq_some_iff_of_longest_first {result : Type} {isCandidate : List item → Prop}
    {search : List item → Option result} {candidates : List (List item)}
    (mem_iff : ∀ entry, entry ∈ candidates ↔ isCandidate entry ∧ entry ≠ [])
    (ordered : candidates.Pairwise fun earlier later => later.length < earlier.length)
    {found : result} :
    candidates.findSome? search = some found ↔
      ∃ entry, isCandidate entry ∧ entry ≠ [] ∧ search entry = some found ∧
        ∀ longer, isCandidate longer → entry.length < longer.length → search longer = none := by
  rw [findSome?_eq_some_iff_of_pairwise ordered]
  simp only [mem_iff, and_assoc, and_imp]
  refine exists_congr fun entry => and_congr_right fun _ => and_congr_right fun _ =>
    and_congr_right fun _ => forall₂_congr fun longer _ => ?_
  exact ⟨fun nothing more => nothing (List.ne_nil_of_length_pos (by omega)) more,
    fun nothing _ => nothing⟩

end CodeGraph
