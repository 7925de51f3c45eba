/-
This file proves what leaving out repetitions keeps. An item is left out if it is equal to the one
before it, so no two neighbours are equal and no item is lost; equal items that are no neighbours
both stay.

An item is kept whenever it differs from the last one that was kept, so what the library knows of
`List.destutter` carries over (`eraseReps_eq_destutter`). Where the list ascends, all that stands
between two equal items compares equal to them, and something does stand there: a comparison that
reads only a part of an item can leave both.
-/
import Mathlib.Data.List.Destutter
import Mathlib.Data.List.Duplicate
import CodeGraph.Proofs.Sorting

namespace CodeGraph

variable {item : Type}

section

variable [DecidableEq item]

theorem eraseReps_loop_eq (last : item) (items kept : List item) :
    List.eraseRepsBy.loop (· == ·) last items kept =
      kept.reverse ++ items.destutter' (· ≠ ·) last := by
  induction items generalizing last kept with
  | nil => rw [List.eraseRepsBy.loop, List.reverse_cons, List.destutter'_nil]
  | cons head rest inductionHypothesis =>
    rw [List.eraseRepsBy.loop]
    by_cases same : last = head
    · rw [beq_iff_eq.mpr same, List.destutter'_cons_neg _ (not_not.mpr same)]
      exact inductionHypothesis last kept
    · rw [beq_eq_false_iff_ne.mpr same, List.destutter'_cons_pos _ same]
      simp [inductionHypothesis]

theorem eraseReps_eq_destutter (items : List item) :
    items.eraseReps = items.destutter (· ≠ ·) := by
  cases items with
  | nil => rfl
  | cons head rest => exact eraseReps_loop_eq head rest []

theorem isChain_eraseReps (items : List item) : items.eraseReps.IsChain (· ≠ ·) := by
  rw [eraseReps_eq_destutter]
  exact items.isChain_destutter (· ≠ ·)

theorem eraseReps_sublist (items : List item) : items.eraseReps.Sublist items := by
  rw [eraseReps_eq_destutter]
  exact items.destutter_sublist (· ≠ ·)

theorem mem_destutter'_ne {entry last : item} {items : List item}
    (member : entry ∈ last :: items) : entry ∈ items.destutter' (· ≠ ·) last := by
  induction items generalizing last with
  | nil => exact member
  | cons head rest inductionHypothesis =>
    by_cases same : last = head
    · subst same
      rw [List.destutter'_cons_neg _ (not_not.mpr rfl)]
      exact inductionHypothesis (by simpa using member)
    · rw [List.destutter'_cons_pos _ same]
      rcases List.mem_cons.mp member with rfl | later
      · exact List.mem_cons_self
      · exact List.mem_cons_of_mem _ (inductionHypothesis later)

/-- No item is lost and none is added. -/
theorem mem_eraseReps_iff {entry : item} {items : List item} :
    entry ∈ items.eraseReps ↔ entry ∈ items := by
  refine ⟨fun member => (eraseReps_sublist items).subset member, fun member => ?_⟩
  rw [eraseReps_eq_destutter]
  cases items with
  | nil => exact member
  | cons head rest => exact mem_destutter'_ne member

end

theorem exists_split_of_not_nodup {items : List item} (repeats : ¬items.Nodup) :
    ∃ before entry between after, items = before ++ entry :: (between ++ entry :: after) := by
  obtain ⟨entry, duplicate⟩ := List.exists_duplicate_iff_not_nodup.mpr repeats
  obtain ⟨front, back, rfl, inFront, inBack⟩ :=
    List.cons_sublist_iff.mp (List.duplicate_iff_sublist.mp duplicate)
  obtain ⟨before, between, rfl⟩ := List.append_of_mem inFront
  obtain ⟨behind, after, rfl⟩ := List.append_of_mem (List.singleton_sublist.mp inBack)
  exact ⟨before, entry, between ++ behind, after, by simp⟩

/-- Between equal items of an ascending list in which no two neighbours are equal stands another one
that compares equal to them. -/
theorem exists_between_of_isChain {compare : item → item → Ordering} [Std.TransCmp compare]
    {before between after : List item} {entry : item}
    (ascending : (before ++ entry :: (between ++ entry :: after)).Pairwise fun earlier later =>
      (compare earlier later).isLE)
    (chain : (before ++ entry :: (between ++ entry :: after)).IsChain (· ≠ ·)) :
    ∃ other ∈ between, compare entry other = .eq ∧ other ≠ entry := by
  have chainBehind := chain.right_of_append
  have ⟨above, behindAscending⟩ := List.pairwise_cons.mp (List.pairwise_append.mp ascending).2.1
  cases between with
  | nil => exact absurd rfl (List.isChain_cons_cons.mp chainBehind).1
  | cons other rest =>
    have notSame : entry ≠ other := (List.isChain_cons_cons.mp chainBehind).1
    have below := (List.pairwise_append.mp behindAscending).2.2 other List.mem_cons_self entry
      List.mem_cons_self
    exact ⟨other, List.mem_cons_self, eq_of_isLE_of_isLE (above other List.mem_cons_self) below,
      notSame.symm⟩

end CodeGraph
