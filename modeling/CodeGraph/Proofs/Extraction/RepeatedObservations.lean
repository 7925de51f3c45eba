/-
This file proves which observations of a file are made twice.

Observations are sorted by their lines, their kind, what they name and what they are about, and
then repetitions next to each other are left out. The order looks neither at the receiver of a call
nor at the imported member, so observations that compare equal may still differ in these
(`Observation.AgreesWith`). In the sorted list everything between two equal observations compares
equal to them. If all of it were equal to them, they would have been next to each other once the
repetitions between them were left out. So both stay exactly if one stands between them that is
alike but for the receiver or the member (`exists_between_of_toObservations`). Nothing else keeps
them apart: where no two observations differ in these alone, none is made twice.
-/
import CodeGraph.Proofs.Extraction.Observations
import CodeGraph.Proofs.Graph.EdgeSet

namespace CodeGraph

theorem ObservationKind.rank_injective {left right : ObservationKind}
    (same : left.rank = right.rank) : left = right := by
  cases left <;> cases right <;> simp_all [rank]

namespace Observation

/-- Whether two observations are alike but for the receiver and the member. -/
def AgreesWith (left right : Observation) : Prop :=
  left.span = right.span ∧ left.kind = right.kind ∧ left.target = right.target ∧
    left.sourceId = right.sourceId

instance (left right : Observation) : Decidable (left.AgreesWith right) :=
  inferInstanceAs (Decidable (_ ∧ _))

instance transCmp_compareSpan :
    Std.TransCmp fun left right : Observation => left.span.compare right.span where
  eq_swap {left right} :=
    show left.span.compare right.span = (right.span.compare left.span).swap from
      Std.OrientedCmp.eq_swap
  isLE_trans {first second third} :=
    show (first.span.compare second.span).isLE → (second.span.compare third.span).isLE →
      (first.span.compare third.span).isLE from Std.TransCmp.isLE_trans

instance transCmp_compare : Std.TransCmp compare := by
  unfold compare
  infer_instance

theorem compare_eq_eq_iff {left right : Observation} :
    left.compare right = .eq ↔ left.AgreesWith right := by
  rw [compare, compareLex_eq_eq, compareLex_eq_eq, compareLex_eq_eq, compareOn_eq_eq_iff,
    compareOn_eq_eq_iff, compareOn_eq_eq_iff, Std.LawfulEqCmp.compare_eq_iff_eq]
  refine and_congr_right fun _ => and_congr_left fun _ => ⟨ObservationKind.rank_injective, ?_⟩
  exact congrArg ObservationKind.rank

/-- Observations of one file that are alike and have one receiver and one member are equal. -/
theorem AgreesWith.eq {left right : Observation} (alike : left.AgreesWith right)
    (sameFile : left.fileId = right.fileId) (sameReceiver : left.receiver = right.receiver)
    (sameMember : left.member = right.member) : left = right := by
  obtain ⟨span, kind, target, sourceId⟩ := alike
  cases left
  cases right
  simp_all

end Observation

namespace Reference

variable (fileId : String) (definitions : List Definition) (ids : List String)
  (references : List Reference)

theorem pairwise_toObservations :
    (toObservations fileId definitions ids references).Pairwise fun earlier later =>
      (earlier.compare later).isLE :=
  (pairwise_sortBy Observation.compare _).sublist (eraseReps_sublist _)

variable {fileId definitions ids references}

theorem toObservations_of_ascending
    (ascending : (references.filterMap (toObservation? fileId definitions ids)).Pairwise
      fun earlier later => (earlier.compare later).isLE) :
    toObservations fileId definitions ids references =
      (references.filterMap (toObservation? fileId definitions ids)).eraseReps := by
  rw [toObservations, sortBy, List.mergeSort_of_pairwise ascending]

/-- Between two equal observations stands one that is alike but has another receiver or another
member. -/
theorem exists_between_of_toObservations {before between after : List Observation}
    {observation : Observation}
    (split : toObservations fileId definitions ids references =
      before ++ observation :: (between ++ observation :: after)) :
    ∃ other ∈ between, observation.AgreesWith other ∧
      (observation.receiver ≠ other.receiver ∨ observation.member ≠ other.member) := by
  have ascending := pairwise_toObservations fileId definitions ids references
  have chain : (toObservations fileId definitions ids references).IsChain (· ≠ ·) :=
    isChain_eraseReps _
  have ofFile (entry : Observation)
      (isEntry : entry ∈ observation :: (between ++ observation :: after)) :
      entry.fileId = fileId :=
    (sourceId_of_mem_toObservations (split ▸ List.mem_append_right before isEntry)).2
  rw [split] at ascending chain
  obtain ⟨other, isBetween, same, differs⟩ := exists_between_of_isChain ascending chain
  have alike := Observation.compare_eq_eq_iff.mp same
  have sameFile : observation.fileId = other.fileId :=
    (ofFile observation List.mem_cons_self).trans
      (ofFile other (List.mem_cons_of_mem _ (List.mem_append_left _ isBetween))).symm
  refine ⟨other, isBetween, alike, ?_⟩
  by_contra! same
  exact differs (alike.eq sameFile same.1 same.2).symm

variable (fileId definitions ids references)

/-- The observations of a file are those of its references, in order. An observation is made twice
only around another one that differs from it in the receiver or the member alone, and never if there
are no such two. -/
theorem toObservations_repeats_apart :
    (∀ observation, observation ∈ toObservations fileId definitions ids references ↔
      ∃ reference ∈ references,
        toObservation? fileId definitions ids reference = some observation) ∧
    ((toObservations fileId definitions ids references).Pairwise fun earlier later =>
      (earlier.compare later).isLE) ∧
    (∀ before observation between after, toObservations fileId definitions ids references =
        before ++ observation :: (between ++ observation :: after) →
      ∃ other ∈ between, observation.AgreesWith other ∧
        (observation.receiver ≠ other.receiver ∨ observation.member ≠ other.member)) ∧
    ((∀ first ∈ toObservations fileId definitions ids references,
        ∀ second ∈ toObservations fileId definitions ids references, first.AgreesWith second →
          first.receiver = second.receiver ∧ first.member = second.member) →
      (toObservations fileId definitions ids references).Nodup) := by
  refine ⟨fun _ => mem_toObservations_iff, pairwise_toObservations _ _ _ _,
    fun _ _ _ _ split => exists_between_of_toObservations split, fun separate => ?_⟩
  by_contra repeats
  obtain ⟨before, observation, between, after, split⟩ := exists_split_of_not_nodup repeats
  obtain ⟨other, isBetween, alike, differs⟩ := exists_between_of_toObservations split
  rw [split] at separate
  have same := separate observation (by simp) other (by simp [isBetween]) alike
  exact differs.elim (absurd same.1) (absurd same.2)

/-- Calls of one function on one line that go to the given receivers. -/
def callsOn (receivers : List String) : List Reference :=
  receivers.map fun receiver =>
    { kind := .call, anchor := 0, nameRange := none, span := ⟨1, 1⟩, target := "f",
      receiver := some receiver, member := none, owner := none }

/-- A call that is made twice on one receiver is observed once. -/
theorem nodup_toObservations_of_callsOn :
    (toObservations "file" [] [] (callsOn ["a", "a"])).Nodup := by
  refine (toObservations_repeats_apart "file" [] [] (callsOn ["a", "a"])).2.2.2 ?_
  rw [toObservations_of_ascending (by decide +kernel)]
  decide +kernel

/-- A call that is made before and after one on another receiver is observed twice. -/
theorem not_nodup_toObservations_of_callsOn :
    ¬(toObservations "file" [] [] (callsOn ["a", "b", "a"])).Nodup := by
  rw [toObservations_of_ascending (by decide +kernel)]
  decide +kernel

end Reference

end CodeGraph
