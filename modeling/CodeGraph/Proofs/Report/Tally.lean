/-
This file proves that a report counts its failures: the numbers by stage are those of the list of
failures, and a stage without failures has no number.

The numbers are kept in a list that ascends by stage. One more failure either raises the number of
its stage or puts a new number at the place where the stage belongs, and in both cases the list
still ascends (`StageCounts.Ascending.increment`) and no other stage gets another number
(`StageCounts.lookup_increment`). For the second case it is needed that the list ascends: a stage
that is less than the first one in the list has no number further on.

A report whose numbers are right is tallied (`Report.IsTallied`). Noting one failure keeps this,
since the failures of its stage become one more; what one noted failure keeps is kept by any number
of them, by induction. Noting failures changes nothing in a report but the list and the numbers by
stage (`Report.noteAll_eq`), so whether it is tallied depends on these two alone.
-/
import CodeGraph.Report.Basic

namespace CodeGraph

theorem Stage.rank_inj {left right : Stage} (same : left.rank = right.rank) : left = right := by
  cases left <;> cases right <;> first | rfl | cases same

namespace StageCounts

/-- Whether the stages stand in their order, none of them twice. -/
def Ascending (counts : StageCounts) : Prop :=
  counts.Pairwise fun left right => left.1.rank < right.1.rank

theorem lookup_cons (stage other : Stage) (count : Nat) (counts : StageCounts) :
    List.lookup other ((stage, count) :: counts) =
      if other = stage then some count else counts.lookup other := by
  rw [List.lookup_cons]
  by_cases same : other = stage
  · rw [if_pos same, beq_iff_eq.mpr same]
  · rw [if_neg same, beq_eq_false_iff_ne.mpr same]

/-- A stage before all that have a number has none. -/
theorem lookup_eq_none {counts : StageCounts} {stage : Stage}
    (before : ∀ entry ∈ counts, stage.rank < entry.1.rank) : counts.lookup stage = none := by
  refine List.lookup_eq_none_iff.mpr fun entry member => bne_iff_ne.mpr ?_
  rintro rfl
  exact Nat.lt_irrefl _ (before entry member)

/-- One more for a stage changes the number of this stage only. -/
theorem lookup_increment {counts : StageCounts} (ascending : Ascending counts)
    (stage other : Stage) :
    (increment stage counts).lookup other =
      if other = stage then some ((counts.lookup stage).getD 0 + 1) else counts.lookup other := by
  induction counts with
  | nil => exact lookup_cons stage other 1 []
  | cons head rest inductionHypothesis =>
    obtain ⟨first, count⟩ := head
    have ⟨above, restAscending⟩ := List.pairwise_cons.mp ascending
    unfold increment
    split
    · next before =>
      have new : List.lookup stage ((first, count) :: rest) = none := by
        refine lookup_eq_none (List.forall_mem_cons.mpr ⟨before, ?_⟩)
        intro entry member
        exact Nat.lt_trans before (above entry member)
      rw [lookup_cons, new]
      rfl
    · split
      · next same =>
        subst same
        rw [lookup_cons, lookup_cons, lookup_cons, if_pos rfl]
        split <;> rfl
      · next different =>
        rw [lookup_cons, lookup_cons, lookup_cons, if_neg different,
          inductionHypothesis restAscending]
        split
        · next isFirst =>
          have apart : other ≠ stage := fun same => different (same.symm.trans isFirst)
          rw [if_neg apart]
        · rfl

theorem fst_mem_increment {stage : Stage} {counts : StageCounts} {entry : Stage × Nat}
    (member : entry ∈ increment stage counts) :
    entry.1 = stage ∨ ∃ other ∈ counts, other.1 = entry.1 := by
  induction counts with
  | nil => exact .inl (congrArg Prod.fst (List.mem_singleton.mp member))
  | cons head rest inductionHypothesis =>
    obtain ⟨first, count⟩ := head
    unfold increment at member
    split at member
    · rcases List.mem_cons.mp member with rfl | old
      · exact .inl rfl
      · exact .inr ⟨entry, old, rfl⟩
    · split at member
      · rcases List.mem_cons.mp member with rfl | old
        · exact .inr ⟨_, List.mem_cons_self, rfl⟩
        · exact .inr ⟨entry, List.mem_cons_of_mem _ old, rfl⟩
      · rcases List.mem_cons.mp member with rfl | old
        · exact .inr ⟨_, List.mem_cons_self, rfl⟩
        · refine (inductionHypothesis old).imp_right ?_
          rintro ⟨other, isOther, same⟩
          exact ⟨other, List.mem_cons_of_mem _ isOther, same⟩

theorem Ascending.increment {counts : StageCounts} (ascending : Ascending counts)
    (stage : Stage) : Ascending (counts.increment stage) := by
  induction counts with
  | nil => exact List.pairwise_singleton _ _
  | cons head rest inductionHypothesis =>
    obtain ⟨first, count⟩ := head
    have ⟨above, restAscending⟩ := List.pairwise_cons.mp ascending
    unfold StageCounts.increment
    split
    · next before =>
      refine List.pairwise_cons.mpr ⟨List.forall_mem_cons.mpr ⟨before, ?_⟩, ascending⟩
      intro entry member
      exact Nat.lt_trans before (above entry member)
    · next notBefore =>
      split
      · exact List.pairwise_cons.mpr ⟨above, restAscending⟩
      · next different =>
        refine List.pairwise_cons.mpr ⟨?_, inductionHypothesis restAscending⟩
        intro entry member
        rcases fst_mem_increment member with same | ⟨other, isOther, same⟩
        · rw [same]
          have apart : stage.rank ≠ first.rank := fun equal =>
            different (Stage.rank_inj equal)
          exact Nat.lt_of_le_of_ne (Nat.le_of_not_lt notBefore) apart.symm
        · exact same ▸ above other isOther

end StageCounts

namespace Report

/-- The number of failures of a stage in the list of a report. -/
def countIn (report : Report) (stage : Stage) : Nat :=
  report.failures.countP (·.stage == stage)

/-- A report whose numbers by stage are those of its failures: a stage has the number of its
failures, and a stage without failures has none. -/
structure IsTallied (report : Report) : Prop where
  ascending : StageCounts.Ascending report.failuresByStage
  lookup (stage : Stage) : report.failuresByStage.lookup stage =
    if report.countIn stage = 0 then none else some (report.countIn stage)

variable {report : Report}

theorem countIn_note (failure : Failure) (stage : Stage) :
    (report.note failure).countIn stage =
      report.countIn stage + if failure.stage = stage then 1 else 0 := by
  rw [countIn, note, List.countP_append, List.countP_singleton, countIn]
  simp only [beq_iff_eq]

/-- Whether the numbers are right depends on the failures and their numbers only. -/
theorem IsTallied.congr {other : Report} (tallied : report.IsTallied)
    (failures : other.failures = report.failures)
    (counts : other.failuresByStage = report.failuresByStage) : other.IsTallied := by
  refine ⟨counts ▸ tallied.ascending, fun stage => ?_⟩
  rw [countIn, failures, counts]
  exact tallied.lookup stage

theorem isTallied_begin (repositoryId : String) : (begin repositoryId).IsTallied :=
  ⟨.nil, fun _ => rfl⟩

/-- Noting a failure keeps the numbers right. -/
theorem IsTallied.note (tallied : report.IsTallied) (failure : Failure) :
    (report.note failure).IsTallied := by
  refine ⟨tallied.ascending.increment failure.stage, fun stage => ?_⟩
  rw [countIn_note]
  show (StageCounts.increment failure.stage report.failuresByStage).lookup stage = _
  rw [StageCounts.lookup_increment tallied.ascending, tallied.lookup, tallied.lookup]
  by_cases same : failure.stage = stage
  · rw [if_pos same.symm, if_pos same, if_neg (Nat.succ_ne_zero _), same]
    split
    · next none => rw [none]; rfl
    · rfl
  · rw [if_neg (Ne.symm same), if_neg same]
    rfl

theorem IsTallied.noteAll (tallied : report.IsTallied) (failures : List Failure) :
    (report.noteAll failures).IsTallied := by
  induction failures generalizing report with
  | nil => exact tallied
  | cons failure rest inductionHypothesis => exact inductionHypothesis (tallied.note failure)

/-- The number that a report gives for a stage is the number of its failures. -/
theorem IsTallied.failuresIn_eq (tallied : report.IsTallied) (stage : Stage) :
    report.failuresIn stage = report.countIn stage := by
  rw [failuresIn, StageCounts.get, tallied.lookup]
  split
  · next none => rw [none]; rfl
  · rfl

/-- Noting failures adds them to the list, and of the rest of the report it changes the numbers by
stage only. -/
theorem noteAll_eq (report : Report) (failures : List Failure) :
    report.noteAll failures =
      { report with
        failures := report.failures ++ failures
        failuresByStage := (report.noteAll failures).failuresByStage } := by
  induction failures generalizing report with
  | nil => rw [List.append_nil]; rfl
  | cons failure rest inductionHypothesis =>
    have step := inductionHypothesis (report.note failure)
    rw [show report.noteAll (failure :: rest) = (report.note failure).noteAll rest from rfl, step,
      show (report.note failure).failures = report.failures ++ [failure] from rfl,
      List.append_assoc, List.singleton_append]
    rfl

@[simp]
theorem failures_noteAll (report : Report) (failures : List Failure) :
    (report.noteAll failures).failures = report.failures ++ failures := by
  rw [noteAll_eq]

end Report

end CodeGraph
