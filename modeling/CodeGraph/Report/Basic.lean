/-
This file defines the report of a run: how much was found, and what went wrong. The report
counts the failures of each stage as they are noted.
-/
import CodeGraph.Report.Failure

namespace CodeGraph

/-- The number of failures of each stage that has any, in the order of the stages. -/
abbrev StageCounts := List (Stage × Nat)

namespace StageCounts

/-- The number for a stage. -/
def get (counts : StageCounts) (stage : Stage) : Nat := (counts.lookup stage).getD 0

/-- One more for a stage. -/
def increment (stage : Stage) : StageCounts → StageCounts
  | [] => [(stage, 1)]
  | (other, count) :: rest =>
    if stage.rank < other.rank then (stage, 1) :: (other, count) :: rest
    else if stage = other then (other, count + 1) :: rest
    else (other, count) :: increment stage rest

end StageCounts

/-- What a run has found. -/
structure Report where
  repositoryId : String
  /-- The files that were not ignored. -/
  files : Nat
  ignored : Nat
  parsed : Nat
  parseFailed : Nat
  entities : Nat
  edges : Nat
  ambiguities : Nat
  /-- The records that were written. -/
  emitted : Nat
  failures : List Failure
  failuresByStage : StageCounts
  isFinished : Bool
  deriving Repr, DecidableEq

namespace Report

/-- The report of a run that has just begun. -/
def begin (repositoryId : String) : Report :=
  ⟨repositoryId, 0, 0, 0, 0, 0, 0, 0, 0, [], [], false⟩

/-- Notes a failure. -/
def note (report : Report) (failure : Failure) : Report :=
  { report with
    failures := report.failures ++ [failure]
    failuresByStage := StageCounts.increment failure.stage report.failuresByStage }

/-- Notes failures in order. -/
def noteAll (report : Report) (failures : List Failure) : Report := failures.foldl note report

/-- The number of failures of a stage. -/
def failuresIn (report : Report) (stage : Stage) : Nat := report.failuresByStage.get stage

/-- The report of a run that has come to its end. -/
def finish (report : Report) : Report := { report with isFinished := true }

end Report

end CodeGraph
