/-
This file writes batches of records: to a memory, which keeps all of them, or to a file, which
holds the last batch. A file is replaced in one step, and the file of a vocabulary is replaced
in the same way.
-/
import CodeGraph.Record.JsonLines
import CodeGraph.Storage.Replacement
import CodeGraph.Text.Utf8
import CodeGraph.Vocabulary.Cache

namespace CodeGraph

/-- The records that were written to memory. -/
structure MemorySink where
  records : List GraphRecord

namespace MemorySink

/-- The memory before anything is written. -/
def empty : MemorySink := ⟨[]⟩

/-- The memory after a batch is written. -/
def write (sink : MemorySink) (batch : List GraphRecord) : MemorySink := ⟨sink.records ++ batch⟩

end MemorySink

/-- The content of the file that holds a batch. -/
def GraphRecord.fileContent (batch : List GraphRecord) : List UInt8 :=
  Text.Utf8.encode (toJsonLines batch)

/-- The content of the file that holds a vocabulary. -/
def Vocabulary.fileContent (vocabulary : Vocabulary) : List UInt8 :=
  Text.Utf8.encode vocabulary.cacheText

/-- A file that holds the batch that was written to it last. -/
structure FileSink where
  /-- The directory from which the path leads. -/
  directory : Location
  path : String

namespace FileSink

/-- Where the file is put. The directories around it are created. -/
def destination (sink : FileSink) : Storage.Destination := .ofPath sink.directory true sink.path

/-- Writes a batch, and gives the place of the file or the step that fails. -/
def write (sink : FileSink) (attempt : Attempt) (batch : List GraphRecord) (storage : Storage) :
    Storage × Except ReplacementStep Location :=
  sink.destination.replace attempt (GraphRecord.fileContent batch) storage

end FileSink

/-- Writes a vocabulary to the file at a path that leads from a directory, and gives the place of
the file or the step that fails. The directory of the file has to be there. -/
def Vocabulary.write (vocabulary : Vocabulary) (directory : Location) (path : String)
    (attempt : Attempt) (storage : Storage) : Storage × Except ReplacementStep Location :=
  (Storage.Destination.ofPath directory false path).replace attempt vocabulary.fileContent storage

end CodeGraph
