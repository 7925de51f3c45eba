/-
This file replaces the content of a file in one step: the content is first written to a
temporary file in the same directory, which then takes the place of the file. Whichever step
fails, the file keeps its old content and the temporary file is removed.
-/
import CodeGraph.Storage.Calls

namespace CodeGraph

/-- What is not up to the replacement of a file: the part of the temporary name that no other file
has, and the calls to the file system. -/
structure Attempt where
  token : String
  calls : FileCalls

namespace Storage

/-- Where a file is put. -/
structure Destination where
  /-- The place from which the way to the file starts. -/
  start : Location
  /-- The names that lead to the directory of the file. -/
  way : List String
  /-- The name of the file. -/
  name : String
  /-- Whether the path leads to that name; if it does not, nothing can be moved there. -/
  isNamed : Bool
  /-- Whether the directories on the way are created. -/
  createsParents : Bool
  deriving Repr, DecidableEq

namespace Destination

/-- The name from which the temporary one is made if a path ends in none. -/
def fallbackName (createsParents : Bool) : String :=
  if createsParents then "graph.jsonl" else "cache.json"

/-- The destination at a path that leads from a directory. -/
def ofPath (directory : Location) (createsParents : Bool) (path : String) : Destination :=
  let names := (pathNames path).filter fun name => name != "" && name != "."
  let way := names.dropLast
  { start := origin directory path
    way
    name := (names.getLast?.filter (· != "..")).getD (fallbackName createsParents)
    isNamed := endsInName path
    createsParents := createsParents && !way.isEmpty }

/-- The directory of the file. -/
def directory? (destination : Destination) (storage : Storage) : Option Location :=
  storage.directoryAlong? destination.start destination.way

/-- The place of the file. A link that stands there is not followed. -/
def target? (destination : Destination) (storage : Storage) : Option Location :=
  (destination.directory? storage).map (· ++ [destination.name])

/-- The name of the temporary file of an attempt. -/
def temporaryName (destination : Destination) (attempt : Attempt) : String :=
  "." ++ destination.name ++ "." ++ attempt.token ++ ".tmp"

/-- The place of the temporary file of an attempt. -/
def temporary? (destination : Destination) (attempt : Attempt) (storage : Storage) :
    Option Location :=
  (destination.directory? storage).map (· ++ [destination.temporaryName attempt])

/-- Creates the directories around the file if asked to, and tells whether that succeeded. -/
def prepare (destination : Destination) (calls : FileCalls) (storage : Storage) :
    Storage × Bool :=
  if destination.createsParents then
    calls.createDirectories storage destination.start destination.way
  else (storage, true)

/-- Writes the temporary file and moves it to the place of the file. If a step fails, there may
still be a temporary file. -/
def perform (destination : Destination) (calls : FileCalls) (temporary target : Location)
    (content : List UInt8) (storage : Storage) : Storage × Option ReplacementStep :=
  match calls.create storage temporary with
  | (left, false) => (left, some .createTemporary)
  | (created, true) =>
    match calls.write created temporary content with
    | (left, false) => (left, some .write)
    | (written, true) =>
      match calls.synchronize written temporary with
      | (left, false) => (left, some .synchronize)
      | (synchronized, true) =>
        if destination.isNamed then
          match calls.rename synchronized temporary target with
          | (left, false) => (left, some .rename)
          | (moved, true) => (moved, none)
        else (synchronized, some .rename)

/-- Replaces a file, and gives its place or the step that fails. If a step fails once the directory
of the file is there, the temporary file is removed. -/
def replace (destination : Destination) (attempt : Attempt) (content : List UInt8)
    (storage : Storage) : Storage × Except ReplacementStep Location :=
  match destination.prepare attempt.calls storage with
  | (left, false) => (left, .error .createParents)
  | (prepared, true) =>
    match destination.directory? prepared with
    | none => (prepared, .error .createTemporary)
    | some directory =>
      let temporary := directory ++ [destination.temporaryName attempt]
      let target := directory ++ [destination.name]
      match destination.perform attempt.calls temporary target content prepared with
      | (done, none) => (done, .ok target)
      | (left, some step) => (attempt.calls.remove left temporary, .error step)

/-- A token that makes the temporary name longer than the names of all that stands beside the
file. -/
def freshToken (destination : Destination) (storage : Storage) : String :=
  String.join (((destination.directory? storage).map storage.names).getD [])

/-- An attempt with calls to the storage itself, none of which fails by itself. -/
def plainAttempt (destination : Destination) (storage : Storage) : Attempt :=
  ⟨destination.freshToken (destination.prepare .plain storage).1, .plain⟩

end Destination

/-! ### Files at paths -/

/-- Replaces the file to which a path leads from a directory, and tells whether that
succeeded. -/
def replaceAt (storage : Storage) (directory : Location) (createsParents : Bool)
    (path : String) (content : List UInt8) : Storage × Bool :=
  let destination := Destination.ofPath directory createsParents path
  let (after, result) := destination.replace (destination.plainAttempt storage) content storage
  (after, result.isOk)

/-- Writes the file to which a path leads from a directory, and tells whether that succeeded. A link
at the end of the path is followed if it leads to a file. -/
def writeAt (storage : Storage) (directory : Location) (path : String) (content : List UInt8) :
    Storage × Bool :=
  let destination := Destination.ofPath directory false path
  let newPlace? := (destination.target? storage).filter fun target =>
    destination.isNamed && (storage.get? target).isNone
  match (storage.locate? directory path).or newPlace? with
  | some target =>
    if storage.isDirectory target then (storage, false)
    else (storage.put target (.file content), true)
  | none => (storage, false)

end Storage

end CodeGraph
