/-
This file says what the replacement of a file asks of a file system: calls that create directories,
that create, write and synchronize a file, and that move it or remove it. What the calls do is up to
the system. Those of this library act on a storage; they can be told to fail, as calls to a system
do when a disk is full or access is denied.
-/
import CodeGraph.Storage.Basic

namespace CodeGraph

/-- A step of the replacement of a file. -/
inductive ReplacementStep where
  /-- Creating the directories in which the file lies. -/
  | createParents
  | createTemporary
  | write
  | synchronize
  /-- Moving the temporary file to the place of the file. -/
  | rename
  deriving Repr, DecidableEq

/-- Whether two computations come to the same can be decided if it can be for their results and for
their faults. -/
instance decidableEqExcept {fault value : Type} [DecidableEq fault] [DecidableEq value] :
    DecidableEq (Except fault value)
  | .error first, .error second =>
    decidable_of_iff (first = second) ⟨congrArg Except.error, Except.error.inj⟩
  | .ok first, .ok second => decidable_of_iff (first = second) ⟨congrArg Except.ok, Except.ok.inj⟩
  | .error _, .ok _ => isFalse nofun
  | .ok _, .error _ => isFalse nofun

/-- Calls to a file system. Each of them gives what the file system holds afterwards and, but for
the last one, tells whether it succeeded. -/
structure FileCalls where
  /-- Creates the directories on a way from a place that are missing. -/
  createDirectories : Storage → (start : Location) → (way : List String) → Storage × Bool
  /-- Creates an empty file. -/
  create : Storage → Location → Storage × Bool
  /-- Writes the content of a file that was created. -/
  write : Storage → Location → List UInt8 → Storage × Bool
  /-- Waits until what was written to a file has reached the disk. -/
  synchronize : Storage → Location → Storage × Bool
  /-- Moves a file to another place and replaces what stands there. -/
  rename : Storage → (source target : Location) → Storage × Bool
  /-- Removes a file. -/
  remove : Storage → Location → Storage

namespace Storage

/-! ### Directories -/

/-- Creates the directory to which names and one more name lead from a place, unless it is there,
and tells whether it is there then. The directory before it has to be there. -/
def createDirectory (storage : Storage) (start : Location) (front : List String)
    (name : String) : Storage × Bool :=
  if (storage.directoryAlong? start (front ++ [name])).isSome then (storage, true)
  else match storage.directoryAlong? start front with
    | some directory =>
      if (storage.get? (directory ++ [name])).isNone && name != "" && name != "." && name != ".."
      then (storage.put (directory ++ [name]) .directory, true)
      else (storage, false)
    | none => (storage, false)

/-- Creates the directories to which the names of a way lead, one after the other; those before the
way are there. -/
def createDirectories (storage : Storage) (start : Location) (front : List String) :
    List String → Storage × Bool
  | [] => (storage, true)
  | name :: rest =>
    match storage.createDirectory start front name with
    | (made, true) => made.createDirectories start (front ++ [name]) rest
    | (left, false) => (left, false)

/-! ### Files -/

/-- Whether a file can be put at a place: there is a directory for it, and none in its place. -/
def canHold (storage : Storage) (location : Location) : Bool :=
  storage.isDirectory location.dropLast && !storage.isDirectory location

/-- Puts a file at a place, if it can be put there, and tells whether that is so. -/
def putFile (storage : Storage) (location : Location) (content : List UInt8) : Storage × Bool :=
  if storage.canHold location then (storage.put location (.file content), true)
  else (storage, false)

/-- Gives a file another content. -/
def writeFile (storage : Storage) (location : Location) (content : List UInt8) :
    Storage × Bool :=
  match storage.get? location with
  | some (.file _) => storage.putFile location content
  | _ => (storage, false)

/-- The storage without the file at a place; the directory of the file stays. -/
def delete (storage : Storage) (location : Location) : Storage :=
  if storage.canHold location then
    (storage.remove location).put location.dropLast .directory
  else storage

/-- Moves a file to a place, and replaces what stands there. -/
def moveFile (storage : Storage) (source target : Location) : Storage × Bool :=
  match storage.get? source with
  | some (.file content) =>
    if storage.canHold target then ((storage.delete source).put target (.file content), true)
    else (storage, false)
  | _ => (storage, false)

end Storage

namespace FileCalls

/-- The calls to a storage. Some steps fail by themselves: then so many of the directories on a way
are there nevertheless, and a file holds a part of what was to be written. -/
def failing (fails : ReplacementStep → Bool) (directoriesMade : Nat)
    (partialContent : List UInt8) : FileCalls where
  createDirectories storage start way :=
    if fails .createParents then
      ((storage.createDirectories start [] (way.take directoriesMade)).1, false)
    else storage.createDirectories start [] way
  create storage location :=
    if fails .createTemporary then (storage, false) else storage.putFile location []
  write storage location content :=
    if fails .write then ((storage.writeFile location partialContent).1, false)
    else storage.writeFile location content
  synchronize storage _ := (storage, !fails .synchronize)
  rename storage source target :=
    if fails .rename then (storage, false) else storage.moveFile source target
  remove := Storage.delete

/-- The calls to a storage when no step fails by itself. -/
def plain : FileCalls := failing (fun _ => false) 0 []

end FileCalls

end CodeGraph
