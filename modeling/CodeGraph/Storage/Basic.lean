/-
This file defines storages: what a file system holds at which place. A place is the list of the
names that lead to it from the root. A storage lists the places that hold something; a
directory is also there when something lies below it.
-/
import CodeGraph.Text.Split

namespace CodeGraph

/-- The names that lead to a place from the root. -/
abbrev Location := List String

/-- What a place holds. -/
inductive StoredItem where
  | file (content : List UInt8)
  | directory
  /-- A link to the place that a path names. -/
  | link (target : String)
  deriving Repr, DecidableEq

/-- What comes of reading a file. -/
inductive FileContent where
  | bytes (bytes : List UInt8)
  /-- The file cannot be read, and why. -/
  | unreadable (reason : String)
  deriving Repr, DecidableEq

/-- What a file system holds. -/
structure Storage where
  entries : List (Location × StoredItem)
  deriving Repr, DecidableEq

namespace Storage

/-- The storage that holds nothing. -/
def empty : Storage := ⟨[]⟩

/-- Whether a place lies below another one. -/
def isBelow (inner outer : Location) : Bool :=
  outer.isPrefixOf inner && outer.length < inner.length

/-- What stands at a place. -/
def get? (storage : Storage) (location : Location) : Option StoredItem :=
  match storage.entries.lookup location with
  | some item => some item
  | none =>
    if location.isEmpty || storage.entries.any (fun entry => isBelow entry.1 location) then
      some .directory
    else none

/-- The storage without what stands at a place. -/
def remove (storage : Storage) (location : Location) : Storage :=
  ⟨storage.entries.filter (·.1 != location)⟩

/-- The storage with an item at a place. -/
def put (storage : Storage) (location : Location) (item : StoredItem) : Storage :=
  ⟨(storage.remove location).entries ++ [(location, item)]⟩

/-- Whether a place is a directory. -/
def isDirectory (storage : Storage) (location : Location) : Bool :=
  storage.get? location == some .directory

/-- The names of what stands directly in a directory, each once. -/
def names (storage : Storage) (directory : Location) : List String :=
  ((storage.entries.filterMap fun entry =>
    if isBelow entry.1 directory then entry.1[directory.length]? else none)).eraseDups

/-! ### Paths -/

/-- The names in a path. -/
def pathNames (path : String) : List String := Text.split '/' path

/-- The place from which a path leads: the root if it begins with a slash, and else the given
directory. -/
def origin (directory : Location) (path : String) : Location :=
  if path.toList.head? = some '/' then [] else directory

/-- The place to which a name leads from a place. -/
def goTo (place : Location) (name : String) : Location :=
  if name = "" ∨ name = "." then place
  else if name = ".." then place.dropLast
  else place ++ [name]

/-- The place to which a path leads from a directory if it goes through no link. -/
def place (directory : Location) (path : String) : Location :=
  (pathNames path).foldl goTo (origin directory path)

/-- Whether the last name of a path is the name of something. -/
def endsInName (path : String) : Bool :=
  (pathNames path).getLast?.any fun name => name != "" && name != "." && name != ".."

/-- Follows names one by one from a place; above the root there is the root. What comes of the names
of a link and those behind it is given. -/
def followWith (storage : Storage) (beyond : Location → List String → Option Location)
    (place : Location) : List String → Option Location
  | [] => some place
  | name :: rest =>
    if name = "" ∨ name = "." then storage.followWith beyond place rest
    else if name = ".." then storage.followWith beyond place.dropLast rest
    else match storage.get? (place ++ [name]) with
      | some .directory => storage.followWith beyond (place ++ [name]) rest
      | some (.file _) => if rest.isEmpty then some (place ++ [name]) else none
      | some (.link target) => beyond (origin place target) (pathNames target ++ rest)
      | none => none

/-- Follows names from a place; links are followed too, as many as the fuel allows. -/
def follow (storage : Storage) : Nat → Location → List String → Option Location
  | 0 => storage.followWith fun _ _ => none
  | fuel + 1 => storage.followWith (storage.follow fuel)

/-- The number of links that a path may lead through. -/
def linkLimit : Nat := 40

/-- The place to which a path leads from a directory, if something stands there. -/
def locate? (storage : Storage) (directory : Location) (path : String) : Option Location :=
  storage.follow linkLimit (origin directory path) (pathNames path)

/-- The directory to which names lead from a place. -/
def directoryAlong? (storage : Storage) (start : Location) (names : List String) :
    Option Location :=
  (storage.follow linkLimit start names).filter storage.isDirectory

/-- The directory to which a path leads. -/
def directory? (storage : Storage) (directory : Location) (path : String) : Option Location :=
  storage.directoryAlong? (origin directory path) (pathNames path)

/-- The bytes of the file to which a path leads. -/
def read? (storage : Storage) (directory : Location) (path : String) : Option (List UInt8) :=
  (storage.locate? directory path).bind fun location =>
    match storage.get? location with
    | some (.file content) => some content
    | _ => none

end Storage

end CodeGraph
