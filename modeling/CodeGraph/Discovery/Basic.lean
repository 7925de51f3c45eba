/-
This file discovers the files of a repository. A walk comes upon a file unless it, or a directory
on the way to it, is left out: because an ignore file says so, or because it is hidden and no
ignore file keeps it. The files that the walk comes upon are found, and a file that is too large
or a place that cannot be read is reported instead.
-/
import CodeGraph.Discovery.IgnoreFile
import CodeGraph.Path
import CodeGraph.Report.Failure
import CodeGraph.Settings.Basic
import CodeGraph.Sorting
import CodeGraph.Storage.Basic

namespace CodeGraph

/-- A file that is found. -/
structure DiscoveredFile where
  /-- The path from the root in its normal spelling. -/
  relativePath : String
  /-- The number of bytes. -/
  size : Nat
  content : FileContent
  deriving Repr, DecidableEq

/-- The files that are found, by path, and what went wrong. -/
structure Discovery where
  files : List DiscoveredFile
  failures : List Failure
  deriving Repr, DecidableEq

/-- A file that a walk comes upon. -/
structure VisitedFile where
  /-- The names that lead to the file from the root. A name is any bytes. -/
  names : List (List UInt8)
  /-- The number of bytes, or why it cannot be told. -/
  size : Except String Nat
  content : FileContent
  deriving Repr

/-- What a walk comes upon, apart from directories and links, of which nothing becomes. -/
inductive Visit where
  | file (file : VisitedFile)
  /-- A place that cannot be read, and why. -/
  | unreadable (path reason : String)
  deriving Repr

/-- The ignore files of a directory. -/
structure IgnoreLevel where
  directory : Location
  /-- The file that wins over the others. -/
  general : IgnoreFile
  versioned : IgnoreFile
  /-- The file among the data of the version control. -/
  excluded : IgnoreFile
  deriving Repr

namespace IgnoreLevel

/-- The rules of the file to which a path leads from a directory. -/
def rulesAt (storage : Storage) (directory : Location) (path : String) : IgnoreFile :=
  ((storage.read? directory path).map IgnoreFile.ofBytes).getD []

/-- The ignore files of a directory. -/
def ofDirectory (storage : Storage) (directory : Location) : IgnoreLevel :=
  ⟨directory, rulesAt storage directory ".ignore", rulesAt storage directory ".gitignore",
    rulesAt storage directory ".git/info/exclude"⟩

/-- Whether the directory has no rules. -/
def isEmpty (level : IgnoreLevel) : Bool :=
  level.general.isEmpty && level.versioned.isEmpty && level.excluded.isEmpty

/-- The path of a place below the directory. -/
def pathOf (level : IgnoreLevel) (location : Location) : String :=
  Text.join '/' (location.drop level.directory.length)

/-- What the ignore files say of a place, given those of the directories around it from the
inside out. Within one sort of file the innermost one counts that says anything. -/
def verdict? (levels : List IgnoreLevel) (location : Location) (isDirectory : Bool) :
    Option Verdict :=
  let among (file : IgnoreLevel → IgnoreFile) := levels.findSome? fun level =>
    (file level).verdict? (level.pathOf location) isDirectory
  (among general).or <| (among versioned).or (among excluded)

end IgnoreLevel

namespace Discovery

/-- The directories around a place, from the inside out. -/
def directoriesAround (location : Location) : List Location :=
  (List.range location.length).reverse.map location.take

/-- The ignore files of a storage that have rules, if the settings follow them. -/
def levels (settings : ExtractionSettings) (storage : Storage) : List IgnoreLevel :=
  if settings.followGitignore then
    let directories := (storage.entries.flatMap fun entry => directoriesAround entry.1).eraseDups
    (directories.map (IgnoreLevel.ofDirectory storage)).filter (!·.isEmpty)
  else []

/-- The ignore files that apply to a place, from the inside out. -/
def levelsAround (levels : List IgnoreLevel) (location : Location) : List IgnoreLevel :=
  (directoriesAround location).filterMap fun directory => levels.find? (·.directory == directory)

/-- Whether the name of a place starts with a dot. -/
def isHidden (location : Location) : Bool :=
  location.getLast?.any fun name => name.toList.head? == some '.'

/-- Whether a place is left out. -/
def isLeftOut (settings : ExtractionSettings) (levels : List IgnoreLevel) (location : Location)
    (isDirectory : Bool) : Bool :=
  match IgnoreLevel.verdict? (levelsAround levels location) location isDirectory with
  | some .ignored => true
  | some .kept => false
  | none => isHidden location && !settings.includeHidden

/-- Whether a file below a root is found: neither the file nor a directory between the root and
the file is left out. -/
def isReached (settings : ExtractionSettings) (levels : List IgnoreLevel)
    (root location : Location) : Bool :=
  Storage.isBelow location root
    && ((directoriesAround location).filter (Storage.isBelow · root)).all (fun directory =>
      !isLeftOut settings levels directory true)
    && !isLeftOut settings levels location false

/-- What a walk below a root comes upon at a place. -/
def visitAt? (settings : ExtractionSettings) (levels : List IgnoreLevel)
    (root location : Location) : StoredItem → Option Visit
  | .file content =>
    if isReached settings levels root location then
      some (.file ⟨(location.drop root.length).map Text.Utf8.encode, .ok content.length,
        .bytes content⟩)
    else none
  | _ => none

/-- What a walk below a root comes upon, in the order of the storage. -/
def visits (settings : ExtractionSettings) (storage : Storage) (root : Location) : List Visit :=
  let levels := levels settings storage
  storage.entries.filterMap fun (location, item) => visitAt? settings levels root location item

end Discovery

namespace VisitedFile

/-- The path of the file in its normal spelling. Bytes that are no text are replaced. -/
def relativePath (file : VisitedFile) : String :=
  Path.normalize (Text.Utf8.decodeLossily ([0x2f].intercalate file.names))

/-- The failure to take up the file. -/
def failure (file : VisitedFile) (reason : String) : Failure :=
  ⟨file.relativePath, .discover, reason⟩

/-- What becomes of the file: it is found, or it is a failure because it is too large or its size
cannot be told. Nothing becomes of a file whose path has no segment. -/
def outcome? (settings : ExtractionSettings) (file : VisitedFile) :
    Option (Except Failure DiscoveredFile) :=
  if file.relativePath = "" then none
  else some <| match file.size with
    | .ok size =>
      if size ≤ settings.maxFileSize then .ok ⟨file.relativePath, size, file.content⟩
      else .error (file.failure s!"{size} bytes exceeds the {settings.maxFileSize} byte limit")
    | .error reason => .error (file.failure reason)

end VisitedFile

namespace Visit

/-- The file that a walk comes upon, if it is one. -/
def file? : Visit → Option VisitedFile
  | file visited => some visited
  | unreadable _ _ => none

/-- What becomes of what a walk comes upon. -/
def outcome? (settings : ExtractionSettings) : Visit → Option (Except Failure DiscoveredFile)
  | file visited => visited.outcome? settings
  | unreadable path reason => some (.error ⟨path, .discover, reason⟩)

/-- The file that is found. -/
def found? (settings : ExtractionSettings) (visit : Visit) : Option DiscoveredFile :=
  (visit.outcome? settings).bind Except.toOption

/-- The failure that is reported. -/
def failure? (settings : ExtractionSettings) (visit : Visit) : Option Failure :=
  match visit.outcome? settings with
  | some (.error failure) => some failure
  | _ => none

end Visit

namespace Discovery

/-- What comes of a walk: the files by path, and the failures as they arise. -/
def ofVisits (settings : ExtractionSettings) (visits : List Visit) : Discovery :=
  ⟨sortBy (compareOn DiscoveredFile.relativePath) (visits.filterMap (Visit.found? settings)),
    visits.filterMap (Visit.failure? settings)⟩

/-- The files below a directory, by path. -/
def below (settings : ExtractionSettings) (storage : Storage) (root : Location) : Discovery :=
  ofVisits settings (visits settings storage root)

/-- The files of the repository to whose root a path leads. A root that does not exist is a
failure; below a root that is no directory nothing is found. -/
def discover (settings : ExtractionSettings) (storage : Storage) (rootPath : String) :
    Discovery :=
  match storage.locate? [] rootPath with
  | some root => below settings storage root
  | none => ofVisits settings [.unreadable rootPath "io"]

end Discovery

end CodeGraph
