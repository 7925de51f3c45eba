/-
This file finds the file of a repository that an import names. Each language has its convention
for that. If the convention leads nowhere, the file is taken that alone in the repository has
the name that the import ends with.
-/
import CodeGraph.Graph.Corpus
import CodeGraph.Text.Split

namespace CodeGraph.FileList

open Text

/-! ### Looking for files -/

/-- The paths that a path without its extension may stand for. -/
def spellings (base : String) (extensions : List String) (indexFiles : Bool) : List String :=
  base :: extensions.map (fun extension => s!"{base}.{extension}")
    ++ if indexFiles then
      extensions.map fun extension => Path.join base s!"index.{extension}"
    else []

/-- The file at the first path that there is a file at. -/
def atFirst? (files : FileList) (paths : List String) : Option SourceFile :=
  paths.findSome? files.atPath?

/-- Shorter paths come before longer ones. -/
def shortestFirst : String → String → Ordering :=
  compareLex (compareOn String.utf8ByteSize) compare

/-- The file with the shortest path that has an ending. -/
def withEnding? (files : FileList) (ending : String) : Option SourceFile :=
  (leastBy? shortestFirst
    ((files.map SourceFile.relativePath).filter (Path.hasEnding ending))).bind files.atPath?

/-- The file whose path has an ending before the first possible of the extensions. -/
def bySuffix? (files : FileList) (ending : String) (extensions : List String) :
    Option SourceFile :=
  extensions.findSome? fun extension => files.withEnding? s!"{ending}.{extension}"

/-- The files that a stem belongs to. -/
def withStem (files : FileList) (stem : String) : List SourceFile :=
  files.filter fun file => Path.stem file.fileName == stem

/-! ### Relative paths -/

/-- The file that a relative path leads to. One that does not start with a dot may also start at
the root. -/
def relative? (files : FileList) (importer : SourceFile) (text : String)
    (extensions : List String) (indexFiles : Bool) : Option SourceFile :=
  let found (base : Option String) :=
    base.bind fun base => files.atFirst? (spellings base extensions indexFiles)
  let start := match text.toList with
    | '/' :: rest => String.ofList rest
    | _ => Path.join importer.directory text
  (found (Path.collapse? start)).or <|
    if text.toList.head? = some '.' then none else found (Path.collapse? text)

/-! ### Dotted names -/

/-- The extensions of the files that dotted names lead to. -/
def dottedExtensions : List String := ["py", "pyi"]

/-- The file that stands for a directory with modules. -/
def packageFile : String := "__init__"

/-- The file of a module or package at a path without extension. -/
def moduleFile? (files : FileList) (base : String) : Option SourceFile :=
  let of (path : String) := files.atFirst? (spellings path dottedExtensions false)
  if base = "" then of packageFile
  else ((of base).filter (·.relativePath != base)).or (of (Path.join base packageFile))

/-- The file of a member of a module, if the member is a module itself, else that of the
module. -/
def memberOrModule? (files : FileList) (base : String) (member : Option String) :
    Option SourceFile := do
  let base ← Path.collapse? base
  (member.bind fun member => files.moduleFile? (Path.join base member)).or (files.moduleFile? base)

/-- The file that a dotted name leads to. Every dot at the start but the first one leads one
level up; a name without one starts at the root or below any directory. -/
def dotted? (files : FileList) (importer : SourceFile) (text : String)
    (member : Option String) : Option SourceFile :=
  let characters := text.toList
  let dots := (characters.takeWhile (· == '.')).length
  let module := String.ofList <|
    (characters.drop dots).map fun character => if character == '.' then '/' else character
  if 0 < dots then
    (Path.above? (dots - 1) importer.directory).bind fun directory =>
      files.memberOrModule? (Path.join directory module) member
  else
    (files.memberOrModule? module member).or <|
      (member.bind fun member =>
        files.bySuffix? (Path.join module member) dottedExtensions).or <|
      (files.bySuffix? module dottedExtensions).or
        (files.bySuffix? (Path.join module packageFile) dottedExtensions)

/-! ### Package paths -/

/-- A name in snake case, given whether the character before it is a lower-case letter or a
digit: an underscore stands before every capital that follows such a character. -/
def snakeCaseFrom (afterLower : Bool) : List Char → List Char
  | [] => []
  | character :: rest =>
    if isUppercase character then
      (if afterLower then ['_'] else []) ++ toLowercase character ++ snakeCaseFrom false rest
    else
      character :: snakeCaseFrom (isLowercase character || character.isDigit) rest

/-- A name in snake case. -/
def snakeCase (name : List Char) : List Char := snakeCaseFrom false name

/-- The segments of a package path. -/
def packageSegments (text : String) (snake : Bool) : List String :=
  let plain := trimWhere isBlank <|
    dropEndWhile (· == ';') (trimStarts "static ".toList text.toList)
  (((piecesAt '.' plain).map (trimWhere isBlank)).filter fun segment =>
    !segment.isEmpty && segment != ['*']).map fun segment =>
      String.ofList (if snake then snakeCase segment else segment)

/-- The file that a package path leads to; its last segment may be a member. -/
def packagePath? (files : FileList) (text : String) (extensions : List String) (snake : Bool) :
    Option SourceFile :=
  let segments := packageSegments text snake
  ([segments, segments.dropLast].filter (!·.isEmpty)).findSome? fun segments =>
    files.bySuffix? (Text.join '/' segments) extensions

/-! ### Module paths -/

/-- The directory of the modules below a file. -/
def moduleDirectory (file : SourceFile) : String :=
  if ["lib.rs", "main.rs", "mod.rs"].contains file.fileName then file.directory
  else Path.join file.directory (Path.stem file.fileName)

/-- The innermost directory at or above a file's that holds a root module; without one the
file's directory. -/
def rootDirectory (files : FileList) (file : SourceFile) : String :=
  ((Path.selfAndAbove file.directory).find? fun directory =>
    ["lib.rs", "main.rs"].any fun name =>
      (files.atPath? (Path.join directory name)).isSome).getD file.directory

/-- Follows the segments at the start of a path that lead to the parent module. -/
def climb? (directory : String) : List String → Option (String × List String)
  | [] => some (directory, [])
  | segment :: rest =>
    if segment = "super" then (Path.parent? directory).bind fun above => climb? above rest
    else some (directory, segment :: rest)

/-- The segments of a module path, without a list or a star of members and without a new
name. -/
def moduleSegments (text : String) : List String :=
  let plain := trimWhere isBlank (beforeFirst " as ".toList text.toList)
  let path := match splitFirst? [':', ':', '\x7b'] plain with
    | some (before, _) => before
    | none => trimEndings "::*".toList plain
  (((piecesOn [':', ':'] path).map (trimWhere isBlank)).filter (!·.isEmpty)).map String.ofList

/-- The directory in which a module path starts and the segments from there on. -/
def moduleStart? (files : FileList) (importer : SourceFile) :
    List String → Option (String × List String)
  | [] => none
  | first :: rest =>
    if first = "crate" then some (files.rootDirectory importer, rest)
    else if first = "self" then some (moduleDirectory importer, rest)
    else climb? (moduleDirectory importer) (first :: rest)

/-- The file of the longest start of a module path that is a module. -/
def longestModule? (files : FileList) (directory : String) (segments : List String) :
    Option SourceFile :=
  (List.range segments.length).reverse.findSome? fun count =>
    let path := Path.join directory (Text.join '/' (segments.take (count + 1)))
    files.atFirst? [s!"{path}.rs", s!"{path}/mod.rs"]

/-- The file that a module path leads to. -/
def modulePath? (files : FileList) (importer : SourceFile) (text : String) :
    Option SourceFile :=
  (files.moduleStart? importer (moduleSegments text)).bind fun (directory, segments) =>
    files.longestModule? directory segments

/-! ### Directories -/

/-- Whether a path has the given characters at its end. -/
def pathEndsWith (ending path : String) : Bool := ending.toList.isSuffixOf path.toList

/-- The files of packages, tests after others. -/
def compareInPackage : SourceFile → SourceFile → Ordering :=
  compareLex (compareOn fun file => pathEndsWith "_test.go" file.relativePath)
    (compareOn SourceFile.relativePath)

/-- The file that stands for a package: the first one of the first directory that holds one and
has the given ending. -/
def packageAt? (files : FileList) (ending : String) : Option SourceFile := do
  let sources := files.filter fun file => pathEndsWith ".go" file.relativePath
  let directory ← leastBy? compare
    ((sources.map SourceFile.directory).filter (Path.hasEnding ending))
  leastBy? compareInPackage (sources.filter (·.directory == directory))

/-- The file that the path of a package leads to. As many segments at its end as possible have
to be the end of a directory. -/
def packageDirectory? (files : FileList) (text : String) : Option SourceFile :=
  let segments := (Text.split '/' text).filter (· != "")
  (List.range segments.length).findSome? fun skipped =>
    files.packageAt? (Text.join '/' (segments.drop skipped))

/-! ### Features -/

/-- The file that a feature leads to: next to the importing file, at the root, in the directory
for libraries, or below any directory. -/
def feature? (files : FileList) (importer : SourceFile) (text : String)
    (extensions : List String) : Option SourceFile :=
  let below (directory : String) := (Path.collapse? (Path.join directory text)).bind fun base =>
    files.atFirst? (spellings base extensions false)
  (below importer.directory).or <|
    if text.toList.head? = some '.' then none
    else (["", "lib"].findSome? below).or (files.bySuffix? text extensions)

/-! ### Imports -/

/-- The file that a convention leads to. -/
def byConvention? (files : FileList) (importer : SourceFile) (text : String)
    (member : Option String) : ImportConvention → Option SourceFile
  | .relative extensions indexFiles _ => files.relative? importer text extensions indexFiles
  | .dotted => files.dotted? importer text member
  | .packagePath extensions snake => files.packagePath? text extensions snake
  | .modulePath => files.modulePath? importer text
  | .directory => files.packageDirectory? text
  | .feature extensions => files.feature? importer text extensions

/-- Whether a text names something outside the repository by a convention. -/
def isExternal (text : String) : ImportConvention → Bool
  | .relative _ _ bareIsExternal =>
    bareIsExternal && text.toList.head? != some '.' && text.toList.head? != some '/'
  | _ => false

/-- The stem of the last name in the text of an import. -/
def lastStem? (text : String) (convention : ImportConvention) : Option String := do
  let isSeparator (character : Char) := character == '/' || character == ':' || character == '\\'
  let last ← ((piecesWhere isSeparator text.toList).filter (!·.isEmpty)).getLast?
  match convention with
  | .dotted | .packagePath .. =>
    (((piecesAt '.' last).filter (!·.isEmpty)).getLast?).map String.ofList
  | _ => some (Path.stem (String.ofList last))

/-- The file that alone has the stem that the text of an import ends with. -/
def byStem? (files : FileList) (importer : SourceFile) (text : String)
    (convention : ImportConvention) : Option SourceFile := do
  match files.withStem (← lastStem? text convention) with
  | [only] => if only.id = importer.id then none else some only
  | _ => none

/-- The file that an import names. No file imports itself. -/
def import? (files : FileList) (importer : SourceFile) (text : String)
    (member : Option String) : Option SourceFile := do
  let convention := (← importer.language).imports
  let text := trim text
  if text = "" || isExternal text convention then none
  else
    ((files.byConvention? importer text member convention).filter (·.id != importer.id)).or
      (files.byStem? importer text convention)

end CodeGraph.FileList
