/-
This file defines what the graph knows of a file: where it is, what it is, and how far its
source was analysed.
-/
import CodeGraph.Graph.Identifier
import CodeGraph.Language.Basic

namespace CodeGraph

/-- A file of a repository. -/
structure SourceFile where
  id : String
  repositoryId : String
  /-- The path from the root of the repository, with slashes. -/
  relativePath : String
  language : Option Language
  /-- The number of bytes. -/
  size : Nat
  /-- The class of the kind of file. -/
  carrierClass : String
  /-- The class of what the file holds. -/
  contentClass : String
  deriving Repr, DecidableEq

namespace SourceFile

/-- The file at a path of a repository; its identifier follows from these two. -/
def ofPath (repositoryId relativePath : String) (language : Option Language) (size : Nat)
    (carrierClass contentClass : String) : SourceFile :=
  ⟨Identifier.file repositoryId relativePath, repositoryId, relativePath, language, size,
    carrierClass, contentClass⟩

/-- The last segment of the path. -/
def fileName (file : SourceFile) : String := Path.fileName file.relativePath

/-- The path of the directory that holds the file. -/
def directory (file : SourceFile) : String := Path.directory file.relativePath

end SourceFile

/-- How far the source of a file was analysed. -/
inductive ParseStatus where
  | parsed
  /-- The source could not be parsed. -/
  | parseFailed
  /-- Nothing was parsed: there is no grammar, or no source. -/
  | notParsed
  deriving Repr, DecidableEq

/-- The word for a status. -/
def ParseStatus.name : ParseStatus → String
  | parsed => "parsed"
  | parseFailed => "parse_failed"
  | notParsed => "not_parsed"

/-- A file with its status. -/
structure FileRecord where
  file : SourceFile
  status : ParseStatus
  deriving Repr, DecidableEq

end CodeGraph
