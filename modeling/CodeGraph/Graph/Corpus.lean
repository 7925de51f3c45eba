/-
This file defines the files and the entities of a repository as they are looked up when
references are resolved: by identifier, by name, and through the entities around them.
-/
import CodeGraph.Graph.SourceFile
import CodeGraph.Graph.Entity
import CodeGraph.Sorting

namespace CodeGraph

/-- The files of a repository. -/
abbrev FileList := List SourceFile

namespace FileList

/-- The file with an identifier. -/
def withId? (files : FileList) (id : String) : Option SourceFile :=
  (files.filter (·.id == id)).getLast?

/-- The file at a path. -/
def atPath? (files : FileList) (path : String) : Option SourceFile :=
  (files.filter (·.relativePath == path)).getLast?

/-- Whether a file holds tests. -/
def isTestFile (files : FileList) (id : String) : Bool :=
  (files.withId? id).any (·.contentClass == Term.testCode)

end FileList

/-- The entities of a repository. -/
abbrev EntityList := List Entity

namespace EntityList

/-- The entity with an identifier. -/
def withId? (entities : EntityList) (id : String) : Option Entity :=
  (entities.filter (·.id == id)).getLast?

/-- Entities are ordered by file and line. -/
def comparePlace : Entity → Entity → Ordering :=
  compareLex (compareOn Entity.filePath)
    (compareLex (compareOn Entity.startLine) (compareOn Entity.id))

/-- The entities of a sort that have a name, by file and line. -/
def named (entities : EntityList) (isOfSort : Entity → Bool) (name : String) : List Entity :=
  sortBy comparePlace (entities.filter fun entity => entity.simpleName == name && isOfSort entity)

/-- The functions, methods and classes with a name. -/
def callables (entities : EntityList) (name : String) : List Entity :=
  entities.named Entity.isCallable name

/-- The functions and methods with a name. -/
def functions (entities : EntityList) (name : String) : List Entity :=
  entities.named Entity.isFunction name

/-- The types and modules with a name. -/
def types (entities : EntityList) (name : String) : List Entity :=
  entities.named Entity.isTypeOrModule name

/-- The entity that holds an entity. -/
def parent? (entities : EntityList) (entity : Entity) : Option Entity :=
  entity.parentId.bind entities.withId?

/-- The first type among an entity and the entities around it, within as many steps as the fuel
allows. -/
def firstType? (entities : EntityList) : Nat → Option Entity → Option Entity
  | 0, _ => none
  | _ + 1, none => none
  | fuel + 1, some entity =>
    if entity.kind.isType then some entity else entities.firstType? fuel (entities.parent? entity)

/-- The name of the innermost type around an entity, itself included. No way up that reaches a
type is longer than the list of the entities. -/
def enclosingType? (entities : EntityList) (id : String) : Option String :=
  (entities.firstType? (entities.length + 1) (entities.withId? id)).map Entity.simpleName

end EntityList

/-- The files and the entities of a repository. -/
structure Corpus where
  files : FileList
  entities : EntityList
  deriving Repr, DecidableEq

end CodeGraph
