/-
This file defines entities: the constructs of a source that become nodes of the graph.
-/
import CodeGraph.Vocabulary.Terms

namespace CodeGraph

/-- The lines that a construct takes up, from the first to the last one. -/
structure Span where
  startLine : Nat
  endLine : Nat
  deriving Repr, DecidableEq

/-- Spans are ordered by their first line, then by their last one. -/
def Span.compare : Span → Span → Ordering :=
  compareLex (compareOn Span.startLine) (compareOn Span.endLine)

/-- A construct that is a node of the graph. -/
structure Entity where
  id : String
  /-- The class of the node. -/
  className : String
  /-- The kind of construct. -/
  kind : Construct
  /-- The names of the module, of the constructs around this one and of itself, with dots. -/
  canonicalName : String
  /-- The name as it is written. -/
  simpleName : String
  fileId : String
  filePath : String
  startLine : Nat
  endLine : Nat
  /-- The source of the construct. -/
  snippet : String
  /-- The entity that holds this one, if it is not the file itself. -/
  parentId : Option String
  deriving Repr, DecidableEq

namespace Entity

/-- The lines of an entity. -/
def span (entity : Entity) : Span := ⟨entity.startLine, entity.endLine⟩

/-- Whether an entity is a function or a method. -/
def isFunction (entity : Entity) : Bool :=
  entity.className == Term.functionDefinition || entity.className == Term.methodDefinition

/-- Whether an entity can be called: a function, a method or a class. -/
def isCallable (entity : Entity) : Bool :=
  entity.isFunction || entity.className == Term.classDefinition

/-- Whether an entity is something to be derived from: a type or a module. -/
def isTypeOrModule (entity : Entity) : Bool :=
  entity.kind.isType || entity.kind == .moduleDefinition

/-- Whether an entity is a comment. -/
def isComment (entity : Entity) : Bool := entity.kind == .comment

end Entity

end CodeGraph
