/-
This file defines what extraction sees but cannot resolve on its own: calls, imports and
inheritance, which name something that may be anywhere in the repository.
-/
import CodeGraph.Graph.Entity

namespace CodeGraph

/-- The kind of an observation. -/
inductive ObservationKind where
  | call
  | import
  | inheritance
  deriving Repr, DecidableEq

namespace ObservationKind

/-- The word for a kind. -/
def name : ObservationKind → String
  | call => "call"
  | .import => "import"
  | inheritance => "inheritance"

/-- The position of a kind in the order of kinds. -/
def rank : ObservationKind → Nat
  | call => 0
  | .import => 1
  | inheritance => 2

/-- The kind with the given name. -/
def ofName? (text : String) : Option ObservationKind :=
  [call, .import, inheritance].find? (·.name == text)

/-- The kind of observation that a reference gives rise to. -/
def ofConstruct? : Construct → Option ObservationKind
  | .callSite => some call
  | .importDeclaration => some .import
  | .inheritance => some inheritance
  | _ => none

end ObservationKind

/-- Something that a source refers to by name. -/
structure Observation where
  kind : ObservationKind
  /-- The file or the entity that refers to it. -/
  sourceId : String
  fileId : String
  /-- The name or path that is written. -/
  target : String
  /-- What a call goes to. -/
  receiver : Option String
  /-- Which part of something is imported. -/
  member : Option String
  span : Span
  deriving Repr, DecidableEq

/-- Observations are ordered by their lines, their kind, what they name, and where they are. -/
def Observation.compare : Observation → Observation → Ordering :=
  compareLex (fun left right => left.span.compare right.span)
    (compareLex (compareOn fun observation => observation.kind.rank)
      (compareLex (compareOn Observation.target) (compareOn Observation.sourceId)))

/-- A reference for which more than one entity could have been meant. -/
structure Ambiguity where
  /-- What refers. -/
  subjectId : String
  filePath : String
  /-- The name that is written. -/
  name : String
  line : Nat
  /-- How many entities could have been meant. -/
  candidates : Nat
  /-- The entity that was taken. -/
  chosen : String
  deriving Repr, DecidableEq

/-- Ambiguities are ordered by file, line and name. -/
def Ambiguity.compare : Ambiguity → Ambiguity → Ordering :=
  compareLex (compareOn Ambiguity.filePath)
    (compareLex (compareOn Ambiguity.line) (compareOn Ambiguity.name))

end CodeGraph
