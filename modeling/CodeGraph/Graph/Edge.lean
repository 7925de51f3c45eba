/-
This file defines the edges of the graph and sets of edges. A set holds one edge for each
subject, property and object, in ascending order, with the earliest of the lines that were given
as evidence for it.
-/
import CodeGraph.Graph.Entity

namespace CodeGraph

/-- What an edge leads to. -/
inductive EdgeObject where
  /-- A node of the graph. -/
  | resolved (id : String)
  /-- Something outside the graph, as it is written. -/
  | unresolved (text : String)
  deriving Repr, DecidableEq

namespace EdgeObject

/-- The node that an object is. -/
def id? : EdgeObject → Option String
  | resolved id => some id
  | unresolved _ => none

/-- The text of an object: an identifier or what is written. -/
def text : EdgeObject → String
  | resolved id => id
  | unresolved text => text

/-- Whether an object is no node of the graph. -/
def isUnresolved : EdgeObject → Bool
  | resolved _ => false
  | unresolved _ => true

/-- Nodes come before other objects. -/
def compare : EdgeObject → EdgeObject → Ordering :=
  compareLex (compareOn isUnresolved) (compareOn text)

end EdgeObject

/-- An edge of the graph. -/
structure Edge where
  subjectId : String
  /-- The property that the edge states. -/
  predicate : String
  object : EdgeObject
  /-- The lines that the edge was read from. -/
  evidence : Option Span
  deriving Repr, DecidableEq

namespace Edge

/-- Edges are ordered by subject, property and object; the evidence does not count. -/
def compare : Edge → Edge → Ordering :=
  compareLex (compareOn Edge.subjectId)
    (compareLex (compareOn Edge.predicate) fun left right => left.object.compare right.object)

end Edge

/-- The earlier of two spans that may be absent. -/
def earlierEvidence : Option Span → Option Span → Option Span
  | none, second => second
  | first, none => first
  | some first, some second => if first.compare second |>.isLE then some first else some second

namespace EdgeSet

/-- Puts an edge at its place in an ascending list. If the list has the edge already, it keeps
the earlier evidence. -/
def insert (edge : Edge) : List Edge → List Edge
  | [] => [edge]
  | head :: rest =>
    match edge.compare head with
    | .lt => edge :: head :: rest
    | .eq => { head with evidence := earlierEvidence head.evidence edge.evidence } :: rest
    | .gt => head :: insert edge rest

/-- The set of the given edges, as the ascending list of its members. -/
def ofList (edges : List Edge) : List Edge :=
  edges.foldl (fun set edge => insert edge set) []

end EdgeSet

end CodeGraph
