/-
This file defines patterns of syntax trees and finds their matches. A pattern describes a node
and some of its children; a match says which nodes were captured in which role. All ways to
match count, but ways that capture the same nodes count once.
-/
import CodeGraph.SyntaxTree.Basic
import CodeGraph.SourceText

namespace CodeGraph

/-- The role of a captured node. -/
inductive Role where
  /-- The whole construct. -/
  | definition
  /-- The name of the construct. -/
  | name
  /-- The name of the type that the construct belongs to. -/
  | owner
  /-- What a call goes to. -/
  | receiver
  /-- What is imported. -/
  | path
  /-- Which part of it is imported. -/
  | member
  /-- What a type is derived from. -/
  | supertype
  /-- A node that is only looked at. -/
  | condition
  deriving Repr, DecidableEq

/-- A pattern of nodes. -/
inductive Pattern where
  /-- A named node of the given kind that has no child in any of the absent fields. The parts
  match some of its children, in order. -/
  | node (kind : String) (absent : List String) (parts : List Pattern)
  /-- Any named node but an error. -/
  | anything
  /-- A fixed text. -/
  | token (text : String)
  /-- One of several patterns. -/
  | either (alternatives : List Pattern)
  /-- A node that is captured in a role. -/
  | capture (role : Role) (inner : Pattern)
  /-- A node in the given field of its parent. -/
  | inField (field : String) (inner : Pattern)
  /-- A node with no named node between it and the one matched before, or the parent's start. -/
  | adjacent (inner : Pattern)
  /-- A node whose text is one of the given ones. -/
  | textIn (texts : List String) (inner : Pattern)
  /-- A node whose text is none of the given ones. -/
  | textNotIn (texts : List String) (inner : Pattern)
  deriving Repr, Inhabited

/-- A way to match a pattern. -/
structure Match where
  /-- The captured nodes in the order in which they were matched. -/
  captures : List (Role × SyntaxNode)
  /-- The place of the last matched node. -/
  last : Nat
  deriving Repr, DecidableEq

namespace Match

/-- The node captured first in a role. -/
def captured? (found : Match) (role : Role) : Option SyntaxNode := found.captures.lookup role

/-- A match followed by another one. -/
def append (first second : Match) : Match :=
  ⟨first.captures ++ second.captures, max first.last second.last⟩

end Match

namespace Pattern

/-- The children that a part may match, each with the children after it. A part that is
adjacent does not pass a named child. -/
def choices (part : Pattern) : List SyntaxTree → List (SyntaxTree × List SyntaxTree)
  | [] => []
  | child :: rest =>
    match part with
    | .adjacent _ =>
      if child.root.isNamed then [(child, rest)] else (child, rest) :: choices part rest
    | _ => (child, rest) :: choices part rest

/-- Whether a node has a child in one of the given fields. -/
def hasFieldAmong (fields : List String) (children : List SyntaxTree) : Bool :=
  children.any fun child => child.root.field.any fields.contains

mutual

/-- The ways in which a pattern matches a tree's root. -/
def matchesAt (source : SourceText) : Pattern → SyntaxTree → List Match
  | .node kind absent parts, tree =>
    if tree.root.isNamed && tree.root.kind == kind && !hasFieldAmong absent tree.children then
      (matchParts source parts tree.children).map (Match.append ⟨[], tree.root.index⟩)
    else []
  | .anything, tree =>
    if tree.root.isNamed && !tree.root.isError then [⟨[], tree.root.index⟩] else []
  | .token text, tree =>
    if !tree.root.isNamed && tree.root.kind == text then [⟨[], tree.root.index⟩] else []
  | .either alternatives, tree => matchAny source alternatives tree
  | .capture role inner, tree =>
    (matchesAt source inner tree).map (Match.append ⟨[(role, tree.root)], tree.root.index⟩)
  | .inField field inner, tree =>
    if tree.root.field == some field then matchesAt source inner tree else []
  | .adjacent inner, tree => matchesAt source inner tree
  | .textIn texts inner, tree =>
    if texts.contains (source.slice tree.root.start tree.root.stop) then
      matchesAt source inner tree
    else []
  | .textNotIn texts inner, tree =>
    if texts.contains (source.slice tree.root.start tree.root.stop) then []
    else matchesAt source inner tree

/-- The ways in which one of several patterns matches. -/
def matchAny (source : SourceText) : List Pattern → SyntaxTree → List Match
  | [], _ => []
  | pattern :: rest, tree => matchesAt source pattern tree ++ matchAny source rest tree

/-- The ways in which parts match some of the given children, in order. -/
def matchParts (source : SourceText) : List Pattern → List SyntaxTree → List Match
  | [], _ => [⟨[], 0⟩]
  | part :: parts, children =>
    (choices part children).flatMap fun (child, rest) =>
      (matchesAt source part child).flatMap fun found =>
        (matchParts source parts rest).map found.append

end

/-- The order of matches: by the last matched node, then by the root. -/
def precedes (left right : Nat × Match) : Bool :=
  left.2.last < right.2.last || (left.2.last == right.2.last && left.1 ≤ right.1)

/-- Leaves out the matches that capture the same nodes as one seen before. -/
def dropRepeated (seen : List (List (Role × SyntaxNode))) : List Match → List Match
  | [] => []
  | found :: rest =>
    if seen.contains found.captures then dropRepeated seen rest
    else found :: dropRepeated (found.captures :: seen) rest

/-- The matches of a pattern within a tree: all of them. A search that keeps no more than ten
thousand unfinished matches at a time, and drops others with a warning, is not followed in that. -/
def search (source : SourceText) (pattern : Pattern) (tree : SyntaxTree) : List Match :=
  let found := tree.subtrees.flatMap fun subtree =>
    (matchesAt source pattern subtree).map fun found => (subtree.root.index, found)
  dropRepeated [] ((found.mergeSort precedes).map Prod.snd)

end Pattern

end CodeGraph
