/-
This file defines syntax trees. A tree comes from a parser that is not part of this library; it
is read from the list of its nodes in document order, each with its depth. The list of the
nodes of a tree in document order is what the other files reason about.
-/

namespace CodeGraph

/-- A node of a syntax tree without its children. -/
structure SyntaxNode where
  /-- The place of the node in document order. -/
  index : Nat
  /-- What the grammar calls the node. -/
  kind : String
  /-- Whether the node stands for a rule of the grammar and not for a fixed text. -/
  isNamed : Bool := true
  /-- Whether the parser inserted the node. -/
  isMissing : Bool := false
  /-- Whether the node may stand anywhere, like a comment. -/
  isExtra : Bool := false
  /-- Whether the node holds text that the parser could not place. -/
  isError : Bool := false
  /-- Whether the node or one below it is missing or an error. -/
  hasError : Bool := false
  /-- The offset of the first byte. -/
  start : Nat
  /-- The offset behind the last byte. -/
  stop : Nat
  /-- What the grammar calls the place of the node within its parent. -/
  field : Option String := none
  deriving Repr, DecidableEq, Inhabited

/-- A syntax tree. -/
inductive SyntaxTree where
  | node (root : SyntaxNode) (children : List SyntaxTree)
  deriving Repr, Inhabited

namespace SyntaxTree

/-- The root of a tree. -/
def root : SyntaxTree → SyntaxNode
  | .node root _ => root

/-- The trees below the root, in order. -/
def children : SyntaxTree → List SyntaxTree
  | .node _ children => children

mutual

/-- The nodes of a tree in document order: every node before those below it. -/
def nodes : SyntaxTree → List SyntaxNode
  | .node root children => root :: nodesOf children

/-- The nodes of a list of trees in document order. -/
def nodesOf : List SyntaxTree → List SyntaxNode
  | [] => []
  | tree :: rest => nodes tree ++ nodesOf rest

end

mutual

/-- A tree and all trees within it, in document order of their roots. -/
def subtrees : SyntaxTree → List SyntaxTree
  | .node root children => .node root children :: subtreesOf children

/-- The trees of a list and all trees within them. -/
def subtreesOf : List SyntaxTree → List SyntaxTree
  | [] => []
  | tree :: rest => subtrees tree ++ subtreesOf rest

end

/-- Puts a node before trees that stand in document order, each with its depth: those deeper
than the node become its children. -/
def addNode (depth : Nat) (root : SyntaxNode) (later : List (Nat × SyntaxTree)) :
    List (Nat × SyntaxTree) :=
  let below := later.takeWhile fun entry => depth < entry.1
  (depth, .node root (below.map Prod.snd)) :: later.drop below.length

/-- The tree with the given nodes in document order, each with its depth; none if they are not
those of one tree. -/
def ofNodes? (entries : List (Nat × SyntaxNode)) : Option SyntaxTree :=
  match entries.foldr (fun (depth, root) later => addNode depth root later) [] with
  | [(_, tree)] => some tree
  | _ => none

end SyntaxTree

end CodeGraph
