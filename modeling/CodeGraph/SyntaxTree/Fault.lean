/-
This file finds the first fault of a syntax tree: the first node in document order that is
missing or an error. The search goes down only where a node says that there is a fault below.
-/
import CodeGraph.SyntaxTree.Basic

namespace CodeGraph

/-- A node that the parser inserted or could not place. -/
def SyntaxNode.isFaulty (node : SyntaxNode) : Bool := node.isError || node.isMissing

namespace SyntaxTree

mutual

/-- The first fault at or below a node that has one below it; the node itself if none of its
children has. -/
def faultBelow : SyntaxTree → SyntaxNode
  | .node root children => (faultAmong children).getD root

/-- The first fault among trees, of which only those that have one are searched. -/
def faultAmong : List SyntaxTree → Option SyntaxNode
  | [] => none
  | .node root children :: rest =>
    if root.isFaulty then some root
    else if root.hasError then some ((faultAmong children).getD root)
    else faultAmong rest

end

/-- The first fault of a tree. -/
def firstFault? (tree : SyntaxTree) : Option SyntaxNode :=
  if tree.root.hasError then some (faultBelow tree) else none

end SyntaxTree

end CodeGraph
