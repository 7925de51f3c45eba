/-
This file gives the pieces of which the query tables of the languages are written.
-/
import CodeGraph.Construct
import CodeGraph.SyntaxTree.Pattern

namespace CodeGraph.Queries

/-- The patterns that a language has for each kind of construct. -/
abbrev Table := List (Construct × List Pattern)

/-- A node of a kind with parts that match its children. -/
def node (kind : String) (parts : List Pattern) : Pattern := .node kind [] parts

/-- A node of a kind, whatever its children. -/
def leaf (kind : String) : Pattern := .node kind [] []

/-- A child in a field. -/
def field (field : String) (inner : Pattern) : Pattern := .inField field inner

/-- One of several patterns. -/
def either (alternatives : List Pattern) : Pattern := .either alternatives

/-- The whole construct. -/
def definition (inner : Pattern) : Pattern := .capture .definition inner

/-- A node of a kind that names the construct. -/
def name (kind : String) : Pattern := .capture .name (leaf kind)

/-- A node of a kind that names the construct and is the whole of it. -/
def bareName (kind : String) : Pattern := .capture .name (definition (leaf kind))

/-- A node of a kind that names the type to which the construct belongs. -/
def owner (kind : String) : Pattern := .capture .owner (leaf kind)

/-- A node of a kind that is imported. -/
def path (kind : String) : Pattern := .capture .path (leaf kind)

/-- A node of a kind that names a part of what is imported. -/
def member (kind : String) : Pattern := .capture .member (leaf kind)

/-- A node of a kind that names a type from which another one is derived. -/
def supertype (kind : String) : Pattern := .capture .supertype (leaf kind)

/-- Any node that a call goes to. -/
def receiver : Pattern := .capture .receiver .anything

/-- A node of a kind with one of the given texts. -/
def word (kind : String) (texts : List String) : Pattern :=
  .capture .condition (.textIn texts (leaf kind))

/-- Any node that has to be there. -/
def present : Pattern := .capture .condition .anything

/-- A construct of a kind whose name stands in a field of its own. -/
def declared (kind nameKind : String) : Pattern :=
  definition (node kind [field "name" (name nameKind)])

/-- The comments of a grammar that has one kind of them. -/
def comments : Construct × List Pattern := (.comment, [definition (leaf "comment")])

end CodeGraph.Queries
