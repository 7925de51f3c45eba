/-
This file relates comments to what they document: the entity below them in the same file and of
the same parent. A run of comments without a gap documents the entity below the run; a comment
that begins on the same line as an entity documents nothing and ends the run.
-/
import CodeGraph.Graph.Corpus
import CodeGraph.Graph.Edge

namespace CodeGraph

namespace EntityList

/-- The entities in the same file and of the same parent. -/
def siblings (entities : EntityList) (entity : Entity) : List Entity :=
  entities.filter fun other => other.fileId == entity.fileId && other.parentId == entity.parentId

/-- The comment among siblings that ends on a line, of several the last one. -/
def commentEndingAt? (siblings : List Entity) (line : Nat) : Option Entity :=
  (siblings.filter fun entity => entity.isComment && entity.endLine == line).getLast?

/-- Whether an entity other than a comment begins on a line. -/
def isOccupied (siblings : List Entity) (line : Nat) : Bool :=
  siblings.any fun entity => !entity.isComment && entity.startLine == line

/-- The comment that documents what begins on a line: it ends on the line above, and nothing
else begins where it does. -/
def commentAbove? (siblings : List Entity) : Nat → Option Entity
  | 0 => none
  | above + 1 =>
    (commentEndingAt? siblings above).filter fun comment =>
      !isOccupied siblings comment.startLine

/-- The comments above a line, the lowest first, at most as many as the fuel says. -/
def commentsAbove (siblings : List Entity) : Nat → Nat → List Entity
  | 0, _ => []
  | fuel + 1, line =>
    match commentAbove? siblings line with
    | some comment => comment :: commentsAbove siblings fuel comment.startLine
    | none => []

/-- The comments that document an entity. As long as no comment ends above the line in which it
begins, each of them begins above the one below it, so there are no more of them than lines and the
fuel cuts nothing off. Nothing that is extracted is such a comment. Among entities with one the
search can come back to a line where it has been, and without the fuel it would not end; the fuel
then ends it somewhere on its way round. -/
def commentsOf (siblings : List Entity) (entity : Entity) : List Entity :=
  commentsAbove siblings (entity.startLine + siblings.length) entity.startLine

end EntityList

/-- The edge from a comment to what it documents. -/
def Entity.documentationEdge (comment target : Entity) : Edge :=
  ⟨comment.id, Term.documents, .resolved target.id, some comment.span⟩

/-- The edges from comments to what they document. -/
def EntityList.documentationEdges (entities : EntityList) : List Edge :=
  (entities.filter (!·.isComment)).flatMap fun target =>
    (commentsOf (entities.siblings target) target).map (·.documentationEdge target)

end CodeGraph
