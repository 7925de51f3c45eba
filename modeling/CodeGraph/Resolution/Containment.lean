/-
This file states which entity holds which. Every entity is declared in its file, and its parent,
or else the file, has it as a parameter, a field, a method or just declares it.
-/
import CodeGraph.Graph.Corpus
import CodeGraph.Graph.Edge

namespace CodeGraph

namespace Entity

/-- The property that relates the entity around another one to it. -/
def containmentProperty (parent child : Entity) : String :=
  match child.kind with
  | .parameter => Term.hasParameter
  | .attributeDeclaration => if parent.kind.isType then Term.hasField else Term.declares
  | .functionDefinition => if parent.kind.isType then Term.hasMethod else Term.declares
  | _ => Term.declares

/-- The edge from an entity to its file. -/
def declarationEdge (entity : Entity) : Edge :=
  ⟨entity.id, Term.isDeclaredIn, .resolved entity.fileId, some entity.span⟩

/-- The edge to an entity from its parent or its file. -/
def containmentEdge (entities : EntityList) (entity : Entity) : Edge :=
  match entities.parent? entity with
  | some parent =>
    ⟨parent.id, containmentProperty parent entity, .resolved entity.id, some entity.span⟩
  | none => ⟨entity.fileId, Term.declares, .resolved entity.id, some entity.span⟩

end Entity

/-- The edges that say which entity holds which. -/
def EntityList.containmentEdges (entities : EntityList) : List Edge :=
  entities.flatMap fun entity => [entity.declarationEdge, entity.containmentEdge entities]

end CodeGraph
