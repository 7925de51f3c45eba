/-
This file chooses the entity that a reference means among those with the right name. Entities
in the file of the reference come first, then those of the type that the receiver stands for,
then those that are nearest. What is left at the last step tells whether the choice is
ambiguous.
-/
import CodeGraph.Graph.Corpus
import CodeGraph.Text.Split

namespace CodeGraph

/-- The place of a reference. -/
structure Site where
  fileId : String
  line : Nat
  /-- What a call goes to, as it is written. -/
  receiver : Option String
  /-- The name of the type around the reference. -/
  enclosingType : Option String
  deriving Repr, DecidableEq

namespace Site

open Text

/-- The receivers that stand for the type around the reference. -/
def selfReceivers : List String := ["self", "this", "cls", "Self", "@", "__MODULE__"]

/-- A character that separates the parts of a receiver. -/
def isReceiverSeparator (character : Char) : Bool :=
  character == '.' || character == ':' || character == '>'

/-- A character that no name of a type starts or ends with. -/
def isOutsideName (character : Char) : Bool := !(isAlphanumeric character || character == '_')

/-- The name of the type that a receiver stands for: that of the type around it, or the last
part of what is written. -/
def receiverType? (receiver enclosingType : Option String) : Option String := do
  let text := trim (← receiver)
  if selfReceivers.contains text then enclosingType
  else
    let parts := (piecesWhere isReceiverSeparator text.toList).filter (!·.isEmpty)
    let name := trimWhere isOutsideName (← parts.getLast?)
    if name.isEmpty then none else some (String.ofList name)

end Site

/-- The entity that is chosen. -/
structure Choice where
  entity : Entity
  /-- How many candidates the file and the receiver leave. -/
  remaining : Nat
  deriving Repr, DecidableEq

/-- A choice is ambiguous if several candidates are left. -/
def Choice.isAmbiguous (choice : Choice) : Bool := 1 < choice.remaining

/-- The distance between two lines. -/
def lineDistance (left right : Nat) : Nat := (left - right) + (right - left)

namespace EntityList

/-- The candidates that satisfy a test; all of them if none does. -/
def preferring (candidates : List Entity) (isPreferred : Entity → Bool) : List Entity :=
  let preferred := candidates.filter isPreferred
  if preferred.isEmpty then candidates else preferred

/-- Whether an entity belongs to a type of the given name or has that name itself. -/
def matchesType (entities : EntityList) (typeName : String) (candidate : Entity) : Bool :=
  ((entities.parent? candidate).map Entity.simpleName) == some typeName
    || candidate.simpleName == typeName

/-- Entities are ordered by their distance from a line, then by their line. -/
def compareDistance (line : Nat) : Entity → Entity → Ordering :=
  compareLex (compareOn fun entity => lineDistance entity.startLine line)
    (compareOn Entity.startLine)

/-- Chooses the entity that a reference at a site means. -/
def choose (entities : EntityList) (candidates : List Entity) (site : Site) : Option Choice :=
  let isLocal (candidate : Entity) := candidate.fileId == site.fileId
  let near := preferring candidates isLocal
  let pool := match Site.receiverType? site.receiver site.enclosingType with
    | some typeName => preferring near (entities.matchesType typeName)
    | none => near
  let chosen := if candidates.any isLocal then leastBy? (compareDistance site.line) pool
    else pool.head?
  chosen.map (⟨·, pool.length⟩)

end EntityList

end CodeGraph
