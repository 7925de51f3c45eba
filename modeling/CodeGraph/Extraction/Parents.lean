/-
This file finds the parents of definitions. By their place in the source, the parent of a
definition is the innermost container around it. A definition that names an owner belongs to
the type of that name instead, as long as that does not make it its own ancestor.
-/
import CodeGraph.Extraction.Capture

namespace CodeGraph

/-- The parent of each definition, by its place in the list; none for what lies directly in the
file. -/
abbrev ParentTable := List (Option Nat)

namespace ParentTable

/-- The parent of the definition at a place. -/
def parent? (parents : ParentTable) (index : Nat) : Option Nat := (parents[index]?).join

/-- Whether a definition is found on the way up from another one. The way has as many steps as
the fuel; one that is longer counts as found. -/
def leadsTo (parents : ParentTable) (ancestor : Nat) : Nat → Option Nat → Bool
  | _, none => false
  | 0, some _ => true
  | fuel + 1, some index =>
    index == ancestor || parents.leadsTo ancestor fuel (parents.parent? index)

/-- Whether a definition is another one or an ancestor of it. -/
def isAncestor (parents : ParentTable) (ancestor descendant : Nat) : Bool :=
  parents.leadsTo ancestor parents.length (some descendant)

/-- The places on the way up from a place, as many as the fuel allows. -/
def chain (parents : ParentTable) : Nat → Option Nat → List Nat
  | _, none => []
  | 0, some _ => []
  | fuel + 1, some index => index :: parents.chain fuel (parents.parent? index)

/-- The ancestors of the definition at a place, the innermost first. -/
def ancestors (parents : ParentTable) (index : Nat) : List Nat :=
  parents.chain parents.length (parents.parent? index)

end ParentTable

namespace Definition

/-! ### Lexical parents -/

/-- The containers that are open at a place, the innermost first, each with its place in the
list of definitions. -/
abbrev Scopes := List (Nat × Definition)

/-- The containers that are still open where a range begins. -/
def Scopes.within (scopes : Scopes) (range : ByteRange) : Scopes :=
  scopes.dropWhile fun scope => !scope.2.range.encloses range

/-- The container to which a definition belongs: for an attribute the innermost type, if there
is one, otherwise the innermost container. -/
def Scopes.parentOf? (scopes : Scopes) (definition : Definition) : Option Nat :=
  let innermost := scopes.head?.map Prod.fst
  if definition.kind = .attributeDeclaration then
    ((scopes.find? fun scope => scope.2.kind.isType).map Prod.fst).or innermost
  else innermost

/-- The lexical parents of definitions that follow the given number of other ones. -/
def parentsWithin (index : Nat) (scopes : Scopes) : List Definition → ParentTable
  | [] => []
  | definition :: rest =>
    let enclosing := scopes.within definition.range
    let opened := if definition.kind.isContainer then (index, definition) :: enclosing
      else enclosing
    enclosing.parentOf? definition :: parentsWithin (index + 1) opened rest

/-- The lexical parents of definitions in document order. -/
def lexicalParents (definitions : List Definition) : ParentTable :=
  parentsWithin 0 [] definitions

/-! ### Owners -/

/-- Whether the definition at a place, if there is one, is a type. -/
def isTypeAt (definitions : List Definition) (index : Option Nat) : Bool :=
  (index.bind (definitions[·]?)).any (·.kind.isType)

/-- The places of the types with a name, other than the given place. -/
def typesNamed (definitions : List Definition) (name : String) (other : Nat) : List Nat :=
  (definitions.zipIdx.filter fun (definition, index) =>
    index != other && definition.kind.isType && definition.name == name).map Prod.snd

/-- The type that is meant by an owner: the first one that has the same parent as the
definition, else the first one. -/
def ownerIndex? (definitions : List Definition) (parents : ParentTable) (index : Nat)
    (owner : String) : Option Nat :=
  let candidates := typesNamed definitions owner index
  let scope := parents.parent? index
  (candidates.find? fun candidate => parents.parent? candidate == scope).or candidates.head?

/-- Gives one definition the parent that its owner asks for. -/
def linkOwner (definitions : List Definition) (parents : ParentTable)
    (entry : Definition × Nat) : ParentTable :=
  let (definition, index) := entry
  match definition.owner with
  | none => parents
  | some owner =>
    if isTypeAt definitions (parents.parent? index) then parents
    else match ownerIndex? definitions parents index owner with
      | none => parents
      | some target =>
        if parents.isAncestor index target then parents else parents.set index (some target)

/-- The parents of definitions in document order. -/
def parents (definitions : List Definition) : ParentTable :=
  definitions.zipIdx.foldl (linkOwner definitions) (lexicalParents definitions)

end Definition

end CodeGraph
