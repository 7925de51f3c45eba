/-
This file extracts entities and observations from the syntax tree of a file. Definitions become
entities, of which two with one identifier collapse into the first. References become
observations about the entity around them.
-/
import CodeGraph.Extraction.Merging
import CodeGraph.Extraction.Parents
import CodeGraph.Graph.SourceFile

namespace CodeGraph

/-- What is extracted from a file. -/
structure Extraction where
  entities : List Entity
  observations : List Observation
  warnings : List ExtractionWarning
  deriving Repr, DecidableEq

namespace Definition

/-! ### Entities -/

/-- The class of a definition. A function of a type is a method. -/
def className (definitions : List Definition) (parents : ParentTable) (index : Nat)
    (definition : Definition) : String :=
  if definition.kind = .functionDefinition
      ∧ (isTypeAt definitions (parents.parent? index) ∨ definition.owner.isSome) then
    Term.methodDefinition
  else (Term.classOf? definition.kind).getD Construct.comment.name

/-- The parts of the canonical name of a definition: the module, the definitions around it from
the outside, an owner that is not found, and the name. -/
def nameParts (module : String) (definitions : List Definition) (parents : ParentTable)
    (index : Nat) (definition : Definition) : List String :=
  let around := (parents.ancestors index).reverse.filterMap fun ancestor =>
    (definitions[ancestor]?).map Definition.name
  let owner := if isTypeAt definitions (parents.parent? index) then [] else
    definition.owner.toList
  (if module = "" then [] else [module]) ++ around ++ owner ++ [definition.name]

/-- The canonical name of a definition. -/
def canonicalName (module : String) (definitions : List Definition) (parents : ParentTable)
    (index : Nat) (definition : Definition) : String :=
  ".".intercalate (nameParts module definitions parents index definition)

/-- The entity of a definition, without its parent. -/
def toEntity (file : SourceFile) (source : SourceText) (definitions : List Definition)
    (parents : ParentTable) (entry : Definition × Nat) : Entity :=
  let (definition, index) := entry
  let className := className definitions parents index definition
  let canonicalName :=
    canonicalName (Path.moduleName file.relativePath) definitions parents index definition
  { id := Identifier.entity file.repositoryId file.relativePath className canonicalName
      definition.span.startLine
    className
    kind := definition.kind
    canonicalName
    simpleName := definition.name
    fileId := file.id
    filePath := file.relativePath
    startLine := definition.span.startLine
    endLine := definition.span.endLine
    snippet := source.slice definition.range.start definition.range.stop
    parentId := none }

/-- The entities of definitions, one for each definition. -/
def toEntities (file : SourceFile) (source : SourceText) (definitions : List Definition) :
    List Entity :=
  let parents := parents definitions
  let entities := definitions.zipIdx.map (toEntity file source definitions parents)
  entities.zip parents |>.map fun (entity, parent) =>
    { entity with parentId := parent.bind fun index => (entities[index]?).map Entity.id }

end Definition

/-- The first entity of each identifier. -/
def Entity.distinct (entities : List Entity) : List Entity :=
  (entities.foldl (fun kept entity =>
    if kept.any (·.id == entity.id) then kept else entity :: kept) []).reverse

namespace Reference

/-! ### Observations -/

/-- Of two definitions with their places the one that is smaller, the second one if they are of
one size. -/
def smaller (best : Option (Definition × Nat)) (entry : Definition × Nat) :
    Option (Definition × Nat) :=
  match best with
  | none => some entry
  | some found => if entry.1.range.size ≤ found.1.range.size then some entry else some found

/-- The place of the smallest definition of an accepted kind around an offset, of several the
last one. -/
def smallestEnclosing? (definitions : List Definition) (offset : Nat)
    (accept : Construct → Bool) : Option Nat :=
  ((definitions.zipIdx.filter fun (definition, _) =>
    accept definition.kind && definition.range.contains offset).foldl smaller none).map Prod.snd

/-- A kind of construct that can be derived from another one: a type or a module. -/
def isDerivable (kind : Construct) : Bool := kind.isType || kind == .moduleDefinition

/-- What a reference is an observation about: an import about the file, a call about the
construct around it, inheritance about a type. -/
def sourceId? (fileId : String) (definitions : List Definition) (ids : List String)
    (reference : Reference) : Option String :=
  match reference.kind with
  | .import => some fileId
  | .call =>
    some <| ((smallestEnclosing? definitions reference.anchor Construct.isContainer).bind
      (ids[·]?)).getD fileId
  | .inheritance =>
    match reference.owner with
    | some owner =>
      (definitions.findIdx? fun definition =>
        definition.kind.isType && definition.name == owner).bind (ids[·]?)
    | none => (smallestEnclosing? definitions reference.anchor isDerivable).bind (ids[·]?)

/-- The observation that a reference gives rise to; none if there is nothing to say it about. -/
def toObservation? (fileId : String) (definitions : List Definition) (ids : List String)
    (reference : Reference) : Option Observation :=
  (sourceId? fileId definitions ids reference).map fun sourceId =>
    { kind := reference.kind
      sourceId
      fileId
      target := reference.target
      receiver := reference.receiver
      member := reference.member
      span := reference.span }

/-- The observations that references give rise to, in order and without repetitions next to
each other. -/
def toObservations (fileId : String) (definitions : List Definition) (ids : List String)
    (references : List Reference) : List Observation :=
  (sortBy Observation.compare
    (references.filterMap (toObservation? fileId definitions ids))).eraseReps

/-- Whether a reference is more than the name of a definition that looks like a call. -/
def isGenuine (definitions : List Definition) (reference : Reference) : Bool :=
  reference.kind != .call || reference.nameRange.all fun range =>
    !definitions.any (·.nameRange == some range)

end Reference

namespace Extraction

/-- The definition of an outcome. -/
def definition? : Except ExtractionWarning Capture → Option Definition
  | .ok (.definition definition) => some definition
  | _ => none

/-- The reference of an outcome. -/
def reference? : Except ExtractionWarning Capture → Option Reference
  | .ok (.reference reference) => some reference
  | _ => none

/-- The warning of an outcome. -/
def warning? : Except ExtractionWarning Capture → Option ExtractionWarning
  | .error warning => some warning
  | .ok _ => none

/-- What captures of a file come to. -/
def ofCaptures (file : SourceFile) (source : SourceText)
    (captures : List (Except ExtractionWarning Capture)) : Extraction :=
  let definitions := Definition.merge (captures.filterMap definition?)
  let references := (captures.filterMap reference?).filter (·.isGenuine definitions)
  let entities := Definition.toEntities file source definitions
  { entities := Entity.distinct entities
    observations := Reference.toObservations file.id definitions (entities.map Entity.id) references
    warnings := captures.filterMap warning? }

/-- What is extracted from the syntax tree of a file with the query table of a language. -/
def ofTree (language : Language) (file : SourceFile) (source : SourceText)
    (tree : SyntaxTree) : Extraction :=
  ofCaptures file source (Capture.ofTable source tree language.queries)

end Extraction

end CodeGraph
