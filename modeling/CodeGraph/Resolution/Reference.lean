/-
This file resolves observations and the names of tests: to what a call, an import, a type that
is derived or a test leads. A reference that leads to an entity gives an edge, and an ambiguity
if other entities could have been meant as well.
-/
import CodeGraph.Graph.Edge
import CodeGraph.Graph.Observation
import CodeGraph.Resolution.Choice
import CodeGraph.Resolution.Importing

namespace CodeGraph

/-- What a reference comes to. -/
structure Resolved where
  edges : List Edge
  ambiguities : List Ambiguity
  deriving Repr, DecidableEq

namespace Resolved

/-- Nothing. -/
def nothing : Resolved := ⟨[], []⟩

/-- What several references come to. -/
def join (parts : List Resolved) : Resolved :=
  ⟨parts.flatMap Resolved.edges, parts.flatMap Resolved.ambiguities⟩

end Resolved

namespace Corpus

/-! ### Choices -/

/-- The ambiguity of a choice, if it is ambiguous. -/
def ambiguity? (corpus : Corpus) (subjectId fileId name : String) (line : Nat)
    (choice : Choice) : Option Ambiguity :=
  if choice.isAmbiguous then
    some {
      subjectId
      filePath := ((corpus.files.withId? fileId).map SourceFile.relativePath).getD ""
      name, line
      candidates := choice.remaining
      chosen := choice.entity.id }
  else none

/-- The edge to the entity that is chosen, with the ambiguity of the choice. -/
def resolveTo (corpus : Corpus) (subjectId fileId predicate name : String) (span : Span)
    (choice : Choice) : Resolved :=
  ⟨[⟨subjectId, predicate, .resolved choice.entity.id, some span⟩],
    (corpus.ambiguity? subjectId fileId name span.startLine choice).toList⟩

/-- The place of an observation. -/
def siteOf (corpus : Corpus) (observation : Observation) : Site :=
  { fileId := observation.fileId
    line := observation.span.startLine
    receiver := observation.receiver
    enclosingType := corpus.entities.enclosingType? observation.sourceId }

/-! ### Observations -/

/-- The entity that a call means. -/
def callChoice? (corpus : Corpus) (observation : Observation) : Option Choice :=
  corpus.entities.choose (corpus.entities.callables observation.target)
    (corpus.siteOf observation)

/-- The entity from which a type is derived. -/
def inheritanceChoice? (corpus : Corpus) (observation : Observation) : Option Choice :=
  corpus.entities.choose
    ((corpus.entities.types observation.target).filter (·.id != observation.sourceId))
    { corpus.siteOf observation with receiver := none }

/-- The property that a call of an entity states. -/
def callProperty (entity : Entity) : String :=
  if entity.className = Term.classDefinition then Term.instantiates else Term.callsFunction

/-- What a call comes to. -/
def resolveCall (corpus : Corpus) (observation : Observation) : Resolved :=
  match corpus.callChoice? observation with
  | some choice =>
    corpus.resolveTo observation.sourceId observation.fileId (callProperty choice.entity)
      observation.target observation.span choice
  | none => .nothing

/-- What a derived type comes to. -/
def resolveInheritance (corpus : Corpus) (observation : Observation) : Resolved :=
  match corpus.inheritanceChoice? observation with
  | some choice =>
    corpus.resolveTo observation.sourceId observation.fileId Term.extendsType
      observation.target observation.span choice
  | none => .nothing

/-- The file that an import names, or else what is written. -/
def importObject (corpus : Corpus) (importer : SourceFile) (observation : Observation) :
    EdgeObject :=
  match corpus.files.import? importer observation.target observation.member with
  | some file => .resolved file.id
  | none => .unresolved observation.target

/-- What an import comes to. -/
def resolveImport (corpus : Corpus) (observation : Observation) : Resolved :=
  match corpus.files.withId? observation.fileId with
  | some importer =>
    ⟨[⟨observation.sourceId, Term.imports, corpus.importObject importer observation,
      some observation.span⟩], []⟩
  | none => .nothing

/-- What an observation comes to. -/
def resolveObservation (corpus : Corpus) (observation : Observation) : Resolved :=
  match observation.kind with
  | .call => corpus.resolveCall observation
  | .import => corpus.resolveImport observation
  | .inheritance => corpus.resolveInheritance observation

/-! ### Tests -/

open Text in
/-- A name with its first letter in the other case. -/
def otherCase (name : String) : String :=
  match name.toList with
  | [] => name
  | first :: rest =>
    String.ofList <|
      (if isUppercase first then toLowercase first else toUppercase first) ++ rest

/-- The functions that a test of a name may be a test of: those outside test files, if there are
any, and never the test itself. -/
def testCandidates (corpus : Corpus) (test : Entity) (name : String) : List Entity :=
  EntityList.preferring ((corpus.entities.functions name).filter (·.id != test.id)) fun entity =>
    !corpus.files.isTestFile entity.fileId

/-- The function of a name that a test tests. -/
def testChoice? (corpus : Corpus) (test : Entity) (name : String) : Option Choice :=
  corpus.entities.choose (corpus.testCandidates test name) ⟨test.fileId, test.startLine, none, none⟩

/-- The name of what a function tests, if by the conventions of its language it is a test. -/
def testSubject? (corpus : Corpus) (test : Entity) : Option String := do
  let file ← corpus.files.withId? test.fileId
  (← file.language).testSubject? test.simpleName

/-- What a test comes to: the function with the name in the test's name, or else with that name
in the other case. -/
def resolveTest (corpus : Corpus) (test : Entity) : Resolved :=
  match corpus.testSubject? test with
  | none => .nothing
  | some subject =>
    let resolveName (name : String) := (corpus.testChoice? test name).map fun choice =>
      corpus.resolveTo test.id test.fileId Term.testsFunction name test.span choice
    ([subject, otherCase subject].findSome? resolveName).getD .nothing

/-- What the tests among the entities come to. -/
def resolveTests (corpus : Corpus) : Resolved :=
  .join ((corpus.entities.filter Entity.isFunction).map corpus.resolveTest)

end Corpus

end CodeGraph
