/-
This file proves that the resolution does not depend on the order of its input.

What the resolution of one reference asks of a repository is a short list of questions, and two
repositories that answer all of them alike give the same edges and ambiguities for it
(`Corpus.LooksLike`); the equations pass through the definitions by rewriting. Repositories with
the same files and entities in another order look alike, if no two files have one identifier or one
path and no two entities have one identifier. Lookups by a key find the only item with it, the
candidates of a name are sorted by file and line, and the search for an import is known not to
depend on the order of the files.

What is made of all observations, of all entities and of all tests is then the same up to the
order. Only the comments need more. They are related to their siblings, of which the last one on a
line counts; but siblings stand in one file, and the entities of one file keep their order
(`Corpus.Reorders`). In the end all edges become a set, which forgets the order in which they were
found, and so the edges are equal with their evidence. Ambiguities are a list and are the same up
to their order.
-/
import CodeGraph.Proofs.Resolution.Edges
import CodeGraph.Proofs.Resolution.Importing

namespace CodeGraph

namespace Corpus

/-! ### What a resolution looks at -/

/-- Two repositories that give the same answers to everything that the resolution of one reference
asks. -/
structure LooksLike (corpus other : Corpus) : Prop where
  fileWithId? : corpus.files.withId? = other.files.withId?
  importing : corpus.files.import? = other.files.import?
  entityWithId? : corpus.entities.withId? = other.entities.withId?
  named : corpus.entities.named = other.entities.named
  size : corpus.entities.length = other.entities.length

namespace LooksLike

variable {corpus other : Corpus} (same : corpus.LooksLike other)
include same

theorem parent? : corpus.entities.parent? = other.entities.parent? := by
  funext entity
  rw [EntityList.parent?, EntityList.parent?, same.entityWithId?]

theorem enclosingType? : corpus.entities.enclosingType? = other.entities.enclosingType? := by
  have firstType : corpus.entities.firstType? = other.entities.firstType? := by
    funext fuel entity
    induction fuel generalizing entity with
    | zero => rfl
    | succ fuel inductionHypothesis =>
      cases entity with
      | none => rfl
      | some entity =>
        rw [EntityList.firstType?, EntityList.firstType?, same.parent?, inductionHypothesis]
  funext id
  rw [EntityList.enclosingType?, EntityList.enclosingType?, firstType, same.size,
    same.entityWithId?]

theorem choose : corpus.entities.choose = other.entities.choose := by
  have matchesType : corpus.entities.matchesType = other.entities.matchesType := by
    funext typeName candidate
    rw [EntityList.matchesType, EntityList.matchesType, same.parent?]
  funext candidates site
  rw [EntityList.choose, EntityList.choose, matchesType]

theorem siteOf : corpus.siteOf = other.siteOf := by
  funext observation
  rw [Corpus.siteOf, Corpus.siteOf, same.enclosingType?]

theorem resolveTo : corpus.resolveTo = other.resolveTo := by
  funext subjectId fileId predicate name span choice
  rw [Corpus.resolveTo, Corpus.resolveTo, ambiguity?, ambiguity?, same.fileWithId?]

/-- An observation comes to the same in both. -/
theorem resolveObservation : corpus.resolveObservation = other.resolveObservation := by
  funext observation
  unfold Corpus.resolveObservation
  split
  · rw [resolveCall, resolveCall, callChoice?, callChoice?, EntityList.callables,
      EntityList.callables, same.named, same.choose, same.siteOf, same.resolveTo]
  · unfold resolveImport importObject
    rw [same.fileWithId?, same.importing]
  · rw [resolveInheritance, resolveInheritance, inheritanceChoice?, inheritanceChoice?,
      EntityList.types, EntityList.types, same.named, same.choose, same.siteOf, same.resolveTo]

/-- A test comes to the same in both. -/
theorem resolveTest : corpus.resolveTest = other.resolveTest := by
  have candidates : corpus.testCandidates = other.testCandidates := by
    funext test name
    unfold testCandidates FileList.isTestFile EntityList.functions
    rw [same.named, same.fileWithId?]
  have testChoice : corpus.testChoice? = other.testChoice? := by
    funext test name
    rw [testChoice?, testChoice?, candidates, same.choose]
  have testSubject : corpus.testSubject? = other.testSubject? := by
    funext test
    rw [testSubject?, testSubject?, same.fileWithId?]
  funext test
  unfold Corpus.resolveTest
  rw [testSubject, testChoice, same.resolveTo]

end LooksLike

/-! ### Reordering -/

/-- No two files have one identifier or one path, and no two entities have one identifier. -/
structure HasDistinctKeys (corpus : Corpus) : Prop where
  fileIds : (corpus.files.map SourceFile.id).Nodup
  paths : (corpus.files.map SourceFile.relativePath).Nodup
  entityIds : (corpus.entities.map Entity.id).Nodup

/-- The same files and entities in another order; the entities of one file keep theirs. -/
structure Reorders (corpus other : Corpus) : Prop where
  files : corpus.files.Perm other.files
  entities : corpus.entities.Perm other.entities
  withinFile : ∀ fileId, corpus.entities.inFile fileId = other.entities.inFile fileId

namespace Reorders

variable {corpus other : Corpus} (same : corpus.Reorders other)
include same

/-- Repositories with distinct keys look alike in every order. -/
theorem looksLike (distinct : corpus.HasDistinctKeys) : corpus.LooksLike other where
  fileWithId? := FileList.withId?_eq_of_perm distinct.fileIds same.files
  importing := (FileList.looksLike_of_perm distinct.paths same.files).import?
  entityWithId? := EntityList.withId?_eq_of_perm distinct.entityIds same.entities
  named := by
    funext isOfSort name
    exact sortBy_eq_of_perm ((EntityList.separates_comparePlace distinct.entityIds).filter _)
      (same.entities.filter _)
  size := same.entities.length_eq

/-- An entity has the same siblings in the same order. -/
theorem siblings : corpus.entities.siblings = other.entities.siblings := by
  funext entity
  rw [← EntityList.siblings_inFile, same.withinFile, EntityList.siblings_inFile]

theorem containmentEdges_perm (distinct : corpus.HasDistinctKeys) :
    corpus.entities.containmentEdges.Perm other.entities.containmentEdges := by
  have edgeOf : Entity.containmentEdge corpus.entities = Entity.containmentEdge other.entities := by
    funext entity
    unfold Entity.containmentEdge
    rw [(same.looksLike distinct).parent?]
  rw [EntityList.containmentEdges, EntityList.containmentEdges, edgeOf]
  exact same.entities.flatMap_right _

theorem documentationEdges_perm :
    corpus.entities.documentationEdges.Perm other.entities.documentationEdges := by
  rw [EntityList.documentationEdges, EntityList.documentationEdges, same.siblings]
  exact (same.entities.filter _).flatMap_right _

theorem resolveTests_perm (distinct : corpus.HasDistinctKeys) :
    corpus.resolveTests.edges.Perm other.resolveTests.edges ∧
      corpus.resolveTests.ambiguities.Perm other.resolveTests.ambiguities := by
  rw [resolveTests, resolveTests, (same.looksLike distinct).resolveTest]
  have parts := (same.entities.filter Entity.isFunction).map other.resolveTest
  exact ⟨parts.flatMap_right _, parts.flatMap_right _⟩

/-- The resolution does not depend on the order of its input: whatever the order of the files, of
the observations and of the entities of different files is, the edges are the same, with their
evidence, and so are the ambiguities up to their order. -/
theorem resolve_eq (distinct : corpus.HasDistinctKeys) {observations others : List Observation}
    (observed : observations.Perm others) :
    (corpus.resolve observations).edges = (other.resolve others).edges ∧
      (corpus.resolve observations).ambiguities.Perm (other.resolve others).ambiguities := by
  have resolveObservation := (same.looksLike distinct).resolveObservation
  have ⟨testEdges, testAmbiguities⟩ := same.resolveTests_perm distinct
  have edges : (corpus.foundEdges observations).Perm (other.foundEdges others) := by
    rw [foundEdges, foundEdges, resolveObservation]
    exact (((same.containmentEdges_perm distinct).append (observed.flatMap_right _)).append
      testEdges).append same.documentationEdges_perm
  have ambiguities :
      (corpus.foundAmbiguities observations).Perm (other.foundAmbiguities others) := by
    rw [foundAmbiguities, foundAmbiguities, resolveObservation]
    exact (observed.flatMap_right _).append testAmbiguities
  refine ⟨EdgeSet.ofList_eq_of_perm edges, ?_⟩
  exact (sortBy_perm _ _).trans (ambiguities.trans (sortBy_perm _ _).symm)

end Reorders

/-- A function that calls one of two functions in another file. -/
def sampleEntities (path : String) : EntityList :=
  let function (id name : String) (line : Nat) : Entity :=
    ⟨id, Term.functionDefinition, .functionDefinition, name, name, path, path, line, line, "", none⟩
  if path = "a.py" then [function "run" "run" 1]
  else [function "first" "help" 1, function "second" "help" 5]

/-- A repository with two files in the given order. -/
def sample (paths : List String) : Corpus :=
  ⟨paths.map fun path => ⟨path, "r", path, some .python, 9, "SourceFile", "ProgramCode"⟩,
    paths.flatMap sampleEntities⟩

/-- What is observed in the sample: an import and a call. -/
def sampleObservations : List Observation := [
  ⟨.import, "a.py", "a.py", "b", none, none, ⟨1, 1⟩⟩,
  ⟨.call, "run", "a.py", "help", none, none, ⟨2, 2⟩⟩]

/-- The sample in two orders. -/
theorem resolve_eq_of_sample :
    ((sample ["a.py", "b.py"]).resolve sampleObservations).edges =
        ((sample ["b.py", "a.py"]).resolve sampleObservations.reverse).edges ∧
      ((sample ["a.py", "b.py"]).resolve sampleObservations).ambiguities.Perm
        ((sample ["b.py", "a.py"]).resolve sampleObservations.reverse).ambiguities := by
  refine Reorders.resolve_eq ⟨by decide, by decide, fun fileId => ?_⟩
    ⟨by decide, by decide, by decide⟩ (List.reverse_perm _).symm
  by_cases inFirst : fileId = "a.py"
  · rw [inFirst]
    decide
  · by_cases inSecond : fileId = "b.py"
    · rw [inSecond]
      decide
    · simp [sample, sampleEntities, EntityList.inFile, Ne.symm inFirst, Ne.symm inSecond]

end Corpus

end CodeGraph
