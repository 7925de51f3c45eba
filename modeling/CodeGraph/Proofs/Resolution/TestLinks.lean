/-
This file proves which function a test is linked to.

The link of a test comes from the test alone. Its name gives a subject; of the functions named so,
or else of those with the first letter in the other case, one is chosen that is not the test
itself. The name that counts is described by a relation (`LinksBy`), as the second name is tried
only if no other function has the first one. For one name the candidates are narrowed to those
outside of test files if there are any, and the choice among what is left succeeds whenever
something is left. So the chosen function is outside of test files if any function of that name but
the test is.

It remains to see that these are all the links. No observation leads to an edge of the property, so
the links with the identifier of a test come from the pass over tests, and where identifiers are
distinct they come from that very test (`mem_resolveTest_iff`). There is one edge at most, and a
single edge is its own set. Hence a test has no link if its name gives no subject or nothing can be
chosen, and exactly one otherwise (`testLinks_are_exact`).
-/
import CodeGraph.Proofs.Resolution.Containment
import CodeGraph.Proofs.Resolution.Preference

namespace CodeGraph

namespace Edge

/-- Whether an edge says what the test with an identifier tests. -/
def isTestLink (testId : String) (edge : Edge) : Bool :=
  edge.predicate == Term.testsFunction && edge.subjectId == testId

theorem isTestLink_iff {testId : String} {edge : Edge} :
    edge.isTestLink testId ↔ edge.predicate = Term.testsFunction ∧ edge.subjectId = testId := by
  rw [isTestLink, Bool.and_eq_true, beq_iff_eq, beq_iff_eq]

theorem ignoresEvidence_isTestLink (testId : String) :
    EdgeSet.IgnoresEvidence (isTestLink testId) := by
  intro left right same
  have ⟨subject, predicate, _⟩ := Edge.compare_eq_eq_iff.mp same
  rw [isTestLink, isTestLink, subject, predicate]

end Edge

/-- The edge from a test to what it tests. -/
def Entity.testEdge (test tested : Entity) : Edge :=
  ⟨test.id, Term.testsFunction, .resolved tested.id, some test.span⟩

/-- Another function than a test has a name. -/
structure EntityList.HasOther (entities : EntityList) (test : Entity) (name : String)
    (other : Entity) : Prop where
  isEntity : other ∈ entities
  isFunction : other.isFunction
  isNamed : other.simpleName = name
  isOther : other ≠ test

namespace Corpus

open EntityList

variable {corpus : Corpus} {observations : List Observation} {test other : Entity} {name : String}

/-! ### The functions of a name -/

theorem mem_others_iff (distinct : (corpus.entities.map Entity.id).Nodup)
    (isTest : test ∈ corpus.entities) :
    other ∈ (corpus.entities.functions name).filter (·.id != test.id) ↔
      corpus.entities.HasOther test name other := by
  rw [List.mem_filter, functions, mem_named, bne_iff_ne]
  constructor
  · rintro ⟨⟨isEntity, isNamed, isFunction⟩, differs⟩
    exact ⟨isEntity, isFunction, isNamed, fun same => differs (congrArg Entity.id same)⟩
  · rintro ⟨isEntity, isFunction, isNamed, isOther⟩
    refine ⟨⟨isEntity, isNamed, isFunction⟩, fun same => isOther ?_⟩
    exact List.inj_on_of_nodup_map distinct isEntity isTest same

/-- Nothing is chosen for a name exactly if no other function has it. -/
theorem testChoice?_eq_none_iff (distinct : (corpus.entities.map Entity.id).Nodup)
    (isTest : test ∈ corpus.entities) :
    corpus.testChoice? test name = none ↔ ∀ other, ¬ corpus.entities.HasOther test name other := by
  rw [testChoice?, choose_eq_none_iff]
  simp only [← mem_others_iff distinct isTest]
  constructor
  · intro noCandidates other member
    exact preferring_ne_nil (List.ne_nil_of_mem member) noCandidates
  · intro noOther
    refine List.eq_nil_iff_forall_not_mem.mpr fun other candidate => ?_
    exact noOther other (mem_of_mem_preferring candidate)

/-- What is chosen for a name is another function that has it, and one outside test files if such a
function is. -/
theorem hasOther_of_testChoice? (distinct : (corpus.entities.map Entity.id).Nodup)
    (isTest : test ∈ corpus.entities) {choice : Choice}
    (chosen : corpus.testChoice? test name = some choice) :
    corpus.entities.HasOther test name choice.entity ∧
      ((∃ other, corpus.entities.HasOther test name other ∧
          corpus.files.isTestFile other.fileId = false) →
        corpus.files.isTestFile choice.entity.fileId = false) := by
  have candidate : choice.entity ∈ corpus.testCandidates test name := mem_of_choose chosen
  refine ⟨(mem_others_iff distinct isTest).mp (mem_of_mem_preferring candidate), ?_⟩
  rintro ⟨other, isOther, outside⟩
  have preferred := isPreferred_of_mem_preferring candidate
    ((mem_others_iff distinct isTest).mpr isOther) (by rw [outside]; rfl)
  simpa using preferred

/-! ### The edges of a test -/

/-- A test has the edge to what is chosen for the first of its two names for which something is. -/
theorem edges_resolveTest (corpus : Corpus) (test : Entity) :
    (corpus.resolveTest test).edges =
      (((corpus.testSubject? test).bind fun subject =>
        [subject, otherCase subject].findSome? (corpus.testChoice? test)).map fun choice =>
          test.testEdge choice.entity).toList := by
  unfold resolveTest
  cases corpus.testSubject? test with
  | none => rfl
  | some subject =>
    cases first : corpus.testChoice? test subject with
    | some choice => simp [first, resolveTo, Entity.testEdge]
    | none =>
      cases second : corpus.testChoice? test (otherCase subject) with
      | some choice => simp [first, second, resolveTo, Entity.testEdge]
      | none => simp [first, second, Resolved.nothing]

theorem isTestLink_of_mem_resolveTest {testId : String} {edge : Edge}
    (member : edge ∈ (corpus.resolveTest test).edges) :
    edge.isTestLink testId ↔ test.id = testId := by
  rw [edges_resolveTest, Option.mem_toList, Option.map_eq_some_iff] at member
  obtain ⟨choice, -, rfl⟩ := member
  rw [Edge.isTestLink_iff]
  exact and_iff_right rfl

/-- No observation leads to an edge of a test. -/
theorem mem_resolveTests_of_predicate {edge : Edge}
    (member : edge ∈ corpus.foundEdges observations)
    (isLink : edge.predicate = Term.testsFunction) : edge ∈ corpus.resolveTests.edges := by
  rcases foundEdges_cases member with
    ⟨_, property⟩ | ⟨_, _, observed, _⟩ | ⟨tests, _⟩ | ⟨_, property⟩
  · exact absurd (isLink ▸ property) (by decide)
  · rcases (mem_resolveObservation observed).2.2 with
      ⟨choice, _, _, predicate, _⟩ | ⟨_, _, _, predicate, _⟩ | ⟨_, _, _, predicate, _⟩
    · have isCall := predicate.symm.trans isLink
      unfold callProperty at isCall
      split at isCall <;> exact absurd isCall (by decide)
    · exact absurd (predicate.symm.trans isLink) (by decide)
    · exact absurd (predicate.symm.trans isLink) (by decide)
  · exact tests
  · exact absurd (isLink.symm.trans property) (by decide)

/-- Where identifiers are distinct the links of a test are its own edges. -/
theorem mem_resolveTest_iff (distinct : (corpus.entities.map Entity.id).Nodup)
    (isTest : test ∈ corpus.entities) (isFunction : test.isFunction) {edge : Edge} :
    edge ∈ (corpus.foundEdges observations).filter (Edge.isTestLink test.id) ↔
      edge ∈ (corpus.resolveTest test).edges := by
  rw [List.mem_filter]
  constructor
  · rintro ⟨member, isLink⟩
    have isTestEdge := mem_resolveTests_of_predicate member (Edge.isTestLink_iff.mp isLink).1
    obtain ⟨_, isPart, member⟩ := List.mem_flatMap.mp isTestEdge
    obtain ⟨other, isOther, rfl⟩ := List.mem_map.mp isPart
    have same := (isTestLink_of_mem_resolveTest member).mp isLink
    rwa [List.inj_on_of_nodup_map distinct (List.mem_filter.mp isOther).1 isTest same] at member
  · intro member
    have isPart : corpus.resolveTest test ∈
        (corpus.entities.filter Entity.isFunction).map corpus.resolveTest :=
      List.mem_map_of_mem (List.mem_filter.mpr ⟨isTest, isFunction⟩)
    refine ⟨?_, (isTestLink_of_mem_resolveTest member).mpr rfl⟩
    exact List.mem_append_left _
      (List.mem_append_right _ (List.mem_flatMap.mpr ⟨_, isPart, member⟩))

theorem filter_isTestLink_resolve (distinct : (corpus.entities.map Entity.id).Nodup)
    (isTest : test ∈ corpus.entities) (isFunction : test.isFunction) :
    (corpus.resolve observations).edges.filter (Edge.isTestLink test.id) =
      (corpus.resolveTest test).edges := by
  have sameEdges : EdgeSet.ofList
        ((corpus.foundEdges observations).filter (Edge.isTestLink test.id)) =
      EdgeSet.ofList (corpus.resolveTest test).edges :=
    EdgeSet.ofList_eq_of_mem_iff fun _ => mem_resolveTest_iff distinct isTest isFunction
  rw [resolve, EdgeSet.filter_ofList (Edge.ignoresEvidence_isTestLink test.id), sameEdges,
    edges_resolveTest]
  -- There is at most one edge, and a single edge is its own set.
  cases (corpus.testSubject? test).bind fun subject =>
    [subject, otherCase subject].findSome? (corpus.testChoice? test) <;> rfl

/-! ### The link of a test -/

/-- The name that a test is linked by: its subject if another function is named so, else the subject
with its first letter in the other case if another function is named so. -/
inductive LinksBy (entities : EntityList) (test : Entity) (subject : String) : String → Prop
  | asWritten {other : Entity} (hasOther : entities.HasOther test subject other) :
      LinksBy entities test subject subject
  | inOtherCase {other : Entity} (noneAsWritten : ∀ other, ¬ entities.HasOther test subject other)
      (hasOther : entities.HasOther test (otherCase subject) other) :
      LinksBy entities test subject (otherCase subject)

theorem exists_choice_of_linksBy (distinct : (corpus.entities.map Entity.id).Nodup)
    (isTest : test ∈ corpus.entities) {subject : String}
    (linksBy : LinksBy corpus.entities test subject name) :
    ∃ choice, corpus.testChoice? test name = some choice ∧
      [subject, otherCase subject].findSome? (corpus.testChoice? test) = some choice := by
  have exists_choice {name : String} {other : Entity}
      (hasOther : corpus.entities.HasOther test name other) :
      ∃ choice, corpus.testChoice? test name = some choice :=
    Option.ne_none_iff_exists'.mp fun none =>
      (testChoice?_eq_none_iff distinct isTest).mp none _ hasOther
  cases linksBy with
  | asWritten hasOther =>
    obtain ⟨choice, chosen⟩ := exists_choice hasOther
    exact ⟨choice, chosen, by rw [List.findSome?_cons, chosen]⟩
  | inOtherCase noneAsWritten hasOther =>
    have notFirst := (testChoice?_eq_none_iff distinct isTest).mpr noneAsWritten
    obtain ⟨choice, chosen⟩ := exists_choice hasOther
    exact ⟨choice, chosen, by rw [List.findSome?_cons, notFirst, List.findSome?_cons, chosen]⟩

/-- Tests are linked exactly. Where identifiers are distinct, a function of a known file with a
language has no link if its name gives no subject or if no other function has the subject as its
name, in either case of the first letter. Else it has one link, which leads to another function of
the name that it is linked by, and to one outside test files if any function of that name but the
test is outside them. -/
theorem testLinks_are_exact (corpus : Corpus) (observations : List Observation)
    (distinct : (corpus.entities.map Entity.id).Nodup) {test : Entity}
    (isTest : test ∈ corpus.entities) (isFunction : test.isFunction) {file : SourceFile}
    (isKnown : corpus.files.withId? test.fileId = some file) {language : Language}
    (hasLanguage : file.language = some language) :
    ((∀ subject ∈ language.testSubject? test.simpleName,
        ∀ name ∈ [subject, otherCase subject],
          ∀ other, ¬ corpus.entities.HasOther test name other) →
      (corpus.resolve observations).edges.filter (Edge.isTestLink test.id) = []) ∧
    ∀ subject ∈ language.testSubject? test.simpleName, ∀ name,
      LinksBy corpus.entities test subject name →
        ∃ tested, corpus.entities.HasOther test name tested ∧
          (corpus.resolve observations).edges.filter (Edge.isTestLink test.id) =
            [test.testEdge tested] ∧
          ((∃ other, corpus.entities.HasOther test name other ∧
              corpus.files.isTestFile other.fileId = false) →
            corpus.files.isTestFile tested.fileId = false) := by
  have subject? : corpus.testSubject? test = language.testSubject? test.simpleName := by
    rw [testSubject?, isKnown]
    show file.language.bind _ = _
    rw [hasLanguage]
    rfl
  rw [filter_isTestLink_resolve distinct isTest isFunction, edges_resolveTest, subject?]
  refine ⟨fun noOther => ?_, fun subject isSubject name linksBy => ?_⟩
  · have noChoice : ((language.testSubject? test.simpleName).bind fun subject =>
        [subject, otherCase subject].findSome? (corpus.testChoice? test)) = none := by
      refine Option.bind_eq_none_iff.mpr fun subject isSubject => ?_
      refine List.findSome?_eq_none_iff.mpr fun name isName => ?_
      exact (testChoice?_eq_none_iff distinct isTest).mpr (noOther subject isSubject name isName)
    rw [noChoice]
    rfl
  · obtain ⟨choice, chosen, isFirst⟩ := exists_choice_of_linksBy distinct isTest linksBy
    obtain ⟨hasOther, outside⟩ := hasOther_of_testChoice? distinct isTest chosen
    refine ⟨choice.entity, hasOther, ?_, outside⟩
    rw [Option.mem_def.mp isSubject, Option.bind_some, isFirst]
    rfl

/-- A function `Load`, and a test file with a function of the same name and a test `test_load`. -/
def testedTwice : Corpus where
  files := [⟨"a.py", "r", "a.py", some .python, 9, "SourceCodeFile", "SoftwareCode"⟩,
    ⟨"b.py", "r", "b.py", some .python, 9, "TestFile", Term.testCode⟩]
  entities := [("near", "Load", "b.py", 9), ("test", "test_load", "b.py", 1),
      ("far", "Load", "a.py", 4)].map fun (id, name, path, line) =>
    { id, className := Term.functionDefinition, kind := .functionDefinition, canonicalName := name,
      simpleName := name, fileId := path, filePath := path, startLine := line, endLine := line,
      snippet := "", parentId := none }

/-- The test is linked to the function outside the test file. -/
theorem testLinks_of_testedTwice :
    (testedTwice.resolve []).edges.filter (Edge.isTestLink "test") =
      [⟨"test", Term.testsFunction, .resolved "far", some ⟨1, 1⟩⟩] := by
  have hasFar : testedTwice.entities.HasOther testedTwice.entities[1] "Load"
      testedTwice.entities[2] := ⟨List.getElem_mem (by decide), rfl, rfl, by decide⟩
  have isUnnamed : ∀ entity ∈ testedTwice.entities, entity.simpleName ≠ "load" := by decide
  have linksBy : LinksBy testedTwice.entities testedTwice.entities[1] "load" "Load" :=
    .inOtherCase (fun other hasOther => isUnnamed other hasOther.isEntity hasOther.isNamed) hasFar
  have isTest : testedTwice.entities[1] ∈ testedTwice.entities := List.getElem_mem (by decide)
  have isKnown : testedTwice.files.withId? "b.py" = some testedTwice.files[1] := rfl
  have isPython : testedTwice.files[1].language = some .python := rfl
  obtain ⟨tested, hasOther, links, outside⟩ :=
    (testLinks_are_exact testedTwice [] (by decide) isTest rfl isKnown isPython).2 "load"
      (by decide) "Load" linksBy
  have isOnly : ∀ entity ∈ testedTwice.entities,
      testedTwice.files.isTestFile entity.fileId = false → entity = testedTwice.entities[2] := by
    decide
  rw [isOnly tested hasOther.isEntity (outside ⟨_, hasFar, rfl⟩)] at links
  exact links

end Corpus

end CodeGraph
