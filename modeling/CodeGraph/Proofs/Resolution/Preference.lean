/-
This file proves the choice among candidates to be a minimum, and says which references are noted
as ambiguous.

The resolver filters the candidates twice, for those in the file of the reference and for those
that fit its receiver, each time only if some candidate passes, and takes the nearest of what is
left. To filter by a preference before the least is taken is to compare by that preference first
(`leastBy?_preferring`), so both filters and the comparison by distance make up one lexicographic
order, of which the chosen candidate is the least (`map_entity_choose`). The distance counts only
if some candidate is in the file, so there are two orders, and which of them it is depends on the
candidates as a whole. It does not change as long as the chosen one stays among them; therefore any
other candidate may be missing without a change of the choice.

The number that the resolver keeps is that of the candidates left by the filters, and these are the
ones that stand where the chosen one does for file and receiver (`length_pool`). All that it looks
up by name is brought into one form, a `Lookup`, whether it is an observation or a test; so one
theorem says when a reference is noted (`isSome_noted?_iff`), and it covers all of them.
-/
import CodeGraph.Proofs.LeastItem
import CodeGraph.Proofs.Resolution.Choices
import CodeGraph.Resolution.Basic

namespace CodeGraph

namespace EntityList

variable {entities : EntityList} {candidates : List Entity} {site : Site}

/-! ### The order of the candidates -/

/-- Whether a candidate stands in the file of the reference. -/
def isLocal (site : Site) (candidate : Entity) : Bool := candidate.fileId == site.fileId

/-- Whether the receiver stands for a type, and a candidate belongs to it or has its name. -/
def fitsReceiver (entities : EntityList) (site : Site) (candidate : Entity) : Bool :=
  (Site.receiverType? site.receiver site.enclosingType).any (entities.matchesType · candidate)

/-- What counts first about a candidate: whether it is in another file and whether it does not fit
the receiver. -/
def standing (entities : EntityList) (site : Site) (candidate : Entity) : Bool × Bool :=
  (!isLocal site candidate, !entities.fitsReceiver site candidate)

/-- The order of the candidates for a reference, if one of them is in its file. -/
def compareNear (entities : EntityList) (site : Site) : Entity → Entity → Ordering :=
  compareLex (compareOn fun candidate => !isLocal site candidate) <|
    compareLex (compareOn fun candidate => !entities.fitsReceiver site candidate) <|
      compareLex (compareOn fun candidate => lineDistance candidate.startLine site.line)
        (compareOn Entity.startLine)

/-- The order of the candidates for a reference, if none of them is in its file. -/
def compareFar (entities : EntityList) (site : Site) : Entity → Entity → Ordering :=
  compareOn fun candidate => !entities.fitsReceiver site candidate

/-- The order of the candidates for a reference. -/
def preference (entities : EntityList) (candidates : List Entity) (site : Site) :
    Entity → Entity → Ordering :=
  if candidates.any (isLocal site) then entities.compareNear site else entities.compareFar site

/-- Where no candidate is in the file of the reference the first that fits is the least. -/
theorem compareFar_eq (entities : EntityList) (site : Site) :
    entities.compareFar site =
      compareLex (compareOn fun candidate => !entities.fitsReceiver site candidate)
        fun _ _ => .eq := by
  funext left right
  exact Ordering.then_eq.symm

instance transCmp_preference : Std.TransCmp (entities.preference candidates site) := by
  unfold preference
  split
  · unfold compareNear
    infer_instance
  · unfold compareFar
    infer_instance

instance transCmp_compareDistance (line : Nat) : Std.TransCmp (compareDistance line) := by
  unfold compareDistance
  infer_instance

/-! ### Filters as keys -/

section

variable {isPreferred : Entity → Bool} {entity : Entity}

/-- Preferred are the candidates that satisfy the test as any one of them does. -/
theorem preferring_eq_filter_same (member : entity ∈ preferring candidates isPreferred) :
    preferring candidates isPreferred =
      candidates.filter fun candidate => (!isPreferred candidate) = !isPreferred entity := by
  by_cases preferred : isPreferred entity
  · rw [preferring_eq_filter (mem_of_mem_preferring member) preferred]
    exact List.filter_congr fun candidate _ => by simp [preferred]
  · have unpreferred : candidates.filter isPreferred = [] := by
      by_contra inhabited
      rw [preferring, if_neg (by simpa using inhabited)] at member
      exact preferred (List.mem_filter.mp member).2
    rw [preferring, if_pos (List.isEmpty_iff.mpr unpreferred), eq_comm, List.filter_eq_self]
    intro candidate candidateMember
    have := List.filter_eq_nil_iff.mp unpreferred candidate candidateMember
    simp_all

theorem isPreferred_of_mem_preferring (member : entity ∈ preferring candidates isPreferred)
    {candidate : Entity} (isCandidate : candidate ∈ candidates)
    (preferred : isPreferred candidate) : isPreferred entity := by
  rw [preferring_eq_filter isCandidate preferred] at member
  exact (List.mem_filter.mp member).2

/-- Preferring candidates before the least is taken is comparing them by that preference first. -/
theorem leastBy?_preferring {compare : Entity → Entity → Ordering} [Std.TransCmp compare]
    (candidates : List Entity) (isPreferred : Entity → Bool) :
    leastBy? compare (preferring candidates isPreferred) =
      leastBy? (compareLex (compareOn fun candidate => !isPreferred candidate) compare)
        candidates := by
  cases candidates with
  | nil => simp [preferring, leastBy?, sortBy]
  | cons first rest =>
    obtain ⟨entity, member⟩ := List.exists_mem_of_ne_nil _
      (@preferring_ne_nil (first :: rest) isPreferred (List.cons_ne_nil first rest))
    rw [preferring_eq_filter_same member]
    refine leastBy?_filter_key (fun candidate => !isPreferred candidate)
      ⟨entity, mem_of_mem_preferring member, rfl⟩ fun other otherMember => ?_
    cases preferred : isPreferred other with
    | false => cases isPreferred entity <;> rfl
    | true => rw [isPreferred_of_mem_preferring member otherMember preferred]; rfl

end

theorem pool_eq_preferring (entities : EntityList) (candidates : List Entity) (site : Site) :
    entities.pool candidates site =
      preferring (preferring candidates (isLocal site)) (entities.fitsReceiver site) := by
  unfold pool fitsReceiver
  cases Site.receiverType? site.receiver site.enclosingType with
  | some typeName => rfl
  | none => exact (if_pos (List.isEmpty_iff.mpr (List.filter_eq_nil_iff.mpr (by simp)))).symm

/-! ### The choice as a minimum -/

theorem map_entity_choose (entities : EntityList) (candidates : List Entity) (site : Site) :
    (entities.choose candidates site).map Choice.entity =
      leastBy? (entities.preference candidates site) candidates := by
  rw [choose_eq, pool_eq_preferring, preference]
  change Option.map Choice.entity
    (Option.map _ (if candidates.any (isLocal site) then _ else _)) = _
  rw [Option.map_map]
  by_cases someLocal : candidates.any (isLocal site)
  · rw [if_pos someLocal, if_pos someLocal, leastBy?_preferring, leastBy?_preferring]
    exact Option.map_id'
  · have near : preferring candidates (isLocal site) = candidates := by
      refine if_pos (List.isEmpty_iff.mpr (List.filter_eq_nil_iff.mpr ?_))
      exact fun candidate member isLocal =>
        someLocal (List.any_eq_true.mpr ⟨candidate, member, isLocal⟩)
    rw [if_neg someLocal, if_neg someLocal, near, compareFar_eq, ← leastBy?_preferring,
      leastBy?_eq_head?]
    exact Option.map_id'

/-- What remains are the candidates that stand as the chosen one does. -/
theorem length_pool {entity : Entity} (member : entity ∈ entities.pool candidates site) :
    (entities.pool candidates site).length = candidates.countP fun candidate =>
      entities.standing site candidate = entities.standing site entity := by
  rw [pool_eq_preferring] at member ⊢
  rw [preferring_eq_filter_same member,
    preferring_eq_filter_same (mem_of_mem_preferring member), List.filter_filter,
    ← List.countP_eq_length_filter]
  refine List.countP_congr fun candidate _ => ?_
  simp [standing, and_comm]

theorem choose_eq_none_iff : entities.choose candidates site = none ↔ candidates = [] := by
  constructor
  · intro none
    by_contra inhabited
    obtain ⟨choice, chosen⟩ := @exists_choose entities candidates site inhabited
    cases none.symm.trans chosen
  · rintro rfl
    have least := map_entity_choose entities [] site
    rwa [leastBy?, sortBy, List.mergeSort_nil, List.head?_nil, Option.map_eq_none_iff] at least

/-- The choice is the least candidate with the number of those that stand as it does. -/
theorem choose_eq_some_iff {choice : Choice} :
    entities.choose candidates site = some choice ↔
      (∃ place, IsLeastAt (entities.preference candidates site) candidates place choice.entity) ∧
      choice.remaining = candidates.countP fun candidate =>
        entities.standing site candidate = entities.standing site choice.entity := by
  have remaining {choice : Choice} (chosen : entities.choose candidates site = some choice) :
      choice.remaining = candidates.countP fun candidate =>
        entities.standing site candidate = entities.standing site choice.entity :=
    (remaining_of_choose chosen).trans (length_pool (mem_pool_of_choose chosen))
  rw [← leastBy?_eq_some_iff_exists_isLeastAt, ← map_entity_choose]
  constructor
  · intro chosen
    exact ⟨congrArg (Option.map Choice.entity) chosen, remaining chosen⟩
  · rintro ⟨least, count⟩
    obtain ⟨other, chosen, same⟩ := Option.map_eq_some_iff.mp least
    have sameCount := remaining chosen
    rw [same, ← count] at sameCount
    obtain ⟨entity, count⟩ := other
    rw [chosen, show entity = choice.entity from same, show count = choice.remaining from sameCount]

/-! ### Candidates that are not chosen -/

theorem isLocal_of_isLeast {least : Entity}
    (isLeast : leastBy? (entities.preference candidates site) candidates = some least)
    (someLocal : candidates.any (isLocal site)) : isLocal site least := by
  obtain ⟨candidate, member, candidateLocal⟩ := List.any_eq_true.mp someLocal
  have below := isLE_of_leastBy? isLeast member
  rw [preference, if_pos someLocal, compareNear, compareLex, Ordering.isLE_then_iff_and, compareOn,
    candidateLocal] at below
  cases leastLocal : isLocal site least with
  | true => rfl
  | false =>
    rw [leastLocal] at below
    cases below.1

/-- The order is the same for some of the candidates if the least one is among them. -/
theorem preference_eq_of_subset {others : List Entity} {least : Entity}
    (isLeast : leastBy? (entities.preference candidates site) candidates = some least)
    (subset : ∀ other ∈ others, other ∈ candidates) (member : least ∈ others) :
    entities.preference others site = entities.preference candidates site := by
  have same : others.any (isLocal site) = candidates.any (isLocal site) := by
    rw [Bool.eq_iff_iff]
    constructor
    · intro someLocal
      obtain ⟨other, otherMember, otherLocal⟩ := List.any_eq_true.mp someLocal
      exact List.any_eq_true.mpr ⟨other, subset other otherMember, otherLocal⟩
    · intro someLocal
      exact List.any_eq_true.mpr ⟨least, member, isLocal_of_isLeast isLeast someLocal⟩
  rw [preference, preference, same]

theorem map_entity_choose_eraseIdx {place other : Nat} {least : Entity}
    (isLeast : IsLeastAt (entities.preference candidates site) candidates place least)
    (elsewhere : other ≠ place) :
    (entities.choose (candidates.eraseIdx other) site).map Choice.entity = some least := by
  have erased := isLeast.leastBy?_eraseIdx elsewhere
  rw [map_entity_choose, preference_eq_of_subset
    (leastBy?_eq_some_iff_exists_isLeastAt.mpr ⟨place, isLeast⟩)
    (fun _ => List.mem_of_mem_eraseIdx) (mem_of_leastBy? erased), erased]

end EntityList

/-! ### Ambiguous references -/

/-- A reference that the resolver looks up. -/
structure Lookup where
  subjectId : String
  fileId : String
  name : String
  line : Nat
  /-- The entities with the name. -/
  candidates : List Entity
  site : Site

namespace Corpus

variable {corpus : Corpus}

/-- What is looked up for an observation. An import is not looked up by name. -/
def lookup? (corpus : Corpus) (observation : Observation) : Option Lookup :=
  let reference (candidates : List Entity) (site : Site) : Lookup :=
    ⟨observation.sourceId, observation.fileId, observation.target, observation.span.startLine,
      candidates, site⟩
  match observation.kind with
  | .call =>
    some (reference (corpus.entities.callables observation.target) (corpus.siteOf observation))
  | .import => none
  | .inheritance =>
    some (reference
      ((corpus.entities.types observation.target).filter (·.id != observation.sourceId))
      { corpus.siteOf observation with receiver := none })

/-- What is looked up for a test under a name: the functions of that name, from where the test
begins. -/
def testReference (corpus : Corpus) (test : Entity) (name : String) : Lookup :=
  ⟨test.id, test.fileId, name, test.startLine, corpus.testCandidates test name,
    ⟨test.fileId, test.startLine, none, none⟩⟩

/-- What is looked up for a test: the first of the two names that some function has. -/
def testLookup? (corpus : Corpus) (test : Entity) : Option Lookup :=
  (corpus.testSubject? test).bind fun subject =>
    ([subject, otherCase subject].find? fun name =>
      !(corpus.testCandidates test name).isEmpty).map (corpus.testReference test)

/-- All that the resolver looks up. -/
def lookups (corpus : Corpus) (observations : List Observation) : List Lookup :=
  observations.filterMap corpus.lookup? ++
    (corpus.entities.filter Entity.isFunction).filterMap corpus.testLookup?

/-- What is noted about a reference that is looked up. -/
def noted? (corpus : Corpus) (lookup : Lookup) : Option Ambiguity :=
  (corpus.entities.choose lookup.candidates lookup.site).bind
    (corpus.ambiguity? lookup.subjectId lookup.fileId lookup.name lookup.line)

theorem ambiguities_resolveObservation (corpus : Corpus) (observation : Observation) :
    (corpus.resolveObservation observation).ambiguities =
      ((corpus.lookup? observation).bind corpus.noted?).toList := by
  unfold resolveObservation lookup?
  cases observation.kind with
  | call =>
    change (corpus.resolveCall observation).ambiguities =
      ((corpus.callChoice? observation).bind _).toList
    unfold resolveCall
    cases corpus.callChoice? observation <;> rfl
  | «import» =>
    change (corpus.resolveImport observation).ambiguities = []
    unfold resolveImport
    split <;> rfl
  | inheritance =>
    change (corpus.resolveInheritance observation).ambiguities =
      ((corpus.inheritanceChoice? observation).bind _).toList
    unfold resolveInheritance
    cases corpus.inheritanceChoice? observation <;> rfl

/-- Of several names a test is resolved by the first one that has candidates. -/
theorem ambiguities_findSome? (corpus : Corpus) (test : Entity) (names : List String) :
    ((names.findSome? fun name => (corpus.testChoice? test name).map fun choice =>
        corpus.resolveTo test.id test.fileId Term.testsFunction name test.span
          choice).getD .nothing).ambiguities =
      ((names.find? fun name => !(corpus.testCandidates test name).isEmpty).bind
        fun name => corpus.noted? (corpus.testReference test name)).toList := by
  induction names with
  | nil => rfl
  | cons name rest inductionHypothesis =>
    rw [List.findSome?_cons, List.find?_cons]
    by_cases none : corpus.testCandidates test name = []
    · have noChoice : corpus.testChoice? test name = .none := EntityList.choose_eq_none_iff.mpr none
      rw [noChoice, none]
      exact inductionHypothesis
    · obtain ⟨choice, chosen⟩ := @EntityList.exists_choose corpus.entities _
        ⟨test.fileId, test.startLine, .none, .none⟩ none
      have isChosen : corpus.testChoice? test name = some choice := chosen
      rw [isChosen, List.isEmpty_eq_false_iff.mpr none]
      change (corpus.ambiguity? _ _ _ _ choice).toList =
        ((corpus.testChoice? test name).bind _).toList
      rw [isChosen]
      rfl

theorem ambiguities_resolveTest (corpus : Corpus) (test : Entity) :
    (corpus.resolveTest test).ambiguities =
      ((corpus.testLookup? test).bind corpus.noted?).toList := by
  unfold resolveTest testLookup?
  cases corpus.testSubject? test with
  | none => rfl
  | some subject =>
    rw [Option.bind_some, Option.bind_map]
    exact corpus.ambiguities_findSome? test [subject, otherCase subject]

theorem foundAmbiguities_eq (corpus : Corpus) (observations : List Observation) :
    corpus.foundAmbiguities observations =
      (corpus.lookups observations).filterMap corpus.noted? := by
  rw [foundAmbiguities, lookups, List.filterMap_append, List.filterMap_filterMap,
    List.filterMap_filterMap, List.filterMap_eq_flatMap_toList, List.filterMap_eq_flatMap_toList,
    resolveTests, Resolved.join]
  simp only [ambiguities_resolveObservation, ambiguities_resolveTest, List.flatMap_map]

/-- A reference is noted exactly if several candidates stand as the chosen one does. -/
theorem isSome_noted?_iff {lookup : Lookup} :
    (corpus.noted? lookup).isSome ↔
      ∃ choice, corpus.entities.choose lookup.candidates lookup.site = some choice ∧
        2 ≤ lookup.candidates.countP fun candidate =>
          corpus.entities.standing lookup.site candidate =
            corpus.entities.standing lookup.site choice.entity := by
  have isSome_ambiguity? (choice : Choice) :
      (corpus.ambiguity? lookup.subjectId lookup.fileId lookup.name lookup.line choice).isSome ↔
        2 ≤ choice.remaining := by
    simp [ambiguity?, Choice.isAmbiguous, Nat.succ_le_iff]
  rw [noted?]
  cases chosen : corpus.entities.choose lookup.candidates lookup.site with
  | none => simp
  | some choice =>
    rw [Option.bind_some, isSome_ambiguity?, (EntityList.choose_eq_some_iff.mp chosen).2]
    simp

/-- The choice fails only without candidates. Otherwise it is the candidate that is least in the
order of preference, the first of those that compare equal, with the number of the candidates that
stand as it does for file and receiver; and it is the same without any other candidate. The
resolver notes exactly the references that it looks up for which two candidates or more stand as
the chosen one does. -/
theorem choose_isLeast_and_notes_ties (corpus : Corpus) (observations : List Observation) :
    (∀ candidates site,
      (corpus.entities.choose candidates site = none ↔ candidates = []) ∧
      (∀ choice, corpus.entities.choose candidates site = some choice ↔
        (∃ place, IsLeastAt (corpus.entities.preference candidates site) candidates place
          choice.entity) ∧
        choice.remaining = candidates.countP fun candidate =>
          corpus.entities.standing site candidate =
            corpus.entities.standing site choice.entity) ∧
      ∀ place other least,
        IsLeastAt (corpus.entities.preference candidates site) candidates place least →
        other ≠ place →
        (corpus.entities.choose (candidates.eraseIdx other) site).map Choice.entity =
          some least) ∧
    (corpus.resolve observations).ambiguities.Perm
      ((corpus.lookups observations).filterMap corpus.noted?) ∧
    ∀ lookup, (corpus.noted? lookup).isSome ↔
      ∃ choice, corpus.entities.choose lookup.candidates lookup.site = some choice ∧
        2 ≤ lookup.candidates.countP fun candidate =>
          corpus.entities.standing lookup.site candidate =
            corpus.entities.standing lookup.site choice.entity := by
  refine ⟨fun candidates site => ?_, ?_, fun lookup => isSome_noted?_iff⟩
  · refine ⟨EntityList.choose_eq_none_iff, fun choice => EntityList.choose_eq_some_iff, ?_⟩
    intro place other least isLeast elsewhere
    exact EntityList.map_entity_choose_eraseIdx isLeast elsewhere
  · rw [← foundAmbiguities_eq]
    exact sortBy_perm _ _

/-- A class with a method, and two functions with the name of the method. -/
def sameNames : EntityList :=
  let function (id file : String) (line : Nat) (parentId : Option String) : Entity :=
    ⟨id, Term.functionDefinition, .functionDefinition, "run", "run", file, file, line, line, "",
      parentId⟩
  [⟨"C", Term.classDefinition, .classDefinition, "Job", "Job", "a.py", "a.py", 1, 9, "", none⟩,
    function "near" "a.py" 20 none, function "method" "a.py" 5 (some "C"),
    function "far" "b.py" 21 none]

/-- A call of the method is no call of the function that is nearer. -/
theorem choose_sameNames :
    sameNames.choose (sameNames.drop 1) ⟨"a.py", 21, some "Job", none⟩ =
        some ⟨sameNames[2], 1⟩ ∧
      (sameNames.choose ((sameNames.drop 1).eraseIdx 0) ⟨"a.py", 21, some "Job", none⟩).map
        Choice.entity = some sameNames[2] := by
  have isLeast : IsLeastAt (sameNames.preference (sameNames.drop 1) ⟨"a.py", 21, some "Job", none⟩)
      (sameNames.drop 1) 1 sameNames[2] :=
    isLeastAt_iff.mpr ⟨[sameNames[1]], [sameNames[3]], rfl, rfl, by decide +kernel,
      by decide +kernel⟩
  obtain ⟨-, isChoice, erased⟩ := (choose_isLeast_and_notes_ties ⟨[], sameNames⟩ []).1
    (sameNames.drop 1) ⟨"a.py", 21, some "Job", none⟩
  exact ⟨(isChoice _).mpr ⟨⟨1, isLeast⟩, by decide +kernel⟩, erased 1 0 _ isLeast (by decide)⟩

end Corpus

end CodeGraph
