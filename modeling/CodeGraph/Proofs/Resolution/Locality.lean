/-
This file proves that other files cannot disturb what is local to a file. What holds the entities
of a file, where they are declared, which comments document them, and which of them a call or a
derived type means is the same in all repositories that have the file.

Two repositories are not compared with each other. Each is compared with the one that has nothing
but the file (`Corpus.within`), which is the same for both. What is asked of a repository is
`Corpus.Isolates`: no identifier from the file is used in another one, and what is in the file
names only the file and the entities in it. Then a lookup that starts in the file stays there: the
thing with an identifier from the file, the parent of an entity, and by induction on the fuel the
first type on the way up are found among the entities of the file, in their order. The larger
repository searches with more fuel, but a search that has enough does not need more
(`enclosingType?_eq`).

For a reference the candidates of the larger repository include others. A candidate in the file
wins over all of these, so the choice is the choice among those in the file, and so is the number
of ties (`choose_eq`); with the same choice the same edge and the same ambiguity come out. For the
edges of containment and of documentation, which are made file by file, it is enough that the edges
of other files do not pass the test for local ones (`Edge.isAmong`).
-/
import CodeGraph.Proofs.Graph.EnclosingType
import CodeGraph.Proofs.Resolution.Containment

namespace CodeGraph

/-! ### Local edges -/

namespace Edge

/-- Whether an edge says what holds one of the things with the given identifiers, in which file one
of them is declared, or that one of them documents another one. -/
def isAmong (ids : List String) (edge : Edge) : Bool :=
  (Term.holdingProperties.contains edge.predicate && edge.object.id?.any ids.contains)
    || (edge.predicate == Term.isDeclaredIn && ids.contains edge.subjectId)
    || (edge.predicate == Term.documents && ids.contains edge.subjectId
      && edge.object.id?.any ids.contains)

variable {ids : List String} {edge : Edge}

theorem ignoresEvidence_isAmong (ids : List String) : EdgeSet.IgnoresEvidence (isAmong ids) := by
  intro left right same
  have ⟨subject, predicate, object⟩ := Edge.compare_eq_eq_iff.mp same
  rw [isAmong, isAmong, subject, predicate, object]

/-- A local edge declares something or leads to something, by a property of its own. -/
theorem cases_of_isAmong (among : edge.isAmong ids) :
    (edge.predicate = Term.isDeclaredIn ∧ edge.subjectId ∈ ids) ∨
      edge.predicate ∈ Term.documents :: Term.holdingProperties ∧
        edge.object.id?.any ids.contains := by
  rw [isAmong, Bool.or_eq_true, Bool.or_eq_true, Bool.and_eq_true, Bool.and_eq_true,
    Bool.and_eq_true, Bool.and_eq_true, List.contains_iff_mem, List.contains_iff_mem, beq_iff_eq,
    beq_iff_eq] at among
  rcases among with (⟨isHolding, isObject⟩ | isDeclared) | ⟨⟨isDocumentation, -⟩, isObject⟩
  · exact .inr ⟨List.mem_cons_of_mem _ isHolding, isObject⟩
  · exact .inl isDeclared
  · exact .inr ⟨List.mem_cons.mpr (.inl isDocumentation), isObject⟩

/-- No reference is a local edge. -/
theorem not_mem_referenceProperties (among : edge.isAmong ids) :
    edge.predicate ∉ Term.referenceProperties := by
  have apart : ∀ name ∈ Term.isDeclaredIn :: Term.documents :: Term.holdingProperties,
      name ∉ Term.referenceProperties := by decide
  refine apart _ (List.mem_cons.mpr ?_)
  exact (cases_of_isAmong among).imp And.left And.left

/-- What is declared in a file is one of the things. -/
theorem subjectId_mem_of_isAmong (among : edge.isAmong ids)
    (isDeclaration : edge.predicate = Term.isDeclaredIn) : edge.subjectId ∈ ids := by
  rcases cases_of_isAmong among with ⟨-, member⟩ | ⟨other, -⟩
  · exact member
  · rw [isDeclaration] at other
    exact absurd other (by decide)

/-- What is held or documented is one of the things. -/
theorem object_mem_of_isAmong {id : String} (among : edge.isAmong ids)
    (noDeclaration : edge.predicate ≠ Term.isDeclaredIn) (isObject : edge.object = .resolved id) :
    id ∈ ids := by
  rcases cases_of_isAmong among with ⟨isDeclaration, -⟩ | ⟨-, member⟩
  · exact absurd isDeclaration noDeclaration
  · rw [isObject] at member
    exact List.contains_iff_mem.mp member

end Edge

namespace EntityList

/-- Where what is made of some items passes no test, only what is made of the others passes. -/
theorem filter_flatMap_of_filter {item other : Type} {make makeToo : item → List other}
    {keep : other → Bool} {test : item → Bool} {items : List item}
    (inside : ∀ entry ∈ items, test entry → make entry = makeToo entry)
    (outside : ∀ entry ∈ items, test entry = false → (make entry).filter keep = []) :
    (items.flatMap make).filter keep = ((items.filter test).flatMap makeToo).filter keep := by
  induction items with
  | nil => rfl
  | cons head rest inductionHypothesis =>
    have ⟨headInside, restInside⟩ := List.forall_mem_cons.mp inside
    have ⟨headOutside, restOutside⟩ := List.forall_mem_cons.mp outside
    rw [List.flatMap_cons, List.filter_append, inductionHypothesis restInside restOutside]
    cases accepted : test head with
    | true =>
      rw [List.filter_cons_of_pos accepted, List.flatMap_cons, List.filter_append,
        headInside accepted]
    | false =>
      rw [List.filter_cons_of_neg (Bool.eq_false_iff.mp accepted), headOutside accepted,
        List.nil_append]

end EntityList

namespace Corpus

/-! ### Files that stand for themselves -/

/-- The part of a repository that is in one file. -/
def within (corpus : Corpus) (file : SourceFile) : Corpus :=
  ⟨[file], corpus.entities.inFile file.id⟩

/-- The identifiers of the entities in a file. -/
def idsIn (corpus : Corpus) (file : SourceFile) : List String :=
  (corpus.entities.inFile file.id).map Entity.id

/-- Whether an identifier is that of a file or of an entity in it. -/
def BelongsTo (corpus : Corpus) (file : SourceFile) (id : String) : Prop :=
  id = file.id ∨ id ∈ corpus.idsIn file

instance (corpus : Corpus) (file : SourceFile) (id : String) :
    Decidable (corpus.BelongsTo file id) := inferInstanceAs (Decidable (_ ∨ _))

/-- Nothing in the other files of a repository has an identifier from a file, and what is in the
file names only the file and the entities in it as parents and as sources. -/
structure Isolates (corpus : Corpus) (observations : List Observation) (file : SourceFile) :
    Prop where
  isFile : file ∈ corpus.files
  onlyFile : ∀ other ∈ corpus.files, other.id = file.id → other = file
  apart : ∀ entity ∈ corpus.entities, corpus.BelongsTo file entity.id → entity.fileId = file.id
  parents : ∀ entity ∈ corpus.entities.inFile file.id, ∀ id ∈ entity.parentId,
    corpus.BelongsTo file id
  sources : ∀ observation ∈ observations, observation.fileId = file.id →
    corpus.BelongsTo file observation.sourceId

/-- An observation for which something in its own file comes into question: a call of something
that can be called there, or a type derived from another one there. -/
def HasLocalCandidate (corpus : Corpus) (observation : Observation) : Prop :=
  match observation.kind with
  | .call => ∃ entity ∈ corpus.entities.inFile observation.fileId,
      entity.simpleName = observation.target ∧ entity.isCallable
  | .inheritance => ∃ entity ∈ corpus.entities.inFile observation.fileId,
      entity.simpleName = observation.target ∧ entity.isTypeOrModule ∧
        entity.id ≠ observation.sourceId
  | .import => False

/-- An observation comes to an edge, and maybe to an ambiguity, and the result has both; the edge
may have earlier evidence there. -/
structure Yields (corpus : Corpus) (observations : List Observation) (observation : Observation)
    (edge : Edge) (ambiguity? : Option Ambiguity) : Prop where
  comesTo : corpus.resolveObservation observation = ⟨[edge], ambiguity?.toList⟩
  stated : ∃ evidence, { edge with evidence } ∈ (corpus.resolve observations).edges
  noted : ∀ ambiguity ∈ ambiguity?, ambiguity ∈ (corpus.resolve observations).ambiguities

/-- What an observation comes to is in the result. -/
theorem yields_of_resolveObservation {corpus : Corpus} {observations : List Observation}
    {observation : Observation} {edge : Edge} {ambiguity? : Option Ambiguity}
    (observed : observation ∈ observations)
    (comesTo : corpus.resolveObservation observation = ⟨[edge], ambiguity?.toList⟩) :
    corpus.Yields observations observation edge ambiguity? := by
  refine ⟨comesTo, EdgeSet.exists_mem_ofList ?_, fun ambiguity isNoted => ?_⟩
  · refine List.mem_append_left _ (List.mem_append_left _ (List.mem_append_right _ ?_))
    refine List.mem_flatMap.mpr ⟨observation, observed, ?_⟩
    rw [comesTo]
    exact List.mem_singleton_self edge
  · refine (mem_sortBy _).mpr (List.mem_append_left _ ?_)
    refine List.mem_flatMap.mpr ⟨observation, observed, ?_⟩
    rw [comesTo]
    exact Option.mem_toList.mpr isNoted

namespace Isolates

variable {corpus : Corpus} {observations : List Observation} {file : SourceFile}
  (isolates : corpus.Isolates observations file)
include isolates

/-! ### Lookups -/

/-- No entity of another file has an identifier from the file. -/
theorem not_mem_idsIn {entity : Entity} (member : entity ∈ corpus.entities)
    (foreign : (entity.fileId == file.id) = false) : entity.id ∉ corpus.idsIn file := by
  intro inFile
  rw [isolates.apart entity member (.inr inFile), beq_self_eq_true] at foreign
  cases foreign

theorem fileWithId?_eq :
    corpus.files.withId? file.id = (corpus.within file).files.withId? file.id := by
  obtain ⟨found, isFound⟩ := FileList.exists_withId? isolates.isFile
  have ⟨member, same⟩ := FileList.mem_of_withId? isFound
  have alone : [file].filter (·.id == file.id) = [file] :=
    List.filter_cons_of_pos (beq_self_eq_true _)
  rw [isFound, isolates.onlyFile found member same]
  exact (congrArg List.getLast? alone).symm

theorem withId?_eq {id : String} (belongs : corpus.BelongsTo file id) :
    corpus.entities.withId? id = (corpus.within file).entities.withId? id := by
  rw [within, EntityList.withId?, EntityList.withId?, EntityList.inFile, List.filter_filter]
  refine congrArg List.getLast? (List.filter_congr fun entity member => ?_)
  by_cases same : entity.id = id
  · have isOwn : entity.fileId = file.id := isolates.apart entity member (same ▸ belongs)
    rw [isOwn, beq_self_eq_true, Bool.and_true]
  · rw [beq_false_of_ne same, Bool.false_and]

theorem parent?_eq {entity : Entity} (inFile : entity ∈ (corpus.within file).entities) :
    corpus.entities.parent? entity = (corpus.within file).entities.parent? entity := by
  rw [EntityList.parent?, EntityList.parent?]
  cases isParent : entity.parentId with
  | none => rfl
  | some id => exact isolates.withId?_eq (isolates.parents entity inFile id isParent)

/-- The search for a type that starts in the file stays there. -/
theorem firstType?_eq (fuel : Nat) {here : Option Entity}
    (inside : ∀ entity ∈ here, entity ∈ (corpus.within file).entities) :
    corpus.entities.firstType? fuel here = (corpus.within file).entities.firstType? fuel here := by
  induction fuel generalizing here with
  | zero => rfl
  | succ fuel inductionHypothesis =>
    cases here with
    | none => rfl
    | some entity =>
      rw [EntityList.firstType?, EntityList.firstType?, isolates.parent?_eq (inside entity rfl),
        inductionHypothesis fun parent isParent => (EntityList.mem_of_parent? isParent).1]

/-- The other entities give the search for a type more fuel, but it does not need it. -/
theorem enclosingType?_eq {id : String} (belongs : corpus.BelongsTo file id) :
    corpus.entities.enclosingType? id = (corpus.within file).entities.enclosingType? id := by
  have fewer : (corpus.within file).entities.length ≤ corpus.entities.length :=
    List.length_filter_le _ _
  have enough := Nat.le_trans EntityList.idCount_le_length fewer
  rw [EntityList.enclosingType?_eq_of_idCount_le enough,
    EntityList.enclosingType?_eq_of_idCount_le EntityList.idCount_le_length,
    isolates.withId?_eq belongs,
    isolates.firstType?_eq _ fun entity isFound => (EntityList.mem_of_withId? isFound).1]

/-! ### References -/

variable {observation : Observation}

theorem siteOf_eq (observed : observation ∈ observations) (inFile : observation.fileId = file.id) :
    corpus.siteOf observation = (corpus.within file).siteOf observation := by
  rw [siteOf, siteOf, isolates.enclosingType?_eq (isolates.sources observation observed inFile)]

theorem resolveTo_eq (subjectId predicate name : String) (span : Span) (choice : Choice) :
    corpus.resolveTo subjectId file.id predicate name span choice =
      (corpus.within file).resolveTo subjectId file.id predicate name span choice := by
  rw [resolveTo, resolveTo, ambiguity?, ambiguity?, isolates.fileWithId?_eq]

/-- A choice with a candidate in the file is the choice among those in the file. -/
theorem choose_eq {candidates : List Entity} {site : Site} {entity : Entity}
    (known : ∀ candidate ∈ candidates, candidate ∈ corpus.entities)
    (member : entity ∈ candidates) (isLocal : entity.fileId = file.id)
    (inFile : site.fileId = file.id) :
    corpus.entities.choose candidates site =
      (corpus.within file).entities.choose (candidates.filter (·.fileId == file.id)) site := by
  rw [← inFile] at isLocal
  rw [← EntityList.choose_filter_of_mem member isLocal, inFile]
  refine EntityList.choose_congr fun candidate isCandidate => isolates.parent?_eq ?_
  have ⟨isKnown, isOwn⟩ := List.mem_filter.mp isCandidate
  exact List.mem_filter.mpr ⟨known candidate isKnown, isOwn⟩

theorem callChoice?_eq (observed : observation ∈ observations)
    (inFile : observation.fileId = file.id) (isCall : observation.kind = .call)
    (candidate : corpus.HasLocalCandidate observation) :
    corpus.callChoice? observation = (corpus.within file).callChoice? observation ∧
      ∃ choice, corpus.callChoice? observation = some choice := by
  rw [HasLocalCandidate, isCall, inFile] at candidate
  obtain ⟨entity, isOwn, named, isCallable⟩ := candidate
  have ⟨isKnown, isLocal⟩ := EntityList.mem_inFile.mp isOwn
  have member : entity ∈ corpus.entities.callables observation.target :=
    EntityList.mem_named.mpr ⟨isKnown, named, isCallable⟩
  refine ⟨?_, EntityList.exists_choose (List.ne_nil_of_mem member)⟩
  calc corpus.callChoice? observation
    _ = (corpus.within file).entities.choose
          ((corpus.entities.callables observation.target).filter (·.fileId == file.id))
          (corpus.siteOf observation) :=
        isolates.choose_eq (fun _ isCandidate => (EntityList.mem_named.mp isCandidate).1) member
          isLocal inFile
    _ = (corpus.within file).callChoice? observation := by
        rw [EntityList.callables, ← EntityList.named_inFile, isolates.siteOf_eq observed inFile]
        rfl

theorem inheritanceChoice?_eq (observed : observation ∈ observations)
    (inFile : observation.fileId = file.id) (isInheritance : observation.kind = .inheritance)
    (candidate : corpus.HasLocalCandidate observation) :
    corpus.inheritanceChoice? observation = (corpus.within file).inheritanceChoice? observation ∧
      ∃ choice, corpus.inheritanceChoice? observation = some choice := by
  rw [HasLocalCandidate, isInheritance, inFile] at candidate
  obtain ⟨entity, isOwn, named, isOfSort, different⟩ := candidate
  have ⟨isKnown, isLocal⟩ := EntityList.mem_inFile.mp isOwn
  have member : entity ∈ (corpus.entities.types observation.target).filter
      (·.id != observation.sourceId) :=
    List.mem_filter.mpr
      ⟨EntityList.mem_named.mpr ⟨isKnown, named, isOfSort⟩, bne_iff_ne.mpr different⟩
  refine ⟨?_, EntityList.exists_choose (List.ne_nil_of_mem member)⟩
  calc corpus.inheritanceChoice? observation
    _ = (corpus.within file).entities.choose
          (((corpus.entities.types observation.target).filter
            (·.id != observation.sourceId)).filter (·.fileId == file.id))
          { corpus.siteOf observation with receiver := none } :=
        isolates.choose_eq (fun _ isCandidate =>
          (EntityList.mem_named.mp (List.mem_filter.mp isCandidate).1).1) member isLocal inFile
    _ = (corpus.within file).inheritanceChoice? observation := by
        rw [List.filter_comm, EntityList.types, ← EntityList.named_inFile,
          isolates.siteOf_eq observed inFile]
        rfl

/-- An observation with a candidate in the file comes to one edge, the same as if there were
nothing but the file. -/
theorem resolveObservation_eq (observed : observation ∈ observations)
    (inFile : observation.fileId = file.id) (candidate : corpus.HasLocalCandidate observation) :
    corpus.resolveObservation observation = (corpus.within file).resolveObservation observation ∧
      ∃ edge ambiguity?, corpus.resolveObservation observation =
        ⟨[edge], Option.toList ambiguity?⟩ := by
  unfold resolveObservation
  split
  · next isCall =>
    have ⟨same, choice, chosen⟩ := isolates.callChoice?_eq observed inFile isCall candidate
    rw [resolveCall, resolveCall, ← same, chosen, inFile]
    exact ⟨isolates.resolveTo_eq _ _ _ _ _, _, _, rfl⟩
  · next isImport =>
    rw [HasLocalCandidate, isImport] at candidate
    exact candidate.elim
  · next isInheritance =>
    have ⟨same, choice, chosen⟩ :=
      isolates.inheritanceChoice?_eq observed inFile isInheritance candidate
    rw [resolveInheritance, resolveInheritance, ← same, chosen, inFile]
    exact ⟨isolates.resolveTo_eq _ _ _ _ _, _, _, rfl⟩

/-! ### Edges -/

theorem filter_containmentEdges_eq :
    corpus.entities.containmentEdges.filter (Edge.isAmong (corpus.idsIn file)) =
      (corpus.within file).entities.containmentEdges.filter (Edge.isAmong (corpus.idsIn file)) := by
  refine EntityList.filter_flatMap_of_filter (fun entity member isOwn => ?_)
    (fun entity member foreign => List.filter_eq_nil_iff.mpr fun edge isEdge among => ?_)
  · have inFile : entity ∈ (corpus.within file).entities := List.mem_filter.mpr ⟨member, isOwn⟩
    unfold Entity.containmentEdge
    rw [isolates.parent?_eq inFile]
  · refine isolates.not_mem_idsIn member foreign ?_
    rcases List.mem_cons.mp isEdge with rfl | isEdge
    · exact Edge.subjectId_mem_of_isAmong among rfl
    · have ⟨isHolding, isObject⟩ := Edge.holds_iff.mp
        ((Entity.holds_containmentEdge corpus.entities entity entity.id).trans
          (beq_self_eq_true _))
      rw [List.mem_singleton.mp isEdge] at among
      refine Edge.object_mem_of_isAmong among (fun same => ?_) isObject
      rw [same] at isHolding
      exact absurd isHolding (by decide)

theorem filter_documentationEdges_eq :
    corpus.entities.documentationEdges.filter (Edge.isAmong (corpus.idsIn file)) =
      (corpus.within file).entities.documentationEdges.filter
        (Edge.isAmong (corpus.idsIn file)) := by
  rw [EntityList.documentationEdges, EntityList.documentationEdges, within, EntityList.inFile,
    List.filter_comm]
  refine EntityList.filter_flatMap_of_filter (fun target isTarget isOwn => ?_)
    (fun target isTarget foreign => List.filter_eq_nil_iff.mpr fun edge isEdge among => ?_)
  · rw [← EntityList.siblings_inFile, beq_iff_eq.mp isOwn]
    rfl
  · obtain ⟨comment, -, rfl⟩ := List.mem_map.mp isEdge
    refine isolates.not_mem_idsIn (List.mem_filter.mp isTarget).1 foreign ?_
    exact Edge.object_mem_of_isAmong among (by decide : Term.documents ≠ Term.isDeclaredIn) rfl

/-- The local edges of a file are the same as if there were nothing but the file. -/
theorem filter_resolve_eq :
    (corpus.resolve observations).edges.filter (Edge.isAmong (corpus.idsIn file)) =
      ((corpus.within file).resolve []).edges.filter (Edge.isAmong (corpus.idsIn file)) := by
  have ignores := Edge.ignoresEvidence_isAmong (corpus.idsIn file)
  rw [resolve, resolve, EdgeSet.filter_ofList ignores, EdgeSet.filter_ofList ignores,
    filter_foundEdges fun _ among => Edge.not_mem_referenceProperties among,
    filter_foundEdges fun _ among => Edge.not_mem_referenceProperties among,
    isolates.filter_containmentEdges_eq, isolates.filter_documentationEdges_eq]

end Isolates

/-- Other files cannot disturb what is local to a file. Two repositories may have the same file with
the same entities and the same observations, and whatever else, as long as no identifier from the
file is used elsewhere and what is in the file names nothing outside as its parent or its source.
Then what holds the entities of the file, where they are declared and which comments document them
is the same in both results, with the evidence; and every observation with a candidate in the file
yields the same edge and the same ambiguity, or none, in both. -/
theorem Isolates.resolve_agrees {corpus other : Corpus} {observations others : List Observation}
    {file : SourceFile} (isolates : corpus.Isolates observations file)
    (isolatesToo : other.Isolates others file)
    (sameEntities : corpus.entities.inFile file.id = other.entities.inFile file.id)
    (sameObservations : ∀ observation, observation.fileId = file.id →
      (observation ∈ observations ↔ observation ∈ others)) :
    (corpus.resolve observations).edges.filter (Edge.isAmong (corpus.idsIn file)) =
        (other.resolve others).edges.filter (Edge.isAmong (corpus.idsIn file)) ∧
      ∀ observation ∈ observations, observation.fileId = file.id →
        corpus.HasLocalCandidate observation →
          ∃ edge ambiguity?, corpus.Yields observations observation edge ambiguity? ∧
            other.Yields others observation edge ambiguity? := by
  have sameFile : corpus.within file = other.within file := by rw [within, within, sameEntities]
  have sameIds : corpus.idsIn file = other.idsIn file := by rw [idsIn, idsIn, sameEntities]
  refine ⟨?_, fun observation observed inFile candidate => ?_⟩
  · rw [isolates.filter_resolve_eq, sameFile, sameIds, isolatesToo.filter_resolve_eq]
  · have observedToo := (sameObservations observation inFile).mp observed
    have candidateToo : other.HasLocalCandidate observation := by
      unfold HasLocalCandidate at candidate ⊢
      rwa [inFile, ← sameEntities, ← inFile]
    have ⟨same, edge, ambiguity?, comesTo⟩ :=
      isolates.resolveObservation_eq observed inFile candidate
    have ⟨sameToo, _⟩ := isolatesToo.resolveObservation_eq observedToo inFile candidateToo
    refine ⟨edge, ambiguity?, yields_of_resolveObservation observed comesTo,
      yields_of_resolveObservation observedToo ?_⟩
    rw [sameToo, ← sameFile, ← same, comesTo]

/-- The file of a sample. -/
def localSample : SourceFile := ⟨"a.py", "r", "a.py", some .python, 9, "SourceFile", "ProgramCode"⟩

/-- The entities of the sample: a class with a comment above it, and a method of the class that has
the name of a function. -/
def localEntities : EntityList := [
  ⟨"comment", "Comment", .comment, "", "", "a.py", "a.py", 1, 1, "", none⟩,
  ⟨"Box", "ClassDefinition", .classDefinition, "Box", "Box", "a.py", "a.py", 2, 4, "", none⟩,
  ⟨"method", "MethodDefinition", .functionDefinition, "Box.put", "put", "a.py", "a.py", 3, 4, "",
    some "Box"⟩,
  ⟨"function", "FunctionDefinition", .functionDefinition, "put", "put", "a.py", "a.py", 6, 7, "",
    none⟩]

/-- A call in the sample. -/
def localCall : Observation := ⟨.call, "method", "a.py", "put", none, none, ⟨4, 4⟩⟩

/-- The sample on its own. -/
def alone : Corpus := ⟨[localSample], localEntities⟩

/-- The sample behind a file that has a function of the same name. -/
def crowded : Corpus :=
  ⟨[⟨"b.py", "r", "b.py", some .python, 9, "SourceFile", "ProgramCode"⟩, localSample],
    ⟨"other", "FunctionDefinition", .functionDefinition, "put", "put", "b.py", "b.py", 4, 5, "",
      none⟩ :: localEntities⟩

/-- A call in the file before the sample. -/
def otherCall : Observation := ⟨.call, "other", "b.py", "put", none, none, ⟨5, 5⟩⟩

/-- The other file does not disturb the sample. -/
theorem resolve_agrees_of_crowded :
    (alone.resolve [localCall]).edges.filter (Edge.isAmong (alone.idsIn localSample)) =
        (crowded.resolve [otherCall, localCall]).edges.filter
          (Edge.isAmong (alone.idsIn localSample)) ∧
      ∃ edge ambiguity?, alone.Yields [localCall] localCall edge ambiguity? ∧
        crowded.Yields [otherCall, localCall] localCall edge ambiguity? := by
  have isolates : alone.Isolates [localCall] localSample :=
    ⟨by decide, by decide, by decide, by decide, by decide⟩
  have isolatesToo : crowded.Isolates [otherCall, localCall] localSample :=
    ⟨by decide, by decide, by decide, by decide, by decide⟩
  have sameObservations (observation : Observation) (inFile : observation.fileId = "a.py") :
      observation ∈ [localCall] ↔ observation ∈ [otherCall, localCall] := by
    refine ⟨List.mem_cons_of_mem _, fun member => (List.mem_cons.mp member).resolve_left ?_⟩
    rintro rfl
    exact absurd inFile (by decide)
  have candidate : alone.HasLocalCandidate localCall := by
    show ∃ entity ∈ alone.entities.inFile "a.py", entity.simpleName = "put" ∧ entity.isCallable
    decide
  have ⟨edges, yields⟩ := isolates.resolve_agrees isolatesToo (by decide) sameObservations
  exact ⟨edges, yields localCall List.mem_cons_self rfl candidate⟩

end Corpus

end CodeGraph
