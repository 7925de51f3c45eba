/-
This file proves where the edges to parameters start, and that this is not always a function.

The resolution chooses the property of an edge of containment by the parameter alone, whatever its
parent is, so these edges are exactly the ones from the parents of parameters. A parameter has no
owner that could change its lexical parent: the patterns for parameters capture none, and uniting
definitions does not give it one. Its parent is therefore the innermost container around it
(`ParsedFile.exists_isInnermost_of_parameter`). The entity that the edge starts at may be kept as
the entity of another definition with the same identifier. As the digest does not collide, the two
agree in class and so in kind, and it starts at a function exactly if the innermost container is
one (`exists_isInnermost_of_hasParameter`).

That the container need not be a function is a matter of the query tables. Functions and parameters
are found by patterns that know nothing of each other, and in the sample an operator is not found
as a function while its parameter is. The class around it gets the parameter. To evaluate the
sample without computing digests, its four messages are shown to be different; without a collision
all candidates are kept then.
-/
import CodeGraph.Proofs.Extraction.OpenContainers
import CodeGraph.Proofs.Resolution.Meaning

namespace CodeGraph

/-! ### Edges to parameters -/

theorem Entity.kind_of_containmentProperty {parent child : Entity}
    (isParameter : containmentProperty parent child = Term.hasParameter) :
    child.kind = .parameter := by
  unfold containmentProperty at isParameter
  split at isParameter
  · assumption
  · split at isParameter <;> exact absurd isParameter (by decide)
  · split at isParameter <;> exact absurd isParameter (by decide)
  · exact absurd isParameter (by decide)

/-- An edge to a parameter leads from its parent to it. -/
theorem Corpus.exists_of_hasParameter {corpus : Corpus} {observations : List Observation}
    {edge : Edge} (member : edge ∈ (corpus.resolve observations).edges)
    (isParameter : edge.predicate = Term.hasParameter) :
    ∃ holder ∈ corpus.entities, ∃ held ∈ corpus.entities, held.kind = .parameter ∧
      held.parentId = some holder.id ∧ edge.subjectId = holder.id ∧
        edge.object = .resolved held.id := by
  obtain ⟨found, isFound, subject, predicate, object⟩ := EdgeSet.exists_of_mem_ofList member
  rw [predicate] at isParameter
  rw [subject, object]
  rcases foundEdges_cases isFound with
    ⟨containment, _⟩ | ⟨_, _, _, property⟩ | ⟨_, property⟩ | ⟨_, property⟩
  · obtain ⟨held, isHeld, rfl | rfl⟩ := mem_containmentEdges.mp containment
    · exact absurd isParameter (by decide : Term.isDeclaredIn ≠ Term.hasParameter)
    · unfold Entity.containmentEdge at *
      split at isParameter
      · next holder isHolder =>
        have ⟨inCorpus, isParent⟩ := EntityList.mem_of_parent? isHolder
        exact ⟨holder, inCorpus, held, isHeld, Entity.kind_of_containmentProperty isParameter,
          isParent, rfl, rfl⟩
      · exact absurd isParameter (by decide : Term.declares ≠ Term.hasParameter)
  · exact absurd (isParameter ▸ property) (by decide)
  · exact absurd (isParameter.symm.trans property) (by decide)
  · exact absurd (isParameter.symm.trans property) (by decide)

/-- What has a parent has an edge from it. -/
theorem Corpus.exists_edge_of_parent? {corpus : Corpus} {observations : List Observation}
    {holder held : Entity} (isHeld : held ∈ corpus.entities)
    (isHolder : corpus.entities.parent? held = some holder) :
    ∃ edge ∈ (corpus.resolve observations).edges, edge.subjectId = holder.id ∧
      edge.predicate = Entity.containmentProperty holder held ∧
        edge.object = .resolved held.id := by
  have isFound : held.containmentEdge corpus.entities ∈ corpus.foundEdges observations := by
    simp only [foundEdges, List.append_assoc]
    exact List.mem_append_left _ (mem_containmentEdges.mpr ⟨held, isHeld, .inr rfl⟩)
  obtain ⟨evidence, isEdge⟩ := EdgeSet.exists_mem_ofList isFound
  refine ⟨_, isEdge, ?_⟩
  rw [Entity.containmentEdge, isHolder]
  exact ⟨rfl, rfl, rfl⟩

/-! ### Parsed files -/

namespace ParsedFile

variable {parsed : ParsedFile}

/-- The entity of the definition at a place. -/
def entityAt (parsed : ParsedFile) (index : Nat) (definition : Definition) : Entity :=
  Definition.entityAt parsed.file parsed.source parsed.definitions index definition

/-- A parameter that has a parent is held by the entity of its innermost container. -/
theorem exists_isInnermost_of_parameter {entity : Entity} {id : String}
    (member : entity ∈ parsed.candidates) (ofKind : entity.kind = .parameter)
    (isParent : entity.parentId = some id) :
    ∃ index place parameter container,
      Definition.IsInnermost parsed.definitions index place parameter container ∧
        entity = parsed.entityAt index parameter ∧ id = (parsed.entityAt place container).id := by
  obtain ⟨index, place, parameter, around, isDefinition, rfl, isPlace, isAround, rfl⟩ :=
    Definition.exists_of_parentId member isParent
  have isParameter : parameter.kind = .parameter := ofKind
  have unowned : parameter.owner = none :=
    Extraction.owner_eq_none_of_rank_lt (List.mem_of_getElem? isDefinition)
      (isParameter ▸ by decide)
  obtain ⟨container, isInnermost⟩ :=
    Definition.exists_isInnermost isDefinition unowned (isParameter ▸ by decide) isPlace
  obtain rfl := Option.some.inj (isInnermost.isOpen.isPlace.symm.trans isAround)
  exact ⟨index, place, parameter, container, isInnermost, rfl, rfl⟩

/-- A parameter that names a parent has an edge from it. -/
theorem exists_edge_of_parameter {files : FileList} {all : List ParsedFile}
    {observations : List Observation} (isParsed : parsed ∈ all) {held : Entity} {id : String}
    (isHeld : held ∈ parsed.entities) (ofKind : held.kind = .parameter)
    (isParent : held.parentId = some id) :
    ∃ edge ∈ ((corpusAmong files all).resolve observations).edges, edge.subjectId = id ∧
      edge.predicate = Term.hasParameter ∧ edge.object = .resolved held.id := by
  obtain ⟨_, _, _, _, _, _, _, isAround, rfl⟩ :=
    Definition.exists_of_parentId (mem_candidates isHeld) isParent
  obtain ⟨kept, isKept, sameId⟩ :=
    Entity.exists_mem_distinct (Definition.entityAt_mem_toEntities isAround)
  have inCorpus {entity : Entity} (inFile : entity ∈ parsed.entities) :
      entity ∈ (corpusAmong files all).entities :=
    List.mem_flatMap.mpr ⟨parsed, isParsed, inFile⟩
  obtain ⟨holder, isHolder⟩ := EntityList.exists_withId? (inCorpus isKept)
  rw [sameId] at isHolder
  obtain ⟨edge, isEdge, subject, predicate, object⟩ := Corpus.exists_edge_of_parent?
    (inCorpus isHeld) (Option.bind_eq_some_iff.mpr ⟨_, isParent, isHolder⟩)
  refine ⟨edge, isEdge, subject.trans (EntityList.mem_of_withId? isHolder).2, ?_, object⟩
  rw [predicate, Entity.containmentProperty, ofKind]

/-- Every edge to a parameter starts at the innermost container around it, and at a function exactly
if this container is one; and every parameter that names a parent has such an edge. This holds for
all sources and syntax trees of the files that were parsed, whatever was observed in them, as long
as no path holds a zero character (no file system has such a path) and the digest has no collision
among the entities. -/
theorem exists_isInnermost_of_hasParameter (files : FileList) (parsed : List ParsedFile)
    (observations : List Observation)
    (clean : ∀ one ∈ parsed, HoldsNoZero one.file.relativePath)
    (free : Digest.CollisionFree (parsed.flatMap messages)) :
    (∀ edge ∈ ((corpusAmong files parsed).resolve observations).edges,
      edge.predicate = Term.hasParameter →
      ∃ holder ∈ (corpusAmong files parsed).entities,
      ∃ held ∈ (corpusAmong files parsed).entities,
        edge.subjectId = holder.id ∧ edge.object = .resolved held.id ∧ held.IsOf .parameter ∧
          ∃ one ∈ parsed, ∃ index place parameter container,
            Definition.IsInnermost one.definitions index place parameter container ∧
              held = one.entityAt index parameter ∧
              holder.id = (one.entityAt place container).id ∧
              (holder.isFunction ↔ container.kind = .functionDefinition)) ∧
    ∀ one ∈ parsed, ∀ held ∈ one.entities, held.kind = .parameter →
      ∀ id, held.parentId = some id →
        ∃ edge ∈ ((corpusAmong files parsed).resolve observations).edges, edge.subjectId = id ∧
          edge.predicate = Term.hasParameter ∧ edge.object = .resolved held.id := by
  refine ⟨fun edge member isParameter => ?_, fun one isParsed held isHeld ofKind id isParent =>
    exists_edge_of_parameter isParsed isHeld ofKind isParent⟩
  obtain ⟨holder, isHolder, held, isHeld, ofKind, isParent, subject, object⟩ :=
    Corpus.exists_of_hasParameter member isParameter
  obtain ⟨one, isParsed, inFile⟩ := List.mem_flatMap.mp isHeld
  obtain ⟨other, otherParsed, inOther⟩ := List.mem_flatMap.mp isHolder
  obtain ⟨index, place, parameter, container, isInnermost, same, sameHolder⟩ :=
    exists_isInnermost_of_parameter (mem_candidates inFile) ofKind isParent
  have isCandidate : one.entityAt place container ∈ one.candidates :=
    Definition.entityAt_mem_toEntities isInnermost.isOpen.isPlace
  -- The holder may be the entity of another definition, but then it is of the same kind.
  have sameKind : holder.kind = container.kind :=
    kind_eq_of_id_eq free (messages_subset otherParsed) (messages_subset isParsed)
      (clean other otherParsed) (clean one isParsed) (mem_candidates inOther) isCandidate sameHolder
  refine ⟨holder, isHolder, held, isHeld, subject, object,
    (fitsKind (mem_candidates inFile)).isOf ofKind (by decide), one, isParsed, index, place,
    parameter, container, isInnermost, same, sameHolder, ?_⟩
  rw [(fitsKind (mem_candidates inOther)).isFunction_iff, sameKind]

/-- A file with a class that has an operator and a method. -/
def operatorFile : ParsedFile where
  file := .ofPath "r" "m.cpp" (some .cpp) 56 "SourceCodeFile" "CppCode"
  language := .cpp
  source := .ofString
    "class W \x7b bool operator==(int b) \x7b\x7d void f(int x) \x7b\x7d \x7d;\n"
  tree :=
    let leaf (index : Nat) (kind : String) (start stop : Nat) (field : String) : SyntaxTree :=
      .node { index, kind, start, stop, field } []
    .node { index := 0, kind := "translation_unit", start := 0, stop := 56 } [
      .node { index := 1, kind := "class_specifier", start := 0, stop := 54 } [
        leaf 2 "type_identifier" 6 7 "name",
        .node { index := 3, kind := "field_declaration_list", start := 8, stop := 54,
                field := "body" } [
          .node { index := 4, kind := "function_definition", start := 10, stop := 35 } [
            .node { index := 5, kind := "function_declarator", start := 15, stop := 32,
                    field := "declarator" } [
              leaf 6 "operator_name" 15 25 "declarator",
              .node { index := 7, kind := "parameter_list", start := 25, stop := 32,
                      field := "parameters" }
                [.node { index := 8, kind := "parameter_declaration", start := 26, stop := 31 }
                  [leaf 9 "identifier" 30 31 "declarator"]]]],
          .node { index := 10, kind := "function_definition", start := 36, stop := 52 } [
            .node { index := 11, kind := "function_declarator", start := 41, stop := 49,
                    field := "declarator" } [
              leaf 12 "field_identifier" 41 42 "declarator",
              .node { index := 13, kind := "parameter_list", start := 42, stop := 49,
                      field := "parameters" }
                [.node { index := 14, kind := "parameter_declaration", start := 43, stop := 48 }
                  [leaf 15 "identifier" 47 48 "declarator"]]]]]]]
  identified := rfl

/-- The definitions of the file: the operator is none of them, but its parameter is. -/
def operatorDefinitions : List Definition :=
  [(.classDefinition, ⟨0, 54⟩, ⟨6, 7⟩, "W"), (.parameter, ⟨26, 31⟩, ⟨30, 31⟩, "b"),
    (.functionDefinition, ⟨36, 52⟩, ⟨41, 42⟩, "f"), (.parameter, ⟨43, 48⟩, ⟨47, 48⟩, "x")].map
      fun (kind, range, nameRange, name) =>
        { kind, range, nameRange := some nameRange, span := ⟨1, 1⟩, name, owner := none }

theorem definitions_operatorFile : operatorFile.definitions = operatorDefinitions := by
  rw [ParsedFile.definitions, Extraction.definitionsIn_eq]
  decide +kernel

def operatorEntity (place : Fin 4) : Entity :=
  Definition.entityAt operatorFile.file operatorFile.source operatorDefinitions place
    operatorDefinitions[place]

theorem entityAt_operatorFile (place : Fin 4) :
    operatorFile.entityAt place operatorDefinitions[place] = operatorEntity place := by
  rw [entityAt, definitions_operatorFile, operatorEntity]

theorem collisionFree_operatorFile : Digest.CollisionFree operatorFile.messages := by
  rw [messages_eq definitions_operatorFile]
  decide +kernel

theorem entities_operatorFile : operatorFile.entities =
    Definition.toEntities operatorFile.file operatorFile.source operatorDefinitions := by
  refine entities_eq_toEntities definitions_operatorFile collisionFree_operatorFile ?_
  rw [messages_eq definitions_operatorFile]
  decide +kernel

theorem operatorEntity_mem (place : Fin 4) : operatorEntity place ∈ operatorFile.entities :=
  entities_operatorFile ▸ Definition.entityAt_mem_toEntities (List.getElem?_eq_getElem place.isLt)

theorem operatorEntity_inj {first second : Fin 4}
    (same : (operatorEntity first).id = (operatorEntity second).id) : first = second := by
  have nodup : (operatorFile.entities.map Entity.id).Nodup := Entity.nodup_distinct _
  rw [entities_operatorFile] at nodup
  have isId (place : Fin 4) : ((Definition.toEntities operatorFile.file operatorFile.source
      operatorDefinitions).map Entity.id)[place.val]? = some (operatorEntity place).id := by
    rw [Definition.getElem?_ids, Definition.idAt?_eq, List.getElem?_eq_getElem place.isLt]
    rfl
  have inside := (List.getElem?_eq_some_iff.mp (isId first)).1
  exact Fin.ext ((List.getElem?_inj inside nodup).mp
    ((isId first).trans (same ▸ (isId second).symm)))

theorem parentId_operatorEntity {holder held : Fin 4}
    (isParent : (Definition.parents operatorDefinitions).parent? held = some holder.val) :
    (operatorEntity held).parentId = some (operatorEntity holder).id := by
  rw [operatorEntity, Definition.entityAt, isParent, Option.bind_some, Definition.idAt?_eq,
    List.getElem?_eq_getElem holder.isLt]
  rfl

/-- The edge to the parameter of the method starts at a function. -/
theorem isFunction_of_hasParameter_of_operatorFile :
    ∃ edge ∈ ((corpusAmong [operatorFile.file] [operatorFile]).resolve []).edges,
      edge.predicate = Term.hasParameter ∧ edge.object = .resolved (operatorEntity 3).id ∧
        ∃ holder ∈ (corpusAmong [operatorFile.file] [operatorFile]).entities,
          edge.subjectId = holder.id ∧ holder.isFunction := by
  obtain ⟨starts, leads⟩ := exists_isInnermost_of_hasParameter [operatorFile.file] [operatorFile] []
    (fun one member => by rw [List.mem_singleton.mp member]; decide)
    (by rw [List.flatMap_singleton]; exact collisionFree_operatorFile)
  obtain ⟨edge, isEdge, -, predicate, object⟩ := leads operatorFile (List.mem_singleton_self _)
    (operatorEntity 3) (operatorEntity_mem 3) rfl _
    (@parentId_operatorEntity 2 3 (by decide +kernel))
  obtain ⟨holder, isHolder, held, -, subject, sameObject, -, one, isOne, index, place, parameter,
    container, isInnermost, isHeld, -, isFunction⟩ := starts edge isEdge predicate
  refine ⟨edge, isEdge, predicate, object, holder, isHolder, subject, isFunction.mpr ?_⟩
  obtain rfl := List.mem_singleton.mp isOne
  rw [definitions_operatorFile] at isInnermost
  obtain ⟨inside, rfl⟩ := List.getElem?_eq_some_iff.mp isInnermost.isDefinition
  obtain rfl : 3 = index := by
    rw [isHeld.trans (entityAt_operatorFile ⟨index, inside⟩)] at sameObject
    exact congrArg Fin.val
      (operatorEntity_inj (EdgeObject.resolved.inj (object.symm.trans sameObject)))
  have isOpen : Definition.IsOpen operatorDefinitions 3 2 operatorDefinitions[2] :=
    ⟨by decide, rfl, rfl, by omega⟩
  have behind := isInnermost.last 2 _ isOpen rfl
  obtain rfl : 2 = place := by
    have := isInnermost.isOpen.before
    omega
  exact congrArg Definition.kind (Option.some.inj isInnermost.isOpen.isPlace).symm

/-- The edge to the parameter of the operator starts at the class. -/
theorem not_isFunction_of_hasParameter :
    ¬ ∀ parsed : ParsedFile, ∀ edge ∈ ((corpusAmong [parsed.file] [parsed]).resolve
        parsed.observations).edges, edge.predicate = Term.hasParameter →
      ∃ holder ∈ parsed.entities, ∃ held ∈ parsed.entities, edge.subjectId = holder.id ∧
        edge.object = .resolved held.id ∧ holder.isFunction ∧
          held.className = Construct.parameter.name := by
  intro functions
  obtain ⟨edge, isEdge, subject, predicate, -⟩ :=
    @exists_edge_of_parameter operatorFile [operatorFile.file] [operatorFile]
      operatorFile.observations (List.mem_singleton_self _) _ _ (operatorEntity_mem 1) rfl
      (@parentId_operatorEntity 0 1 (by decide +kernel))
  obtain ⟨holder, isHolder, -, -, sameSubject, -, isFunction, -⟩ :=
    functions operatorFile edge isEdge predicate
  have same : holder = operatorEntity 0 :=
    List.inj_on_of_nodup_map (Entity.nodup_distinct _) isHolder (operatorEntity_mem 0)
      (sameSubject.symm.trans subject)
  rw [same] at isFunction
  exact absurd isFunction (by decide +kernel)

end ParsedFile

end CodeGraph
