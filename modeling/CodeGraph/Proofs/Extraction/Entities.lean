/-
This file proves what is known of the entities of a file: where they come from, which of them are
kept, and what the parent that one of them names is.

Each entity is made from one definition, so it is written as `Definition.entityAt` with the place
of the definition, and what it has is read off there. The parent it names is the identifier of the
entity of the parent of its definition (`Definition.exists_of_parentId`), and the measure of names
that grows from the parent of a definition to the definition grows along with it.

Then of the entities with one identifier only the first is kept. Every identifier is still there,
but perhaps as the entity of another definition, and this must not make the measure go down. An
identifier is the digest of a message with the class, the canonical name and the first line. As
long as the digest does not collide, entities with one identifier have one message, and since no
part of it holds a zero character, the parts are equal too. So the measure, which depends on the
class and the name alone, is the same for both, and the parent of an entity that is kept is kept
with a smaller measure (`ParsedFile.exists_parent`). Across files the same argument tells entities
apart, as the path is a part of the message (`ParsedFile.nodup_entity_ids`).
-/
import Mathlib.Data.List.Induction
import Mathlib.Data.List.Nodup
import CodeGraph.Proofs.Extraction.Naming

namespace CodeGraph

namespace Entity

/-! ### Distinct entities -/

/-- One more entity at the end is kept if its identifier is new. -/
theorem distinct_append_singleton (entities : List Entity) (entity : Entity) :
    distinct (entities ++ [entity]) =
      if (distinct entities).any (·.id == entity.id) then distinct entities
      else distinct entities ++ [entity] := by
  unfold distinct
  rw [List.foldl_append, List.foldl_cons, List.foldl_nil, List.any_reverse]
  split
  · rfl
  · rw [List.reverse_cons]

theorem mem_of_mem_distinct {entity : Entity} {entities : List Entity}
    (member : entity ∈ distinct entities) : entity ∈ entities := by
  induction entities using List.reverseRecOn with
  | nil => exact member
  | append_singleton entities last inductionHypothesis =>
    rw [distinct_append_singleton] at member
    split at member
    · exact List.mem_append_left _ (inductionHypothesis member)
    · rcases List.mem_append.mp member with old | new
      · exact List.mem_append_left _ (inductionHypothesis old)
      · exact List.mem_append_right _ new

/-- Every identifier is kept. -/
theorem exists_mem_distinct {entity : Entity} {entities : List Entity}
    (member : entity ∈ entities) : ∃ kept ∈ distinct entities, kept.id = entity.id := by
  induction entities using List.reverseRecOn with
  | nil => cases member
  | append_singleton entities last inductionHypothesis =>
    rw [distinct_append_singleton]
    rcases List.mem_append.mp member with old | new
    · obtain ⟨kept, isKept, same⟩ := inductionHypothesis old
      refine ⟨kept, ?_, same⟩
      split
      · exact isKept
      · exact List.mem_append_left _ isKept
    · obtain rfl := List.mem_singleton.mp new
      split
      · next known =>
        obtain ⟨kept, isKept, same⟩ := List.any_eq_true.mp known
        exact ⟨kept, isKept, beq_iff_eq.mp same⟩
      · exact ⟨entity, List.mem_append_right _ (List.mem_singleton_self _), rfl⟩

/-- No identifier is kept twice. -/
theorem nodup_distinct (entities : List Entity) : ((distinct entities).map Entity.id).Nodup := by
  induction entities using List.reverseRecOn with
  | nil => exact .nil
  | append_singleton entities last inductionHypothesis =>
    rw [distinct_append_singleton]
    split
    · exact inductionHypothesis
    · next new =>
      rw [List.map_append, List.nodup_append]
      refine ⟨inductionHypothesis, List.pairwise_singleton _ _,
        fun id isKept other isLast same => ?_⟩
      obtain ⟨kept, keptMember, rfl⟩ := List.mem_map.mp isKept
      rw [List.map_cons, List.map_nil, List.mem_singleton] at isLast
      exact new (List.any_eq_true.mpr ⟨kept, keptMember, beq_iff_eq.mpr (same.trans isLast)⟩)

/-- Entities with different identifiers are all kept. -/
theorem distinct_eq_self {entities : List Entity} (nodup : (entities.map Entity.id).Nodup) :
    distinct entities = entities := by
  induction entities using List.reverseRecOn with
  | nil => rfl
  | append_singleton entities last inductionHypothesis =>
    rw [List.map_append, List.nodup_append] at nodup
    rw [distinct_append_singleton, inductionHypothesis nodup.1, if_neg fun known => ?_]
    obtain ⟨kept, isKept, same⟩ := List.any_eq_true.mp known
    exact nodup.2.2 _ (List.mem_map_of_mem isKept) _ (List.mem_singleton_self _)
      (beq_iff_eq.mp same)

/-- The message that the identifier of an entity is the digest of. -/
def message (repositoryId : String) (entity : Entity) : List UInt8 :=
  Identifier.entityMessage repositoryId entity.filePath entity.className entity.canonicalName
    entity.startLine

/-- The measure that grows from a parent to its child. -/
def rank (entity : Entity) : Nat := namingRank entity.className entity.canonicalName

end Entity

namespace Definition

variable {file : SourceFile} {source : SourceText} {definitions : List Definition}

/-! ### Entities of definitions -/

/-- The identifier of the entity of the definition at a place. -/
def idAt? (file : SourceFile) (source : SourceText) (definitions : List Definition)
    (index : Nat) : Option String :=
  (definitions[index]?).map fun definition =>
    (toEntity file source definitions (parents definitions) (definition, index)).id

/-- The entity of a definition with its parent. -/
def entityAt (file : SourceFile) (source : SourceText) (definitions : List Definition)
    (index : Nat) (definition : Definition) : Entity :=
  { toEntity file source definitions (parents definitions) (definition, index) with
    parentId := ((parents definitions).parent? index).bind (idAt? file source definitions) }

@[simp]
theorem className_entityAt (index : Nat) (definition : Definition) :
    (entityAt file source definitions index definition).className =
      className definitions (parents definitions) index definition := rfl

@[simp]
theorem canonicalName_entityAt (index : Nat) (definition : Definition) :
    (entityAt file source definitions index definition).canonicalName =
      canonicalName (Path.moduleName file.relativePath) definitions (parents definitions) index
        definition := by
  simp only [entityAt, toEntity]

@[simp]
theorem startLine_entityAt (index : Nat) (definition : Definition) :
    (entityAt file source definitions index definition).startLine = definition.span.startLine := rfl

theorem id_entityAt (index : Nat) (definition : Definition) :
    (entityAt file source definitions index definition).id =
      Identifier.entity file.repositoryId file.relativePath
        (className definitions (parents definitions) index definition)
        (canonicalName (Path.moduleName file.relativePath) definitions (parents definitions) index
          definition) definition.span.startLine := rfl

theorem idAt?_eq (index : Nat) : idAt? file source definitions index =
    (definitions[index]?).map fun definition =>
      (entityAt file source definitions index definition).id := rfl

theorem getElem?_toEntities (index : Nat) :
    (toEntities file source definitions)[index]? =
      (definitions[index]?).map (entityAt file source definitions index) := by
  have bare (place : Nat) :
      (definitions.zipIdx.map (toEntity file source definitions (parents definitions)))[place]? =
        (definitions[place]?).map fun definition =>
          toEntity file source definitions (parents definitions) (definition, place) := by
    rw [List.getElem?_map, List.getElem?_zipIdx, Option.map_map, Nat.zero_add]
    rfl
  have ids : (fun place =>
      (definitions.zipIdx.map (toEntity file source definitions (parents definitions)))[place]?.map
        Entity.id) = idAt? file source definitions := by
    funext place
    rw [bare, Option.map_map]
    rfl
  unfold toEntities
  simp only [ids]
  rw [List.getElem?_map, List.zip, List.getElem?_zipWith, bare]
  cases found : definitions[index]? with
  | none => rfl
  | some definition =>
    have inside : index < (parents definitions).length := by
      rw [length_parents]
      exact (List.getElem?_eq_some_iff.mp found).1
    rw [List.getElem?_eq_getElem inside, Option.map_some, Option.map_some, Option.map_some,
      entityAt, ParentTable.parent?, List.getElem?_eq_getElem inside]
    rfl

theorem getElem?_ids (index : Nat) :
    ((toEntities file source definitions).map Entity.id)[index]? =
      idAt? file source definitions index := by
  rw [List.getElem?_map, getElem?_toEntities, Option.map_map]
  rfl

theorem exists_of_mem_toEntities {entity : Entity}
    (member : entity ∈ toEntities file source definitions) :
    ∃ index definition, definitions[index]? = some definition ∧
      entityAt file source definitions index definition = entity := by
  obtain ⟨index, found⟩ := List.mem_iff_getElem?.mp member
  rw [getElem?_toEntities] at found
  obtain ⟨definition, isDefinition, same⟩ := Option.map_eq_some_iff.mp found
  exact ⟨index, definition, isDefinition, same⟩

theorem entityAt_mem_toEntities {index : Nat} {definition : Definition}
    (isDefinition : definitions[index]? = some definition) :
    entityAt file source definitions index definition ∈ toEntities file source definitions :=
  List.mem_iff_getElem?.mpr ⟨index, by rw [getElem?_toEntities, isDefinition]; rfl⟩

/-! ### Parents of entities -/

/-- The parent of an entity is the entity of the parent of its definition. -/
theorem exists_of_parentId {entity : Entity} {id : String}
    (member : entity ∈ toEntities file source definitions) (isParent : entity.parentId = some id) :
    ∃ index place definition around, definitions[index]? = some definition ∧
      entityAt file source definitions index definition = entity ∧
      (parents definitions).parent? index = some place ∧ definitions[place]? = some around ∧
      (entityAt file source definitions place around).id = id := by
  obtain ⟨index, definition, isDefinition, rfl⟩ := exists_of_mem_toEntities member
  obtain ⟨place, isPlace, isId⟩ := Option.bind_eq_some_iff.mp isParent
  rw [idAt?_eq] at isId
  obtain ⟨around, isAround, same⟩ := Option.map_eq_some_iff.mp isId
  exact ⟨index, place, definition, around, isDefinition, rfl, isPlace, isAround, same⟩

theorem exists_parent_of_parentId {entity : Entity} {id : String}
    (member : entity ∈ toEntities file source definitions) (isParent : entity.parentId = some id)
    (fit : OwnersFit definitions) :
    ∃ parent ∈ toEntities file source definitions, parent.id = id ∧ parent.rank < entity.rank := by
  obtain ⟨index, place, definition, around, _, rfl, isPlace, isAround, same⟩ :=
    exists_of_parentId member isParent
  refine ⟨_, entityAt_mem_toEntities isAround, same, ?_⟩
  rw [Entity.rank, Entity.rank, className_entityAt, className_entityAt, canonicalName_entityAt,
    canonicalName_entityAt]
  exact namingRank_lt fit (isForest_parents definitions) _ definition isPlace isAround

theorem className_mem_of_mem_toEntities {entity : Entity}
    (member : entity ∈ toEntities file source definitions) :
    entity.className ∈ Term.constructClasses := by
  obtain ⟨index, definition, _, rfl⟩ := exists_of_mem_toEntities member
  rw [className_entityAt]
  exact className_mem_constructClasses definition

theorem fileId_of_mem_toEntities {entity : Entity}
    (member : entity ∈ toEntities file source definitions) :
    entity.fileId = file.id ∧ entity.filePath = file.relativePath := by
  obtain ⟨index, definition, _, rfl⟩ := exists_of_mem_toEntities member
  exact ⟨rfl, rfl⟩

theorem id_of_mem_toEntities {entity : Entity}
    (member : entity ∈ toEntities file source definitions) :
    entity.id = Identifier.entity file.repositoryId file.relativePath entity.className
      entity.canonicalName entity.startLine := by
  obtain ⟨index, definition, _, rfl⟩ := exists_of_mem_toEntities member
  rw [id_entityAt, className_entityAt, canonicalName_entityAt, startLine_entityAt]

theorem holdsNoZero_className_of_mem_toEntities {entity : Entity}
    (member : entity ∈ toEntities file source definitions) : HoldsNoZero entity.className :=
  (by decide : ∀ name ∈ Term.constructClasses, HoldsNoZero name) _
    (className_mem_of_mem_toEntities member)

theorem holdsNoZero_canonicalName_of_mem_toEntities {entity : Entity}
    (clean : HoldsNoZero file.relativePath) (named : ∀ other ∈ definitions, other.IsNamed)
    (member : entity ∈ toEntities file source definitions) : HoldsNoZero entity.canonicalName := by
  obtain ⟨index, definition, isDefinition, rfl⟩ := exists_of_mem_toEntities member
  rw [canonicalName_entityAt]
  exact holdsNoZero_canonicalName clean named (List.mem_of_getElem? isDefinition)

end Definition

/-! ### Parsed files -/

/-- A file whose source was read as a syntax tree of a language. -/
structure ParsedFile where
  file : SourceFile
  language : Language
  source : SourceText
  tree : SyntaxTree
  /-- The identifier of the file follows from its repository and its path. -/
  identified : file.id = Identifier.file file.repositoryId file.relativePath

namespace ParsedFile

/-- The definitions in the file. -/
def definitions (parsed : ParsedFile) : List Definition :=
  Extraction.definitionsIn parsed.language parsed.source parsed.tree

/-- The entities of the definitions, with repetitions. -/
def candidates (parsed : ParsedFile) : List Entity :=
  Definition.toEntities parsed.file parsed.source parsed.definitions

/-- What is extracted from the file. -/
def extraction (parsed : ParsedFile) : Extraction :=
  .ofTree parsed.language parsed.file parsed.source parsed.tree

/-- The entities of the file. -/
def entities (parsed : ParsedFile) : List Entity := parsed.extraction.entities

/-- The messages that the identifiers of the entities are the digests of. -/
def messages (parsed : ParsedFile) : List (List UInt8) :=
  parsed.candidates.map (Entity.message parsed.file.repositoryId)

/-- If the language names owners, then only functions carry them and they hold no dot. -/
def OwnersFit (parsed : ParsedFile) : Prop :=
  parsed.language.namesOwners → Definition.OwnersFit parsed.definitions

variable {parsed : ParsedFile} {entity : Entity}

theorem OwnersFit.definitions (fit : parsed.OwnersFit) :
    Definition.OwnersFit parsed.definitions := by
  cases named : parsed.language.namesOwners with
  | true => exact fit named
  | false =>
    intro definition member owner owned
    rw [Extraction.owner_eq_none_of_mem_definitionsIn named member] at owned
    cases owned

theorem mem_candidates (member : entity ∈ parsed.entities) : entity ∈ parsed.candidates :=
  Entity.mem_of_mem_distinct member

theorem message_mem (member : entity ∈ parsed.candidates) :
    entity.message parsed.file.repositoryId ∈ parsed.messages := List.mem_map_of_mem member

theorem id_eq_of_mem_candidates (member : entity ∈ parsed.candidates) :
    entity.id = Identifier.entity parsed.file.repositoryId parsed.file.relativePath
      entity.className entity.canonicalName entity.startLine :=
  Definition.id_of_mem_toEntities member

theorem message_eq_of_mem_candidates (member : entity ∈ parsed.candidates) :
    entity.message parsed.file.repositoryId =
      Identifier.entityMessage parsed.file.repositoryId parsed.file.relativePath entity.className
        entity.canonicalName entity.startLine := by
  rw [Entity.message, (Definition.fileId_of_mem_toEntities member).2]

theorem holdsNoZero_className (member : entity ∈ parsed.candidates) :
    HoldsNoZero entity.className :=
  Definition.holdsNoZero_className_of_mem_toEntities member

theorem holdsNoZero_canonicalName (clean : HoldsNoZero parsed.file.relativePath)
    (member : entity ∈ parsed.candidates) : HoldsNoZero entity.canonicalName :=
  Definition.holdsNoZero_canonicalName_of_mem_toEntities clean
    (fun _ isDefinition => Extraction.isNamed_of_mem_definitionsIn isDefinition) member

/-- Without a collision entities with one identifier have one message. -/
theorem message_eq_of_id_eq {other : ParsedFile} {second : Entity}
    {messages : List (List UInt8)} (free : Digest.CollisionFree messages)
    (inside : parsed.messages ⊆ messages) (otherInside : other.messages ⊆ messages)
    (member : entity ∈ parsed.candidates) (otherMember : second ∈ other.candidates)
    (same : entity.id = second.id) :
    entity.message parsed.file.repositoryId = second.message other.file.repositoryId := by
  refine free _ (inside (message_mem member)) _ (otherInside (message_mem otherMember)) ?_
  rw [id_eq_of_mem_candidates member, id_eq_of_mem_candidates otherMember] at same
  rw [message_eq_of_mem_candidates member, message_eq_of_mem_candidates otherMember]
  exact Identifier.sha256_eq_of_entity_eq same

/-- Without a collision entities with different messages are all kept. -/
theorem entities_eq_candidates (free : Digest.CollisionFree parsed.messages)
    (distinct : parsed.messages.Nodup) : parsed.entities = parsed.candidates := by
  refine Entity.distinct_eq_self (List.pairwise_map.mpr ?_)
  refine (List.pairwise_map.mp distinct).imp_of_mem fun member otherMember different same => ?_
  exact different (message_eq_of_id_eq free (List.Subset.refl _) (List.Subset.refl _) member
    otherMember same)

section

variable {definitions : List Definition}

theorem messages_eq (found : parsed.definitions = definitions) :
    parsed.messages = (Definition.toEntities parsed.file parsed.source definitions).map
      (Entity.message parsed.file.repositoryId) := by
  rw [messages, candidates, found]

theorem entities_eq_toEntities (found : parsed.definitions = definitions)
    (free : Digest.CollisionFree parsed.messages) (distinct : parsed.messages.Nodup) :
    parsed.entities = Definition.toEntities parsed.file parsed.source definitions := by
  rw [entities_eq_candidates free distinct, candidates, found]

end

/-- Entities of one file with one identifier have the same class and the same name. -/
theorem names_eq_of_id_eq {second : Entity} (free : Digest.CollisionFree parsed.messages)
    (member : entity ∈ parsed.candidates) (otherMember : second ∈ parsed.candidates)
    (same : entity.id = second.id) :
    entity.className = second.className ∧ entity.canonicalName = second.canonicalName := by
  have sameMessage := message_eq_of_id_eq free (List.Subset.refl _) (List.Subset.refl _) member
    otherMember same
  rw [message_eq_of_mem_candidates member, message_eq_of_mem_candidates otherMember] at sameMessage
  exact Identifier.entityMessage_inj (holdsNoZero_className member)
    (holdsNoZero_className otherMember) sameMessage

/-- They have the same measure, too. -/
theorem rank_eq_of_id_eq {second : Entity} (free : Digest.CollisionFree parsed.messages)
    (member : entity ∈ parsed.candidates) (otherMember : second ∈ parsed.candidates)
    (same : entity.id = second.id) : entity.rank = second.rank := by
  have ⟨sameClass, sameName⟩ := names_eq_of_id_eq free member otherMember same
  rw [Entity.rank, Entity.rank, sameClass, sameName]

/-- The parent of an entity is an entity of the same file, and its measure is less. -/
theorem exists_parent {id : String} (free : Digest.CollisionFree parsed.messages)
    (fit : parsed.OwnersFit) (member : entity ∈ parsed.entities)
    (isParent : entity.parentId = some id) :
    ∃ parent ∈ parsed.entities, parent.id = id ∧ parent.rank < entity.rank := by
  obtain ⟨parent, isCandidate, rfl, less⟩ :=
    Definition.exists_parent_of_parentId (mem_candidates member) isParent fit.definitions
  obtain ⟨kept, isKept, same⟩ := Entity.exists_mem_distinct isCandidate
  exact ⟨kept, isKept, same, rank_eq_of_id_eq free (mem_candidates isKept) isCandidate same ▸ less⟩

/-- Entities with one identifier are of one file. -/
theorem file_id_eq_of_id_eq {other : ParsedFile} {second : Entity}
    {messages : List (List UInt8)} (free : Digest.CollisionFree messages)
    (inside : parsed.messages ⊆ messages) (otherInside : other.messages ⊆ messages)
    (clean : HoldsNoZero parsed.file.relativePath)
    (otherClean : HoldsNoZero other.file.relativePath)
    (member : entity ∈ parsed.candidates) (otherMember : second ∈ other.candidates)
    (same : entity.id = second.id) : parsed.file.id = other.file.id := by
  have sameMessage := message_eq_of_id_eq free inside otherInside member otherMember same
  rw [message_eq_of_mem_candidates member, message_eq_of_mem_candidates otherMember] at sameMessage
  have ⟨sameFile, _⟩ := Identifier.parts_eq_of_entityMessage_eq (holdsNoZero_className member)
    (holdsNoZero_className otherMember) (holdsNoZero_canonicalName clean member)
    (holdsNoZero_canonicalName otherClean otherMember) sameMessage
  rw [parsed.identified, other.identified, Identifier.file, Identifier.file, sameFile]

theorem messages_subset {files : List ParsedFile} (member : parsed ∈ files) :
    parsed.messages ⊆ files.flatMap messages :=
  fun _ inside => List.mem_flatMap.mpr ⟨parsed, member, inside⟩

/-- Entities of files with distinct identifiers have distinct identifiers. -/
theorem nodup_entity_ids {files : List ParsedFile}
    (distinct : (files.map fun parsed => parsed.file.id).Nodup)
    (clean : ∀ parsed ∈ files, HoldsNoZero parsed.file.relativePath)
    (free : Digest.CollisionFree (files.flatMap messages)) :
    ((files.flatMap entities).map Entity.id).Nodup := by
  rw [List.map_flatMap, List.nodup_flatMap]
  refine ⟨fun parsed _ => Entity.nodup_distinct _, ?_⟩
  have apart := List.pairwise_map.mp distinct
  refine apart.imp_of_mem fun {parsed other} member otherMember different id first second => ?_
  obtain ⟨entity, isEntity, rfl⟩ := List.mem_map.mp first
  obtain ⟨otherEntity, isOther, same⟩ := List.mem_map.mp second
  exact different (file_id_eq_of_id_eq free (messages_subset member)
    (messages_subset otherMember) (clean parsed member) (clean other otherMember)
    (mem_candidates isEntity) (mem_candidates isOther) same.symm)

/-- No entity has the identifier of a file. -/
theorem id_ne_file_id {other : ParsedFile} (member : entity ∈ parsed.entities) :
    entity.id ≠ other.file.id := by
  rw [id_eq_of_mem_candidates (mem_candidates member), other.identified]
  exact (Identifier.file_ne_entity _ _ _ _ _ _ _).symm

theorem fileId_eq (member : entity ∈ parsed.entities) : entity.fileId = parsed.file.id :=
  (Definition.fileId_of_mem_toEntities (mem_candidates member)).1

end ParsedFile

end CodeGraph
