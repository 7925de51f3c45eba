/-
This file relates the two notions of what an entity is: the kind of its construct, and its class.

The class is that of the kind, but a function of a type is a method (`Entity.FitsKind`). No kind
has the name of methods, and no two kinds have one name. So the class determines the kind, and two
entities with one identifier are of one kind as long as the digest has no collision, because the
class is a part of the message. That is why a function whose parent turns out to be a type is a
method. The class was given when the parent was a definition, by the kind of that definition; the
entity that is kept for it may be made of another definition, but it is of the same kind
(`ParsedFile.isMethod_of_parentId`).
-/
import CodeGraph.Proofs.Extraction.Observations

namespace CodeGraph

theorem Construct.ofName?_name (kind : Construct) : ofName? kind.name = some kind := by
  cases kind <;> decide

theorem Construct.name_injective {left right : Construct} (same : left.name = right.name) :
    left = right := by
  have sameKind := congrArg ofName? same
  rw [ofName?_name, ofName?_name] at sameKind
  exact Option.some.inj sameKind

theorem Construct.name_ne_method (kind : Construct) : kind.name ≠ Term.methodDefinition := by
  cases kind <;> decide

/-! ### Classes of kinds -/

namespace Entity

/-- The class of an entity is that of its kind, or it is a method. -/
def FitsKind (entity : Entity) : Prop :=
  entity.className = entity.kind.name ∨
    (entity.kind = .functionDefinition ∧ entity.className = Term.methodDefinition)

variable {left right : Entity}

/-- Entities of one class are of one kind. -/
theorem FitsKind.kind_eq (first : left.FitsKind) (second : right.FitsKind)
    (same : left.className = right.className) : left.kind = right.kind := by
  rcases first with ofKind | ⟨isFunction, isMethod⟩
  · rcases second with otherOfKind | ⟨_, otherIsMethod⟩
    · refine Construct.name_injective ?_
      rw [← ofKind, ← otherOfKind, same]
    · exact absurd (ofKind.symm.trans (same.trans otherIsMethod)) left.kind.name_ne_method
  · rcases second with otherOfKind | ⟨otherIsFunction, _⟩
    · exact absurd (otherOfKind.symm.trans (same.symm.trans isMethod)) right.kind.name_ne_method
    · rw [isFunction, otherIsFunction]

/-- A kind other than that of functions determines the class. -/
theorem FitsKind.className_eq (fits : left.FitsKind)
    (notFunction : left.kind ≠ .functionDefinition) : left.className = left.kind.name := by
  rcases fits with ofKind | ⟨isFunction, _⟩
  · exact ofKind
  · exact absurd isFunction notFunction

theorem FitsKind.isFunction_iff (fits : left.FitsKind) :
    left.isFunction ↔ left.kind = .functionDefinition := by
  rw [isFunction, Bool.or_eq_true, beq_iff_eq, beq_iff_eq]
  rcases fits with ofKind | ⟨ofFunction, isMethod⟩
  · rw [ofKind, or_iff_left left.kind.name_ne_method]
    exact ⟨@Construct.name_injective left.kind .functionDefinition, congrArg Construct.name⟩
  · exact iff_of_true (.inr isMethod) ofFunction

end Entity

namespace Definition

variable {file : SourceFile} {source : SourceText} {definitions : List Definition}

theorem fitsKind_of_mem_toEntities
    (noReference : ∀ definition ∈ definitions, definition.kind.isReference = false)
    {entity : Entity} (member : entity ∈ toEntities file source definitions) :
    entity.FitsKind := by
  obtain ⟨index, definition, isDefinition, rfl⟩ := exists_of_mem_toEntities member
  have hasClass : Term.classOf? definition.kind = some definition.kind.name := by
    rw [Term.classOf?, noReference definition (List.mem_of_getElem? isDefinition)]
    rfl
  rw [Entity.FitsKind, className_entityAt, className]
  split
  · next isMethod => exact .inr ⟨isMethod.1, rfl⟩
  · refine .inl ?_
    rw [hasClass]
    rfl

/-- A function in a type is a method. -/
theorem exists_parent_of_function {child : Entity} {id : String}
    (member : child ∈ toEntities file source definitions)
    (isFunction : child.kind = .functionDefinition) (isParent : child.parentId = some id) :
    ∃ parent ∈ toEntities file source definitions, parent.id = id ∧
      (parent.kind.isType → child.className = Term.methodDefinition) := by
  obtain ⟨index, place, definition, around, _, rfl, isPlace, isAround, same⟩ :=
    exists_of_parentId member isParent
  refine ⟨_, entityAt_mem_toEntities isAround, same, fun isType => ?_⟩
  have inType : isTypeAt definitions ((parents definitions).parent? index) := by
    rw [isTypeAt, isPlace, Option.bind_some, isAround]
    exact isType
  rw [className_entityAt]
  exact if_pos ⟨isFunction, .inl inType⟩

end Definition

/-! ### Parsed files -/

namespace ParsedFile

variable {parsed other : ParsedFile} {entity second : Entity} {messages : List (List UInt8)}

/-- What is observed in the file. -/
def observations (parsed : ParsedFile) : List Observation := parsed.extraction.observations

theorem fitsKind (member : entity ∈ parsed.candidates) : entity.FitsKind :=
  Definition.fitsKind_of_mem_toEntities
    (fun _ isDefinition => (Extraction.isNamed_of_mem_definitionsIn isDefinition).notReference)
    member

/-- Entities with one identifier are of one kind. -/
theorem kind_eq_of_id_eq (free : Digest.CollisionFree messages)
    (inside : parsed.messages ⊆ messages) (otherInside : other.messages ⊆ messages)
    (clean : HoldsNoZero parsed.file.relativePath)
    (otherClean : HoldsNoZero other.file.relativePath)
    (member : entity ∈ parsed.candidates) (otherMember : second ∈ other.candidates)
    (same : entity.id = second.id) : entity.kind = second.kind := by
  have sameMessage := message_eq_of_id_eq free inside otherInside member otherMember same
  rw [message_eq_of_mem_candidates member, message_eq_of_mem_candidates otherMember] at sameMessage
  have ⟨_, sameClass, _⟩ := Identifier.parts_eq_of_entityMessage_eq (holdsNoZero_className member)
    (holdsNoZero_className otherMember) (holdsNoZero_canonicalName clean member)
    (holdsNoZero_canonicalName otherClean otherMember) sameMessage
  exact (fitsKind member).kind_eq (fitsKind otherMember) sameClass

/-- A function that names a type as its parent is a method. -/
theorem isMethod_of_parentId (free : Digest.CollisionFree messages)
    (inside : parsed.messages ⊆ messages) (otherInside : other.messages ⊆ messages)
    (clean : HoldsNoZero parsed.file.relativePath)
    (otherClean : HoldsNoZero other.file.relativePath)
    (member : entity ∈ parsed.entities) (isFunction : entity.kind = .functionDefinition)
    (otherMember : second ∈ other.entities) (isType : second.kind.isType)
    (isParent : entity.parentId = some second.id) :
    entity.className = Term.methodDefinition := by
  obtain ⟨parent, isCandidate, same, promotes⟩ :=
    Definition.exists_parent_of_function (mem_candidates member) isFunction isParent
  -- The entity that is found may have been made of another definition with the same identifier.
  have sameKind : parent.kind = second.kind :=
    kind_eq_of_id_eq free inside otherInside clean otherClean isCandidate
      (mem_candidates otherMember) same
  rw [← sameKind] at isType
  exact promotes isType

theorem fileId_of_mem_observations {observation : Observation}
    (member : observation ∈ parsed.observations) : observation.fileId = parsed.file.id :=
  (Reference.sourceId_of_mem_toObservations member).2

/-- An import is observed of the file. -/
theorem sourceId_of_import {observation : Observation}
    (member : observation ∈ parsed.observations) (isImport : observation.kind = .import) :
    observation.sourceId = parsed.file.id := by
  obtain ⟨reference, _, isObservation⟩ := Reference.mem_toObservations_iff.mp member
  obtain ⟨sourceId, isSource, rfl⟩ := Option.map_eq_some_iff.mp isObservation
  have ofImport : reference.kind = .import := isImport
  rw [Reference.sourceId?, ofImport] at isSource
  exact (Option.some.inj isSource).symm

end ParsedFile

end CodeGraph
