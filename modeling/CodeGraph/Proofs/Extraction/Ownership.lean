/-
This file proves where methods and supertypes go that name the type they belong to.

Owners are linked one after the other, and each link looks at the parents as they are by then. So
the table of parents is cut at one definition: before its own link it has its lexical parent, the
links of the others do not touch it, and after its own link it keeps what it was given. What
decides is the table at that moment (`Definition.parentsBefore`), and by it the parent of a
definition with an owner is known (`Definition.parent?_parents_eq`).

Among the types with the name of an owner the search takes the first one that stands where the
method does, and if there is none, the first one of the file. A search that falls back on the first
item ends there exactly if that one is accepted or none is; that is the condition `FirstIsMeant`. A
supertype is looked up without regard to where it stands and always goes to the first type of the
file. So a method and a supertype with one owner go to one type exactly if the first type of that
name is the one that is meant where the method stands (`inherits_where_attached_iff`). Two types of
one name in different scopes show that they may part.
-/
import CodeGraph.Proofs.Extraction.Observations
import CodeGraph.Proofs.Extraction.ParentForest

namespace CodeGraph.Definition

open ParentTable

variable {definitions : List Definition} {index : Nat}

/-! ### Links one after the other -/

section

variable {parents : ParentTable}

theorem parent?_linkOwner_of_ne {entry : Definition × Nat} (different : index ≠ entry.2) :
    (linkOwner definitions parents entry).parent? index = parents.parent? index := by
  rcases linkOwner_cases definitions parents entry.1 entry.2 with same | ⟨_, _, _, _, _, _, linked⟩
  · rw [same]
  · rw [linked, parent?_set_of_ne different]

/-- Only a definition with an owner is given another parent. -/
theorem parent?_foldl_linkOwner_of_unowned {entries : List (Definition × Nat)}
    (unowned : ∀ entry ∈ entries, entry.2 = index → entry.1.owner = none) :
    (entries.foldl (linkOwner definitions) parents).parent? index = parents.parent? index := by
  induction entries generalizing parents with
  | nil => rfl
  | cons entry rest inductionHypothesis =>
    have ⟨unownedHere, unownedLater⟩ := List.forall_mem_cons.mp unowned
    rw [List.foldl_cons, inductionHypothesis unownedLater]
    by_cases same : entry.2 = index
    · rw [linkOwner, unownedHere same]
    · exact parent?_linkOwner_of_ne (Ne.symm same)

/-- Links of other definitions leave the parent of a definition as it is. -/
theorem parent?_foldl_linkOwner_of_ne {entries : List (Definition × Nat)}
    (different : ∀ entry ∈ entries, index ≠ entry.2) :
    (entries.foldl (linkOwner definitions) parents).parent? index = parents.parent? index :=
  parent?_foldl_linkOwner_of_unowned fun entry member same =>
    absurd same.symm (different entry member)

end

/-- The parents of definitions once the owners of those before a place are linked. -/
def parentsBefore (definitions : List Definition) (index : Nat) : ParentTable :=
  (definitions.zipIdx.take index).foldl (linkOwner definitions) (lexicalParents definitions)

private theorem isForest_and_length_parentsBefore (definitions : List Definition) (index : Nat) :
    IsForest (parentsBefore definitions index) ∧
      (parentsBefore definitions index).length = definitions.length :=
  isForest_foldl_linkOwner (isForest_lexicalParents definitions)
    (length_parentsWithin 0 [] definitions)
    fun _ member => (List.mem_zipIdx' (List.mem_of_mem_take member)).1

/-- The parents are a forest whichever owners are linked already. -/
theorem isForest_parentsBefore (definitions : List Definition) (index : Nat) :
    IsForest (parentsBefore definitions index) :=
  (isForest_and_length_parentsBefore definitions index).1

theorem length_parentsBefore (definitions : List Definition) (index : Nat) :
    (parentsBefore definitions index).length = definitions.length :=
  (isForest_and_length_parentsBefore definitions index).2

/-- Until its owner is linked a definition has its lexical parent. -/
theorem parent?_parentsBefore_self (definitions : List Definition) (index : Nat) :
    (parentsBefore definitions index).parent? index =
      (lexicalParents definitions).parent? index := by
  refine parent?_foldl_linkOwner_of_ne fun entry member => ?_
  obtain ⟨place, isPlace⟩ := List.mem_iff_getElem?.mp member
  rw [List.getElem?_take] at isPlace
  split at isPlace
  · next before =>
    rw [List.getElem?_zipIdx] at isPlace
    obtain ⟨_, _, rfl⟩ := Option.map_eq_some_iff.mp isPlace
    simp only
    omega
  · cases isPlace

theorem zipIdx_split {definition : Definition}
    (isDefinition : definitions[index]? = some definition) :
    definitions.zipIdx =
      definitions.zipIdx.take index ++
        (definition, index) :: definitions.zipIdx.drop (index + 1) := by
  have inside : index < definitions.zipIdx.length := by
    rw [List.length_zipIdx]
    exact (List.getElem?_eq_some_iff.mp isDefinition).1
  have entry : definitions.zipIdx[index] = (definition, index) := by
    have found := List.getElem?_zipIdx (l := definitions) (i := 0) (j := index)
    rw [isDefinition, List.getElem?_eq_getElem inside, Nat.zero_add] at found
    exact Option.some.inj found
  calc definitions.zipIdx
    _ = definitions.zipIdx.take index ++ definitions.zipIdx.drop index :=
      (List.take_append_drop index _).symm
    _ = _ := by rw [List.drop_eq_getElem_cons inside, entry]

/-- Once its owner is linked a definition keeps its parent. -/
theorem parent?_parents_eq {definition : Definition}
    (isDefinition : definitions[index]? = some definition) :
    (parents definitions).parent? index =
      (linkOwner definitions (parentsBefore definitions index) (definition, index)).parent?
        index := by
  have linked : parents definitions =
      (definitions.zipIdx.drop (index + 1)).foldl (linkOwner definitions)
        (linkOwner definitions (parentsBefore definitions index) (definition, index)) :=
    (congrArg (List.foldl (linkOwner definitions) (lexicalParents definitions))
      (zipIdx_split isDefinition)).trans List.foldl_append
  rw [linked]
  refine parent?_foldl_linkOwner_of_ne fun later member => ?_
  obtain ⟨place, isPlace⟩ := List.mem_iff_getElem?.mp member
  rw [List.getElem?_drop, List.getElem?_zipIdx] at isPlace
  obtain ⟨_, _, rfl⟩ := Option.map_eq_some_iff.mp isPlace
  simp only
  omega

/-- A method that stands outside of all types and goes to the type at a place by its owner. -/
structure IsAttached (definitions : List Definition) (index : Nat) (method : Definition)
    (owner : String) (place : Nat) : Prop where
  isDefinition : definitions[index]? = some method
  isFunction : method.kind = .functionDefinition
  isOwned : method.owner = some owner
  outside : isTypeAt definitions ((lexicalParents definitions).parent? index) = false
  isParent : (parents definitions).parent? index = some place
  isType : isTypeAt definitions (some place)

namespace IsAttached

variable {method : Definition} {owner : String} {place : Nat}

theorem not_isType (attached : IsAttached definitions index method owner place) :
    isTypeAt definitions (some index) = false := by
  rw [isTypeAt, Option.bind_some, attached.isDefinition, Option.any_some, attached.isFunction]
  rfl

/-- The type that a method goes to is the one that its owner means when it is linked. -/
theorem ownerIndex?_eq (attached : IsAttached definitions index method owner place) :
    ownerIndex? definitions (parentsBefore definitions index) index owner = some place := by
  have isParent := attached.isParent
  have outside := attached.outside
  rw [parent?_parents_eq attached.isDefinition] at isParent
  rcases linkOwner_cases definitions (parentsBefore definitions index) method index with
    same | ⟨otherOwner, target, isOther, _, isTarget, _, linked⟩
  -- Without a link the method would keep the parent it has by its place, which is no type.
  · rw [same, parent?_parentsBefore_self] at isParent
    rw [isParent, attached.isType] at outside
    cases outside
  · have inside : index < (parentsBefore definitions index).length := by
      rw [length_parentsBefore]
      exact (List.getElem?_eq_some_iff.mp attached.isDefinition).1
    rw [linked, parent?_set_self inside] at isParent
    obtain rfl : otherOwner = owner := Option.some.inj (isOther.symm.trans attached.isOwned)
    exact isTarget.trans isParent

end IsAttached

/-! ### The type that is meant -/

/-- Whether a definition is a type with a name. -/
def isTypeNamed (name : String) (definition : Definition) : Bool :=
  definition.kind.isType && definition.name == name

/-- The place of the first type with a name. -/
def firstTypeNamed? (definitions : List Definition) (name : String) : Option Nat :=
  definitions.findIdx? (isTypeNamed name)

/-- Whether the first type with a name is the one that is meant where a definition stands: it stands
in the same scope, or no type with that name does. -/
def FirstIsMeant (definitions : List Definition) (index : Nat) (name : String) : Prop :=
  (∀ first, firstTypeNamed? definitions name = some first →
      (parentsBefore definitions index).parent? first =
        (lexicalParents definitions).parent? index) ∨
    ∀ place definition, definitions[place]? = some definition → definition.isTypeNamed name →
      (parentsBefore definitions index).parent? place ≠ (lexicalParents definitions).parent? index

/-- What is no type itself may be owned by each type of that name. -/
theorem typesNamed_of_not_isType {name : String}
    (notType : isTypeAt definitions (some index) = false) :
    typesNamed definitions name index =
      (definitions.zipIdx.filter fun entry => entry.1.isTypeNamed name).map Prod.snd := by
  rw [typesNamed]
  refine congrArg _ (List.filter_congr fun (definition, place) member => ?_)
  have isDefinition := List.mem_zipIdx_iff_getElem?.mp member
  by_cases same : place = index
  · subst same
    have notType : definition.kind.isType = false := by
      rwa [isTypeAt, Option.bind_some, isDefinition, Option.any_some] at notType
    simp [isTypeNamed, notType]
  · simp [isTypeNamed, bne_iff_ne.mpr same]

theorem mem_typesNamed_iff {name : String} {place : Nat}
    (notType : isTypeAt definitions (some index) = false) :
    place ∈ typesNamed definitions name index ↔
      ∃ definition, definitions[place]? = some definition ∧ definition.isTypeNamed name := by
  rw [typesNamed_of_not_isType notType, List.mem_map]
  constructor
  · rintro ⟨⟨definition, _⟩, member, rfl⟩
    have ⟨isEntry, named⟩ := List.mem_filter.mp member
    exact ⟨definition, List.mem_zipIdx_iff_getElem?.mp isEntry, named⟩
  · rintro ⟨definition, isDefinition, named⟩
    exact ⟨(definition, place), List.mem_filter.mpr
      ⟨List.mem_zipIdx_iff_getElem?.mpr isDefinition, named⟩, rfl⟩

theorem head?_typesNamed {name : String} (notType : isTypeAt definitions (some index) = false) :
    (typesNamed definitions name index).head? = firstTypeNamed? definitions name := by
  rw [typesNamed_of_not_isType notType, List.head?_map, List.head?_filter, firstTypeNamed?,
    List.findIdx?_eq_fst_find?_zipIdx]

/-- A search that falls back on the first item ends there exactly if that item is accepted or none
is. -/
theorem find?_or_head?_eq_iff {item : Type} {accept : item → Bool} {items : List item} :
    (items.find? accept).or items.head? = items.head? ↔
      (∀ first, items.head? = some first → accept first) ∨ ∀ entry ∈ items, ¬accept entry := by
  cases found : items.find? accept with
  | none =>
    rw [Option.none_or]
    exact ⟨fun _ => .inr (List.find?_eq_none.mp found), fun _ => rfl⟩
  | some entry =>
    have accepted := List.find?_some found
    have isItem := List.mem_of_find?_eq_some found
    rw [Option.some_or]
    constructor
    · intro isFirst
      exact .inl fun first same => Option.some.inj (isFirst.trans same) ▸ accepted
    · rintro (firstAccepted | noneAccepted)
      · cases items with
        | nil => cases isItem
        | cons head rest =>
          rw [List.find?_cons_of_pos (firstAccepted head rfl)] at found
          exact found.symm
      · exact absurd accepted (noneAccepted entry isItem)

/-- An owner means the first type of its name exactly if that is the one that is meant where the
definition stands. -/
theorem ownerIndex?_eq_first_iff {owner : String}
    (notType : isTypeAt definitions (some index) = false) :
    ownerIndex? definitions (parentsBefore definitions index) index owner =
        firstTypeNamed? definitions owner ↔
      FirstIsMeant definitions index owner := by
  rw [ownerIndex?, parent?_parentsBefore_self, ← head?_typesNamed notType, find?_or_head?_eq_iff,
    FirstIsMeant, head?_typesNamed notType]
  refine or_congr (forall₂_congr fun _ _ => beq_iff_eq) ⟨fun apart place definition isDefinition
    named same => ?_, fun apart place candidate same => ?_⟩
  · exact apart place ((mem_typesNamed_iff notType).mpr ⟨definition, isDefinition, named⟩)
      (beq_iff_eq.mpr same)
  · obtain ⟨definition, isDefinition, named⟩ := (mem_typesNamed_iff notType).mp candidate
    exact apart place definition isDefinition named (beq_iff_eq.mp same)

theorem IsAttached.exists_first {method : Definition} {owner : String} {place : Nat}
    (attached : IsAttached definitions index method owner place) :
    ∃ first, firstTypeNamed? definitions owner = some first ∧
      (first = place ↔ FirstIsMeant definitions index owner) := by
  have isOwner := attached.ownerIndex?_eq
  have candidate := mem_typesNamed_of_ownerIndex? isOwner
  have isHead : (typesNamed definitions owner index).head? = firstTypeNamed? definitions owner :=
    head?_typesNamed attached.not_isType
  cases candidates : typesNamed definitions owner index with
  | nil =>
    rw [candidates] at candidate
    cases candidate
  | cons first rest =>
    rw [candidates, List.head?_cons] at isHead
    refine ⟨first, isHead.symm, ?_⟩
    rw [← ownerIndex?_eq_first_iff attached.not_isType, isOwner, ← isHead, Option.some.injEq]
    exact eq_comm

/-! ### Methods and supertypes -/

open Reference

/-- A supertype that names an owner is observed of the first type of that name. -/
theorem exists_observation_of_owner {fileId id : String} {ids : List String} {reference : Reference}
    {owner : String} {first : Nat} (isInheritance : reference.kind = .inheritance)
    (isOwned : reference.owner = some owner)
    (isFirst : firstTypeNamed? definitions owner = some first) (isId : ids[first]? = some id) :
    ∃ observation, toObservation? fileId definitions ids reference = some observation ∧
      observation.sourceId = id := by
  have isSource : sourceId? fileId definitions ids reference = some id := by
    have isFound : definitions.findIdx? (fun definition =>
        definition.kind.isType && definition.name == owner) = some first := isFirst
    rw [sourceId?, isInheritance]
    simp only [isOwned]
    rw [isFound, Option.bind_some, isId]
  rw [toObservation?, isSource]
  exact ⟨_, rfl, rfl⟩

/-- A method goes to the type that its owner means where the method stands, and a supertype with the
same owner is observed of the first type of that name. So they go to one type if the first one is
meant there, and only then. -/
theorem inherits_where_attached_iff (file : SourceFile) (source : SourceText)
    {references : List Reference} {method : Definition} {owner : String} {place : Nat}
    {reference : Reference} (attached : IsAttached definitions index method owner place)
    (isReference : reference ∈ references) (isInheritance : reference.kind = .inheritance)
    (isOwned : reference.owner = some owner) :
    ∃ first, firstTypeNamed? definitions owner = some first ∧
      (first = place ↔ FirstIsMeant definitions index owner) ∧
      (entityAt file source definitions index method).parentId =
        idAt? file source definitions place ∧
      ∃ observation ∈ toObservations file.id definitions
          ((toEntities file source definitions).map Entity.id) references,
        toObservation? file.id definitions ((toEntities file source definitions).map Entity.id)
          reference = some observation ∧
        idAt? file source definitions first = some observation.sourceId ∧
        (FirstIsMeant definitions index owner →
          (entityAt file source definitions index method).parentId =
            some observation.sourceId) := by
  obtain ⟨first, isFirst, meant⟩ := attached.exists_first
  have inside : first < definitions.length := (List.findIdx?_eq_some_iff_getElem.mp isFirst).1
  have isId : idAt? file source definitions first =
      some (entityAt file source definitions first definitions[first]).id := by
    rw [idAt?_eq, List.getElem?_eq_getElem inside]
    rfl
  have isParent : (entityAt file source definitions index method).parentId =
      idAt? file source definitions place := by
    rw [entityAt, attached.isParent, Option.bind_some]
  obtain ⟨observation, isObservation, isSource⟩ :=
    exists_observation_of_owner isInheritance isOwned isFirst ((getElem?_ids first).trans isId)
  rw [← isSource] at isId
  refine ⟨first, isFirst, meant, isParent, observation,
    mem_toObservations_iff.mpr ⟨reference, isReference, isObservation⟩, isObservation, isId,
    fun isMeant => ?_⟩
  rw [isParent, ← meant.mpr isMeant, isId]

/-- A type, and behind it a module with another type and a method that stands outside of it. -/
def typesApart (first second : String) : List Definition :=
  [(.structDefinition, ⟨0, 9⟩, first, none), (.moduleDefinition, ⟨10, 56⟩, "m", none),
    (.structDefinition, ⟨18, 27⟩, second, none),
    (.functionDefinition, ⟨43, 52⟩, "f", some second)].map fun (kind, range, name, owner) =>
      { kind, range, nameRange := none, span := ⟨1, 1⟩, name, owner }

/-- A supertype that stands beside the method. -/
def supertypeOf (owner : String) : Reference :=
  { kind := .inheritance, anchor := 33, nameRange := none, span := ⟨1, 1⟩, target := "T",
    receiver := none, member := none, owner := some owner }

def moduleFile : SourceFile := ⟨"file", "r", "m.rs", none, 57, "SourceCodeFile", "RustCode"⟩

/-- If both types have names of their own, the method and the supertype go to the second one. -/
theorem inherits_where_attached_of_typesApart :
    ∃ observation ∈ toObservations "file" (typesApart "Q" "P")
        ((toEntities moduleFile ⟨[]⟩ (typesApart "Q" "P")).map Entity.id) [supertypeOf "P"],
      idAt? moduleFile ⟨[]⟩ (typesApart "Q" "P") 2 = some observation.sourceId := by
  have attached : IsAttached (typesApart "Q" "P") 3 _ "P" 2 :=
    ⟨rfl, rfl, rfl, by decide +kernel, by decide +kernel, by decide +kernel⟩
  have ⟨_, _, _, isParent, observation, isMember, _, _, same⟩ :=
    inherits_where_attached_iff moduleFile ⟨[]⟩ attached
      (List.mem_singleton_self (supertypeOf "P")) rfl rfl
  have isMeant : FirstIsMeant (typesApart "Q" "P") 3 "P" := by
    refine .inl fun place isFirst => ?_
    have isSecond : firstTypeNamed? (typesApart "Q" "P") "P" = some 2 := by decide +kernel
    rw [isSecond] at isFirst
    obtain rfl := Option.some.inj isFirst
    decide +kernel
  exact ⟨observation, isMember, isParent.symm.trans (same isMeant)⟩

/-- If both types have one name, the method goes to the second one, but the supertype with the same
owner and in the same scope goes to the first one. -/
theorem not_inherits_where_attached_of_typesApart :
    IsAttached (typesApart "P" "P") 3 (typesApart "P" "P")[3] "P" 2 ∧
    (lexicalParents (typesApart "P" "P")).parent? 3 = some 1 ∧
    smallestEnclosing? (typesApart "P" "P") (supertypeOf "P").anchor Construct.isContainer =
      some 1 ∧
    ∃ observation ∈ toObservations "file" (typesApart "P" "P")
        ((toEntities moduleFile ⟨[]⟩ (typesApart "P" "P")).map Entity.id) [supertypeOf "P"],
      idAt? moduleFile ⟨[]⟩ (typesApart "P" "P") 0 = some observation.sourceId ∧
      idAt? moduleFile ⟨[]⟩ (typesApart "P" "P") 2 ≠ some observation.sourceId := by
  refine ⟨⟨rfl, rfl, rfl, by decide +kernel, by decide +kernel, by decide +kernel⟩,
    by decide +kernel, by decide +kernel, ?_⟩
  have isFirst : firstTypeNamed? (typesApart "P" "P") "P" = some 0 := by decide +kernel
  have isId : idAt? moduleFile ⟨[]⟩ (typesApart "P" "P") 0 = some _ := idAt?_eq 0
  have apart : idAt? moduleFile ⟨[]⟩ (typesApart "P" "P") 2 ≠
      idAt? moduleFile ⟨[]⟩ (typesApart "P" "P") 0 := by decide +kernel
  obtain ⟨observation, isObservation, isSource⟩ :=
    @exists_observation_of_owner (typesApart "P" "P") "file" _ _ (supertypeOf "P") "P" 0 rfl rfl
      isFirst ((getElem?_ids 0).trans isId)
  rw [← isSource] at isId
  exact ⟨observation, mem_toObservations_iff.mpr ⟨_, List.mem_singleton_self _, isObservation⟩,
    isId, isId ▸ apart⟩

end CodeGraph.Definition
