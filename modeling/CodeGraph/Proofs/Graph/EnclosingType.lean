/-
This file proves what the search for the type around an entity finds: the first type on the way up
from it, however the parents are linked.

The parents of arbitrary entities may form cycles, so a way up need not end and no measure goes
down. The first type is therefore described by the number of steps up to it
(`EntityList.IsFirstType`), and with some fuel the search finds the first type that is fewer steps
up (`firstType?_eq_some_iff`). It is left to show that the fuel suffices. A search that finds a
type never meets an entity twice, as it would then go around for ever; and every entity it passes
is the one that its own identifier finds. So these entities have different identifiers, and there
are no more of them than identifiers (`length_lt_idCount`).

A search that gives up after as many entities as there are identifiers thus comes to an end on
every cycle and still misses no type, and more fuel never changes the result. The same search is
also written as a loop with a counter (`EntityList.Searches`). What the counter has left is the
fuel, so the loop comes to the same.
-/
import Mathlib.Data.List.Dedup
import CodeGraph.Proofs.Ascent
import CodeGraph.Proofs.Graph.Lookup

namespace CodeGraph.EntityList

variable {entities : EntityList} {entity found : Entity} {here : Option Entity} {fuel : Nat}

/-! ### Identifiers on the way up -/

/-- The number of the identifiers. -/
def idCount (entities : EntityList) : Nat := (entities.map Entity.id).dedup.length

theorem idCount_le_length : entities.idCount ≤ entities.length := by
  have fewer := (List.dedup_sublist (entities.map Entity.id)).length_le
  rwa [List.length_map] at fewer

/-- What the search for a type goes on to from an entity. It ends at a type. -/
def aboveUntilType? (entities : EntityList) (entity : Entity) : Option Entity :=
  if entity.kind.isType then none else entities.parent? entity

/-- A search that finds a type goes up over entities that are found by their identifiers, and it
needs only the fuel for the steps of that way. -/
theorem exists_ascent_of_firstType?
    (isFound : entities.firstType? fuel (some entity) = some found) :
    ∃ way, Ascent entities.aboveUntilType? entity way ∧
      (∀ other ∈ way, entities.withId? other.id = some other) ∧
      entities.firstType? (way.length + 1) (some entity) = some found := by
  induction fuel generalizing entity with
  | zero => cases isFound
  | succ fuel inductionHypothesis =>
    rw [firstType?] at isFound
    by_cases isType : entity.kind.isType
    · refine ⟨[], .top (if_pos isType), List.forall_mem_nil _, ?_⟩
      rw [List.length_nil, firstType?, if_pos isType]
      rwa [if_pos isType] at isFound
    · rw [if_neg isType] at isFound
      cases isParent : entities.parent? entity with
      | none =>
        rw [isParent] at isFound
        cases fuel <;> cases isFound
      | some parent =>
        rw [isParent] at isFound
        obtain ⟨way, ascent, indexed, enough⟩ := inductionHypothesis isFound
        refine ⟨parent :: way, .step ((if_neg isType).trans isParent) ascent, ?_, ?_⟩
        · exact List.forall_mem_cons.mpr ⟨withId?_of_parent? isParent, indexed⟩
        · rw [List.length_cons, firstType?, if_neg isType, isParent]
          exact enough

/-- Entities that are found by their identifiers differ in them, so a way up over such entities is
shorter than the list of the identifiers. -/
theorem length_lt_idCount {above? : Entity → Option Entity} {way : List Entity}
    (ascent : Ascent above? entity way)
    (indexed : ∀ other ∈ entity :: way, entities.withId? other.id = some other) :
    way.length < entities.idCount := by
  have distinct : ((entity :: way).map Entity.id).Nodup := by
    refine List.Nodup.map_on (fun left leftMember right rightMember same => ?_) ascent.nodup
    refine Option.some.inj ((indexed left leftMember).symm.trans ?_)
    rw [same, indexed right rightMember]
  have inside : (entity :: way).map Entity.id ⊆ (entities.map Entity.id).dedup := by
    intro id member
    obtain ⟨other, isOther, rfl⟩ := List.mem_map.mp member
    have ⟨isEntity, _⟩ := mem_of_withId? (indexed other isOther)
    exact List.mem_dedup.mpr (List.mem_map_of_mem isEntity)
  have fewer := (List.subperm_of_subset distinct inside).length_le
  rwa [List.length_map, List.length_cons] at fewer

/-! ### Enough fuel -/

/-- A search that finds a type finds it with more fuel as well. -/
theorem firstType?_mono {more : Nat}
    (isFound : entities.firstType? fuel here = some found) (atLeast : fuel ≤ more) :
    entities.firstType? more here = some found := by
  induction fuel generalizing here more with
  | zero => cases isFound
  | succ fuel inductionHypothesis =>
    obtain ⟨more, rfl⟩ := Nat.exists_eq_add_of_le' (Nat.le_of_add_left_le atLeast)
    cases here with
    | none => cases isFound
    | some entity =>
      rw [firstType?] at isFound ⊢
      by_cases isType : entity.kind.isType
      · rwa [if_pos isType] at isFound ⊢
      · rw [if_neg isType] at isFound ⊢
        exact inductionHypothesis isFound (Nat.le_of_succ_le_succ atLeast)

/-- A search from what an identifier finds needs no more fuel than there are identifiers. -/
theorem firstType?_idCount {id : String}
    (isFound : entities.firstType? fuel (entities.withId? id) = some found) :
    entities.firstType? entities.idCount (entities.withId? id) = some found := by
  cases start : entities.withId? id with
  | none =>
    rw [start] at isFound
    cases fuel <;> cases isFound
  | some entity =>
    rw [start] at isFound
    obtain ⟨way, ascent, indexed, isFound⟩ := exists_ascent_of_firstType? isFound
    have isIndexed : entities.withId? entity.id = some entity := (mem_of_withId? start).2 ▸ start
    exact firstType?_mono isFound
      (length_lt_idCount ascent (List.forall_mem_cons.mpr ⟨isIndexed, indexed⟩))

/-- The type around an entity is what the search finds with any fuel that is enough. -/
theorem enclosingType?_eq_of_idCount_le (enough : entities.idCount ≤ fuel) (id : String) :
    entities.enclosingType? id =
      (entities.firstType? fuel (entities.withId? id)).map Entity.simpleName := by
  refine congrArg (Option.map Entity.simpleName) (Option.ext fun found => ?_)
  have atLeast : entities.idCount ≤ entities.length + 1 := Nat.le_succ_of_le idCount_le_length
  exact ⟨fun isFound => firstType?_mono (firstType?_idCount isFound) enough,
    fun isFound => firstType?_mono (firstType?_idCount isFound) atLeast⟩

/-! ### The first type on the way up -/

/-- What is the given number of steps above something. -/
def stepsAbove? (entities : EntityList) : Nat → Option Entity → Option Entity
  | 0, here => here
  | steps + 1, here => entities.stepsAbove? steps (here.bind entities.parent?)

/-- An entity is the first type on the way up, the given number of steps above the start. -/
structure IsFirstType (entities : EntityList) (here : Option Entity) (steps : Nat)
    (found : Entity) : Prop where
  isThere : entities.stepsAbove? steps here = some found
  isType : found.kind.isType
  isFirst : ∀ fewer < steps, ∀ entity ∈ entities.stepsAbove? fewer here, ¬ entity.kind.isType

theorem stepsAbove?_none (steps : Nat) : entities.stepsAbove? steps none = none := by
  induction steps with
  | zero => rfl
  | succ steps inductionHypothesis => exact inductionHypothesis

theorem isFirstType_zero_iff :
    entities.IsFirstType (some entity) 0 found ↔ entity = found ∧ entity.kind.isType := by
  constructor
  · rintro ⟨isThere, isType, -⟩
    obtain rfl := Option.some.inj isThere
    exact ⟨rfl, isType⟩
  · rintro ⟨rfl, isType⟩
    exact ⟨rfl, isType, by simp⟩

theorem isFirstType_succ_iff {steps : Nat} :
    entities.IsFirstType (some entity) (steps + 1) found ↔
      ¬ entity.kind.isType ∧ entities.IsFirstType (entities.parent? entity) steps found := by
  constructor
  · rintro ⟨isThere, isType, isFirst⟩
    refine ⟨isFirst 0 (Nat.zero_lt_succ steps) entity rfl, isThere, isType, fun fewer less => ?_⟩
    exact isFirst (fewer + 1) (Nat.succ_lt_succ less)
  · rintro ⟨noType, isThere, isType, isFirst⟩
    refine ⟨isThere, isType, fun fewer less => ?_⟩
    cases fewer with
    | zero => exact fun other same => Option.some.inj same ▸ noType
    | succ fewer => exact isFirst fewer (Nat.lt_of_succ_lt_succ less)

/-- Two first types are equally far up. -/
theorem IsFirstType.steps_unique {steps others : Nat} {other : Entity}
    (first : entities.IsFirstType here steps found)
    (second : entities.IsFirstType here others other) : steps = others := by
  rcases Nat.lt_trichotomy steps others with less | same | more
  · exact absurd first.isType (second.isFirst steps less found first.isThere)
  · exact same
  · exact absurd second.isType (first.isFirst others more other second.isThere)

/-- Where there is a type on the way up there is a first one. -/
theorem exists_isFirstType {steps : Nat} (isThere : entities.stepsAbove? steps here = some entity)
    (isType : entity.kind.isType) : ∃ fewer first, entities.IsFirstType here fewer first := by
  induction steps generalizing here with
  | zero => exact ⟨0, entity, isThere, isType, by simp⟩
  | succ steps inductionHypothesis =>
    cases here with
    | none => cases (stepsAbove?_none (steps + 1)).symm.trans isThere
    | some start =>
      by_cases startType : start.kind.isType
      · exact ⟨0, start, isFirstType_zero_iff.mpr ⟨rfl, startType⟩⟩
      · obtain ⟨fewer, first, isFirst⟩ := inductionHypothesis isThere
        exact ⟨fewer + 1, first, isFirstType_succ_iff.mpr ⟨startType, isFirst⟩⟩

/-- With some fuel the search finds the first type that is fewer steps up. -/
theorem firstType?_eq_some_iff :
    entities.firstType? fuel here = some found ↔
      ∃ steps < fuel, entities.IsFirstType here steps found := by
  induction fuel generalizing here with
  | zero => simp [firstType?]
  | succ fuel inductionHypothesis =>
    cases here with
    | none =>
      refine iff_of_false (fun isFound => nomatch isFound) ?_
      rintro ⟨steps, -, isThere, -⟩
      cases (stepsAbove?_none steps).symm.trans isThere
    | some entity =>
      rw [firstType?, Nat.exists_lt_succ_left]
      simp only [isFirstType_zero_iff, isFirstType_succ_iff]
      by_cases isType : entity.kind.isType
      · simp [isType]
      · simp [isType, inductionHypothesis]

/-! ### The search as a loop -/

/-- A search with a counter: it goes up until it meets a type or nothing, and it gives up when it
has passed more entities than there are identifiers. -/
inductive Searches (entities : EntityList) : Nat → Option Entity → Option String → Prop
  | nothing {passed : Nat} : Searches entities passed none none
  | type {passed : Nat} {entity : Entity} (isType : entity.kind.isType) :
      Searches entities passed (some entity) (some entity.simpleName)
  | giveUp {passed : Nat} {entity : Entity} (noType : ¬ entity.kind.isType)
      (tooMany : entities.idCount < passed + 1) : Searches entities passed (some entity) none
  | up {passed : Nat} {entity : Entity} {result : Option String} (noType : ¬ entity.kind.isType)
      (notTooMany : passed + 1 ≤ entities.idCount)
      (rest : Searches entities (passed + 1) (entities.parent? entity) result) :
      Searches entities passed (some entity) result

theorem searches_none_iff {passed : Nat} {result : Option String} :
    entities.Searches passed none result ↔ result = none := by
  refine ⟨fun searches => ?_, fun same => same ▸ .nothing⟩
  cases searches
  rfl

theorem searches_some_iff {passed : Nat} {result : Option String} :
    entities.Searches passed (some entity) result ↔
      if entity.kind.isType then result = some entity.simpleName
      else if entities.idCount < passed + 1 then result = none
      else entities.Searches (passed + 1) (entities.parent? entity) result := by
  constructor
  · intro searches
    cases searches with
    | type isType => exact (if_pos isType).mpr rfl
    | giveUp noType tooMany => rw [if_neg noType, if_pos tooMany]
    | up noType notTooMany rest => rwa [if_neg noType, if_neg (Nat.not_lt.mpr notTooMany)]
  · intro result
    split at result
    · next isType => exact result ▸ .type isType
    · next noType =>
      split at result
      · next tooMany => exact result ▸ .giveUp noType tooMany
      · next notTooMany => exact .up noType (Nat.not_lt.mp notTooMany) result

/-- What the counter has left until the search gives up is the fuel. -/
theorem searches_iff {passed left : Nat} {result : Option String}
    (counted : passed + left = entities.idCount) :
    entities.Searches passed here result ↔
      result = (entities.firstType? (left + 1) here).map Entity.simpleName := by
  induction left generalizing passed here with
  | zero =>
    cases here with
    | none => exact searches_none_iff
    | some entity =>
      rw [searches_some_iff, if_pos (show entities.idCount < passed + 1 by omega), firstType?]
      split <;> rfl
  | succ left inductionHypothesis =>
    cases here with
    | none => exact searches_none_iff
    | some entity =>
      rw [searches_some_iff, if_neg (show ¬ entities.idCount < passed + 1 by omega),
        inductionHypothesis (by omega), firstType?]
      split <;> rfl

/-! ### What the search finds -/

/-- The type around an identifier is the first type on the way up from it, whether or not the way
comes to an end; there is none exactly if no entity on the way is a type. The first type is fewer
steps up than there are identifiers. So the search that gives up after as many entities ends on
every list of entities, and it comes to the same. -/
theorem enclosingType?_is_first (entities : EntityList) (id : String) :
    (∀ name, entities.enclosingType? id = some name ↔
      ∃ steps found, entities.IsFirstType (entities.withId? id) steps found ∧
        found.simpleName = name) ∧
    (entities.enclosingType? id = none ↔
      ∀ steps, ∀ entity ∈ entities.stepsAbove? steps (entities.withId? id),
        ¬ entity.kind.isType) ∧
    (∀ steps found, entities.IsFirstType (entities.withId? id) steps found →
      steps < entities.idCount) ∧
    ∀ result, entities.Searches 0 (entities.withId? id) result ↔
      result = entities.enclosingType? id := by
  have isFirst {steps : Nat} {found : Entity}
      (first : entities.IsFirstType (entities.withId? id) steps found) :
      entities.firstType? entities.idCount (entities.withId? id) = some found :=
    firstType?_idCount (firstType?_eq_some_iff.mpr ⟨steps, Nat.lt_succ_self steps, first⟩)
  refine ⟨fun name => ?_, ?_, fun steps found first => ?_, fun result => ?_⟩
  · rw [enclosingType?_eq_of_idCount_le (Nat.le_refl _), Option.map_eq_some_iff]
    constructor
    · rintro ⟨found, isFound, named⟩
      obtain ⟨steps, _, first⟩ := firstType?_eq_some_iff.mp isFound
      exact ⟨steps, found, first, named⟩
    · rintro ⟨steps, found, first, named⟩
      exact ⟨found, isFirst first, named⟩
  · rw [enclosingType?_eq_of_idCount_le (Nat.le_refl _), Option.map_eq_none_iff]
    constructor
    · intro notFound steps entity isThere isType
      obtain ⟨_, _, first⟩ := exists_isFirstType isThere isType
      cases notFound.symm.trans (isFirst first)
    · intro noTypes
      refine Option.eq_none_iff_forall_ne_some.mpr fun found isFound => ?_
      obtain ⟨steps, _, first⟩ := firstType?_eq_some_iff.mp isFound
      exact noTypes steps found first.isThere first.isType
  · obtain ⟨others, less, second⟩ := firstType?_eq_some_iff.mp (isFirst first)
    rwa [first.steps_unique second]
  · rw [searches_iff (Nat.zero_add _), enclosingType?_eq_of_idCount_le (Nat.le_succ _)]

end CodeGraph.EntityList
