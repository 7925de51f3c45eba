/-
This file proves what looking up files and entities gives.

All lookups by a key are one: the last item of a list that has the key (`lastWith?`). Such a lookup
gives an item of the list with that key, and it gives one if there is one. Where no key occurs
twice the item is the only one, so the order of the list does not matter. Files are looked up so by
identifier and by path, entities by identifier, and the parent of an entity is what its parent's
identifier finds.

Entities with a name are listed in the order of their places. Where identifiers are distinct the
places tell entities apart, so the list depends neither on the order of all entities nor on those
of other files: the ones in a file stand in it as they would if there were no other file
(`named_inFile`).
-/
import Mathlib.Data.List.Nodup
import CodeGraph.Graph.Corpus
import CodeGraph.Proofs.Graph.EdgeSet
import CodeGraph.Proofs.Sorting

namespace CodeGraph

variable {item : Type} {keyOf : item → String} {items : List item}

/-- The last item with a key. Files and entities are looked up in this way. -/
def lastWith? (keyOf : item → String) (items : List item) (key : String) : Option item :=
  (items.filter (keyOf · == key)).getLast?

theorem mem_of_lastWith?_eq_some {key : String} {found : item}
    (isFound : lastWith? keyOf items key = some found) : found ∈ items ∧ keyOf found = key := by
  have ⟨member, same⟩ := List.mem_filter.mp (List.mem_of_getLast? isFound)
  exact ⟨member, beq_iff_eq.mp same⟩

theorem lastWith?_eq_none_iff {key : String} :
    lastWith? keyOf items key = none ↔ ∀ entry ∈ items, keyOf entry ≠ key := by
  rw [lastWith?, List.getLast?_eq_none_iff, List.filter_eq_nil_iff]
  simp only [beq_iff_eq, ne_eq]

theorem exists_lastWith?_eq_some {entry : item} (member : entry ∈ items) :
    ∃ found, lastWith? keyOf items (keyOf entry) = some found := by
  cases isFound : lastWith? keyOf items (keyOf entry) with
  | none => exact absurd rfl (lastWith?_eq_none_iff.mp isFound entry member)
  | some found => exact ⟨found, rfl⟩

/-- Where no key occurs twice, the item with a key is found. -/
theorem lastWith?_eq_some_iff (nodup : (items.map keyOf).Nodup) {key : String} {entry : item} :
    lastWith? keyOf items key = some entry ↔ entry ∈ items ∧ keyOf entry = key := by
  refine ⟨mem_of_lastWith?_eq_some, fun ⟨member, same⟩ => ?_⟩
  obtain ⟨found, isFound⟩ := @exists_lastWith?_eq_some _ keyOf _ _ member
  have ⟨foundMember, foundSame⟩ := mem_of_lastWith?_eq_some isFound
  rw [← same, isFound, List.inj_on_of_nodup_map nodup foundMember member foundSame]

/-- Where no key occurs twice, an item is the only one with its key. -/
theorem filter_keyOf_eq_singleton (nodup : (items.map keyOf).Nodup) {entry : item}
    (member : entry ∈ items) : items.filter (keyOf · == keyOf entry) = [entry] := by
  induction items with
  | nil => cases member
  | cons head rest inductionHypothesis =>
    have ⟨new, restNodup⟩ := List.nodup_cons.mp nodup
    rcases List.mem_cons.mp member with rfl | member
    · rw [List.filter_cons, if_pos (beq_self_eq_true _), List.filter_eq_nil_iff.mpr]
      intro other inRest same
      exact new (beq_iff_eq.mp same ▸ List.mem_map_of_mem inRest)
    · rw [List.filter_cons, if_neg, inductionHypothesis restNodup member]
      intro same
      have sameKey : keyOf head = keyOf entry := beq_iff_eq.mp same
      exact new (sameKey ▸ List.mem_map_of_mem member)

/-- Where no key occurs twice, a lookup does not depend on the order. -/
theorem lastWith?_eq_of_perm {others : List item} (nodup : (items.map keyOf).Nodup)
    (perm : items.Perm others) (key : String) :
    lastWith? keyOf items key = lastWith? keyOf others key := by
  refine Option.ext fun entry => ?_
  rw [lastWith?_eq_some_iff nodup, lastWith?_eq_some_iff ((perm.map keyOf).nodup_iff.mp nodup),
    perm.mem_iff]

/-! ### Files -/

namespace FileList

variable {files : FileList} {file : SourceFile}

theorem mem_of_withId? {id : String} (isFound : files.withId? id = some file) :
    file ∈ files ∧ file.id = id := mem_of_lastWith?_eq_some isFound

theorem exists_withId? (member : file ∈ files) : ∃ found, files.withId? file.id = some found :=
  @exists_lastWith?_eq_some _ SourceFile.id _ _ member

theorem mem_of_atPath? {path : String} (isFound : files.atPath? path = some file) :
    file ∈ files ∧ file.relativePath = path := mem_of_lastWith?_eq_some isFound

theorem atPath?_eq_none_iff {path : String} :
    files.atPath? path = none ↔ ∀ file ∈ files, file.relativePath ≠ path := lastWith?_eq_none_iff

theorem atPath?_eq_some_iff (distinct : (files.map SourceFile.relativePath).Nodup) {path : String}
    {file : SourceFile} :
    files.atPath? path = some file ↔ file ∈ files ∧ file.relativePath = path :=
  lastWith?_eq_some_iff distinct

theorem withId?_eq_of_perm {others : FileList} (nodup : (files.map SourceFile.id).Nodup)
    (perm : files.Perm others) : files.withId? = others.withId? :=
  funext (lastWith?_eq_of_perm nodup perm)

theorem atPath?_eq_of_perm {others : FileList} (nodup : (files.map SourceFile.relativePath).Nodup)
    (perm : files.Perm others) : files.atPath? = others.atPath? :=
  funext (lastWith?_eq_of_perm nodup perm)

end FileList

/-! ### Entities -/

namespace EntityList

variable {entities : EntityList} {entity : Entity}

theorem mem_of_withId? {id : String} (isFound : entities.withId? id = some entity) :
    entity ∈ entities ∧ entity.id = id := mem_of_lastWith?_eq_some isFound

theorem exists_withId? (member : entity ∈ entities) :
    ∃ found, entities.withId? entity.id = some found :=
  @exists_lastWith?_eq_some _ Entity.id _ _ member

theorem withId?_eq_of_perm {others : EntityList} (nodup : (entities.map Entity.id).Nodup)
    (perm : entities.Perm others) : entities.withId? = others.withId? :=
  funext (lastWith?_eq_of_perm nodup perm)

/-- The entity that holds an entity is one of the list. -/
theorem mem_of_parent? {parent : Entity} (isParent : entities.parent? entity = some parent) :
    parent ∈ entities ∧ entity.parentId = some parent.id := by
  obtain ⟨id, isId, isFound⟩ := Option.bind_eq_some_iff.mp isParent
  have ⟨member, same⟩ := mem_of_withId? isFound
  exact ⟨member, same ▸ isId⟩

/-- The entity that holds an entity is the one that its identifier finds. -/
theorem withId?_of_parent? {parent : Entity} (isParent : entities.parent? entity = some parent) :
    entities.withId? parent.id = some parent := by
  obtain ⟨id, -, isFound⟩ := Option.bind_eq_some_iff.mp isParent
  rwa [(mem_of_withId? isFound).2]

theorem mem_named {isOfSort : Entity → Bool} {name : String} :
    entity ∈ entities.named isOfSort name ↔
      entity ∈ entities ∧ entity.simpleName = name ∧ isOfSort entity := by
  rw [named, mem_sortBy, List.mem_filter, Bool.and_eq_true, beq_iff_eq]

/-! ### Entities of one file -/

/-- The entities of a file. -/
def inFile (entities : EntityList) (fileId : String) : EntityList :=
  entities.filter (·.fileId == fileId)

theorem mem_inFile {fileId : String} :
    entity ∈ entities.inFile fileId ↔ entity ∈ entities ∧ entity.fileId = fileId := by
  rw [inFile, List.mem_filter, beq_iff_eq]

instance : Std.TransCmp comparePlace := by
  unfold comparePlace
  infer_instance

/-- Entities with distinct identifiers can be told apart by their places. -/
theorem separates_comparePlace (distinct : (entities.map Entity.id).Nodup) :
    Separates comparePlace entities := by
  intro left leftMember right rightMember same
  rw [comparePlace, compareLex_eq_eq, compareLex_eq_eq] at same
  exact List.inj_on_of_nodup_map distinct leftMember rightMember
    ((compareOn_eq_eq_iff Entity.id).mp same.2.2)

/-- The entities of a file that have a name are the same and in the same order, whichever other
files there are. -/
theorem named_inFile (entities : EntityList) (isOfSort : Entity → Bool) (name fileId : String) :
    (entities.inFile fileId).named isOfSort name =
      (entities.named isOfSort name).filter (·.fileId == fileId) := by
  rw [named, named, inFile, filter_sortBy, List.filter_comm]

end EntityList

end CodeGraph
