/-
This file proves what putting an item at a place of a storage does to the other places, and which
of that is worth remembering.

A storage lists what was put into it, and a directory is also there because something lies below
it. So `get?` has two sources, and putting an item can bring a directory into being far above the
place of the item (`get?_put_of_ne`). It cannot do so when the item is put into a directory that is
there: above what is there everything is there (`get?_ne_none_above`), so nothing is left to come
into being (`get?_put_child`). This is the form in which all operations on files use it.

What an operation leaves is said by `KeepsAt`: a place is as it was, or it is a directory where
nothing was. That relation is transitive, it keeps everything that was there, and it cannot be told
from equality when only files and links are looked at (`KeepsAt.fileAt?_eq`).
-/
import CodeGraph.Storage.Basic

namespace CodeGraph.Storage

variable {storage : Storage} {location place : Location} {item : StoredItem}

/-! ### Places -/

theorem isBelow_iff : isBelow place location ↔
    location <+: place ∧ location.length < place.length := by
  rw [isBelow, Bool.and_eq_true, List.isPrefixOf_iff_prefix, decide_eq_true_iff]

theorem lookup_filter_of_ne {entries : List (Location × StoredItem)} (apart : place ≠ location) :
    (entries.filter (·.1 != location)).lookup place = entries.lookup place := by
  induction entries with
  | nil => rfl
  | cons entry rest inductionHypothesis =>
    by_cases same : entry.1 = location
    · have dropped : (entry.1 != location) = false := bne_eq_false_iff_eq.mpr same
      have elsewhere : (place == entry.1) = false := beq_false_of_ne (same ▸ apart)
      rw [List.filter_cons, dropped, if_neg Bool.false_ne_true, inductionHypothesis,
        List.lookup_cons, elsewhere]
    · rw [List.filter_cons, if_pos (bne_iff_ne.mpr same), List.lookup_cons, List.lookup_cons,
        inductionHypothesis]

theorem lookup_put_of_ne (apart : place ≠ location) :
    (storage.put location item).entries.lookup place = storage.entries.lookup place := by
  have elsewhere : List.lookup place [(location, item)] = none := by
    rw [List.lookup_cons, beq_false_of_ne apart]
    rfl
  rw [put, remove, List.lookup_append, lookup_filter_of_ne apart, elsewhere, Option.or_none]

/-- Something stands below a place once an item is put there or has been there before. -/
theorem any_isBelow_put :
    (storage.put location item).entries.any (fun entry => isBelow entry.1 place) =
      (storage.entries.any (fun entry => isBelow entry.1 place) || isBelow location place) := by
  rw [put, remove, List.any_append, Bool.eq_iff_iff]
  simp only [Bool.or_eq_true, List.any_eq_true, List.mem_filter, bne_iff_ne, List.mem_singleton,
    exists_eq_left]
  constructor
  · rintro (⟨entry, ⟨member, -⟩, below⟩ | below)
    · exact .inl ⟨entry, member, below⟩
    · exact .inr below
  · rintro (⟨entry, member, below⟩ | below)
    · by_cases same : entry.1 = location
      · exact .inr (same ▸ below)
      · exact .inl ⟨entry, ⟨member, same⟩, below⟩
    · exact .inr below

theorem lookup_remove_self (storage : Storage) (location : Location) :
    (storage.remove location).entries.lookup location = none := by
  rw [List.lookup_eq_none_iff]
  intro entry member
  have elsewhere := bne_iff_ne.mp (List.mem_filter.mp member).2
  exact bne_iff_ne.mpr (Ne.symm elsewhere)

/-- What is put at a place stands there. -/
theorem get?_put_self (storage : Storage) (location : Location) (item : StoredItem) :
    (storage.put location item).get? location = some item := by
  have found : (storage.put location item).entries.lookup location = some item := by
    rw [put, List.lookup_append, lookup_remove_self, Option.none_or, List.lookup_cons_self]
  rw [get?, found]

/-- What is put at a place changes another one only if that lies above it and nothing was there. -/
theorem get?_put_of_ne (apart : place ≠ location) :
    (storage.put location item).get? place = storage.get? place ∨
      storage.get? place = none ∧ (storage.put location item).get? place = some .directory ∧
        isBelow location place := by
  rw [get?, get?, lookup_put_of_ne apart, any_isBelow_put]
  cases storage.entries.lookup place with
  | some found => exact .inl rfl
  | none =>
    dsimp only
    by_cases held : (place.isEmpty || storage.entries.any fun entry => isBelow entry.1 place) = true
    · rw [← Bool.or_assoc, held]
      exact .inl rfl
    · by_cases below : isBelow location place = true
      · rw [if_neg held, ← Bool.or_assoc, below, Bool.or_true]
        exact .inr ⟨rfl, rfl, rfl⟩
      · rw [Bool.eq_false_iff.mpr below, Bool.or_false]
        exact .inl rfl

/-- What is listed is there. -/
theorem get?_ne_none_of_mem {entry : Location × StoredItem} (member : entry ∈ storage.entries) :
    storage.get? entry.1 ≠ none := by
  rw [get?]
  split
  · exact Option.some_ne_none _
  · next unlisted =>
    exact absurd (List.lookup_eq_none_iff.mp unlisted entry member) (by simp)

/-- What is there is listed, or lies above something that is; the root is always there. -/
theorem exists_mem_entries (present : storage.get? location ≠ none) :
    location = [] ∨ ∃ entry ∈ storage.entries, location <+: entry.1 := by
  rw [get?] at present
  split at present
  · next found isFound =>
    obtain ⟨front, back, spelled, -⟩ := List.lookup_eq_some_iff.mp isFound
    exact .inr ⟨(location, found), spelled ▸ List.mem_append_right _ List.mem_cons_self,
      List.prefix_refl _⟩
  · split at present
    · next held =>
      refine (Bool.or_eq_true_iff.mp held).imp List.isEmpty_iff.mp fun below => ?_
      obtain ⟨entry, member, within⟩ := List.any_eq_true.mp below
      exact ⟨entry, member, (isBelow_iff.mp within).1⟩
    · exact absurd rfl present

/-- Above something there is something. -/
theorem get?_ne_none_above (above : place <+: location)
    (present : storage.get? location ≠ none) : storage.get? place ≠ none := by
  by_cases same : place = location
  · rwa [same]
  have shorter : place.length < location.length :=
    Nat.lt_of_le_of_ne above.length_le fun equal => same (above.eq_of_length equal)
  rcases exists_mem_entries present with rfl | ⟨entry, member, within⟩
  · cases shorter
  · have below : storage.entries.any (fun entry => isBelow entry.1 place) = true :=
      List.any_eq_true.mpr ⟨entry, member, isBelow_iff.mpr
        ⟨above.trans within, Nat.lt_of_lt_of_le shorter within.length_le⟩⟩
    rw [get?]
    split
    · exact Option.some_ne_none _
    · rw [below, Bool.or_true, if_pos rfl]
      exact Option.some_ne_none _

theorem get?_ne_none_of_isDirectory (isThere : storage.isDirectory location = true) :
    storage.get? location ≠ none := by
  rw [isDirectory, beq_iff_eq] at isThere
  rw [isThere]
  exact Option.some_ne_none _

theorem isDirectory_eq_false_of_file {content : List UInt8}
    (isFile : storage.get? location = some (.file content)) :
    storage.isDirectory location = false := by
  rw [isDirectory, isFile]
  rfl

/-- An item that is put into a directory changes no other place. -/
theorem get?_put_child {name : String} (isThere : storage.isDirectory location = true)
    (apart : place ≠ location ++ [name]) :
    (storage.put (location ++ [name]) item).get? place = storage.get? place := by
  rcases @get?_put_of_ne storage _ _ item apart with same | ⟨absent, -, below⟩
  · exact same
  · have above : place <+: location :=
      (List.prefix_concat_iff.mp (isBelow_iff.mp below).1).resolve_left apart
    exact absurd absent (get?_ne_none_above above (get?_ne_none_of_isDirectory isThere))

/-- What is there in a directory has one of its names. -/
theorem mem_names {name : String} (present : storage.get? (location ++ [name]) ≠ none) :
    name ∈ storage.names location := by
  rcases exists_mem_entries present with isRoot | ⟨entry, member, within⟩
  · exact absurd isRoot (List.append_ne_nil_of_right_ne_nil _ (List.cons_ne_nil _ _))
  · obtain ⟨rest, spelled⟩ := within
    have below : isBelow entry.1 location = true := isBelow_iff.mpr
      ⟨⟨[name] ++ rest, by rw [← List.append_assoc, spelled]⟩, by rw [← spelled]; simp⟩
    have named : entry.1[location.length]? = some name := by
      rw [← spelled]
      simp
    rw [names, List.mem_eraseDups]
    exact List.mem_filterMap.mpr ⟨entry, member, by rw [if_pos below, named]⟩

/-! ### What is kept -/

/-- The file or the link at a place. -/
def fileAt? (storage : Storage) (location : Location) : Option StoredItem :=
  (storage.get? location).filter (· != .directory)

/-- Whether a place is left as it is, or becomes a directory where nothing was if that may be. -/
def KeepsAt (mayCreate : Prop) (before after : Storage) (place : Location) : Prop :=
  after.get? place = before.get? place ∨
    mayCreate ∧ before.get? place = none ∧ after.get? place = some .directory

namespace KeepsAt

variable {mayCreate : Prop} {before after final : Storage}

theorem refl (storage : Storage) (place : Location) : KeepsAt mayCreate storage storage place :=
  .inl rfl

theorem trans (first : KeepsAt mayCreate before after place)
    (second : KeepsAt mayCreate after final place) : KeepsAt mayCreate before final place := by
  rcases second with same | ⟨allowed, absent, made⟩
  · rcases first with sameBefore | ⟨allowed, absent, made⟩
    · exact .inl (same.trans sameBefore)
    · exact .inr ⟨allowed, absent, same.trans made⟩
  · rcases first with sameBefore | ⟨-, -, madeBefore⟩
    · exact .inr ⟨allowed, sameBefore.symm.trans absent, made⟩
    · cases absent.symm.trans madeBefore

theorem mono {other : Prop} (kept : KeepsAt mayCreate before after place)
    (imp : mayCreate → other) : KeepsAt other before after place :=
  kept.imp id fun ⟨allowed, change⟩ => ⟨imp allowed, change⟩

/-- What stands at a place stays there. -/
theorem get?_eq_some (kept : KeepsAt mayCreate before after place)
    (present : before.get? place = some item) : after.get? place = some item := by
  rcases kept with same | ⟨-, absent, -⟩
  · exact same.trans present
  · cases absent.symm.trans present

/-- The files and links are the same. -/
theorem fileAt?_eq (kept : KeepsAt mayCreate before after place) :
    after.fileAt? place = before.fileAt? place := by
  rw [fileAt?, fileAt?]
  rcases kept with same | ⟨-, absent, made⟩
  · rw [same]
  · rw [absent, made]
    rfl

end KeepsAt

/-! ### Where names lead -/

theorem goTo_of_name {name : String} (notIdle : ¬(name = "" ∨ name = ".")) (notBack : name ≠ "..") :
    goTo place name = place ++ [name] := by
  rw [goTo, if_neg notIdle, if_neg notBack]

/-- Names that lead nowhere can be left out. -/
theorem foldl_goTo_filter (start : Location) (names : List String) :
    (names.filter fun name => name != "" && name != ".").foldl goTo start =
      names.foldl goTo start := by
  induction names generalizing start with
  | nil => rfl
  | cons name rest inductionHypothesis =>
    rw [List.foldl_cons, List.filter_cons]
    split
    · rw [List.foldl_cons, inductionHypothesis]
    · next idle =>
      have isIdle : name = "" ∨ name = "." :=
        Decidable.or_iff_not_imp_left.mpr (by simpa using idle)
      rw [inductionHypothesis, goTo, if_pos isIdle]

end CodeGraph.Storage
