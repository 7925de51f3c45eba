/-
This file says what is relied upon of the calls to a file system, and proves that the calls to a
storage can be relied upon.

The system is not part of this library, so nothing is assumed of its calls but what their
documentation promises. `FileCalls.IsReliable` lists these promises. None of them says that a call
succeeds. Creating, writing, synchronizing and removing a file change nothing but what stands at its
place, and make no directory of it (`ChangesOnly`). An empty file holds the content once writing and
synchronizing have both succeeded, whichever of the two calls does the work. Moving a file either
does so (`Moves`) or changes nothing. Creating directories changes nothing but that directories come
to be on the way, as many as the system likes. The temporary file is dealt with at a place that is
fit for a file (`FitsFile`): its directory is there and nothing lies below it. That is what
`ChangesOnly` hands on from one call to the next one.

The promises can be kept: the calls to a storage do so, whichever steps are told to fail
(`FileCalls.isReliable_failing`). For the directories the induction is on the way. Each that is
created lies where a beginning of the way leads, and goes on doing so while others are created, as
names lead to the same place in a storage that holds more. For removing a file the point is that its
directory stays, even if it was there only because of the file.
-/
import CodeGraph.Proofs.Storage.Links
import CodeGraph.Storage.Calls

namespace CodeGraph

namespace Storage

variable {storage before after final : Storage} {location place : Location} {item : StoredItem}

/-! ### Places of files -/

/-- Whether a place is one for a file: there is a directory for it, and it is no directory itself,
so that nothing lies below it. -/
structure FitsFile (storage : Storage) (place : Location) : Prop where
  housed : storage.isDirectory place.dropLast = true
  notDirectory : storage.get? place ≠ some .directory
  alone : ∀ inner, isBelow inner place → storage.get? inner = none

theorem FitsFile.ne_nil (fits : storage.FitsFile place) : place ≠ [] := by
  rintro rfl
  exact fits.notDirectory (beq_iff_eq.mp fits.housed)

/-- Where nothing is in a directory, a file can be. -/
theorem fitsFile_of_absent {name : String} (isThere : storage.isDirectory location = true)
    (absent : storage.get? (location ++ [name]) = none) :
    storage.FitsFile (location ++ [name]) where
  housed := by rwa [List.dropLast_concat]
  notDirectory := by
    rw [absent]
    exact Option.some_ne_none _ ∘ Eq.symm
  alone inner below := Decidable.byContradiction fun present =>
    get?_ne_none_above (isBelow_iff.mp below).1 present absent

/-- Whether nothing changes but what stands at one place, and no directory comes to stand there. -/
structure ChangesOnly (place : Location) (before after : Storage) : Prop where
  elsewhere : ∀ other, other ≠ place → after.get? other = before.get? other
  notDirectory : before.FitsFile place → after.get? place ≠ some .directory

namespace ChangesOnly

theorem refl (storage : Storage) (place : Location) : ChangesOnly place storage storage :=
  ⟨fun _ _ => rfl, FitsFile.notDirectory⟩

/-- The place stays one for a file. -/
theorem fitsFile (changes : ChangesOnly place before after) (fits : before.FitsFile place) :
    after.FitsFile place where
  housed := by
    have apart : place.dropLast ≠ place := fun same =>
      fits.notDirectory (beq_iff_eq.mp (same ▸ fits.housed))
    rw [isDirectory, changes.elsewhere _ apart]
    exact fits.housed
  notDirectory := changes.notDirectory fits
  alone inner below := by
    have apart : inner ≠ place := fun same =>
      absurd (isBelow_iff.mp below).2 (same ▸ Nat.lt_irrefl _)
    rw [changes.elsewhere _ apart]
    exact fits.alone inner below

theorem trans (first : ChangesOnly place before after) (second : ChangesOnly place after final) :
    ChangesOnly place before final where
  elsewhere other apart := (second.elsewhere other apart).trans (first.elsewhere other apart)
  notDirectory fits := second.notDirectory (first.fitsFile fits)

end ChangesOnly

/-- Whether what stands at one place has gone to another one, and nothing else has changed. -/
structure Moves (source target : Location) (before after : Storage) : Prop where
  arrived : after.get? target = before.get? source
  gone : after.get? source = none
  elsewhere : ∀ other, other ≠ source → other ≠ target → after.get? other = before.get? other

end Storage

open Storage (KeepsAt ChangesOnly FitsFile Moves)

/-- What the documentation of the calls promises. Whether a call succeeds is not part of it. -/
structure FileCalls.IsReliable (calls : FileCalls) : Prop where
  /-- Directories are created where nothing was, each at a place to which a beginning of the way
  leads then. Nothing else changes, whether all are created or not. -/
  createDirectories : ∀ storage start way place,
    let after := (calls.createDirectories storage start way).1
    KeepsAt (∃ front, front <+: way ∧ after.directoryAlong? start front = some place) storage after
      place
  create : ∀ storage place, ChangesOnly place storage (calls.create storage place).1
  /-- What is created is an empty file. -/
  created : ∀ storage place, storage.get? place = none → (calls.create storage place).2 = true →
    (calls.create storage place).1.get? place = some (.file [])
  write : ∀ storage place content, ChangesOnly place storage (calls.write storage place content).1
  synchronize : ∀ storage place, ChangesOnly place storage (calls.synchronize storage place).1
  /-- An empty file holds the content once both writing it and synchronizing the file have
  succeeded. Calls that drop the error of a late write break this promise. -/
  durable : ∀ storage place content, storage.get? place = some (.file []) →
    let written := calls.write storage place content
    let synchronized := calls.synchronize written.1 place
    written.2 = true → synchronized.2 = true →
      synchronized.1.get? place = some (.file content)
  renamed : ∀ storage source target, storage.FitsFile source → source ≠ target →
    (calls.rename storage source target).2 = true →
      Moves source target storage (calls.rename storage source target).1
  notRenamed : ∀ storage source target, (calls.rename storage source target).2 = false →
    ∀ place, (calls.rename storage source target).1.get? place = storage.get? place
  remove : ∀ storage place, ChangesOnly place storage (calls.remove storage place)
  /-- A file can be removed. -/
  removed : ∀ storage place, storage.FitsFile place →
    (calls.remove storage place).get? place = none

namespace Storage

variable {storage before after final : Storage} {location place start : Location}
  {item : StoredItem} {front names : List String} {name : String}

/-! ### Directories that are created -/

theorem directoryAlong?_mono {reached : Location}
    (found : before.directoryAlong? start names = some reached)
    (kept : ∀ place item, before.get? place = some item → after.get? place = some item) :
    after.directoryAlong? start names = some reached := by
  obtain ⟨leads, isThere⟩ := directoryAlong?_eq_some_iff.mp found
  exact directoryAlong?_eq_some_iff.mpr
    ⟨leads.mono kept, beq_iff_eq.mpr (kept _ _ (beq_iff_eq.mp isThere))⟩

/-- A directory under a new name is where the names before it lead, and the new one. -/
theorem directoryAlong?_put {directory : Location}
    (found : storage.directoryAlong? start front = some directory)
    (absent : storage.get? (directory ++ [name]) = none) (notIdle : ¬(name = "" ∨ name = "."))
    (notBack : name ≠ "..") :
    (storage.put (directory ++ [name]) .directory).directoryAlong? start (front ++ [name]) =
      some (directory ++ [name]) := by
  obtain ⟨leads, isThere⟩ := directoryAlong?_eq_some_iff.mp found
  have made := get?_put_self storage (directory ++ [name]) .directory
  have leadsStill : (storage.put (directory ++ [name]) .directory).LeadsTo linkLimit start front
      directory := by
    refine leads.mono fun place item present => ?_
    rw [get?_put_child isThere, present]
    rintro rfl
    cases absent.symm.trans present
  obtain ⟨left, onward⟩ := leadsStill.exists_follow_append
  rw [directoryAlong?, onward, follow_name notIdle notBack, made]
  show Option.filter _ (follow _ left (directory ++ [name]) []) = _
  rw [follow_nil]
  exact if_pos (beq_iff_eq.mpr made)

theorem createDirectory_keepsAt :
    KeepsAt ((storage.createDirectory start front name).1.directoryAlong? start (front ++ [name]) =
      some place) storage (storage.createDirectory start front name).1 place := by
  unfold createDirectory
  split
  · exact .refl _ _
  split
  · next directory found =>
    split
    · next isNew =>
      simp only [Bool.and_eq_true, Option.isNone_iff_eq_none, bne_iff_ne] at isNew
      obtain ⟨⟨⟨absent, notEmpty⟩, notHere⟩, notBack⟩ := isNew
      by_cases same : place = directory ++ [name]
      · subst same
        exact .inr ⟨directoryAlong?_put found absent (not_or.mpr ⟨notEmpty, notHere⟩) notBack,
          absent, get?_put_self _ _ _⟩
      · exact .inl (get?_put_child (directoryAlong?_eq_some_iff.mp found).2 same)
    · exact .refl _ _
  · exact .refl _ _

/-- Directories are created where nothing was, at places to which beginnings of the way lead. -/
theorem createDirectories_keepsAt :
    KeepsAt (∃ more, more <+: names ∧
        (storage.createDirectories start front names).1.directoryAlong? start (front ++ more) =
          some place)
      storage (storage.createDirectories start front names).1 place := by
  induction names generalizing storage front place with
  | nil => exact .refl _ _
  | cons name rest inductionHypothesis =>
    have step := @createDirectory_keepsAt storage place start front name
    rw [createDirectories]
    split
    · next made done =>
      rw [done] at step
      refine (step.mono fun reached => ?_).trans (inductionHypothesis.mono ?_)
      · exact ⟨[name], List.cons_prefix_cons.mpr ⟨rfl, List.nil_prefix⟩,
          directoryAlong?_mono reached fun _ _ => inductionHypothesis.get?_eq_some⟩
      · rintro ⟨more, isFront, reached⟩
        exact ⟨name :: more, List.cons_prefix_cons.mpr ⟨rfl, isFront⟩, by
          rwa [List.append_assoc] at reached⟩
    · next left failed =>
      rw [failed] at step
      exact step.mono fun reached =>
        ⟨[name], List.cons_prefix_cons.mpr ⟨rfl, List.nil_prefix⟩, reached⟩

/-! ### Files that are created, written, moved and removed -/

theorem canHold_iff : storage.canHold location ↔
    storage.isDirectory location.dropLast = true ∧ storage.isDirectory location = false := by
  rw [canHold, Bool.and_eq_true, Bool.not_eq_true']

/-- A file that is put where one can be changes no other place. -/
theorem get?_put_of_canHold (holds : storage.canHold location) (apart : place ≠ location) :
    (storage.put location item).get? place = storage.get? place := by
  obtain ⟨housed, notDirectory⟩ := canHold_iff.mp holds
  have nonempty : location ≠ [] := by
    rintro rfl
    cases housed.symm.trans notDirectory
  rw [← List.dropLast_concat_getLast nonempty] at apart ⊢
  exact get?_put_child housed apart

theorem putFile_changesOnly {content : List UInt8} :
    ChangesOnly location storage (storage.putFile location content).1 := by
  unfold putFile
  split
  · next holds =>
    refine ⟨fun other apart => get?_put_of_canHold holds apart, fun _ => ?_⟩
    rw [get?_put_self]
    nofun
  · exact .refl _ _

theorem writeFile_changesOnly {content : List UInt8} :
    ChangesOnly location storage (storage.writeFile location content).1 := by
  unfold writeFile
  split
  · exact putFile_changesOnly
  · exact .refl _ _

/-- Where something lies below another place than the directory of a file, something still does
when the file is removed and its directory is put there. -/
theorem any_isBelow_delete (housed : storage.isDirectory location.dropLast = true)
    (apart : place ≠ location.dropLast) :
    ((storage.remove location).put location.dropLast .directory).entries.any
        (fun entry => isBelow entry.1 place) =
      storage.entries.any (fun entry => isBelow entry.1 place) := by
  rw [any_isBelow_put, Bool.eq_iff_iff, Bool.or_eq_true]
  constructor
  · rintro (left | below)
    · obtain ⟨entry, member, below⟩ := List.any_eq_true.mp left
      exact List.any_eq_true.mpr ⟨entry, (List.mem_filter.mp member).1, below⟩
    · obtain ⟨above, shorter⟩ := isBelow_iff.mp below
      rcases exists_mem_entries (get?_ne_none_of_isDirectory housed) with
        isRoot | ⟨entry, member, within⟩
      · rw [isRoot] at shorter
        cases shorter
      · exact List.any_eq_true.mpr ⟨entry, member, isBelow_iff.mpr
          ⟨above.trans within, Nat.lt_of_lt_of_le shorter within.length_le⟩⟩
  · intro held
    obtain ⟨entry, member, below⟩ := List.any_eq_true.mp held
    by_cases same : entry.1 = location
    · obtain ⟨above, shorter⟩ := isBelow_iff.mp (same ▸ below)
      have nonempty : location ≠ [] := by
        rintro rfl
        cases shorter
      rw [← List.dropLast_concat_getLast nonempty, List.prefix_concat_iff,
        List.dropLast_concat_getLast nonempty] at above
      have above := above.resolve_left fun same => Nat.lt_irrefl _ (same ▸ shorter)
      exact .inr (isBelow_iff.mpr ⟨above, Nat.lt_of_le_of_ne above.length_le fun equal =>
        apart (above.eq_of_length equal)⟩)
    · exact .inl (List.any_eq_true.mpr ⟨entry, List.mem_filter.mpr ⟨member, bne_iff_ne.mpr same⟩,
        below⟩)

theorem get?_delete_of_ne (apart : place ≠ location) :
    (storage.delete location).get? place = storage.get? place := by
  unfold delete
  split
  · next holds =>
    have housed := (canHold_iff.mp holds).1
    by_cases same : place = location.dropLast
    · rw [same, get?_put_self, beq_iff_eq.mp housed]
    · rw [get?, get?, lookup_put_of_ne same, remove, lookup_filter_of_ne apart, ← remove,
        any_isBelow_delete housed same]
  · rfl

theorem FitsFile.canHold (fits : storage.FitsFile location) : storage.canHold location :=
  canHold_iff.mpr ⟨fits.housed, Bool.eq_false_iff.mpr fun isDirectory =>
    fits.notDirectory (beq_iff_eq.mp isDirectory)⟩

/-- A file that is removed is gone. -/
theorem get?_delete_self (fits : storage.FitsFile location) :
    (storage.delete location).get? location = none := by
  have shorter : location.dropLast.length < location.length := by
    rw [List.length_dropLast]
    exact Nat.sub_lt (List.length_pos_iff.mpr fits.ne_nil) Nat.one_pos
  have apart : location ≠ location.dropLast := fun same =>
    Nat.ne_of_gt shorter (congrArg List.length same)
  have nothingBelow : storage.entries.any (fun entry => isBelow entry.1 location) = false := by
    rw [List.any_eq_false]
    intro entry member below
    exact get?_ne_none_of_mem member (fits.alone _ below)
  have unlisted : (storage.remove location).entries.lookup location = none :=
    lookup_remove_self storage location
  rw [delete, if_pos fits.canHold, get?, lookup_put_of_ne apart, unlisted,
    any_isBelow_delete fits.housed apart, nothingBelow, Bool.or_false, if_neg]
  exact fun isEmpty => fits.ne_nil (List.isEmpty_iff.mp isEmpty)

theorem delete_changesOnly : ChangesOnly location storage (storage.delete location) where
  elsewhere _ apart := get?_delete_of_ne apart
  notDirectory fits := by
    rw [get?_delete_self fits]
    nofun

theorem fst_moveFile_of_failed {source target : Location}
    (failed : (storage.moveFile source target).2 = false) :
    (storage.moveFile source target).1 = storage := by
  unfold moveFile at failed ⊢
  split at failed
  · split at failed
    · cases failed
    · next cannot => rw [if_neg cannot]
  · rfl

/-- A file that is moved stands at the other place and not at its own. -/
theorem moveFile_moves {source target : Location} (fits : storage.FitsFile source)
    (apart : source ≠ target) (moved : (storage.moveFile source target).2 = true) :
    Moves source target storage (storage.moveFile source target).1 := by
  unfold moveFile at moved ⊢
  split at moved
  · next content isFile =>
    split at moved
    · next holds =>
      obtain ⟨housed, notDirectory⟩ := canHold_iff.mp holds
      -- The directory of the target is no file, so it is not what is removed.
      have housedStill : (storage.delete source).canHold target := by
        have otherPlace : target.dropLast ≠ source := fun same =>
          fits.notDirectory (beq_iff_eq.mp (same ▸ housed))
        rw [canHold_iff, isDirectory, isDirectory, get?_delete_of_ne otherPlace,
          get?_delete_of_ne apart.symm]
        exact ⟨housed, notDirectory⟩
      rw [if_pos holds]
      exact {
        arrived := (get?_put_self _ _ _).trans isFile.symm
        gone := (get?_put_of_canHold housedStill apart).trans (get?_delete_self fits)
        elsewhere := fun other notSource notTarget =>
          (get?_put_of_canHold housedStill notTarget).trans (get?_delete_of_ne notSource) }
    · cases moved
  · cases moved

theorem get?_putFile {content : List UInt8} (done : (storage.putFile location content).2 = true) :
    (storage.putFile location content).1.get? location = some (.file content) := by
  unfold putFile at done ⊢
  split at done
  · next holds =>
    rw [if_pos holds]
    exact get?_put_self _ _ _
  · cases done

end Storage

/-! ### The calls to a storage -/

namespace FileCalls

open Storage

/-- The calls to a storage keep the promises, whichever of them fail. -/
theorem isReliable_failing (fails : ReplacementStep → Bool) (directoriesMade : Nat)
    (partialContent : List UInt8) : (failing fails directoriesMade partialContent).IsReliable where
  createDirectories storage start way place := by
    dsimp only [failing]
    split
    · refine createDirectories_keepsAt.mono ?_
      rintro ⟨front, isFront, reached⟩
      exact ⟨front, isFront.trans (List.take_prefix _ _), reached⟩
    · exact createDirectories_keepsAt
  create storage place := by
    dsimp only [failing]
    split
    · exact .refl _ _
    · exact putFile_changesOnly
  created storage place _ done := by
    dsimp only [failing] at done ⊢
    split at done
    · cases done
    · next runs =>
      rw [if_neg runs]
      exact get?_putFile done
  write storage place content := by
    dsimp only [failing]
    split
    · exact writeFile_changesOnly
    · exact writeFile_changesOnly
  synchronize storage place := .refl _ _
  durable storage place content isEmpty written := by
    dsimp only [failing] at written ⊢
    intro _
    split at written
    · cases written
    · next runs =>
      rw [if_neg runs]
      rw [writeFile, isEmpty] at written ⊢
      exact get?_putFile written
  renamed storage source target fits apart done := by
    dsimp only [failing] at done ⊢
    split at done
    · cases done
    · next runs =>
      rw [if_neg runs]
      exact moveFile_moves fits apart done
  notRenamed storage source target failed place := by
    dsimp only [failing] at failed ⊢
    split at failed
    · next fails => rw [if_pos fails]
    · next runs => rw [if_neg runs, fst_moveFile_of_failed failed]
  remove _ _ := delete_changesOnly
  removed _ _ fits := get?_delete_self fits

theorem isReliable_plain : plain.IsReliable := isReliable_failing _ _ _

end FileCalls

end CodeGraph
