/-
This file proves that replacing a file is atomic, whatever calls are made to the system and
whichever of them fail.

The two files involved lie in one directory under different names, the temporary one where nothing
stood. `perform_cases` follows the calls one by one: either one of them fails while no more than
the place of the temporary file has changed, or all succeed and a temporary file with the whole
content is moved. `replace_cases` adds what is before and behind that. If a step fails, the
temporary file is removed, and as nothing stood there, all is what it was once the directories were
created; if none fails, the same is true but for the place of the file. Everything that `IsAtomic`
states is read off these two cases.

A run of attempts needs more, since each looks for the directory of the file anew, and what stands
at the end of the path may itself be a link or a directory on the way there. After the first
success there is a file in that place, so a way that leads through it leads nowhere (`IsSettled`):
whatever is written later is written to the same place or not at all.

Of calls that never fail by themselves it is known when an attempt succeeds (`isOk_replace_iff`):
the directories are there or can be created, the path ends in a name, and no directory has this
name. A token that joins all names in the directory is longer than each of them, so it makes the
name of the temporary file a new one (`isFresh_plainAttempt`).
-/
import CodeGraph.Proofs.Storage.Calls
import CodeGraph.Storage.Replacement

namespace CodeGraph.Storage

variable {storage before after : Storage} {place temporary target : Location}

namespace Destination

variable {destination : Destination} {attempt : Attempt} {content : List UInt8}

/-! ### Places -/

/-- The storage with the directories around the file, as far as they could be created. -/
def prepared (destination : Destination) (attempt : Attempt) (storage : Storage) : Storage :=
  (destination.prepare attempt.calls storage).1

/-- Nothing stands where the temporary file is created. -/
def IsFresh (destination : Destination) (attempt : Attempt) (storage : Storage) : Prop :=
  ((destination.temporary? attempt (destination.prepared attempt storage)).bind
    (destination.prepared attempt storage).get?) = none

instance : Decidable (destination.IsFresh attempt storage) :=
  inferInstanceAs (Decidable (_ = none))

theorem length_temporaryName : (destination.temporaryName attempt).length =
    destination.name.length + attempt.token.length + 6 := by
  have one : ".".length = 1 := rfl
  have four : ".tmp".length = 4 := rfl
  simp only [temporaryName, String.length_append, one, four]
  omega

theorem temporaryName_ne_name : destination.temporaryName attempt ≠ destination.name := by
  intro same
  have sameLength := congrArg String.length same
  rw [length_temporaryName] at sameLength
  omega

/-! ### Directories around a file -/

/-- Whether a directory may be created at a place: one to which a beginning of the way leads
then. -/
def MayCreate (destination : Destination) (after : Storage) (place : Location) : Prop :=
  destination.createsParents = true ∧
    ∃ front, front <+: destination.way ∧
      after.directoryAlong? destination.start front = some place

/-- Preparing a replacement changes nothing but that it creates directories around the file. -/
theorem prepared_keepsAt (reliable : attempt.calls.IsReliable) :
    KeepsAt (destination.MayCreate (destination.prepared attempt storage) place) storage
      (destination.prepared attempt storage) place := by
  unfold MayCreate prepared prepare
  split
  · next asked =>
    exact (reliable.createDirectories _ _ _ _).mono fun reached => ⟨asked, reached⟩
  · exact .refl _ _

/-- The directories that are created do not take the place of the file, if the way to it never leads
back. -/
theorem not_mayCreate_target (reliable : attempt.calls.IsReliable)
    (onward : ".." ∉ destination.way)
    (isTarget : destination.target? (destination.prepared attempt storage) = some target) :
    ¬ (destination.MayCreate (destination.prepared attempt storage) target ∧
      storage.get? target = none) := by
  rintro ⟨⟨-, front, ⟨rest, spelled⟩, reached⟩, absent⟩
  obtain ⟨directory, found, rfl⟩ := Option.map_eq_some_iff.mp isTarget
  obtain ⟨leads, -⟩ := directoryAlong?_eq_some_iff.mp reached
  obtain ⟨leadsAll, isThere⟩ := directoryAlong?_eq_some_iff.mp found
  obtain ⟨left, onwards⟩ := leads.exists_follow_append
  rw [← spelled] at leadsAll
  have leadsOn := leadsTo_of_follow ((onwards rest).symm.trans leadsAll.follow_eq) isThere
  -- Nothing was below the place, so there are only directories now.
  have above := leadsOn.isPrefix_of_onward (fun member =>
    onward (spelled ▸ List.mem_append_right _ member)) fun inner below link isLink => by
      have absentBelow : storage.get? inner = none := Decidable.byContradiction fun present =>
        get?_ne_none_above below present absent
      rcases @prepared_keepsAt storage inner destination attempt reliable with
        same | ⟨-, -, made⟩
      · cases (same.trans absentBelow).symm.trans isLink
      · cases made.symm.trans isLink
  have short := above.length_le
  rw [List.length_append, List.length_singleton] at short
  omega

/-! ### The temporary file -/

/-- A step fails while no more than the temporary file has changed; or all succeed, and a temporary
file with the content is moved to the place of the file. -/
theorem perform_cases (reliable : attempt.calls.IsReliable) (fits : storage.FitsFile temporary)
    (absent : storage.get? temporary = none) (apart : temporary ≠ target) :
    (∃ left step, destination.perform attempt.calls temporary target content storage =
        (left, some step) ∧ ChangesOnly temporary storage left) ∨
    ∃ full moved, destination.perform attempt.calls temporary target content storage =
        (moved, none) ∧ destination.isNamed = true ∧ ChangesOnly temporary storage full ∧
      full.get? temporary = some (.file content) ∧ Moves temporary target full moved := by
  unfold perform
  have isCreated := reliable.create storage temporary
  have isEmpty := reliable.created storage temporary absent
  split
  · next left failed => exact .inl ⟨left, _, rfl, by rwa [failed] at isCreated⟩
  next created done =>
  rw [done] at isCreated isEmpty
  have isWritten := isCreated.trans (reliable.write created temporary content)
  have durable := reliable.durable created temporary content (isEmpty rfl)
  split
  · next left failed => exact .inl ⟨left, _, rfl, by rwa [failed] at isWritten⟩
  next written done =>
  rw [done] at isWritten durable
  have isSynchronized := isWritten.trans (reliable.synchronize written temporary)
  split
  · next left failed => exact .inl ⟨left, _, rfl, by rwa [failed] at isSynchronized⟩
  next full done =>
  simp only [done] at isSynchronized durable
  have isFull := durable trivial trivial
  split
  · next named =>
    have fitsStill := isSynchronized.fitsFile fits
    have moves := reliable.renamed full temporary target fitsStill apart
    have stays := reliable.notRenamed full temporary target
    split
    · next left failed =>
      rw [failed] at stays
      refine .inl ⟨left, _, rfl, isSynchronized.trans ⟨fun other _ => stays rfl other, fun _ => ?_⟩⟩
      rw [stays rfl, isFull]
      nofun
    · next moved done =>
      rw [done] at moves
      exact .inr ⟨full, moved, rfl, named, isSynchronized, isFull, moves rfl⟩
  · exact .inl ⟨full, _, rfl, isSynchronized⟩

/-- What an attempt leaves: what was there once the directories were, if it fails, and with the
content at the place of the file besides, if it succeeds. -/
theorem replace_cases (reliable : attempt.calls.IsReliable)
    (fresh : destination.IsFresh attempt storage) :
    (∃ step, (destination.replace attempt content storage).2 = .error step ∧
      ∀ place, (destination.replace attempt content storage).1.get? place =
        (destination.prepared attempt storage).get? place) ∨
    ∃ target, (destination.replace attempt content storage).2 = .ok target ∧
      destination.isNamed = true ∧
      destination.target? (destination.prepared attempt storage) = some target ∧
      (destination.replace attempt content storage).1.get? target = some (.file content) ∧
      ∀ place, place ≠ target → (destination.replace attempt content storage).1.get? place =
        (destination.prepared attempt storage).get? place := by
  unfold IsFresh temporary? at fresh
  unfold target?
  unfold prepared at fresh ⊢
  unfold replace
  rcases preparation : destination.prepare attempt.calls storage with ⟨made, _ | _⟩
  · exact .inl ⟨_, rfl, fun _ => rfl⟩
  rw [preparation] at fresh
  dsimp only at fresh ⊢
  rcases found : destination.directory? made with _ | directory
  · exact .inl ⟨_, rfl, fun _ => rfl⟩
  rw [found] at fresh
  have absent : made.get? (directory ++ [destination.temporaryName attempt]) = none := fresh
  have fits := fitsFile_of_absent (directoryAlong?_eq_some_iff.mp found).2 absent
  have apart : directory ++ [destination.temporaryName attempt] ≠ directory ++ [destination.name] :=
    fun same => temporaryName_ne_name (List.singleton_inj.mp (List.append_cancel_left same))
  dsimp only
  rcases @perform_cases made _ _ destination attempt content reliable fits absent apart with
    ⟨left, step, failed, changes⟩ | ⟨full, moved, done, named, changes, isFull, moves⟩
  · rw [failed]
    refine .inl ⟨step, rfl, fun place => ?_⟩
    -- The temporary file is removed, and nothing was where it stood.
    by_cases same : place = directory ++ [destination.temporaryName attempt]
    · rw [same, absent]
      exact reliable.removed _ _ (changes.fitsFile fits)
    · exact ((reliable.remove _ _).elsewhere _ same).trans (changes.elsewhere _ same)
  · rw [done]
    refine .inr ⟨_, rfl, named, rfl, moves.arrived.trans isFull, fun place notTarget => ?_⟩
    by_cases same : place = directory ++ [destination.temporaryName attempt]
    · rw [same, absent]
      exact moves.gone
    · exact (moves.elsewhere _ same notTarget).trans (changes.elsewhere _ same)

/-! ### Atomicity -/

/-- What an attempt to replace a file comes to: either the content is put where the path leads, or
what was there is there still. No other file changes, and the temporary one is gone. -/
structure IsAtomic (destination : Destination) (attempt : Attempt) (content : List UInt8)
    (before after : Storage) (result : Except ReplacementStep Location) : Prop where
  /-- The place of the file is where the path leads once the directories are there. -/
  leads : ∀ place, result = .ok place → destination.isNamed = true ∧
    destination.target? (destination.prepared attempt before) = some place
  /-- If the path leads to a place from the beginning, that does not change. -/
  settled : ∀ place, destination.target? before = some place →
    destination.target? (destination.prepared attempt before) = some place
  written : ∀ place, result = .ok place → after.get? place = some (.file content)
  elsewhere : ∀ place, result ≠ .ok place → after.fileAt? place = before.fileAt? place
  /-- All that changes besides is that directories around the file may be created. -/
  untouched : ∀ place, result ≠ .ok place →
    KeepsAt (destination.MayCreate (destination.prepared attempt before) place) before after place
  /-- After a failure there is not even a directory where the file would have been put, unless the
  way to the file leads back. -/
  keptExactly : ∀ step, result = .error step → ".." ∉ destination.way → ∀ place,
    destination.target? (destination.prepared attempt before) = some place →
      after.get? place = before.get? place
  clean : ∀ temporary,
    destination.temporary? attempt (destination.prepared attempt before) = some temporary →
      after.get? temporary = none

theorem target?_prepared (reliable : attempt.calls.IsReliable)
    (isTarget : destination.target? storage = some target) :
    destination.target? (destination.prepared attempt storage) = some target := by
  obtain ⟨directory, found, rfl⟩ := Option.map_eq_some_iff.mp isTarget
  exact Option.map_eq_some_iff.mpr ⟨directory, directoryAlong?_mono found
    fun _ _ => (prepared_keepsAt reliable).get?_eq_some, rfl⟩

theorem IsFresh.get?_temporary (fresh : destination.IsFresh attempt storage)
    (isTemporary : destination.temporary? attempt (destination.prepared attempt storage) =
      some temporary) : (destination.prepared attempt storage).get? temporary = none := by
  rwa [IsFresh, isTemporary] at fresh

/-- The temporary file is not put where the file is. -/
theorem temporary?_ne_target?
    (isTemporary : destination.temporary? attempt storage = some temporary)
    (isTarget : destination.target? storage = some target) : temporary ≠ target := by
  obtain ⟨directory, found, rfl⟩ := Option.map_eq_some_iff.mp isTemporary
  obtain ⟨other, foundToo, rfl⟩ := Option.map_eq_some_iff.mp isTarget
  obtain rfl := Option.some.inj (found.symm.trans foundToo)
  exact fun same => temporaryName_ne_name (List.singleton_inj.mp (List.append_cancel_left same))

/-- An attempt to replace a file is atomic, whatever fails. -/
theorem replace_isAtomic (reliable : attempt.calls.IsReliable)
    (fresh : destination.IsFresh attempt storage) :
    destination.IsAtomic attempt content storage
      (destination.replace attempt content storage).1
      (destination.replace attempt content storage).2 := by
  have created {place : Location} :
      KeepsAt (destination.MayCreate (destination.prepared attempt storage) place) storage
        (destination.prepared attempt storage) place := prepared_keepsAt reliable
  have settled (place : Location) (isTarget : destination.target? storage = some place) :=
    target?_prepared reliable isTarget
  rcases @replace_cases storage destination attempt content reliable fresh with
    ⟨step, failed, same⟩ | ⟨target, done, named, isTarget, isFile, same⟩
  · rw [failed]
    have untouched {place : Location} :
        KeepsAt (destination.MayCreate (destination.prepared attempt storage) place) storage
          (destination.replace attempt content storage).1 place := by
      rw [KeepsAt, same]
      exact created
    exact {
      leads := nofun
      settled
      written := nofun
      elsewhere := fun _ _ => untouched.fileAt?_eq
      untouched := fun _ _ => untouched
      keptExactly := fun _ _ onward place isTarget => untouched.resolve_right
        fun ⟨mayCreate, absent, _⟩ =>
          not_mayCreate_target reliable onward isTarget ⟨mayCreate, absent⟩
      clean := fun _ isTemporary => (same _).trans (fresh.get?_temporary isTemporary) }
  · rw [done]
    have untouched (place : Location)
        (apart : (.ok target : Except ReplacementStep Location) ≠ .ok place) :
        KeepsAt (destination.MayCreate (destination.prepared attempt storage) place) storage
          (destination.replace attempt content storage).1 place := by
      rw [KeepsAt, same place fun isTarget => apart (congrArg _ isTarget.symm)]
      exact created
    exact {
      leads := fun place isPlace => Except.ok.inj isPlace ▸ ⟨named, isTarget⟩
      settled
      written := fun place isPlace => Except.ok.inj isPlace ▸ isFile
      elsewhere := fun place apart => (untouched place apart).fileAt?_eq
      untouched
      keptExactly := nofun
      clean := fun _ isTemporary => (same _ (temporary?_ne_target? isTemporary isTarget)).trans
        (fresh.get?_temporary isTemporary) }

/-! ### Replacing a file again -/

/-- A file stands where the path has led before, and whatever else was there then is there still. -/
structure IsSettled (destination : Destination) (target : Location) (storage : Storage) : Prop where
  isFile : ∃ content, storage.get? target = some (.file content)
  led : ∃ earlier, destination.target? earlier = some target ∧ ∀ place, place ≠ target →
    ∀ item, earlier.get? place = some item → storage.get? place = some item

namespace IsSettled

theorem mono (settled : destination.IsSettled target before)
    (kept : ∀ place item, before.get? place = some item → after.get? place = some item) :
    destination.IsSettled target after := by
  obtain ⟨⟨content, isFile⟩, earlier, led, keptBefore⟩ := settled
  exact ⟨⟨content, kept _ _ isFile⟩, earlier, led, fun place apart item present =>
    kept _ _ (keptBefore place apart item present)⟩

/-- The path leads there still, or nowhere. -/
theorem target_eq (settled : destination.IsSettled target storage)
    (isTarget : destination.target? storage = some place) : place = target := by
  obtain ⟨⟨content, isFile⟩, earlier, led, kept⟩ := settled
  obtain ⟨directory, found, rfl⟩ := Option.map_eq_some_iff.mp isTarget
  obtain ⟨formerly, foundBefore, rfl⟩ := Option.map_eq_some_iff.mp led
  obtain ⟨leads, isThere⟩ := directoryAlong?_eq_some_iff.mp found
  have same := (directoryAlong?_eq_some_iff.mp foundBefore).1.eq_of_file leads.follow_eq isThere
    isFile kept
  rw [same]

end IsSettled

/-- A success settles the place of the file. -/
theorem isSettled_of_replace (reliable : attempt.calls.IsReliable)
    (fresh : destination.IsFresh attempt storage)
    (done : (destination.replace attempt content storage).2 = .ok target) :
    destination.IsSettled target (destination.replace attempt content storage).1 := by
  rcases @replace_cases storage destination attempt content reliable fresh with
    ⟨step, failed, -⟩ | ⟨place, isPlace, -, isTarget, isFile, same⟩
  · cases failed.symm.trans done
  · obtain rfl := Except.ok.inj (isPlace.symm.trans done)
    exact ⟨⟨content, isFile⟩, _, isTarget, fun other apart item present =>
      (same other apart).trans present⟩

/-- Once the place of a file is settled, all attempts that succeed put the file there. -/
theorem IsSettled.replace (settled : destination.IsSettled target storage)
    (reliable : attempt.calls.IsReliable) (fresh : destination.IsFresh attempt storage) :
    destination.IsSettled target (destination.replace attempt content storage).1 ∧
      ∀ place, (destination.replace attempt content storage).2 = .ok place → place = target := by
  have ready : destination.IsSettled target (destination.prepared attempt storage) :=
    settled.mono fun _ _ => (prepared_keepsAt reliable).get?_eq_some
  rcases @replace_cases storage destination attempt content reliable fresh with
    ⟨step, failed, same⟩ | ⟨place, isPlace, -, isTarget, -⟩
  · refine ⟨ready.mono fun place item present => (same place).trans present, fun place done => ?_⟩
    cases failed.symm.trans done
  · obtain rfl := ready.target_eq isTarget
    exact ⟨isSettled_of_replace reliable fresh isPlace, fun other done =>
      Except.ok.inj (done.symm.trans isPlace)⟩

/-! ### Success -/

theorem length_le_length_join {text : String} {texts : List String} (member : text ∈ texts) :
    text.length ≤ (String.join texts).length := by
  rw [← String.length_toList, ← String.length_toList, String.toList_join, List.flatMap_def]
  exact (List.sublist_flatten_of_mem (List.mem_map_of_mem member)).length_le

/-- The token that is longer than the names beside the file makes the temporary name a fresh one. -/
theorem isFresh_plainAttempt :
    destination.IsFresh (destination.plainAttempt storage) storage := by
  rw [IsFresh, Option.bind_eq_none_iff]
  intro temporary isTemporary
  obtain ⟨directory, found, rfl⟩ := Option.map_eq_some_iff.mp isTemporary
  refine Decidable.byContradiction fun present => ?_
  have short := length_le_length_join (mem_names present)
  have token : (destination.plainAttempt storage).token = String.join
      ((destination.prepared (destination.plainAttempt storage) storage).names directory) := by
    show String.join (((destination.directory? _).map _).getD []) = _
    rw [show destination.directory? (destination.prepare .plain storage).1 = some directory
        from found]
    rfl
  rw [← token, length_temporaryName] at short
  omega

/-! ### Files at paths -/

variable {directory : Location} {createsParents : Bool} {path : String}

/-- A path that ends in a name has names before it. -/
theorem exists_names_of_endsInName (named : endsInName path = true) :
    ∃ front last, pathNames path = front ++ [last] ∧ ¬(last = "" ∨ last = ".") ∧ last ≠ ".." := by
  unfold endsInName at named
  rcases isLast : (pathNames path).getLast? with _ | last
  · rw [isLast] at named
    cases named
  obtain ⟨front, spelled⟩ := List.getLast?_eq_some_iff.mp isLast
  rw [isLast, Option.any_some] at named
  simp only [Bool.and_eq_true, bne_iff_ne] at named
  exact ⟨front, last, spelled, not_or.mpr named.1, named.2⟩

/-- The last name of a path is that of the file, and those before it are on its way but for those
that lead nowhere. -/
theorem ofPath_of_names {front : List String} {last : String}
    (spelled : pathNames path = front ++ [last]) (notIdle : ¬(last = "" ∨ last = "."))
    (notBack : last ≠ "..") :
    (ofPath directory createsParents path).way =
        front.filter (fun name => name != "" && name != ".") ∧
      (ofPath directory createsParents path).name = last := by
  have kept : ([last].filter fun name => name != "" && name != ".") = [last] := by
    simpa using notIdle
  simp only [ofPath]
  rw [spelled, List.filter_append, kept, List.dropLast_concat, List.getLast?_concat,
    Option.filter_some, if_pos (bne_iff_ne.mpr notBack)]
  exact ⟨rfl, rfl⟩

/-- Where no link stands on the way, a file is put at the place to which the names of its path lead
one by one. -/
theorem eq_place_of_isDirect (direct : storage.IsDirect directory path)
    (named : endsInName path = true)
    (isTarget : (ofPath directory createsParents path).target? storage = some target) :
    target = Storage.place directory path := by
  obtain ⟨front, last, spelled, notIdle, notBack⟩ := exists_names_of_endsInName named
  obtain ⟨isWay, isName⟩ := @ofPath_of_names directory createsParents _ _ _ spelled notIdle notBack
  obtain ⟨reached, found, rfl⟩ := Option.map_eq_some_iff.mp isTarget
  rw [directory?, isWay] at found
  obtain ⟨leads, -⟩ := directoryAlong?_eq_some_iff.mp found
  rw [IsDirect, spelled, List.dropLast_concat] at direct
  have straight : reached = _ := leads.eq_foldl_goTo fun names isFront link => by
    obtain ⟨whole, isWhole, rfl⟩ := List.prefix_filter_iff.mp isFront
    rw [foldl_goTo_filter]
    exact direct whole isWhole link
  rw [isName, straight, foldl_goTo_filter, Storage.place, spelled, List.foldl_append,
    List.foldl_cons, List.foldl_nil, goTo_of_name notIdle notBack]
  rfl

end Destination

/-! ### Replacing without failures -/

variable {directory : Location} {createsParents : Bool} {path : String} {content : List UInt8}

/-- A file at a path that leads from a directory is replaced atomically. -/
theorem replaceAt_isAtomic :
    let destination := Destination.ofPath directory createsParents path
    destination.IsAtomic (destination.plainAttempt storage) content storage
      (storage.replaceAt directory createsParents path content).1
      (destination.replace (destination.plainAttempt storage) content storage).2 :=
  Destination.replace_isAtomic FileCalls.isReliable_plain Destination.isFresh_plainAttempt

/-- A file that is replaced in a directory that is there stands with its content where the path
leads. -/
theorem exists_target_of_replaceAt
    (done : storage.replaceAt directory false path content = (after, true)) :
    ∃ place, endsInName path = true ∧
      (Destination.ofPath directory false path).target? storage = some place ∧
      after.get? place = some (.file content) := by
  have atomic := @replaceAt_isAtomic storage directory false path content
  have succeeded := congrArg Prod.snd done
  rw [done] at atomic
  dsimp only [replaceAt] at atomic succeeded
  rcases result : ((Destination.ofPath directory false path).replace
    ((Destination.ofPath directory false path).plainAttempt storage)
      content storage).2 with _ | place
  · rw [result] at succeeded
    cases succeeded
  · rw [result] at atomic
    obtain ⟨named, isTarget⟩ := atomic.leads place rfl
    exact ⟨place, named, isTarget, atomic.written place rfl⟩

end CodeGraph.Storage
