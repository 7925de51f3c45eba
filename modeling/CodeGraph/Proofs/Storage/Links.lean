/-
This file proves where names lead that are followed through links.

The search `follow` counts links and knows of files, directories and links at once. Whoever uses it
wants a directory at its end, and then it can only have come there by steps: a name is passed over,
leads back, leads down into a directory, or is that of a link, whose own names then come before
those that are left. `LeadsTo` is the relation that these steps make up, and a directory is found
along names exactly if they lead to it (`directoryAlong?_eq_some_iff`). All that follows is proved
by induction on the steps:

* the names lead to the same directory in a storage that holds more (`LeadsTo.mono`);
* they can be cut in two, and what leads on starts where the first part has arrived, with fewer
  links to go (`LeadsTo.exists_follow_append`);
* once a file has taken the place of something on the way, they lead where they led or nowhere, as
  a way ends at a file (`LeadsTo.eq_of_file`);
* if they never lead back and meet no link, they lead only further down
  (`LeadsTo.isPrefix_of_onward`);
* without links they lead where they lead one by one (`LeadsTo.eq_foldl_goTo`).
-/
import CodeGraph.Proofs.Storage.Basic

namespace CodeGraph.Storage

/-- Names lead from a place to another one through directories and links, of which there are no more
than the fuel says. -/
inductive LeadsTo (storage : Storage) : (fuel : Nat) → Location → List String → Location → Prop
  | arrived {fuel place} : LeadsTo storage fuel place [] place
  | idle {fuel place name rest reached} (isIdle : name = "" ∨ name = ".")
      (onward : LeadsTo storage fuel place rest reached) :
      LeadsTo storage fuel place (name :: rest) reached
  | back {fuel place rest reached} (onward : LeadsTo storage fuel place.dropLast rest reached) :
      LeadsTo storage fuel place (".." :: rest) reached
  | down {fuel place name rest reached} (notIdle : ¬(name = "" ∨ name = "."))
      (notBack : name ≠ "..") (isThere : storage.get? (place ++ [name]) = some .directory)
      (onward : LeadsTo storage fuel (place ++ [name]) rest reached) :
      LeadsTo storage fuel place (name :: rest) reached
  | through {fuel place name rest reached target} (notIdle : ¬(name = "" ∨ name = "."))
      (notBack : name ≠ "..") (isLink : storage.get? (place ++ [name]) = some (.link target))
      (onward : LeadsTo storage fuel (origin place target) (pathNames target ++ rest) reached) :
      LeadsTo storage (fuel + 1) place (name :: rest) reached

variable {storage before after : Storage} {start place reached : Location} {name : String}
  {names front rest : List String} {fuel : Nat}

theorem follow_nil : storage.follow fuel place [] = some place := by
  cases fuel <;> rfl

theorem follow_idle (isIdle : name = "" ∨ name = ".") :
    storage.follow fuel place (name :: rest) = storage.follow fuel place rest := by
  cases fuel <;> exact if_pos isIdle

theorem follow_back :
    storage.follow fuel place (".." :: rest) = storage.follow fuel place.dropLast rest := by
  cases fuel <;> rfl

/-- A name leads into a directory, to a file as the last one, or to where a link leads. -/
theorem follow_name (notIdle : ¬(name = "" ∨ name = ".")) (notBack : name ≠ "..") :
    storage.follow fuel place (name :: rest) = match storage.get? (place ++ [name]), fuel with
      | some .directory, fuel => storage.follow fuel (place ++ [name]) rest
      | some (.file _), _ => if rest.isEmpty then some (place ++ [name]) else none
      | some (.link target), fuel + 1 =>
        storage.follow fuel (origin place target) (pathNames target ++ rest)
      | some (.link _), 0 => none
      | none, _ => none := by
  cases fuel <;> rw [follow, followWith, if_neg notIdle, if_neg notBack] <;>
    cases storage.get? (place ++ [name]) with
    | none => rfl
    | some item => cases item <;> rfl

/-- Names along which one comes to a directory lead there. The induction is on the links that may be
followed, and between two links on the names. -/
theorem leadsTo_of_follow (arrives : storage.follow fuel start names = some reached)
    (isThere : storage.isDirectory reached = true) : storage.LeadsTo fuel start names reached := by
  induction fuel using Nat.strongRecOn generalizing start names with
  | ind fuel smaller =>
    induction names generalizing start with
    | nil =>
      rw [follow_nil] at arrives
      exact Option.some.inj arrives ▸ .arrived
    | cons name rest inductionHypothesis =>
      by_cases isIdle : name = "" ∨ name = "."
      · rw [follow_idle isIdle] at arrives
        exact .idle isIdle (inductionHypothesis arrives)
      by_cases isBack : name = ".."
      · subst isBack
        rw [follow_back] at arrives
        exact .back (inductionHypothesis arrives)
      rw [follow_name isIdle isBack] at arrives
      split at arrives
      · next isNext => exact .down isIdle isBack isNext (inductionHypothesis arrives)
      · next content isFile =>
        split at arrives
        · rw [← Option.some.inj arrives, isDirectory_eq_false_of_file isFile] at isThere
          cases isThere
        · cases arrives
      · next target fuel isLink =>
        exact .through isIdle isBack isLink (smaller fuel (Nat.lt_succ_self _) arrives)
      · cases arrives
      · cases arrives

theorem LeadsTo.follow_eq (leads : storage.LeadsTo fuel start names reached) :
    storage.follow fuel start names = some reached := by
  induction leads with
  | arrived => exact follow_nil
  | idle isIdle _ inductionHypothesis => rw [follow_idle isIdle, inductionHypothesis]
  | back _ inductionHypothesis => rw [follow_back, inductionHypothesis]
  | down notIdle notBack isThere _ inductionHypothesis =>
    rw [follow_name notIdle notBack, isThere]
    exact inductionHypothesis
  | through notIdle notBack isLink _ inductionHypothesis =>
    rw [follow_name notIdle notBack, isLink]
    exact inductionHypothesis

/-- A directory is found along names exactly if they lead to it. -/
theorem directoryAlong?_eq_some_iff : storage.directoryAlong? start names = some reached ↔
    storage.LeadsTo linkLimit start names reached ∧ storage.isDirectory reached = true := by
  rw [directoryAlong?, Option.filter_eq_some_iff]
  exact ⟨fun ⟨arrives, isThere⟩ => ⟨leadsTo_of_follow arrives isThere, isThere⟩,
    fun ⟨leads, isThere⟩ => ⟨leads.follow_eq, isThere⟩⟩

namespace LeadsTo

/-- Names lead to the same place if all that was there is there still. -/
theorem mono (leads : before.LeadsTo fuel start names reached)
    (kept : ∀ place item, before.get? place = some item → after.get? place = some item) :
    after.LeadsTo fuel start names reached := by
  induction leads with
  | arrived => exact .arrived
  | idle isIdle _ inductionHypothesis => exact .idle isIdle inductionHypothesis
  | back _ inductionHypothesis => exact .back inductionHypothesis
  | down notIdle notBack isThere _ inductionHypothesis =>
    exact .down notIdle notBack (kept _ _ isThere) inductionHypothesis
  | through notIdle notBack isLink _ inductionHypothesis =>
    exact .through notIdle notBack (kept _ _ isLink) inductionHypothesis

/-- What leads on starts where the first names have arrived, with fewer links to go. -/
theorem exists_follow_append (leads : storage.LeadsTo fuel start front place) :
    ∃ left, ∀ rest, storage.follow fuel start (front ++ rest) = storage.follow left place rest := by
  induction leads with
  | @arrived fuel => exact ⟨fuel, fun rest => rfl⟩
  | idle isIdle _ inductionHypothesis =>
    obtain ⟨left, onward⟩ := inductionHypothesis
    exact ⟨left, fun rest => by rw [List.cons_append, follow_idle isIdle, onward]⟩
  | back _ inductionHypothesis =>
    obtain ⟨left, onward⟩ := inductionHypothesis
    exact ⟨left, fun rest => by rw [List.cons_append, follow_back, onward]⟩
  | down notIdle notBack isThere _ inductionHypothesis =>
    obtain ⟨left, onward⟩ := inductionHypothesis
    refine ⟨left, fun rest => ?_⟩
    rw [List.cons_append, follow_name notIdle notBack, isThere]
    exact onward rest
  | through notIdle notBack isLink _ inductionHypothesis =>
    obtain ⟨left, onward⟩ := inductionHypothesis
    refine ⟨left, fun rest => ?_⟩
    rw [List.cons_append, follow_name notIdle notBack, isLink, ← onward, List.append_assoc]

/-- If a file has taken the place of something on the way, or directories have come to be, names
lead to the directory where they led or to none. -/
theorem eq_of_file (leads : before.LeadsTo fuel start names reached) {other target : Location}
    (arrives : after.follow fuel start names = some other)
    (isThere : after.isDirectory other = true) {content : List UInt8}
    (isFile : after.get? target = some (.file content))
    (kept : ∀ place, place ≠ target → ∀ item, before.get? place = some item →
      after.get? place = some item) : other = reached := by
  -- At the place of the file the way ends, as a file is no directory.
  have blocked {rest : List String}
      (arrives : (if rest.isEmpty then some target else none) = some other) : False := by
    split at arrives
    · rw [← Option.some.inj arrives, isDirectory_eq_false_of_file isFile] at isThere
      cases isThere
    · cases arrives
  induction leads with
  | arrived =>
    rw [follow_nil] at arrives
    exact (Option.some.inj arrives).symm
  | idle isIdle _ inductionHypothesis =>
    rw [follow_idle isIdle] at arrives
    exact inductionHypothesis arrives
  | back _ inductionHypothesis =>
    rw [follow_back] at arrives
    exact inductionHypothesis arrives
  | @down _ place name _ _ notIdle notBack wasThere _ inductionHypothesis =>
    rw [follow_name notIdle notBack] at arrives
    by_cases same : place ++ [name] = target
    · rw [same, isFile] at arrives
      exact (blocked arrives).elim
    · rw [kept _ same _ wasThere] at arrives
      exact inductionHypothesis arrives
  | @through _ place name _ _ link notIdle notBack wasLink _ inductionHypothesis =>
    rw [follow_name notIdle notBack] at arrives
    by_cases same : place ++ [name] = target
    · rw [same, isFile] at arrives
      exact (blocked arrives).elim
    · rw [kept _ same _ wasLink] at arrives
      exact inductionHypothesis arrives

/-- Names that never lead back lead only further down, if no link stands on the way. -/
theorem isPrefix_of_onward (leads : storage.LeadsTo fuel start names reached)
    (onward : ".." ∉ names)
    (noLink : ∀ place, start <+: place → ∀ target, storage.get? place ≠ some (.link target)) :
    start <+: reached := by
  induction leads with
  | arrived => exact List.prefix_refl _
  | idle _ _ inductionHypothesis =>
    exact inductionHypothesis (fun member => onward (List.mem_cons_of_mem _ member)) noLink
  | back => exact absurd List.mem_cons_self onward
  | @down _ place name _ _ _ _ _ _ inductionHypothesis =>
    have further : place <+: place ++ [name] := List.prefix_append _ _
    exact further.trans (inductionHypothesis
      (fun member => onward (List.mem_cons_of_mem _ member))
      fun inner below => noLink inner (further.trans below))
  | through _ _ isLink => exact absurd isLink (noLink _ (List.prefix_append _ _) _)

/-- Without links on the way, names lead where they lead one by one. -/
theorem eq_foldl_goTo (leads : storage.LeadsTo fuel start names reached)
    (noLink : ∀ front, front <+: names → ∀ target,
      storage.get? (front.foldl goTo start) ≠ some (.link target)) :
    reached = names.foldl goTo start := by
  -- The beginnings of what is left of the names are those of all names behind the first one.
  have later {place : Location} {name : String} {rest : List String}
      (noLink : ∀ front, front <+: name :: rest → ∀ target,
        storage.get? (front.foldl goTo place) ≠ some (.link target)) :
      ∀ front, front <+: rest → ∀ target,
        storage.get? (front.foldl goTo (goTo place name)) ≠ some (.link target) :=
    fun front isFront => noLink (name :: front) (List.cons_prefix_cons.mpr ⟨rfl, isFront⟩)
  induction leads with
  | arrived => rfl
  | @idle _ place name _ _ isIdle _ inductionHypothesis =>
    have stays : goTo place name = place := if_pos isIdle
    rw [List.foldl_cons, stays]
    exact inductionHypothesis (stays ▸ later noLink)
  | @back _ place _ _ _ inductionHypothesis =>
    exact inductionHypothesis (later noLink)
  | @down _ place name _ _ notIdle notBack _ _ inductionHypothesis =>
    rw [List.foldl_cons, goTo_of_name notIdle notBack]
    exact inductionHypothesis (goTo_of_name notIdle notBack ▸ later noLink)
  | @through _ place name rest _ target notIdle notBack isLink =>
    have isFront : [name] <+: name :: rest := List.cons_prefix_cons.mpr ⟨rfl, List.nil_prefix⟩
    rw [← goTo_of_name notIdle notBack] at isLink
    exact absurd isLink (noLink [name] isFront target)

end LeadsTo

/-- Whether no link stands on the way of a path, apart from its end. -/
def IsDirect (storage : Storage) (directory : Location) (path : String) : Prop :=
  ∀ front, front <+: (pathNames path).dropLast → ∀ target,
    storage.get? (front.foldl goTo (origin directory path)) ≠ some (.link target)

end CodeGraph.Storage
