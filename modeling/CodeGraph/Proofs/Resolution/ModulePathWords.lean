/-
This file proves what the words of a module path are: the pieces between its double colons.

Behind a path there may stand a list of members, a star or a new name. Each of the three is dropped
before the path is cut, and each is found where it stands: a word holds no blank, no star and no
brace, so none of them occurs earlier (`IsPlainPath`). A new name is looked for first. If there is
none, the rest of the text is looked through for a list, and only then for a star at the end. A
plain path itself passes through all of this unchanged, which is the case in which nothing stands
behind it.

What is left is cut at double colons. No word holds a colon, so the pieces are the words, and
trimming them or leaving out empty ones changes nothing (`moduleSegments_intercalate`). Words at
the start may stand for a directory by themselves; the type of such starts is kept apart from the
names, which are words that do not (`PathStart`, `IsPathName`).
-/
import Mathlib.Data.Bool.AllAny
import CodeGraph.Resolution.Importing
import CodeGraph.Proofs.Text.Characters
import CodeGraph.Proofs.Text.Trimming

namespace CodeGraph

open Text

/-! ### The text of a module path -/

/-- What a module path may start with: the root of the crate, the file itself, parents of its
modules (one and the given number more), or no word of this kind. -/
inductive PathStart
  | crate
  | self
  | supers (more : Nat)
  | unmarked

/-- The words that a module path starts with. -/
def PathStart.words : PathStart → List String
  | .crate => ["crate"]
  | .self => ["self"]
  | .supers more => List.replicate (more + 1) "super"
  | .unmarked => []

/-- A text without the characters that separate words or start what may stand behind a path. -/
structure IsWord (word : String) : Prop where
  nonempty : word ≠ ""
  plain : ∀ character ∈ word.toList, isBlank character = false ∧ character ∉ [':', '*', '\x7b']

instance (word : String) : Decidable (IsWord word) :=
  decidable_of_iff (word ≠ "" ∧ word.toList.all fun character =>
      isBlank character = false ∧ character ∉ [':', '*', '\x7b'])
    ⟨fun ⟨nonempty, plain⟩ => ⟨nonempty, List.all_iff_forall_prop.mp plain⟩,
      fun isWord => ⟨isWord.nonempty, List.all_iff_forall_prop.mpr isWord.plain⟩⟩

/-- A name in a module path: a word that does not stand for a directory by itself. -/
structure IsPathName (name : String) : Prop extends IsWord name where
  notSpecial : name ∉ ["crate", "self", "super"]

instance (name : String) : Decidable (IsPathName name) :=
  decidable_of_iff (IsWord name ∧ name ∉ ["crate", "self", "super"])
    ⟨fun ⟨isWord, notSpecial⟩ => ⟨isWord, notSpecial⟩,
      fun isName => ⟨isName.toIsWord, isName.notSpecial⟩⟩

/-- A module path with the given names. -/
def modulePathText (start : PathStart) (names : List String) : String :=
  "::".intercalate (start.words ++ names)

/-- What may stand behind a module path: a list of members, a star or a new name. -/
def IsPathEnding (ending : String) : Prop :=
  (∃ list, ending = "::\x7b" ++ list ++ "\x7d") ∨ ending = "::*" ∨ ∃ name, ending = " as " ++ name

/-- The part of a text that names modules. -/
def modulePart (text : List Char) : List Char :=
  let plain := trimWhere isBlank (beforeFirst " as ".toList text)
  match splitFirst? [':', ':', '\x7b'] plain with
  | some (before, _) => before
  | none => trimEndings "::*".toList plain

theorem moduleSegments_eq (text : String) :
    FileList.moduleSegments text = (((piecesOn [':', ':'] (modulePart text.toList)).map
      (trimWhere isBlank)).filter (!·.isEmpty)).map String.ofList := rfl

theorem PathStart.isWord_of_mem_words {start : PathStart} {word : String}
    (member : word ∈ start.words) : IsWord word := by
  have special : word = "crate" ∨ word = "self" ∨ word = "super" := by
    cases start with
    | crate => exact .inl (List.mem_singleton.mp member)
    | self => exact .inr (.inl (List.mem_singleton.mp member))
    | supers more => exact .inr (.inr (List.eq_of_mem_replicate member))
    | unmarked => cases member
  rcases special with rfl | rfl | rfl
  · decide
  · decide
  · decide

/-! ### The part of a text that names modules -/

/-- Characters none of which belongs to what may stand behind a path. -/
def IsPlainPath (path : List Char) : Prop :=
  ∀ character ∈ path, isBlank character = false ∧ character ∉ ['*', '\x7b']

section Plain

variable {path : List Char} (plain : IsPlainPath path)
include plain

theorem IsPlainPath.noSpace : ' ' ∉ path := fun member => absurd (plain ' ' member).1 (by decide)

theorem IsPlainPath.noBrace : '\x7b' ∉ path := fun member =>
  (plain '\x7b' member).2 (by decide)

theorem IsPlainPath.noStarAtEnd : ¬ "::*".toList <:+ path := fun isEnd =>
  (plain '*' (isEnd.subset (by decide))).2 (by decide)

theorem modulePart_of_beforeFirst {text : List Char}
    (isPath : beforeFirst " as ".toList text = path) : modulePart text = path := by
  have trimmed : trimWhere isBlank path = path :=
    trimWhere_eq_self fun character member => (plain character member).1
  have noList : splitFirst? [':', ':', '\x7b'] path = none :=
    splitFirst?_eq_none_of_not_mem (by decide) plain.noBrace
  simp only [modulePart, isPath, trimmed, noList]
  exact trimEndings_eq_self (by decide) plain.noStarAtEnd

theorem modulePart_eq_self : modulePart path = path :=
  modulePart_of_beforeFirst plain (beforeFirst_eq_self (by decide) plain.noSpace)

theorem modulePart_append_name (name : List Char) :
    modulePart (path ++ " as ".toList ++ name) = path := by
  refine modulePart_of_beforeFirst plain ?_
  have atStart : beforeFirst " as ".toList (" as ".toList ++ name) = [] := by
    rw [beforeFirst, splitFirst?_append_self (by decide)]
    rfl
  rw [List.append_assoc, beforeFirst_append rfl plain.noSpace, atStart, List.append_nil]

theorem modulePart_append_star : modulePart (path ++ "::*".toList) = path := by
  have starPlain : ∀ character ∈ path ++ "::*".toList,
      isBlank character = false ∧ character ≠ '\x7b' :=
    List.forall_mem_append.mpr ⟨fun character member =>
      ⟨(plain character member).1, fun same => plain.noBrace (same ▸ member)⟩,
      List.all_iff_forall_prop.mp (by decide)⟩
  have noName : beforeFirst " as ".toList (path ++ "::*".toList) = path ++ "::*".toList :=
    beforeFirst_eq_self (by decide) fun (member : ' ' ∈ _) =>
      absurd (starPlain ' ' member).1 (by decide)
  have trimmed : trimWhere isBlank (path ++ "::*".toList) = path ++ "::*".toList :=
    trimWhere_eq_self fun character member => (starPlain character member).1
  have noList : splitFirst? [':', ':', '\x7b'] (path ++ "::*".toList) = none :=
    splitFirst?_eq_none_of_not_mem (by decide) fun (member : '\x7b' ∈ _) =>
      (starPlain '\x7b' member).2 rfl
  simp only [modulePart, noName, trimmed, noList]
  exact trimEndings_append (by decide) plain.noStarAtEnd

theorem modulePart_append_list (list : List Char) :
    modulePart (path ++ [':', ':', '\x7b'] ++ list) = path := by
  have kept : ∀ character ∈ path ++ [':', ':', '\x7b'], isBlank character = false :=
    List.forall_mem_append.mpr ⟨fun character member => (plain character member).1,
      List.all_iff_forall_prop.mp (by decide)⟩
  have noName : ' ' ∉ path ++ [':', ':', '\x7b'] := fun member =>
    absurd (kept ' ' member) (by decide)
  have nonempty : path ++ [':', ':', '\x7b'] ≠ [] :=
    List.append_ne_nil_of_right_ne_nil path (List.cons_ne_nil _ _)
  have noBraceBefore : '\x7b' ∉ [':', ':'] := by decide
  have isList := splitFirst?_append_of_last_not_mem noBraceBefore plain.noBrace
    (dropEndWhile isBlank (beforeFirst " as ".toList list))
  rw [List.cons_append, List.singleton_append] at isList
  rw [modulePart, beforeFirst_append rfl noName, trimWhere_append_of_kept nonempty kept]
  simp only [isList]

end Plain

section Words

variable {words : List String} (areWords : ∀ word ∈ words, IsWord word)
include areWords

theorem isPlainPath_intercalate : IsPlainPath ("::".intercalate words).toList := by
  intro character member
  rcases mem_intercalate member with inSeparator | ⟨word, isWord, inside⟩
  · have separatorPlain : IsPlainPath "::".toList := List.all_iff_forall_prop.mp (by decide)
    exact separatorPlain character inSeparator
  · have ⟨noBlank, noMark⟩ := (areWords word isWord).plain character inside
    exact ⟨noBlank, mt (List.mem_cons_of_mem ':') noMark⟩

/-- The segments of a module path are its words. -/
theorem moduleSegments_intercalate : FileList.moduleSegments ("::".intercalate words) = words := by
  rw [moduleSegments_eq, modulePart_eq_self (isPlainPath_intercalate areWords)]
  by_cases noWords : words = []
  · subst noWords
    rfl
  have spelled : "::".toList = [':', ':'] := rfl
  have pieces : piecesOn [':', ':'] ("::".intercalate words).toList = words.map String.toList :=
    piecesOn_intercalate spelled noWords fun word member inside =>
      ((areWords word member).plain ':' inside).2 (by decide)
  have trimmed : (words.map String.toList).map (trimWhere isBlank) = words.map String.toList := by
    rw [List.map_map]
    exact List.map_congr_left fun word member => trimWhere_eq_self fun character inside =>
      ((areWords word member).plain character inside).1
  have kept : (words.map String.toList).filter (!·.isEmpty) = words.map String.toList := by
    refine List.filter_eq_self.mpr fun characters member => ?_
    obtain ⟨word, isMember, rfl⟩ := List.mem_map.mp member
    simpa using (areWords word isMember).nonempty
  rw [pieces, trimmed, kept, List.map_map]
  exact (List.map_congr_left fun _ _ => String.ofList_toList).trans (List.map_id _)

/-- What may stand behind a module path does not change its segments. -/
theorem moduleSegments_append {ending : String} (isEnding : IsPathEnding ending) :
    FileList.moduleSegments ("::".intercalate words ++ ending) =
      FileList.moduleSegments ("::".intercalate words) := by
  have plain := isPlainPath_intercalate areWords
  have samePart : modulePart ("::".intercalate words ++ ending).toList =
      modulePart ("::".intercalate words).toList := by
    rw [modulePart_eq_self plain]
    rcases isEnding with ⟨list, rfl⟩ | rfl | ⟨name, rfl⟩
    · rw [String.append_assoc, String.toList_append, String.toList_append]
      exact (congrArg modulePart (List.append_assoc _ _ _).symm).trans
        (modulePart_append_list plain _)
    · rw [String.toList_append]
      exact modulePart_append_star plain
    · rw [String.toList_append, String.toList_append, ← List.append_assoc]
      exact modulePart_append_name plain _
  rw [moduleSegments_eq, moduleSegments_eq, samePart]

end Words

end CodeGraph
