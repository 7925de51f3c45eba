/-
This file follows a dotted name with dots at its start to where it is looked for.

The text of such a name is written down from the number of levels and the names (`dottedText`), and
each function that takes it apart is evaluated on that text. The dots at the start are one more
than the levels, because a name does not begin with a dot. Behind them stand the names, with dots
between them that are replaced by slashes to make a path. A name holds no blank, no dot and no mark
that separates (`IsModuleName`), so nothing is trimmed and the pieces between the dots are the
names again.

So the first dot says that the name starts in the directory of the file, each further one leads a
level up, and the names are the segments of a path from there (`dotted?_dottedText`). If that leads
to no other file, the last of the names is looked for as a stem. The theorem at the end puts the
two together in the order in which they are tried.
-/
import CodeGraph.Proofs.Resolution.Importing
import CodeGraph.Proofs.Text.Characters
import CodeGraph.Proofs.Text.Trimming

namespace CodeGraph

open Text

/-- A text without blanks is not changed by trimming. -/
theorem Text.trim_eq_self {text : String}
    (plain : ∀ character ∈ text.toList, isBlank character = false) : trim text = text := by
  rw [trim, trimWhere_eq_self plain, String.ofList_toList]

/-! ### Texts of dotted names -/

/-- A text that can stand between the dots of a dotted name. -/
structure IsModuleName (name : String) : Prop where
  nonempty : name ≠ ""
  notBlank : ∀ character ∈ name.toList, isBlank character = false
  noMark : ∀ character ∈ name.toList, character ∉ ['.', '/', ':', '\\']

/-- The text of an import that follows names from the directory the given number of levels above
that of the file. -/
def dottedText (levels : Nat) (names : List String) : String :=
  String.ofList (List.replicate (levels + 1) '.' ++ (Text.join '.' names).toList)

namespace IsModuleName

variable {name : String} (isName : IsModuleName name)
include isName

theorem noDot : '.' ∉ name.toList := fun member => isName.noMark '.' member (by decide)

theorem noSlash : '/' ∉ name.toList := fun member => isName.noMark '/' member (by decide)

theorem toList_ne_nil : name.toList ≠ [] := fun isEmpty =>
  isName.nonempty (String.toList_eq_nil_iff.mp isEmpty)

end IsModuleName

section DottedText

variable {levels : Nat} {names : List String}

theorem toList_dottedText (levels : Nat) (names : List String) :
    (dottedText levels names).toList =
      List.replicate (levels + 1) '.' ++ joinPieces '.' (names.map String.toList) := by
  rw [dottedText, Text.join, String.toList_ofList, String.toList_ofList]

theorem dottedText_ne_empty : dottedText levels names ≠ "" := by
  intro isEmpty
  have noCharacters := congrArg String.toList isEmpty
  rw [toList_dottedText, List.replicate_succ] at noCharacters
  cases noCharacters

theorem mem_dottedText {character : Char} (member : character ∈ (dottedText levels names).toList) :
    character = '.' ∨ ∃ name ∈ names, character ∈ name.toList := by
  rw [toList_dottedText, List.mem_append] at member
  rcases member with isDot | inNames
  · exact .inl (List.eq_of_mem_replicate isDot)
  · rcases mem_joinPieces inNames with isDot | ⟨piece, isPiece, inside⟩
    · exact .inl isDot
    · obtain ⟨name, isName, rfl⟩ := List.mem_map.mp isPiece
      exact .inr ⟨name, isName, inside⟩

/-- Behind the dots stand the names. -/
theorem drop_dottedText (levels : Nat) (names : List String) :
    (dottedText levels names).toList.drop (levels + 1) =
      joinPieces '.' (names.map String.toList) := by
  rw [toList_dottedText, List.drop_left' List.length_replicate]

variable (nonempty : names ≠ []) (areNames : ∀ name ∈ names, IsModuleName name)
include areNames

theorem trim_dottedText : trim (dottedText levels names) = dottedText levels names := by
  refine trim_eq_self fun character member => ?_
  rcases mem_dottedText member with rfl | ⟨name, isName, inside⟩
  · decide
  · exact (areNames name isName).notBlank character inside

/-- Slashes in place of the dots between them make a path of the names. -/
theorem slashes_joinPieces :
    (joinPieces '.' (names.map String.toList)).map
        (fun character => if character == '.' then '/' else character) =
      joinPieces '/' (names.map String.toList) := by
  have kept : ∀ piece ∈ names.map String.toList,
      piece.map (fun character => if character == '.' then '/' else character) = piece := by
    intro piece isPiece
    obtain ⟨name, isName, rfl⟩ := List.mem_map.mp isPiece
    have plain : ∀ character ∈ name.toList,
        (if character == '.' then '/' else character) = character := by
      intro character inside
      have notDot : character ≠ '.' := fun same => (areNames name isName).noDot (same ▸ inside)
      rw [if_neg (by simpa using notDot)]
    rw [List.map_congr_left plain, List.map_id']
  rw [map_joinPieces, List.map_congr_left kept, List.map_id']
  rfl

include nonempty

/-- The dots at the start are those that say how far up the names are followed. -/
theorem takeWhile_dottedText :
    (dottedText levels names).toList.takeWhile (· == '.') = List.replicate (levels + 1) '.' := by
  have dots : ∀ character ∈ List.replicate (levels + 1) '.', (character == '.') = true :=
    fun _ member => beq_iff_eq.mpr (List.eq_of_mem_replicate member)
  have rest : (joinPieces '.' (names.map String.toList)).takeWhile (· == '.') = [] := by
    obtain ⟨name, others, rfl⟩ := List.exists_cons_of_ne_nil nonempty
    have isName := areNames name List.mem_cons_self
    obtain ⟨character, behind, spelled⟩ := List.exists_cons_of_ne_nil isName.toList_ne_nil
    have notDot : character ≠ '.' := fun same =>
      isName.noDot (spelled ▸ same ▸ List.mem_cons_self)
    obtain ⟨following, joined⟩ : ∃ following,
        joinPieces '.' ((name :: others).map String.toList) = character :: following := by
      cases others <;> simp [joinPieces, spelled]
    rw [joined, List.takeWhile_cons, if_neg (by simpa using notDot)]
  rw [toList_dottedText, List.takeWhile_append_of_pos dots, rest, List.append_nil]

/-- The names are what is left of the pieces between the dots. -/
theorem piecesAt_dottedText :
    (piecesAt '.' (dottedText levels names).toList).filter (!·.isEmpty) =
      names.map String.toList := by
  have plain : ∀ piece ∈ names.map String.toList, '.' ∉ piece ∧ piece ≠ [] :=
    List.forall_mem_map.mpr fun name isName =>
      ⟨(areNames name isName).noDot, (areNames name isName).toList_ne_nil⟩
  rw [toList_dottedText, filter_piecesAt_replicate_append,
    piecesAt_joinPieces (mt List.map_eq_nil_iff.mp nonempty) fun piece isPiece =>
      (plain piece isPiece).1]
  exact List.filter_eq_self.mpr fun piece isPiece => by simp [(plain piece isPiece).2]

theorem lastStem?_dottedText :
    FileList.lastStem? (dottedText levels names) .dotted = some (names.getLast nonempty) := by
  have alone : piecesWhere (fun character => character == '/' || character == ':' ||
      character == '\\') (dottedText levels names).toList = [(dottedText levels names).toList] := by
    refine piecesWhere_eq_singleton fun character member => ?_
    rcases mem_dottedText member with rfl | ⟨name, isName, inside⟩
    · rfl
    · have plain := (areNames name isName).noMark character inside
      simp only [List.mem_cons, not_or] at plain
      simp [plain]
  have last : (names.map String.toList).getLast? = some (names.getLast nonempty).toList := by
    rw [List.getLast?_map, List.getLast?_eq_some_getLast nonempty, Option.map_some]
  show (((piecesWhere (fun character => character == '/' || character == ':' ||
      character == '\\') (dottedText levels names).toList).filter (!·.isEmpty)).getLast?.bind
    fun last => (((piecesAt '.' last).filter (!·.isEmpty)).getLast?).map String.ofList) = _
  rw [alone, List.filter_cons_of_pos (by simpa using dottedText_ne_empty), List.filter_nil,
    List.getLast?_singleton, Option.bind_some, piecesAt_dottedText nonempty areNames, last,
    Option.map_some, String.ofList_toList]

end DottedText

/-! ### Imports of dotted names -/

namespace FileList

variable {files : FileList} {importer target : SourceFile}

theorem dotted?_dottedText (files : FileList) (importer : SourceFile) {levels : Nat}
    {names : List String} {directory : String} (nonempty : names ≠ [])
    (areNames : ∀ name ∈ names, IsModuleName name)
    (isAbove : Path.above? levels importer.directory = some directory) :
    files.dotted? importer (dottedText levels names) none =
      (Path.collapse? (Path.join directory (Text.join '/' names))).bind files.moduleFile? := by
  unfold dotted?
  simp only [takeWhile_dottedText nonempty areNames, List.length_replicate, drop_dottedText,
    slashes_joinPieces areNames]
  rw [if_pos (Nat.succ_pos levels), Nat.add_sub_cancel, isAbove, Option.bind_some]
  rfl

theorem import?_dottedText (files : FileList) {levels : Nat} {names : List String}
    (areNames : ∀ name ∈ names, IsModuleName name) (isPython : importer.language = some .python) :
    files.import? importer (dottedText levels names) none =
      ((files.dotted? importer (dottedText levels names) none).filter (·.id != importer.id)).or
        (files.byStem? importer (dottedText levels names) .dotted) := by
  rw [import?, isPython, trim_dottedText areNames]
  exact if_neg (by simpa [isExternal, Language.imports] using dottedText_ne_empty)

/-- A module is imported as what its names lead to or, where they lead to no other file, as the
only file that has the last of them as its stem. -/
theorem import?_dottedText_eq_some_iff {levels : Nat} {names : List String}
    (isPython : importer.language = some .python) (nonempty : names ≠ [])
    (areNames : ∀ name ∈ names, IsModuleName name) :
    files.import? importer (dottedText levels names) none = some target ↔
      target.id ≠ importer.id ∧
        (files.dotted? importer (dottedText levels names) none = some target ∨
          files.withStem (names.getLast nonempty) = [target] ∧
            ∀ found ∈ files.dotted? importer (dottedText levels names) none,
              found.id = importer.id) := by
  constructor
  · intro isImported
    refine ⟨id_ne_of_import? isImported, ?_⟩
    rw [import?_dottedText files areNames isPython] at isImported
    rcases Option.or_eq_some_iff.mp isImported with leads | ⟨nowhere, byStem⟩
    · exact .inl (Option.filter_eq_some_iff.mp leads).1
    · obtain ⟨stem, isLast, alone, _⟩ := byStem?_eq_some_iff.mp byStem
      rw [lastStem?_dottedText nonempty areNames] at isLast
      cases isLast
      refine .inr ⟨alone, fun found isFound => ?_⟩
      simpa using Option.filter_eq_none_iff.mp nowhere found isFound
  · rintro ⟨differs, leads | ⟨alone, nowhere⟩⟩
    · rw [import?_dottedText files areNames isPython, leads, Option.filter_some,
        if_pos (bne_iff_ne.mpr differs), Option.some_or]
    · have noOther : (files.dotted? importer (dottedText levels names) none).filter
          (·.id != importer.id) = none :=
        Option.filter_eq_none_iff.mpr fun found isFound => by simp [nowhere found isFound]
      rw [import?_dottedText files areNames isPython, noOther, Option.none_or]
      exact byStem?_eq_some_iff.mpr ⟨_, lastStem?_dottedText nonempty areNames, alone, differs⟩

end FileList

end CodeGraph
