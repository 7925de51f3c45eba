/-
This file proves where a relative import leads. Its text is followed from the directory of the
importing file, and of the paths that it may stand for there the first one that a file has counts.
If that leads to no other file, the file is taken that alone has the stem that the text ends with.

The theorem should say this without the searches, so each of them gets a description first. The
last piece of a text, from which the stem is taken, is found by cutting the text at separators and
leaving out empty pieces. It is a piece with nothing but separators behind it, and before it the
text starts or a separator stands (`IsLastPiece`); conversely a text determines such a piece,
because it can be cut there. The paths that a text may stand for are listed from the names that it
leads to, with each of the extensions and with the index files below (`candidates`). The resolver
joins paths as it goes along, and with plain names that gives the same list.

Where the paths of files are distinct, the first path with a file and the file at it say the same.
The two descriptions are then put together in the order in which the resolver tries them. It leaves
out the importing file after each of the two searches, which the theorem says of each.
-/
import CodeGraph.Proofs.Path.Following
import CodeGraph.Proofs.Resolution.Importing
import CodeGraph.Proofs.Text.Trimming

namespace CodeGraph

open Text

/-! ### The last piece of a text -/

namespace Text

variable {isSeparator : Char → Bool} {text piece : List Char}

/-- The last piece of a text that is not empty: nothing but separators stands behind it, and before
it the text starts or a separator stands. -/
def IsLastPiece (isSeparator : Char → Bool) (text piece : List Char) : Prop :=
  piece ≠ [] ∧ (∀ character ∈ piece, isSeparator character = false) ∧
    ∃ before after, text = before ++ piece ++ after ∧
      (∀ character ∈ after, isSeparator character = true) ∧
      ∀ last ∈ before.getLast?, isSeparator last = true

theorem filter_piecesWhere_of_separators (separates : ∀ character ∈ text, isSeparator character) :
    (piecesWhere isSeparator text).filter (!·.isEmpty) = [] := by
  induction text with
  | nil => rfl
  | cons character rest inductionHypothesis =>
    have ⟨isFirst, areRest⟩ := List.forall_mem_cons.mp separates
    rw [piecesWhere, if_pos isFirst, List.filter_cons_of_neg (by simp), inductionHypothesis areRest]

theorem filter_piecesWhere_append (plain : ∀ character ∈ piece, isSeparator character = false)
    (nonempty : piece ≠ []) {after : List Char}
    (separates : ∀ character ∈ after, isSeparator character = true) :
    (piecesWhere isSeparator (piece ++ after)).filter (!·.isEmpty) = [piece] := by
  have isPiece : (piecesWhere isSeparator piece).filter (!·.isEmpty) = [piece] := by
    rw [piecesWhere_eq_singleton plain, List.filter_cons_of_pos (by simpa using nonempty),
      List.filter_nil]
  cases after with
  | nil => rw [List.append_nil, isPiece]
  | cons separator rest =>
    have ⟨isFirst, areRest⟩ := List.forall_mem_cons.mp separates
    rw [piecesWhere_append_cons isFirst, List.filter_append, isPiece,
      filter_piecesWhere_of_separators areRest, List.append_nil]

theorem IsLastPiece.getLast?_eq (isLast : IsLastPiece isSeparator text piece) :
    ((piecesWhere isSeparator text).filter (!·.isEmpty)).getLast? = some piece := by
  obtain ⟨nonempty, plain, before, after, rfl, separates, ended⟩ := isLast
  have ends := filter_piecesWhere_append plain nonempty separates
  rcases List.eq_nil_or_concat before with rfl | ⟨front, separator, rfl⟩
  · rw [List.nil_append, ends, List.getLast?_singleton]
  · have isSeparating : isSeparator separator = true := ended separator (by simp)
    rw [List.concat_eq_append, List.append_assoc, List.append_assoc, List.singleton_append,
      piecesWhere_append_cons isSeparating, List.filter_append, ends, List.getLast?_concat]

/-- A text with a character that does not separate has a last piece. -/
theorem exists_isLastPiece (notAll : ¬ ∀ character ∈ text, isSeparator character = true) :
    ∃ piece, IsLastPiece isSeparator text piece := by
  induction text with
  | nil => exact absurd (List.forall_mem_nil _) notAll
  | cons character rest inductionHypothesis =>
    by_cases separates : ∀ other ∈ rest, isSeparator other = true
    · have isPlain : isSeparator character = false := Bool.eq_false_iff.mpr fun isFirst =>
        notAll (List.forall_mem_cons.mpr ⟨isFirst, separates⟩)
      exact ⟨[character], List.cons_ne_nil _ _, List.forall_mem_singleton.mpr isPlain, [], rest,
        rfl,
        separates, by simp⟩
    · obtain ⟨piece, nonempty, plain, before, after, rfl, ends, ended⟩ :=
        inductionHypothesis separates
      cases before with
      | cons first before =>
        exact ⟨piece, nonempty, plain, character :: first :: before, after, rfl, ends,
          by simpa using ended⟩
      | nil =>
        by_cases isFirst : isSeparator character = true
        · exact ⟨piece, nonempty, plain, [character], after, rfl, ends, by simpa using isFirst⟩
        · have isPlain := Bool.eq_false_iff.mpr isFirst
          exact ⟨character :: piece, List.cons_ne_nil _ _,
              List.forall_mem_cons.mpr ⟨isPlain, plain⟩,
            [], after, rfl, ends, by simp⟩

theorem getLast?_piecesWhere_eq_some_iff :
    ((piecesWhere isSeparator text).filter (!·.isEmpty)).getLast? = some piece ↔
      IsLastPiece isSeparator text piece := by
  refine ⟨fun isFound => ?_, IsLastPiece.getLast?_eq⟩
  have notAll : ¬ ∀ character ∈ text, isSeparator character = true := by
    intro separates
    rw [filter_piecesWhere_of_separators separates] at isFound
    cases isFound
  obtain ⟨last, isLast⟩ := exists_isLastPiece notAll
  rw [isLast.getLast?_eq] at isFound
  cases isFound
  exact isLast

end Text

namespace FileList

variable {files : FileList} {importer file target : SourceFile} {text : String}
  {extensions : List String} {indexFiles bareIsExternal : Bool}

/-! ### Candidates -/

/-- The paths that names from the root may stand for: as they are, with each of the extensions and,
where there are index files, with an index file of each of the extensions below. -/
def candidates (names : List (List Char)) (extensions : List String) (indexFiles : Bool) :
    List String :=
  let path := String.ofList (joinPieces '/' names)
  let indexPath (extension : String) :=
    String.ofList (joinPieces '/' (names ++ [("index." ++ extension).toList]))
  path :: extensions.map (path ++ "." ++ ·) ++ if indexFiles then extensions.map indexPath else []

/-- A name below a place that plain names lead to. -/
theorem join_joinPieces {names : List (List Char)} (plain : ∀ name ∈ names, Path.IsPlain name)
    {rest : String} (nonempty : rest ≠ "") :
    Path.join (String.ofList (joinPieces '/' names)) rest =
      String.ofList (joinPieces '/' (names ++ [rest.toList])) := by
  by_cases isRoot : names = []
  · subst isRoot
    exact String.ofList_toList.symm
  have pieces : piecesAt '/' (String.ofList (joinPieces '/' names)).toList = names := by
    rw [String.toList_ofList]
    exact piecesAt_joinPieces isRoot fun name member => (plain name member).noSlash
  have notRoot : ¬ (String.ofList (joinPieces '/' names) = "" ∨
      String.ofList (joinPieces '/' names) = ".") := by
    rintro (isEmpty | isDot)
    · rw [isEmpty] at pieces
      exact absurd (plain [] (pieces ▸ List.mem_cons_self)).meaningful (by decide)
    · rw [isDot] at pieces
      exact absurd (plain ['.'] (pieces ▸ List.mem_cons_self)).meaningful (by decide)
  rw [Path.join, if_neg notRoot, if_neg nonempty, joinPieces_append isRoot (List.cons_ne_nil _ []),
    joinPieces]
  simp [String.append_assoc]

theorem spellings_eq_candidates {names : List (List Char)}
    (plain : ∀ name ∈ names, Path.IsPlain name) :
    spellings (String.ofList (joinPieces '/' names)) extensions indexFiles =
      candidates names extensions indexFiles := by
  have indexPath (extension : String) :
      Path.join (String.ofList (joinPieces '/' names)) ("index." ++ extension) =
        String.ofList (joinPieces '/' (names ++ [("index." ++ extension).toList])) := by
    refine join_joinPieces plain fun isEmpty => ?_
    have noCharacters := congrArg String.toList isEmpty
    rw [String.toList_append] at noCharacters
    cases noCharacters
  have spelled : extensions.map (fun extension =>
        Path.join (String.ofList (joinPieces '/' names)) ("index." ++ extension)) =
      extensions.map fun extension =>
        String.ofList (joinPieces '/' (names ++ [("index." ++ extension).toList])) :=
    List.map_congr_left fun extension _ => indexPath extension
  simp only [candidates]
  rw [← spelled]
  rfl

/-! ### Relative imports -/

/-- A text leads to a file: it is followed from the directory of the importing file, and the file is
the first that one of the candidates there stands for. -/
def LeadsTo (files : FileList) (importer : SourceFile) (text : String) (extensions : List String)
    (indexFiles : Bool) (file : SourceFile) : Prop :=
  ∃ names, Path.Follows [] (piecesAt '/' importer.directory.toList ++ piecesAt '/' text.toList)
      names ∧
    files.IsAtFirst (candidates names extensions indexFiles) file

/-- The file alone has the stem of the last name in a text. -/
def IsOnlyWithLastStem (files : FileList) (text : String) (file : SourceFile) : Prop :=
  ∃ piece stem, IsLastPiece (fun character => character == '/' || character == ':' ||
      character == '\\') text.toList piece ∧ Path.IsStem (String.ofList piece) stem ∧
    file ∈ files ∧ Path.IsStem file.fileName stem ∧
    ∀ other ∈ files, Path.IsStem other.fileName stem → other = file

theorem relative?_eq_some_iff (distinct : (files.map SourceFile.relativePath).Nodup)
    (isExplicit : text.toList.head? = some '.') :
    files.relative? importer text extensions indexFiles = some file ↔
      files.LeadsTo importer text extensions indexFiles file := by
  have start : files.relative? importer text extensions indexFiles =
      (Path.collapse? (Path.join importer.directory text)).bind fun base =>
        files.atFirst? (spellings base extensions indexFiles) := by
    obtain ⟨rest, spelled⟩ := List.head?_eq_some_iff.mp isExplicit
    unfold relative?
    simp only [spelled, List.head?_cons, if_true, Option.or_none]
    rfl
  rw [start, Option.bind_eq_some_iff, LeadsTo]
  simp only [Path.collapse?_eq_some_iff, Path.follows_join_iff]
  have arePlain {names : List (List Char)} (follows : Path.Follows []
      (piecesAt '/' importer.directory.toList ++ piecesAt '/' text.toList) names) :
      ∀ name ∈ names, Path.IsPlain name :=
    follows.isPlain fun segment member => (List.mem_append.mp member).elim
      Path.not_mem_of_mem_piecesAt Path.not_mem_of_mem_piecesAt
  constructor
  · rintro ⟨_, ⟨names, follows, rfl⟩, isFirst⟩
    rw [spellings_eq_candidates (arePlain follows)] at isFirst
    exact ⟨names, follows, (atFirst?_eq_some_iff distinct).mp isFirst⟩
  · rintro ⟨names, follows, isFirst⟩
    refine ⟨_, ⟨names, follows, rfl⟩, ?_⟩
    rw [spellings_eq_candidates (arePlain follows)]
    exact (atFirst?_eq_some_iff distinct).mpr isFirst

theorem withStem_eq_singleton_iff (distinct : (files.map SourceFile.relativePath).Nodup)
    {stem : String} :
    files.withStem stem = [file] ↔ file ∈ files ∧ Path.IsStem file.fileName stem ∧
      ∀ other ∈ files, Path.IsStem other.fileName stem → other = file := by
  simp only [Path.isStem_iff]
  constructor
  · intro alone
    have only (other : SourceFile) : other ∈ files.withStem stem ↔ other = file := by
      rw [alone, List.mem_singleton]
    have ⟨member, hasStem⟩ := mem_withStem.mp ((only file).mpr rfl)
    exact ⟨member, hasStem, fun other isFile same =>
      (only other).mp (mem_withStem.mpr ⟨isFile, same⟩)⟩
  · rintro ⟨member, hasStem, only⟩
    have nodup : (files.withStem stem).Nodup := (List.Nodup.of_map _ distinct).filter _
    refine List.perm_singleton.mp ((List.perm_ext_iff_of_nodup nodup (List.nodup_singleton _)).mpr
      fun other => ?_)
    rw [mem_withStem, List.mem_singleton]
    refine ⟨fun ⟨isFile, same⟩ => only other isFile same, ?_⟩
    rintro rfl
    exact ⟨member, hasStem⟩

theorem byStem?_relative_eq_some_iff (distinct : (files.map SourceFile.relativePath).Nodup) :
    files.byStem? importer text (.relative extensions indexFiles bareIsExternal) = some file ↔
      files.IsOnlyWithLastStem text file ∧ file.id ≠ importer.id := by
  have lastStem {stem : String} :
      lastStem? text (.relative extensions indexFiles bareIsExternal) = some stem ↔
        ∃ piece, IsLastPiece (fun character => character == '/' || character == ':' ||
          character == '\\') text.toList piece ∧ Path.IsStem (String.ofList piece) stem := by
    unfold lastStem?
    simp only [Option.bind_eq_bind, Option.bind_eq_some_iff, getLast?_piecesWhere_eq_some_iff,
      Option.some_inj, Path.isStem_iff]
  rw [byStem?_eq_some_iff]
  simp only [lastStem, withStem_eq_singleton_iff distinct]
  constructor
  · rintro ⟨stem, ⟨piece, isLast, isStem⟩, alone, differs⟩
    exact ⟨⟨piece, stem, isLast, isStem, alone⟩, differs⟩
  · rintro ⟨⟨piece, stem, isLast, isStem, alone⟩, differs⟩
    exact ⟨stem, ⟨piece, isLast, isStem⟩, alone, differs⟩

/-- A relative import leads to the first candidate that a file has, if that is another file, and
otherwise to another file that alone has the stem of its last name. -/
theorem import?_relative_iff {language : Language} {member : Option String}
    (distinct : (files.map SourceFile.relativePath).Nodup)
    (isWritten : importer.language = some language)
    (isRelative : language.imports = .relative extensions indexFiles bareIsExternal)
    (isExplicit : (trim text).toList.head? = some '.') :
    files.import? importer text member = some target ↔
      target.id ≠ importer.id ∧
        (files.LeadsTo importer (trim text) extensions indexFiles target ∨
          (∀ first, files.LeadsTo importer (trim text) extensions indexFiles first →
            first.id = importer.id) ∧
          files.IsOnlyWithLastStem (trim text) target) := by
  have notEmpty : trim text ≠ "" := by
    intro isEmpty
    rw [isEmpty] at isExplicit
    cases isExplicit
  have notExternal :
      isExternal (trim text) (.relative extensions indexFiles bareIsExternal) = false := by
    simp [isExternal, isExplicit]
  have imported : files.import? importer text member =
      ((files.relative? importer (trim text) extensions indexFiles).filter
        (·.id != importer.id)).or
          (files.byStem? importer (trim text)
            (.relative extensions indexFiles bareIsExternal)) := by
    rw [import?, isWritten, Option.bind_eq_bind, Option.bind_some]
    simp only [isRelative, notEmpty, notExternal, decide_false, Bool.or_false, Bool.false_eq_true,
      if_false, byConvention?]
  rw [imported, Option.or_eq_some_iff, byStem?_relative_eq_some_iff distinct,
    Option.filter_eq_some_iff, Option.filter_eq_none_iff, relative?_eq_some_iff distinct isExplicit]
  simp only [relative?_eq_some_iff distinct isExplicit, bne_iff_ne, not_not]
  constructor
  · rintro (⟨leads, differs⟩ | ⟨nowhere, alone, differs⟩)
    · exact ⟨differs, .inl leads⟩
    · exact ⟨differs, .inr ⟨nowhere, alone⟩⟩
  · rintro ⟨differs, leads | ⟨nowhere, alone⟩⟩
    · exact .inl ⟨leads, differs⟩
    · exact .inr ⟨nowhere, alone, differs⟩

/-- Two files with one stem, one of them the index of a directory. -/
def components : FileList :=
  atPaths ["web/pages/start.js", "web/parts/index.ts", "web/parts/menu.js", "index.js"]

/-- A directory is imported as its index file. -/
theorem import?_of_components :
    components.import? components[0] " ../parts/" none = some components[1] := by
  have text : trim " ../parts/" = "../parts/" := by decide
  have isWritten : components[0].language = some .javascript := rfl
  refine (import?_relative_iff (by decide) isWritten rfl (by decide)).mpr
    ⟨by decide, .inl ⟨["web".toList, "parts".toList], ?_, ?_⟩⟩
  · rw [text]
    exact Path.foldl_collapseSegment_eq_some_iff.mp (by decide)
  · exact ⟨List.getElem_mem (by decide), ["web/parts", "web/parts.js", "web/parts.jsx",
      "web/parts.mjs", "web/parts.cjs", "web/parts.ts", "web/parts.tsx", "web/parts/index.js",
      "web/parts/index.jsx", "web/parts/index.mjs", "web/parts/index.cjs"],
      ["web/parts/index.tsx"], by decide, by decide⟩

end FileList

end CodeGraph
