/-
This file proves which file is found by the end of its path.

Only whole segments count: a path has an ending if it is the ending or if a slash stands before it
(`Path.EndsIn`). Of the files whose paths have an ending the one with the shortest path is found,
and of several such paths the least in the order of bytes. The search takes the least path and then
the file at that path. Where no two files have the same path, that is the file whose path is least,
so the search can be described by the files alone (`FileList.IsShortest`), and it does not matter
in which order they are looked at. With several extensions the first of them counts with which a
file is found.
-/
import CodeGraph.Proofs.LeastItem
import CodeGraph.Proofs.Resolution.Importing
import CodeGraph.Proofs.Text.ByteOrder

namespace CodeGraph

open Text

/-! ### Ends of paths -/

namespace Path

/-- A path that is the given one or ends in a slash and the given one. -/
def EndsIn (ending path : String) : Prop := path = ending ∨ ∃ front, path = front ++ "/" ++ ending

theorem exists_append_iff_isSuffixOf {ending path : String} :
    (∃ front, path = front ++ ending) ↔ ending.toList.isSuffixOf path.toList = true := by
  rw [List.isSuffixOf_iff_suffix]
  constructor
  · rintro ⟨front, rfl⟩
    exact ⟨front.toList, String.toList_append.symm⟩
  · rintro ⟨front, spelled⟩
    refine ⟨String.ofList front, ?_⟩
    rw [← String.toList_inj, String.toList_append, String.toList_ofList, spelled]

theorem hasEnding_iff {ending path : String} :
    hasEnding ending path = true ↔ EndsIn ending path := by
  have below : (∃ front, path = front ++ "/" ++ ending) ↔
      ('/' :: ending.toList).isSuffixOf path.toList = true := by
    have slash : ("/" ++ ending).toList = '/' :: ending.toList := String.toList_append
    simp only [← slash, ← exists_append_iff_isSuffixOf, String.append_assoc]
  rw [hasEnding, Bool.or_eq_true, beq_iff_eq, EndsIn, below]

instance (ending path : String) : Decidable (EndsIn ending path) :=
  decidable_of_iff (hasEnding ending path = true) hasEnding_iff

end Path

namespace FileList

variable {files others : FileList} {ending : String} {target : SourceFile}

/-! ### The shortest path -/

theorem isLE_shortestFirst_iff {path other : String} :
    (shortestFirst path other).isLE ↔
      (Utf8.encode path).length < (Utf8.encode other).length ∨
        (Utf8.encode path).length = (Utf8.encode other).length ∧
          Utf8.encode path ≤ Utf8.encode other := by
  rw [shortestFirst, compareLex, Ordering.isLE_then_iff_or, Utf8.isLE_compare_iff,
    Utf8.length_encode, Utf8.length_encode, compareOn, Nat.compare_eq_lt, Nat.compare_eq_eq]

/-- The file has the ending, and no other file that has it has a shorter path, or one of the same
number of bytes that is less. -/
structure IsShortest (files : FileList) (ending : String) (file : SourceFile) : Prop where
  member : file ∈ files
  endsIn : Path.EndsIn ending file.relativePath
  isLeast : ∀ other ∈ files, Path.EndsIn ending other.relativePath →
    (Utf8.encode file.relativePath).length < (Utf8.encode other.relativePath).length ∨
      (Utf8.encode file.relativePath).length = (Utf8.encode other.relativePath).length ∧
        Utf8.encode file.relativePath ≤ Utf8.encode other.relativePath

theorem mem_pathsWith_iff {path : String} :
    path ∈ (files.map SourceFile.relativePath).filter (Path.hasEnding ending) ↔
      ∃ file ∈ files, file.relativePath = path ∧ Path.EndsIn ending path := by
  rw [List.mem_filter, List.mem_map, Path.hasEnding_iff]
  constructor
  · rintro ⟨⟨file, member, isHere⟩, endsIn⟩
    exact ⟨file, member, isHere, endsIn⟩
  · rintro ⟨file, member, isHere, endsIn⟩
    exact ⟨⟨file, member, isHere⟩, endsIn⟩

theorem withEnding?_eq_some_iff (distinct : (files.map SourceFile.relativePath).Nodup) :
    files.withEnding? ending = some target ↔ files.IsShortest ending target := by
  rw [withEnding?, Option.bind_eq_some_iff]
  constructor
  · rintro ⟨path, isLeast, isFound⟩
    obtain ⟨member, rfl⟩ := (atPath?_eq_some_iff distinct).mp isFound
    obtain ⟨isPath, below⟩ :=
      (leastBy?_eq_some_iff_of_separates (separates_shortestFirst _)).mp isLeast
    obtain ⟨_, _, _, endsIn⟩ := mem_pathsWith_iff.mp isPath
    refine ⟨member, endsIn, fun other otherMember otherEnds => ?_⟩
    exact isLE_shortestFirst_iff.mp
      (below _ (mem_pathsWith_iff.mpr ⟨other, otherMember, rfl, otherEnds⟩))
  · rintro ⟨member, endsIn, isLeast⟩
    refine ⟨target.relativePath, ?_, (atPath?_eq_some_iff distinct).mpr ⟨member, rfl⟩⟩
    refine (leastBy?_eq_some_iff_of_separates (separates_shortestFirst _)).mpr ⟨?_, ?_⟩
    · exact mem_pathsWith_iff.mpr ⟨target, member, rfl, endsIn⟩
    · intro path isPath
      obtain ⟨other, otherMember, rfl, otherEnds⟩ := mem_pathsWith_iff.mp isPath
      exact isLE_shortestFirst_iff.mpr (isLeast other otherMember otherEnds)

theorem withEnding?_eq_none_iff (distinct : (files.map SourceFile.relativePath).Nodup) :
    files.withEnding? ending = none ↔ ∀ file ∈ files, ¬ Path.EndsIn ending file.relativePath := by
  constructor
  · intro nothing file member endsIn
    have inhabited : (files.map SourceFile.relativePath).filter (Path.hasEnding ending) ≠ [] :=
      List.ne_nil_of_mem (mem_pathsWith_iff.mpr ⟨file, member, rfl, endsIn⟩)
    obtain ⟨path, isLeast⟩ := @exists_leastBy? _ shortestFirst _ inhabited
    obtain ⟨found, isFile, isHere, _⟩ := mem_pathsWith_iff.mp (mem_of_leastBy? isLeast)
    rw [withEnding?, isLeast, Option.bind_some,
      (atPath?_eq_some_iff distinct).mpr ⟨isFile, isHere⟩] at nothing
    cases nothing
  · intro noEnding
    refine Option.eq_none_iff_forall_not_mem.mpr fun file isFound => ?_
    have isShortest := (withEnding?_eq_some_iff distinct).mp isFound
    exact noEnding file isShortest.member isShortest.endsIn

/-! ### The first extension -/

/-- The file is the shortest one for the first of the extensions that some file has behind the
ending. -/
def IsShortestOfFirst (files : FileList) (ending : String) (extensions : List String)
    (file : SourceFile) : Prop :=
  ∃ front extension back, extensions = front ++ extension :: back ∧
    (∀ earlier ∈ front, ∀ other ∈ files,
      ¬ Path.EndsIn (ending ++ "." ++ earlier) other.relativePath) ∧
      files.IsShortest (ending ++ "." ++ extension) file

theorem bySuffix?_eq_some_iff (distinct : (files.map SourceFile.relativePath).Nodup)
    {extensions : List String} :
    files.bySuffix? ending extensions = some target ↔
      files.IsShortestOfFirst ending extensions target := by
  rw [bySuffix?, List.findSome?_eq_some_iff, IsShortestOfFirst]
  simp only [← withEnding?_eq_none_iff distinct, ← withEnding?_eq_some_iff distinct]
  constructor
  · rintro ⟨front, extension, back, split, isFound, nothing⟩
    exact ⟨front, extension, back, split, nothing, isFound⟩
  · rintro ⟨front, extension, back, split, nothing, isFound⟩
    exact ⟨front, extension, back, split, isFound, nothing⟩

theorem bySuffix?_eq_none_iff (distinct : (files.map SourceFile.relativePath).Nodup)
    {extensions : List String} :
    files.bySuffix? ending extensions = none ↔ ∀ extension ∈ extensions, ∀ file ∈ files,
      ¬ Path.EndsIn (ending ++ "." ++ extension) file.relativePath := by
  rw [bySuffix?, List.findSome?_eq_none_iff]
  exact forall₂_congr fun extension _ => withEnding?_eq_none_iff distinct

end FileList

end CodeGraph
