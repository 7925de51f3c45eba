/-
This file proves which file stands for the package that the path of an import names.

Three choices are made one after the other: as many segments at the end of the path as possible,
then the least directory that ends in them and holds sources, then the least of its sources, tests
only if there is nothing else. Each is described on its own. The ends of a list are tried from the
longest to the shortest, so the first that leads anywhere is the longest
(`FileList.StandsForPackage`). The least directory is the least of those that have a source and end
in the segments (`FileList.IsFirstPackageAt`); it may be found more than once, for each of its
sources, but under one name. The sources are compared by whether they hold tests and then by path,
and the comparison is the same as a condition on the two files (`isLE_compareInPackage_iff`), by
which the least one is the least of those without tests, or the least of all if each holds tests
(`FileList.IsFirstSource`).

None of the three descriptions mentions an order of the files, and where paths are distinct each
has one outcome at most. So the search comes to the same in whatever order the files are listed,
and it finds nothing exactly if no end of the path is the end of a directory with sources.
-/
import CodeGraph.Proofs.Resolution.PathEndings

namespace CodeGraph

open Text

/-! ### The ends of a list -/

section Ends

variable {item : Type} {items ending : List item}

/-- The ends of a list that are not empty, the longest first. -/
def ends (items : List item) : List (List item) := (List.range items.length).map items.drop

theorem mem_ends_iff : ending ∈ ends items ↔ ending <:+ items ∧ ending ≠ [] := by
  rw [ends, List.mem_map]
  simp only [List.mem_range]
  constructor
  · rintro ⟨skipped, inside, rfl⟩
    exact ⟨List.drop_suffix _ _, mt List.drop_eq_nil_iff.mp (Nat.not_le.mpr inside)⟩
  · rintro ⟨isEnd, nonempty⟩
    have isShorter := isEnd.length_le
    have hasLength := List.length_pos_iff.mpr nonempty
    exact ⟨items.length - ending.length, by omega, (List.suffix_iff_eq_drop.mp isEnd).symm⟩

theorem pairwise_ends (items : List item) :
    (ends items).Pairwise fun earlier later => later.length < earlier.length := by
  rw [ends, List.pairwise_map]
  refine List.pairwise_lt_range.imp_of_mem fun {skipped other} _ inside less => ?_
  rw [List.mem_range] at inside
  rw [List.length_drop, List.length_drop]
  omega

end Ends

/-! ### Sources of a package -/

namespace SourceFile

/-- A source of a package. -/
def IsSource (file : SourceFile) : Prop := ∃ name, file.relativePath = name ++ ".go"

/-- A source that holds tests. -/
def IsTestSource (file : SourceFile) : Prop := ∃ name, file.relativePath = name ++ "_test.go"

end SourceFile

namespace FileList

variable {files others : FileList} {target : SourceFile} {directory ending text : String}

theorem pathEndsWith_iff {path : String} :
    pathEndsWith ending path = true ↔ ∃ front, path = front ++ ending :=
  Path.exists_append_iff_isSuffixOf.symm

instance (file : SourceFile) : Decidable file.IsSource :=
  decidable_of_iff (pathEndsWith ".go" file.relativePath = true) pathEndsWith_iff

instance (file : SourceFile) : Decidable file.IsTestSource :=
  decidable_of_iff (pathEndsWith "_test.go" file.relativePath = true) pathEndsWith_iff

/-- A directory that holds sources and is at the end of which the given path stands. -/
def IsPackageAt (files : FileList) (ending directory : String) : Prop :=
  Path.EndsIn ending directory ∧ ∃ file ∈ files, file.IsSource ∧ file.directory = directory

instance (ending directory : String) : Decidable (files.IsPackageAt ending directory) :=
  inferInstanceAs (Decidable (_ ∧ _))

/-- The first source of a directory: the least path of those that hold no tests, or the least path
if all of them hold tests. -/
structure IsFirstSource (files : FileList) (directory : String) (file : SourceFile) : Prop where
  member : file ∈ files
  isSource : file.IsSource
  isInside : file.directory = directory
  notTest : file.IsTestSource →
    ∀ other ∈ files, other.IsSource → other.directory = directory → other.IsTestSource
  isLeast : ∀ other ∈ files, other.IsSource → other.directory = directory →
    (other.IsTestSource ↔ file.IsTestSource) →
      Utf8.encode file.relativePath ≤ Utf8.encode other.relativePath

theorem isLE_compareInPackage_iff {file other : SourceFile} :
    (compareInPackage file other).isLE ↔
      (file.IsTestSource → other.IsTestSource) ∧
        ((other.IsTestSource ↔ file.IsTestSource) →
          Utf8.encode file.relativePath ≤ Utf8.encode other.relativePath) := by
  have others : compare false true = .lt ∧ compare true false = .gt := ⟨rfl, rfl⟩
  simp only [compareInPackage, compareLex, compareOn, SourceFile.IsTestSource, ← pathEndsWith_iff,
    ← Utf8.isLE_compare_iff]
  cases pathEndsWith "_test.go" file.relativePath <;>
    cases pathEndsWith "_test.go" other.relativePath <;> simp [others]

/-- The sources of a directory. -/
def sourcesIn (files : FileList) (directory : String) : FileList :=
  (files.filter fun file => pathEndsWith ".go" file.relativePath).filter (·.directory == directory)

theorem mem_sourcesIn_iff {file : SourceFile} :
    file ∈ files.sourcesIn directory ↔
      file ∈ files ∧ file.IsSource ∧ file.directory = directory := by
  rw [sourcesIn, List.mem_filter, List.mem_filter, pathEndsWith_iff, beq_iff_eq, and_assoc,
    SourceFile.IsSource]

theorem leastSource?_eq_some_iff (distinct : (files.map SourceFile.relativePath).Nodup) :
    leastBy? compareInPackage (files.sourcesIn directory) = some target ↔
      files.IsFirstSource directory target := by
  have separates : Separates compareInPackage (files.sourcesIn directory) :=
    ((separates_compareInPackage distinct).filter _).filter _
  rw [leastBy?_eq_some_iff_of_separates separates]
  simp only [mem_sourcesIn_iff, isLE_compareInPackage_iff]
  constructor
  · rintro ⟨⟨member, isSource, isInside⟩, isLeast⟩
    exact ⟨member, isSource, isInside,
      fun isTest other otherMember otherSource otherInside =>
        (isLeast other ⟨otherMember, otherSource, otherInside⟩).1 isTest,
      fun other otherMember otherSource otherInside =>
        (isLeast other ⟨otherMember, otherSource, otherInside⟩).2⟩
  · rintro ⟨member, isSource, isInside, notTest, isLeast⟩
    refine ⟨⟨member, isSource, isInside⟩, ?_⟩
    rintro other ⟨otherMember, otherSource, otherInside⟩
    exact ⟨fun isTest => notTest isTest other otherMember otherSource otherInside,
      isLeast other otherMember otherSource otherInside⟩

/-! ### Directories of packages -/

/-- The least directory for a package. -/
structure IsFirstPackageAt (files : FileList) (ending directory : String) : Prop where
  isPackage : files.IsPackageAt ending directory
  isLeast : ∀ other, files.IsPackageAt ending other → Utf8.encode directory ≤ Utf8.encode other

/-- The directories for a package. -/
def directoriesAt (files : FileList) (ending : String) : List String :=
  ((files.filter fun file => pathEndsWith ".go" file.relativePath).map
    SourceFile.directory).filter (Path.hasEnding ending)

theorem mem_directoriesAt_iff :
    directory ∈ files.directoriesAt ending ↔ files.IsPackageAt ending directory := by
  rw [directoriesAt, List.mem_filter, List.mem_map, Path.hasEnding_iff, and_comm, IsPackageAt]
  simp only [List.mem_filter, pathEndsWith_iff, SourceFile.IsSource, and_assoc]

theorem leastDirectory?_eq_some_iff :
    leastBy? compare (files.directoriesAt ending) = some directory ↔
      files.IsFirstPackageAt ending directory := by
  have separates : Separates compare (files.directoriesAt ending) :=
    fun _ _ _ _ same => Std.LawfulEqCmp.eq_of_compare same
  rw [leastBy?_eq_some_iff_of_separates separates]
  simp only [mem_directoriesAt_iff, Utf8.isLE_compare_iff]
  exact ⟨fun ⟨isPackage, isLeast⟩ => ⟨isPackage, isLeast⟩,
    fun ⟨isPackage, isLeast⟩ => ⟨isPackage, isLeast⟩⟩

theorem packageAt?_eq (files : FileList) (ending : String) :
    files.packageAt? ending = (leastBy? compare (files.directoriesAt ending)).bind fun directory =>
      leastBy? compareInPackage (files.sourcesIn directory) := rfl

theorem packageAt?_eq_some_iff (distinct : (files.map SourceFile.relativePath).Nodup) :
    files.packageAt? ending = some target ↔
      ∃ directory, files.IsFirstPackageAt ending directory ∧
        files.IsFirstSource directory target := by
  simp only [packageAt?_eq, Option.bind_eq_some_iff, leastDirectory?_eq_some_iff,
    leastSource?_eq_some_iff distinct]

theorem packageAt?_eq_none_iff :
    files.packageAt? ending = none ↔ ∀ directory, ¬ files.IsPackageAt ending directory := by
  rw [packageAt?_eq]
  constructor
  · intro nothing directory isPackage
    obtain ⟨first, isFirst⟩ := @exists_leastBy? _ compare _
      (List.ne_nil_of_mem (mem_directoriesAt_iff.mpr isPackage))
    have ⟨_, source, member, isSource, isInside⟩ :=
      (leastDirectory?_eq_some_iff.mp isFirst).isPackage
    obtain ⟨target, isTarget⟩ := @exists_leastBy? _ compareInPackage _
      (List.ne_nil_of_mem (mem_sourcesIn_iff.mpr ⟨member, isSource, isInside⟩))
    rw [isFirst, Option.bind_some, isTarget] at nothing
    cases nothing
  · intro noPackage
    have noDirectory : files.directoriesAt ending = [] :=
      List.eq_nil_iff_forall_not_mem.mpr fun directory member =>
        noPackage directory (mem_directoriesAt_iff.mp member)
    rw [noDirectory, leastBy?_eq_none_iff.mpr rfl, Option.bind_none]

/-! ### Packages of imports -/

/-- The segments of the path of an import, without the empty ones. -/
def importSegments (text : String) : List String := (Text.split '/' text).filter (· != "")

/-- The file stands for the package that the segments name: the first source of the least directory
for the longest end of the segments that there is a directory for. -/
def StandsForPackage (files : FileList) (segments : List String) (file : SourceFile) : Prop :=
  ∃ ending, ending <:+ segments ∧ ending ≠ [] ∧
    (∃ directory, files.IsFirstPackageAt (Text.join '/' ending) directory ∧
      files.IsFirstSource directory file) ∧
    ∀ longer, longer <:+ segments → ending.length < longer.length →
      ∀ directory, ¬ files.IsPackageAt (Text.join '/' longer) directory

/-- The path of an import leads to the file that stands for its package, in whatever order the files
are looked at, and to none exactly if no end of it is the end of a directory with sources. -/
theorem packageDirectory?_longest_ending (distinct : (files.map SourceFile.relativePath).Nodup)
    (perm : files.Perm others) :
    (∀ target, others.packageDirectory? text = some target ↔
      files.StandsForPackage (importSegments text) target) ∧
    (others.packageDirectory? text = none ↔
      ∀ ending, ending <:+ importSegments text → ending ≠ [] →
        ∀ directory, ¬ files.IsPackageAt (Text.join '/' ending) directory) := by
  have sameDirectory : others.packageDirectory? text = files.packageDirectory? text := by
    rw [(looksLike_of_perm distinct perm).packageDirectory?]
  rw [sameDirectory]
  have searched : files.packageDirectory? text =
      (ends (importSegments text)).findSome? fun segments =>
        files.packageAt? (Text.join '/' segments) := by
    rw [ends, List.findSome?_map]
    rfl
  rw [searched]
  constructor
  · intro target
    rw [findSome?_eq_some_iff_of_longest_first (fun _ => mem_ends_iff) (pairwise_ends _)]
    simp only [packageAt?_eq_some_iff distinct, packageAt?_eq_none_iff]
    rfl
  · simp only [List.findSome?_eq_none_iff, mem_ends_iff, packageAt?_eq_none_iff, and_imp]

/-- Two directories for one package, one of them with a test that comes first, and one for the last
segment only. -/
def utilities : FileList :=
  atPaths ["b/internal/util/first.go", "util/first.go", "a/internal/util/text.go",
    "a/internal/util/case_test.go", "a/internal/util/case.txt"]

/-- The package is found by two segments, in the first of its directories, where the test does not
stand for it. -/
theorem packageDirectory?_of_utilities :
    packageDirectory? utilities.reverse "example.org//tool/internal/util" = some utilities[2] := by
  have distinct : (utilities.map SourceFile.relativePath).Nodup := by decide
  refine ((packageDirectory?_longest_ending distinct (List.reverse_perm utilities).symm).1
    utilities[2]).mpr ⟨["internal", "util"], by decide, by decide, ⟨"a/internal/util",
      ⟨by decide, ?_⟩, List.getElem_mem (by decide), by decide, by decide, by decide, ?_⟩, ?_⟩
  · rintro other ⟨endsIn, file, member, -, rfl⟩
    rw [Utf8.encode_le_encode_iff]
    have least : ∀ file ∈ utilities,
        Path.EndsIn (Text.join '/' ["internal", "util"]) file.directory →
          "a/internal/util" ≤ file.directory := by decide
    exact least file member endsIn
  · simp only [Utf8.encode_le_encode_iff]
    decide
  · rintro longer isEnd more directory ⟨endsIn, file, member, -, rfl⟩
    have segments : importSegments "example.org//tool/internal/util" =
        ["example.org", "tool", "internal", "util"] := by decide
    have isLonger : longer = ["tool", "internal", "util"] ∨
        longer = ["example.org", "tool", "internal", "util"] := by
      rw [segments] at isEnd
      simp only [List.suffix_cons_iff, List.suffix_nil] at isEnd
      rcases isEnd with rfl | rfl | rfl | rfl | rfl
      · exact .inr rfl
      · exact .inl rfl
      · exact absurd more (by decide)
      · exact absurd more (by decide)
      · exact absurd more (by decide)
    have noDirectory : ∀ file ∈ utilities,
        ¬ Path.EndsIn (Text.join '/' ["tool", "internal", "util"]) file.directory ∧
          ¬ Path.EndsIn (Text.join '/' ["example.org", "tool", "internal", "util"])
            file.directory := by decide
    rcases isLonger with rfl | rfl
    · exact (noDirectory file member).1 endsIn
    · exact (noDirectory file member).2 endsIn

end FileList

end CodeGraph
