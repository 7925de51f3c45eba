/-
This file proves two things about the search for the file that an import names. It finds nothing
but files of the repository, whatever the convention. And it sees the repository only through
lookups by path and through the paths of all files, so where no path occurs twice the order of the
files does not matter to it.

For each of these there is one property that passes through the ways in which searches are put
together: one after the other, filtered, depending on something that may be missing, for each of
several texts. The first property is that a search finds only files of the list
(`FileList.Covers`). It holds of the lookups and so, convention by convention, of what is made from
them. The second one is that two repositories answer every question alike that a search asks
(`FileList.LooksLike`). There are four such questions, and the equations go through the definitions
of the conventions by rewriting; so no convention has to be looked into twice.

Permuted lists of files look alike. Where a file is looked up by its path, that is because paths
are distinct; where the least of several files is taken, because the comparisons separate files
with different paths; where a file has to be the only one with a stem, because a permutation keeps
the files with that stem. The last part says what it is to be at the first of several paths that
there is a file at, which is how most conventions describe their result.
-/
import CodeGraph.Proofs.Graph.EdgeSet
import CodeGraph.Proofs.Graph.Lookup
import CodeGraph.Proofs.Sorting
import CodeGraph.Resolution.Importing

namespace CodeGraph.FileList

/-! ### Files that are found -/

/-- Whether a search finds nothing but files of the list. -/
def Covers (files : FileList) (result : Option SourceFile) : Prop := ∀ file ∈ result, file ∈ files

variable {files : FileList}

theorem covers_none : files.Covers none := fun _ found => nomatch found

theorem Covers.or {first second : Option SourceFile} (firstCovered : files.Covers first)
    (secondCovered : files.Covers second) : files.Covers (first.or second) := by
  intro file found
  rcases Option.or_eq_some_iff.mp found with first | ⟨_, second⟩
  · exact firstCovered file first
  · exact secondCovered file second

theorem Covers.filter {result : Option SourceFile} (covered : files.Covers result)
    (accept : SourceFile → Bool) : files.Covers (result.filter accept) :=
  fun file found => covered file (Option.filter_eq_some_iff.mp found).1

theorem covers_bind {item : Type} {start : Option item} {search : item → Option SourceFile}
    (covered : ∀ entry, files.Covers (search entry)) : files.Covers (start.bind search) := by
  intro file found
  obtain ⟨entry, _, isFound⟩ := Option.bind_eq_some_iff.mp found
  exact covered entry file isFound

theorem covers_findSome? {item : Type} {search : item → Option SourceFile}
    (covered : ∀ entry, files.Covers (search entry)) (entries : List item) :
    files.Covers (entries.findSome? search) := by
  intro file found
  obtain ⟨entry, _, isFound⟩ := List.exists_of_findSome?_eq_some found
  exact covered entry file isFound

theorem covers_ite {condition : Prop} [Decidable condition] {first second : Option SourceFile}
    (firstCovered : files.Covers first) (secondCovered : files.Covers second) :
    files.Covers (if condition then first else second) := by
  split
  · exact firstCovered
  · exact secondCovered

theorem covers_atPath? (path : String) : files.Covers (files.atPath? path) :=
  fun _ found => (mem_of_atPath? found).1

theorem covers_atFirst? (paths : List String) : files.Covers (files.atFirst? paths) :=
  covers_findSome? covers_atPath? paths

theorem covers_bySuffix? (ending : String) (extensions : List String) :
    files.Covers (files.bySuffix? ending extensions) :=
  covers_findSome? (fun _ => covers_bind covers_atPath?) extensions

/-! ### Conventions -/

theorem covers_relative? (importer : SourceFile) (text : String) (extensions : List String)
    (indexFiles : Bool) : files.Covers (files.relative? importer text extensions indexFiles) :=
  (covers_bind fun _ => covers_atFirst? _).or
    (covers_ite covers_none (covers_bind fun _ => covers_atFirst? _))

theorem covers_moduleFile? (base : String) : files.Covers (files.moduleFile? base) :=
  covers_ite (covers_atFirst? _) (((covers_atFirst? _).filter _).or (covers_atFirst? _))

theorem covers_memberOrModule? (base : String) (member : Option String) :
    files.Covers (files.memberOrModule? base member) :=
  covers_bind fun _ => (covers_bind fun _ => covers_moduleFile? _).or (covers_moduleFile? _)

theorem covers_dotted? (importer : SourceFile) (text : String) (member : Option String) :
    files.Covers (files.dotted? importer text member) :=
  covers_ite (covers_bind fun _ => covers_memberOrModule? _ _)
    ((covers_memberOrModule? _ _).or <| (covers_bind fun _ => covers_bySuffix? _ _).or <|
      (covers_bySuffix? _ _).or (covers_bySuffix? _ _))

theorem covers_packagePath? (text : String) (extensions : List String) (snake : Bool) :
    files.Covers (files.packagePath? text extensions snake) :=
  covers_findSome? (fun _ => covers_bySuffix? _ _) _

theorem covers_modulePath? (importer : SourceFile) (text : String) :
    files.Covers (files.modulePath? importer text) :=
  covers_bind fun _ => covers_findSome? (fun _ => covers_atFirst? _) _

theorem covers_packageAt? (ending : String) : files.Covers (files.packageAt? ending) :=
  covers_bind fun _ _ found =>
    (List.mem_filter.mp (List.mem_filter.mp
      ((mem_sortBy compareInPackage).mp (List.mem_of_head? found))).1).1

theorem covers_packageDirectory? (text : String) : files.Covers (files.packageDirectory? text) :=
  covers_findSome? (fun _ => covers_packageAt? _) _

theorem covers_feature? (importer : SourceFile) (text : String) (extensions : List String) :
    files.Covers (files.feature? importer text extensions) := by
  have below (directory : String) : files.Covers
      ((Path.collapse? (Path.join directory text)).bind fun base =>
        files.atFirst? (spellings base extensions false)) :=
    covers_bind fun _ => covers_atFirst? _
  unfold feature?
  have above := covers_findSome? below ["", "lib"]
  exact (below importer.directory).or (covers_ite covers_none (above.or (covers_bySuffix? _ _)))

theorem covers_byConvention? (importer : SourceFile) (text : String) (member : Option String)
    (convention : ImportConvention) :
    files.Covers (files.byConvention? importer text member convention) := by
  unfold byConvention?
  split
  · exact covers_relative? _ _ _ _
  · exact covers_dotted? _ _ _
  · exact covers_packagePath? _ _ _
  · exact covers_modulePath? _ _
  · exact covers_packageDirectory? _
  · exact covers_feature? _ _ _

theorem mem_withStem {file : SourceFile} {stem : String} :
    file ∈ files.withStem stem ↔ file ∈ files ∧ Path.stem file.fileName = stem := by
  rw [withStem, List.mem_filter, beq_iff_eq]

/-- The one file with the stem that a text ends with is found, unless it is the importing one. -/
theorem byStem?_eq_some_iff {importer file : SourceFile} {text : String}
    {convention : ImportConvention} :
    files.byStem? importer text convention = some file ↔
      ∃ stem, lastStem? text convention = some stem ∧ files.withStem stem = [file] ∧
        file.id ≠ importer.id := by
  unfold byStem?
  rw [Option.bind_eq_bind, Option.bind_eq_some_iff]
  refine exists_congr fun stem => and_congr_right fun _ => ?_
  split
  · next only isOnly =>
    rw [isOnly, List.singleton_inj]
    by_cases same : only.id = importer.id
    · rw [if_pos same]
      exact ⟨nofun, fun ⟨isFile, differs⟩ => absurd same (isFile ▸ differs)⟩
    · rw [if_neg same, Option.some_inj]
      exact ⟨fun isFile => ⟨isFile, isFile ▸ same⟩, And.left⟩
  · next several =>
    exact ⟨nofun, fun ⟨isOnly, _⟩ => absurd isOnly (several file)⟩

theorem covers_byStem? (importer : SourceFile) (text : String) (convention : ImportConvention) :
    files.Covers (files.byStem? importer text convention) := by
  intro file found
  obtain ⟨stem, _, isOnly, _⟩ := byStem?_eq_some_iff.mp found
  exact (mem_withStem.mp (isOnly ▸ List.mem_singleton_self file)).1

/-- An import leads to a file of the repository. -/
theorem covers_import? (importer : SourceFile) (text : String) (member : Option String) :
    files.Covers (files.import? importer text member) :=
  covers_bind fun _ => covers_ite covers_none
    (((covers_byConvention? _ _ _ _).filter _).or (covers_byStem? _ _ _))

/-- No import leads to the file that it stands in. -/
theorem id_ne_of_import? {importer file : SourceFile} {text : String} {member : Option String}
    (isImported : files.import? importer text member = some file) : file.id ≠ importer.id := by
  unfold import? at isImported
  rw [Option.bind_eq_bind, Option.bind_eq_some_iff] at isImported
  obtain ⟨language, _, found⟩ := isImported
  simp only at found
  split at found
  · cases found
  · rcases Option.or_eq_some_iff.mp found with byConvention | ⟨_, byStem⟩
    · exact bne_iff_ne.mp (Option.filter_eq_some_iff.mp byConvention).2
    · obtain ⟨_, _, _, differs⟩ := byStem?_eq_some_iff.mp byStem
      exact differs

/-! ### What a search looks at -/

/-- Two repositories that give the same answers to everything that a search for an import asks:
which file is at a path, which has an ending, which stands for a package, and which alone has a
stem. -/
structure LooksLike (files others : FileList) : Prop where
  atPath? : files.atPath? = others.atPath?
  bySuffix? : files.bySuffix? = others.bySuffix?
  packageAt? : files.packageAt? = others.packageAt?
  byStem? : files.byStem? = others.byStem?

namespace LooksLike

variable {files others : FileList} (same : files.LooksLike others)
include same

theorem atFirst? : files.atFirst? = others.atFirst? := by
  funext paths
  rw [FileList.atFirst?, FileList.atFirst?, same.atPath?]

theorem relative? : files.relative? = others.relative? := by
  funext importer text extensions indexFiles
  rw [FileList.relative?, FileList.relative?, same.atFirst?]

theorem moduleFile? : files.moduleFile? = others.moduleFile? := by
  funext base
  rw [FileList.moduleFile?, FileList.moduleFile?, same.atFirst?]

theorem memberOrModule? : files.memberOrModule? = others.memberOrModule? := by
  funext base member
  rw [FileList.memberOrModule?, FileList.memberOrModule?, same.moduleFile?]

theorem dotted? : files.dotted? = others.dotted? := by
  funext importer text member
  rw [FileList.dotted?, FileList.dotted?, same.memberOrModule?, same.bySuffix?]

theorem packagePath? : files.packagePath? = others.packagePath? := by
  funext text extensions snake
  rw [FileList.packagePath?, FileList.packagePath?, same.bySuffix?]

theorem rootDirectory : files.rootDirectory = others.rootDirectory := by
  funext file
  rw [FileList.rootDirectory, FileList.rootDirectory, same.atPath?]

theorem modulePath? : files.modulePath? = others.modulePath? := by
  have start : files.moduleStart? = others.moduleStart? := by
    funext importer segments
    unfold moduleStart?
    rw [same.rootDirectory]
  have longest : files.longestModule? = others.longestModule? := by
    funext directory segments
    rw [longestModule?, longestModule?, same.atFirst?]
  funext importer text
  rw [FileList.modulePath?, FileList.modulePath?, start, longest]

theorem packageDirectory? : files.packageDirectory? = others.packageDirectory? := by
  funext text
  rw [FileList.packageDirectory?, FileList.packageDirectory?, same.packageAt?]

theorem feature? : files.feature? = others.feature? := by
  funext importer text extensions
  rw [FileList.feature?, FileList.feature?, same.atFirst?, same.bySuffix?]

theorem byConvention? : files.byConvention? = others.byConvention? := by
  funext importer text member convention
  unfold FileList.byConvention?
  rw [same.relative?, same.dotted?, same.packagePath?, same.modulePath?, same.packageDirectory?,
    same.feature?]

/-- An import leads to the same file in both. -/
theorem import? : files.import? = others.import? := by
  funext importer text member
  rw [FileList.import?, FileList.import?, same.byConvention?, same.byStem?]

end LooksLike

/-! ### Order of the files -/

instance : Std.TransCmp shortestFirst := by
  unfold shortestFirst
  infer_instance

instance : Std.TransCmp compareInPackage := by
  unfold compareInPackage
  infer_instance

variable {others : FileList}

theorem separates_shortestFirst (paths : List String) : Separates shortestFirst paths := by
  intro left _ right _ same
  rw [shortestFirst, compareLex_eq_eq] at same
  exact Std.LawfulEqCmp.eq_of_compare same.2

theorem separates_compareInPackage (distinct : (files.map SourceFile.relativePath).Nodup) :
    Separates compareInPackage files := by
  intro left leftMember right rightMember same
  rw [compareInPackage, compareLex_eq_eq, compareOn_eq_eq_iff] at same
  exact List.inj_on_of_nodup_map distinct leftMember rightMember
    (Std.LawfulEqCmp.eq_of_compare same.2)

theorem bySuffix?_eq_of_perm (distinct : (files.map SourceFile.relativePath).Nodup)
    (perm : files.Perm others) : files.bySuffix? = others.bySuffix? := by
  have withEnding : files.withEnding? = others.withEnding? := by
    funext ending
    rw [withEnding?, withEnding?, atPath?_eq_of_perm distinct perm,
      leastBy?_eq_of_perm (separates_shortestFirst _) ((perm.map _).filter _)]
  funext ending extensions
  rw [bySuffix?, bySuffix?, withEnding]

theorem packageAt?_eq_of_perm (distinct : (files.map SourceFile.relativePath).Nodup)
    (perm : files.Perm others) : files.packageAt? = others.packageAt? := by
  have texts (items : List String) : Separates compare items :=
    fun _ _ _ _ same => Std.LawfulEqCmp.eq_of_compare same
  funext ending
  have sources := perm.filter fun file => pathEndsWith ".go" file.relativePath
  unfold packageAt?
  simp only
  rw [leastBy?_eq_of_perm (texts _) ((sources.map SourceFile.directory).filter _)]
  congr 1
  funext directory
  exact leastBy?_eq_of_perm (((separates_compareInPackage distinct).filter _).filter _)
    (sources.filter _)

/-- Whether a file alone has a stem does not depend on the order. -/
theorem byStem?_eq_of_perm (perm : files.Perm others) : files.byStem? = others.byStem? := by
  funext importer text convention
  unfold byStem?
  congr 1
  funext stem
  have permStem : (files.withStem stem).Perm (others.withStem stem) := perm.filter _
  split
  · next only isOnly =>
    rw [isOnly] at permStem
    rw [← List.singleton_perm.mp permStem]
  · next several =>
    split
    · next only isOnly =>
      rw [isOnly] at permStem
      exact absurd (List.perm_singleton.mp permStem) (several only)
    · rfl

/-- Repositories with the same files, no two of which have one path, look alike. -/
theorem looksLike_of_perm (distinct : (files.map SourceFile.relativePath).Nodup)
    (perm : files.Perm others) : files.LooksLike others where
  atPath? := atPath?_eq_of_perm distinct perm
  bySuffix? := bySuffix?_eq_of_perm distinct perm
  packageAt? := packageAt?_eq_of_perm distinct perm
  byStem? := byStem?_eq_of_perm perm

/-! ### The first path with a file -/

/-- The file is at the first of the paths that there is a file at. -/
def IsAtFirst (files : FileList) (paths : List String) (file : SourceFile) : Prop :=
  file ∈ files ∧ ∃ front back, paths = front ++ file.relativePath :: back ∧
    ∀ path ∈ front, ∀ other ∈ files, other.relativePath ≠ path

theorem atFirst?_eq_some_iff (distinct : (files.map SourceFile.relativePath).Nodup)
    {paths : List String} {file : SourceFile} :
    files.atFirst? paths = some file ↔ files.IsAtFirst paths file := by
  rw [atFirst?, List.findSome?_eq_some_iff, IsAtFirst]
  simp only [atPath?_eq_some_iff distinct, atPath?_eq_none_iff]
  constructor
  · rintro ⟨front, path, back, split, ⟨member, rfl⟩, nothing⟩
    exact ⟨member, front, back, split, nothing⟩
  · rintro ⟨member, front, back, split, nothing⟩
    exact ⟨front, file.relativePath, back, split, ⟨member, rfl⟩, nothing⟩

theorem atFirst?_eq_none_iff {paths : List String} :
    files.atFirst? paths = none ↔ ∀ path ∈ paths, ∀ file ∈ files, file.relativePath ≠ path := by
  rw [atFirst?, List.findSome?_eq_none_iff]
  exact forall₂_congr fun path _ => atPath?_eq_none_iff

/-! ### Files with nothing but paths -/

/-- Files at the given paths. -/
def atPaths (paths : List String) : FileList :=
  paths.map fun path =>
    { id := path, repositoryId := "r", relativePath := path, language := Language.ofPath? path,
      size := 0, carrierClass := "SourceCodeFile", contentClass := "Code" }

end CodeGraph.FileList
