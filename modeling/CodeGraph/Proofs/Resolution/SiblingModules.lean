/-
This file asks when a dotted name with dots at its start is imported from the module of that name.

What is looked for is the path of the names as it stands, then the path with each of the extensions
of a module, then a package. The first of these that a file has is found, and only then is it
dropped if the file has the bare path. So such a file hides the module, though it is not imported
itself (`FileList.moduleFile?_eq`). For the converse the spellings have to be told apart: a path
never equals one of its longer spellings, one extension does not end in the other, and the file of
a package has a name of its own. A module is then found exactly if no file has its path without the
extension (`FileList.moduleFile?_eq_some_iff`).

Before the names are looked for they are followed from the directory that the dots lead to, and the
path that comes out is in its collapsed spelling. If the path of the names is collapsed already, it
is that one; if it is not, which happens below a directory that is written as a dot, it is never
looked for as it stands. Since the last resort of an import is the one file with the stem of the
name, and a file at the bare path has this stem as well, the module is not found there either while
it is hidden (`FileList.import?_sibling_iff`).
-/
import CodeGraph.Proofs.Graph.Lookup
import CodeGraph.Proofs.Path.Collapse
import CodeGraph.Proofs.Resolution.DottedNames

namespace CodeGraph

open Text

/-! ### Paths of names -/

namespace Path

/-- The path that names lead to from a directory, without an extension. -/
def below (directory : String) (names : List String) : String :=
  Text.join '/' (if directory = "" then names else directory :: names)

section Below

variable {names : List String} (nonempty : names ≠ [])

/-- Names below a directory end with the last of them. -/
theorem exists_below_eq (directory : String) :
    ∃ front, below directory names = Text.join '/' (front ++ [names.getLast nonempty]) := by
  refine ⟨if directory = "" then names.dropLast else directory :: names.dropLast, ?_⟩
  unfold below
  split
  · rw [List.dropLast_append_getLast]
  · rw [List.cons_append, List.dropLast_append_getLast]

variable (areNames : ∀ name ∈ names, IsModuleName name)
include nonempty areNames

theorem fileName_below (directory : String) :
    fileName (below directory names) = names.getLast nonempty := by
  obtain ⟨front, joined⟩ := exists_below_eq nonempty directory
  rw [joined, fileName_join front (areNames _ (List.getLast_mem nonempty)).noSlash]

theorem below_ne_root (directory : String) : below directory names ≠ "" := by
  intro isRoot
  have named := fileName_below nonempty areNames directory
  rw [isRoot] at named
  exact (areNames _ (List.getLast_mem nonempty)).nonempty named.symm

/-- Where names lead to a path in its collapsed spelling, they are followed along that path. -/
theorem join_eq_below {directory : String} (isCollapsed : IsCollapsed (below directory names)) :
    join directory (Text.join '/' names) = below directory names := by
  have named : Text.join '/' names ≠ "" := below_ne_root nonempty areNames ""
  by_cases isRoot : directory = ""
  · subst isRoot
    rfl
  have spelled : below directory names = directory ++ "/" ++ Text.join '/' names := by
    obtain ⟨name, others, rfl⟩ := List.exists_cons_of_ne_nil nonempty
    rw [below, if_neg isRoot]
    simp [Text.join, joinPieces, String.append_assoc]
  -- A single dot adds nothing to a path that is joined to it, but it is a segment of this one.
  have notDot : directory ≠ "." := by
    rintro rfl
    have plain := isCollapsed.isPlain_of_mem_piecesAt (below_ne_root nonempty areNames ".") ['.']
    have cut := piecesAt_append_cons '/' ['.'] (Text.join '/' names).toList
    rw [spelled, String.toList_append, String.toList_append] at plain
    exact absurd (plain (cut ▸ List.mem_append_left _ (by decide))).meaningful (by decide)
  rw [spelled, join, if_neg (not_or.mpr ⟨isRoot, notDot⟩), if_neg named]

end Below

end Path

namespace FileList

variable {files : FileList} {importer target : SourceFile}

/-! ### Modules and packages -/

theorem atFirst?_spellings (files : FileList) (base : String) :
    files.atFirst? (spellings base dottedExtensions false) =
      (files.atPath? base).or
        ((files.atPath? (base ++ ".py")).or (files.atPath? (base ++ ".pyi"))) := by
  have spelled : spellings base dottedExtensions false = [base, base ++ ".py", base ++ ".pyi"] := by
    show [base, base ++ "." ++ "py", base ++ "." ++ "pyi"] = _
    rw [String.append_assoc, String.append_assoc]
    rfl
  rw [spelled, atFirst?]
  simp only [List.findSome?_cons, List.findSome?_nil]
  cases files.atPath? base <;> cases files.atPath? (base ++ ".py") <;>
    cases files.atPath? (base ++ ".pyi") <;> rfl

theorem moduleFile?_eq (files : FileList) {base : String} (notRoot : base ≠ "") :
    files.moduleFile? base =
      ((files.atFirst? (spellings base dottedExtensions false)).filter
        (·.relativePath != base)).or
          (files.atFirst? (spellings (Path.join base packageFile) dottedExtensions false)) :=
  if_neg notRoot

theorem ne_append {ending : String} (isLonger : ending.length ≠ 0) (path : String) :
    path ≠ path ++ ending := by
  intro same
  have longer := congrArg String.length same
  rw [String.length_append] at longer
  exact isLonger (Nat.left_eq_add.mp longer)

theorem append_py_ne_append_pyi (path other : String) : path ++ ".py" ≠ other ++ ".pyi" := by
  intro same
  have last := congrArg (fun text => text.toList.getLast?) same
  simp at last

theorem append_py_ne_join_packageFile (path base : String) :
    path ++ ".py" ≠ Path.join base packageFile := by
  obtain ⟨front, isPackage⟩ : ∃ front, Path.join base packageFile = front ++ packageFile := by
    unfold Path.join
    split
    · exact ⟨"", String.empty_append.symm⟩
    · exact ⟨base ++ "/", rfl⟩
  intro same
  rw [isPackage] at same
  have last := congrArg (fun text => text.toList.getLast?) same
  simp [packageFile] at last

theorem ne_join_packageFile (base : String) : base ≠ Path.join base packageFile := by
  unfold Path.join
  split
  · next isRoot => rcases isRoot with rfl | rfl <;> decide
  · rw [if_neg (by decide), String.append_assoc]
    exact ne_append (by decide) base

theorem eq_of_atFirst? {base path : String} {file : SourceFile}
    (isFound : files.atFirst? (spellings base dottedExtensions false) = some file)
    (isModule : file.relativePath = path ++ ".py") (notBare : file.relativePath ≠ base) :
    path = base ∧ files.atPath? base = none := by
  rw [atFirst?_spellings] at isFound
  rcases Option.or_eq_some_iff.mp isFound with bare | ⟨free, withExtension⟩
  · exact absurd (mem_of_atPath? bare).2 notBare
  · refine ⟨?_, free⟩
    rcases Option.or_eq_some_iff.mp withExtension with py | ⟨_, pyi⟩
    · exact (String.append_left_inj ".py").mp (isModule.symm.trans (mem_of_atPath? py).2)
    · exact absurd (isModule.symm.trans (mem_of_atPath? pyi).2)
        (append_py_ne_append_pyi path base)

/-- A module is found at a path that no other file has, or in the place of a package. -/
theorem eq_of_moduleFile? {base path : String} {file : SourceFile}
    (isFound : files.moduleFile? base = some file) (isModule : file.relativePath = path ++ ".py") :
    path = base ∧ files.atPath? base = none ∨ path = Path.join base packageFile := by
  have notPackage : file.relativePath ≠ Path.join base packageFile :=
    isModule ▸ append_py_ne_join_packageFile path base
  by_cases isRoot : base = ""
  · subst isRoot
    exact .inr (eq_of_atFirst? isFound isModule notPackage).1
  rw [moduleFile?_eq files isRoot] at isFound
  rcases Option.or_eq_some_iff.mp isFound with here | ⟨_, below⟩
  · have ⟨isFirst, notBare⟩ := Option.filter_eq_some_iff.mp here
    exact .inl (eq_of_atFirst? isFirst isModule (bne_iff_ne.mp notBare))
  · exact .inr (eq_of_atFirst? below isModule notPackage).1

/-- The module at a path is found exactly if no file has that path. -/
theorem moduleFile?_eq_some_iff (distinct : (files.map SourceFile.relativePath).Nodup)
    {base : String} (notRoot : base ≠ "") (member : target ∈ files)
    (isModule : target.relativePath = base ++ ".py") :
    files.moduleFile? base = some target ↔ ∀ file ∈ files, file.relativePath ≠ base := by
  rw [← atPath?_eq_none_iff]
  constructor
  · intro isFound
    rcases eq_of_moduleFile? isFound isModule with ⟨_, free⟩ | isPackage
    · exact free
    · exact absurd isPackage (ne_join_packageFile base)
  · intro free
    have atModule : files.atPath? (base ++ ".py") = some target :=
      (atPath?_eq_some_iff distinct).mpr ⟨member, isModule⟩
    have isNew : (target.relativePath != base) = true :=
      bne_iff_ne.mpr fun same => ne_append (by decide) base (same ▸ isModule)
    rw [moduleFile?_eq files notRoot, atFirst?_spellings, free, atModule, Option.none_or,
      Option.some_or, Option.filter_some, if_pos isNew, Option.some_or]

/-! ### Modules next to a file -/

section Sibling

variable {levels : Nat} {names : List String} {directory : String}
  (distinct : (files.map SourceFile.relativePath).Nodup) (nonempty : names ≠ [])
  (areNames : ∀ name ∈ names, IsModuleName name)
  (isAbove : Path.above? levels importer.directory = some directory) (member : target ∈ files)
  (isModule : target.relativePath = Path.below directory names ++ ".py")
include distinct nonempty areNames isAbove member isModule

/-- The names are followed to their module exactly if their path is in its collapsed spelling and
no file has it. -/
theorem dotted?_eq_some_iff :
    files.dotted? importer (dottedText levels names) none = some target ↔
      Path.IsCollapsed (Path.below directory names) ∧
        ∀ file ∈ files, file.relativePath ≠ Path.below directory names := by
  rw [dotted?_dottedText files importer nonempty areNames isAbove]
  constructor
  · intro isFound
    obtain ⟨base, collapsed, atBase⟩ := Option.bind_eq_some_iff.mp isFound
    -- A package is found below the path that was looked for, so the two paths need not be the same
    -- yet; but either way the path of the names is a collapsed one.
    have isCollapsed : Path.IsCollapsed (Path.below directory names) := by
      have baseCollapsed := Path.isCollapsed_of_collapse? collapsed
      rcases eq_of_moduleFile? atBase isModule with ⟨isBase, _⟩ | isPackage
      · rwa [isBase]
      · rw [isPackage]
        exact baseCollapsed.join (by decide)
    rw [Path.join_eq_below nonempty areNames isCollapsed, isCollapsed] at collapsed
    cases collapsed
    exact ⟨isCollapsed, (moduleFile?_eq_some_iff distinct (Path.below_ne_root nonempty areNames _)
      member isModule).mp atBase⟩
  · rintro ⟨isCollapsed, free⟩
    rw [Path.join_eq_below nonempty areNames isCollapsed, isCollapsed, Option.bind_some]
    exact (moduleFile?_eq_some_iff distinct (Path.below_ne_root nonempty areNames _) member
      isModule).mpr free

end Sibling

/-- A dotted name is imported from its module exactly if that is another file and no file has the
path of the names as it stands. From a directory that is not in its collapsed spelling the names do
not lead to the module, and it is imported only as the one file with its stem. -/
theorem import?_sibling_iff {levels : Nat} {names : List String} {directory : String}
    (distinct : (files.map SourceFile.relativePath).Nodup)
    (isPython : importer.language = some .python)
    (isAbove : Path.above? levels importer.directory = some directory) (nonempty : names ≠ [])
    (areNames : ∀ name ∈ names, IsModuleName name) (member : target ∈ files)
    (isModule : target.relativePath = Path.below directory names ++ ".py") :
    (Path.IsCollapsed (Path.below directory names) →
      (files.import? importer (dottedText levels names) none = some target ↔
        target.id ≠ importer.id ∧
          ∀ file ∈ files, file.relativePath ≠ Path.below directory names)) ∧
    (¬ Path.IsCollapsed (Path.below directory names) →
      (files.import? importer (dottedText levels names) none = some target ↔
        target.id ≠ importer.id ∧ files.withStem (names.getLast nonempty) = [target] ∧
          ∀ found ∈ files.dotted? importer (dottedText levels names) none,
            found.id = importer.id)) := by
  have leads := dotted?_eq_some_iff distinct nonempty areNames isAbove member isModule
  rw [import?_dottedText_eq_some_iff isPython nonempty areNames, leads]
  constructor
  · intro isCollapsed
    refine and_congr_right fun _ => ⟨?_, fun free => .inl ⟨isCollapsed, free⟩⟩
    rintro (⟨_, free⟩ | ⟨alone, _⟩)
    · exact free
    -- A file at the path as it stands has the same stem, so the module does not have it alone.
    · intro file isFile isHere
      have sameStem : file ∈ files.withStem (names.getLast nonempty) := by
        refine mem_withStem.mpr ⟨isFile, ?_⟩
        rw [SourceFile.fileName, isHere, Path.fileName_below nonempty areNames,
          Path.stem_eq_self (areNames _ (List.getLast_mem nonempty)).noDot]
      rw [alone, List.mem_singleton] at sameStem
      rw [← isHere, sameStem] at isModule
      exact ne_append (by decide) _ isModule
  · intro notCollapsed
    refine and_congr_right fun _ => ⟨?_, .inr⟩
    rintro (⟨isCollapsed, _⟩ | alone)
    · exact absurd isCollapsed notCollapsed
    · exact alone

theorem isModuleName_tool : IsModuleName "tool" := by
  have letters (character : Char) (member : character ∈ "tool".toList) :
      character = 't' ∨ character = 'o' ∨ character = 'l' := by
    simpa [or_comm, or_left_comm] using member
  refine ⟨by decide, fun character member => ?_, fun character member => ?_⟩
  · rcases letters character member with rfl | rfl | rfl <;> decide
  · rcases letters character member with rfl | rfl | rfl <;> decide

/-- A file, and two modules of one name: next to its package and elsewhere. -/
def namesakes : FileList := atPaths ["pkg/sub/app.py", "pkg/tool.py", "lib/tool.py"]

/-- The module next to the package is imported. -/
theorem import?_of_namesakes :
    namesakes.import? namesakes[0] "..tool" none = some namesakes[1] := by
  have text : dottedText 1 ["tool"] = "..tool" := by decide
  have isAbove : Path.above? 1 namesakes[0].directory = some "pkg" := by decide
  have isMember : namesakes[1] ∈ namesakes := List.getElem_mem (by decide)
  have isImported := (import?_sibling_iff (by decide) rfl isAbove (List.cons_ne_nil _ _)
    (List.forall_mem_singleton.mpr isModuleName_tool) isMember (by decide)).1 (by decide)
  exact text ▸ isImported.mpr (by decide)

/-- A file, a module, and a script with the path of the module without its extension. -/
def scripted : FileList := atPaths ["pkg/app.py", "pkg/tool", "pkg/tool.py"]

/-- The script hides the module. -/
theorem not_import?_of_scripted :
    ¬ ∀ (files : FileList) (importer target : SourceFile) (levels : Nat) (names : List String)
      (directory : String), (files.map SourceFile.relativePath).Nodup → importer ∈ files →
        importer.language = some .python →
          Path.above? levels importer.directory = some directory → names ≠ [] →
            (∀ name ∈ names, IsModuleName name) → target ∈ files →
              target.relativePath = Path.below directory names ++ ".py" →
                target.id ≠ importer.id →
                  files.import? importer (dottedText levels names) none = some target := by
  intro imports
  have isImported := imports scripted scripted[0] scripted[2] 0 ["tool"] "pkg" (by decide)
    (List.getElem_mem (by decide)) rfl (by decide) (List.cons_ne_nil _ _)
    (List.forall_mem_singleton.mpr isModuleName_tool) (List.getElem_mem (by decide)) (by decide)
    (by decide)
  exact absurd isImported (by decide)

end FileList

end CodeGraph
