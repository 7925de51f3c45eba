/-
This file proves where a path of modules leads. What it starts with says from which directory on
its names are followed, and the module is the one that stands for as many of them as possible;
those that are left name something inside it.

Each search of the resolver is brought into a form that speaks of lists. The directories above a
directory are listed by their levels, and the first of them that passes a test is the nearest one;
the fuel of the climb is enough because every step makes the path shorter. The starts of a list of
names are listed from the longest to the shortest, and the first of them that has a file is the
longest (`FileList.longestModule?_eq`). Either of the two files that a module may stand in counts,
in the order in which they are looked for.

With these the two halves of a module path are independent of each other. Its words lead to a
directory or out of the repository (`FileList.startDirectory?`): the one with the root module of
the crate, that of the file itself, or some levels up. Its names are followed from there
(`FileList.modulePath?_eq`), and reading them out of the text is the matter of another file. The
theorem describes the target without any search. A directory that is written as a dot is not the
same as the one at the root, and an example shows what comes of it.
-/
import CodeGraph.Proofs.LeastItem
import CodeGraph.Proofs.Resolution.Importing
import CodeGraph.Proofs.Resolution.ModulePathWords
import CodeGraph.Proofs.Resolution.SiblingModules

namespace CodeGraph

open Text

/-! ### The starts of a list -/

section Starts

variable {item : Type} {items start : List item}

/-- The starts of a list that are not empty, the longest first. -/
def starts (items : List item) : List (List item) :=
  (List.range items.length).reverse.map fun count => items.take (count + 1)

theorem mem_starts_iff : start ∈ starts items ↔ start <+: items ∧ start ≠ [] := by
  rw [starts, List.mem_map]
  simp only [List.mem_reverse, List.mem_range]
  constructor
  · rintro ⟨count, inside, rfl⟩
    have nonempty : 0 < (items.take (count + 1)).length := by
      rw [List.length_take]
      omega
    exact ⟨List.take_prefix _ _, List.ne_nil_of_length_pos nonempty⟩
  · rintro ⟨isStart, nonempty⟩
    have isShorter := isStart.length_le
    have hasLength := List.length_pos_iff.mpr nonempty
    have sameLength : start.length - 1 + 1 = start.length := by omega
    refine ⟨start.length - 1, by omega, ?_⟩
    rw [sameLength]
    exact (List.prefix_iff_eq_take.mp isStart).symm

theorem pairwise_starts (items : List item) :
    (starts items).Pairwise fun earlier later => later.length < earlier.length := by
  rw [starts, List.pairwise_map]
  refine (List.pairwise_reverse.mpr List.pairwise_lt_range).imp_of_mem
    fun {count other} inside _ less => ?_
  rw [List.mem_reverse, List.mem_range] at inside
  rw [List.length_take, List.length_take]
  omega

end Starts

/-! ### Directories above a directory -/

namespace Path

theorem length_lt_of_parent? {directory above : String} (isAbove : parent? directory = some above) :
    above.length < directory.length := by
  unfold parent? at isAbove
  split at isAbove
  · cases isAbove
  · next notRoot =>
    cases isAbove
    unfold Path.directory
    split
    · next before after isSplit =>
      have spelled := congrArg List.length (eq_append_of_splitLast? isSplit)
      rw [String.length_toList, List.length_append, List.length_cons] at spelled
      rw [String.length_ofList]
      omega
    · exact Nat.pos_of_ne_zero fun isEmpty => notRoot (String.length_eq_zero_iff.mp isEmpty)

theorem getElem?_upwards {fuel level : Nat} {directory : String}
    (enough : directory.length < fuel) :
    (upwards fuel directory)[level]? = above? level directory := by
  induction fuel generalizing level directory with
  | zero => omega
  | succ fuel inductionHypothesis =>
    cases level with
    | zero => rfl
    | succ level =>
      rw [upwards, List.getElem?_cons_succ, above?]
      cases isAbove : parent? directory with
      | none => rfl
      | some above =>
        have shorter := length_lt_of_parent? isAbove
        exact inductionHypothesis (by omega)

/-- A directory and those above it, by their levels. -/
theorem getElem?_selfAndAbove (directory : String) (level : Nat) :
    (selfAndAbove directory)[level]? = above? level directory :=
  getElem?_upwards (Nat.lt_succ_self _)

/-- The first directory on the way up that passes a test is the nearest. -/
theorem find?_selfAndAbove_eq_some_iff {directory found : String} {test : String → Bool} :
    (selfAndAbove directory).find? test = some found ↔
      test found = true ∧ ∃ level, above? level directory = some found ∧
        ∀ lower < level, ∀ other, above? lower directory = some other → ¬ test other = true := by
  rw [List.find?_eq_some_iff_getElem]
  refine and_congr_right fun _ => exists_congr fun level => ?_
  simp only [← getElem?_selfAndAbove]
  constructor
  · rintro ⟨inside, isFound, nothing⟩
    refine ⟨List.getElem?_eq_some_iff.mpr ⟨inside, isFound⟩, fun lower less other isOther => ?_⟩
    obtain ⟨otherInside, rfl⟩ := List.getElem?_eq_some_iff.mp isOther
    simpa using nothing lower less
  · rintro ⟨isFound, nothing⟩
    obtain ⟨inside, isHere⟩ := List.getElem?_eq_some_iff.mp isFound
    refine ⟨inside, isHere, fun lower less => ?_⟩
    simpa using nothing lower less _ (List.getElem?_eq_getElem (Nat.lt_trans less inside))

theorem find?_selfAndAbove_eq_none_iff {directory : String} {test : String → Bool} :
    (selfAndAbove directory).find? test = none ↔
      ∀ level other, above? level directory = some other → ¬ test other = true := by
  simp only [List.find?_eq_none, ← getElem?_selfAndAbove]
  constructor
  · exact fun nothing level other isOther => nothing other (List.mem_of_getElem? isOther)
  · intro nothing other member
    obtain ⟨level, isOther⟩ := List.mem_iff_getElem?.mp member
    exact nothing level other isOther

end Path

/-! ### The directory in which a module path starts -/

namespace FileList

variable {files : FileList} {importer target : SourceFile} {start : PathStart}
  {directory : String} {names : List String}

/-- The directory of the modules below a file: its own if the file stands for its directory, and
otherwise the one in it that has the stem of the file. -/
def IsModuleDirectory (file : SourceFile) (directory : String) : Prop :=
  if file.fileName ∈ ["lib.rs", "main.rs", "mod.rs"] then directory = file.directory
  else ∃ stem, Path.IsStem file.fileName stem ∧ directory = Path.join file.directory stem

/-- The directory holds the root module of a crate. -/
def HoldsRootModule (files : FileList) (directory : String) : Prop :=
  ∃ name ∈ ["lib.rs", "main.rs"], ∃ file ∈ files, file.relativePath = Path.join directory name

instance (directory : String) : Decidable (files.HoldsRootModule directory) :=
  inferInstanceAs (Decidable (∃ name ∈ _, _))

/-- The nearest directory at or above that of a file that holds a root module; the directory of the
file if there is none. -/
def IsRootDirectory (files : FileList) (file : SourceFile) (directory : String) : Prop :=
  (files.HoldsRootModule directory ∧ ∃ level, Path.above? level file.directory = some directory ∧
    ∀ lower < level, ∀ other, Path.above? lower file.directory = some other →
      ¬ files.HoldsRootModule other) ∨
  (directory = file.directory ∧ ∀ level other, Path.above? level file.directory = some other →
    ¬ files.HoldsRootModule other)

/-- The directory from which on the names of a module path are followed. -/
def IsStart (files : FileList) (importer : SourceFile) : PathStart → String → Prop
  | .crate, directory => files.IsRootDirectory importer directory
  | .self, directory | .unmarked, directory => IsModuleDirectory importer directory
  | .supers more, directory => ∃ modules, IsModuleDirectory importer modules ∧
      Path.above? (more + 1) modules = some directory

theorem isModuleDirectory_iff {file : SourceFile} :
    IsModuleDirectory file directory ↔ moduleDirectory file = directory := by
  unfold IsModuleDirectory moduleDirectory
  simp only [List.contains_iff_mem, Path.isStem_iff]
  split
  · exact eq_comm
  · simp [eq_comm]

theorem any_atPath?_iff :
    (["lib.rs", "main.rs"].any fun name => (files.atPath? (Path.join directory name)).isSome) ↔
      files.HoldsRootModule directory := by
  simp only [List.any_eq_true, Option.isSome_iff_ne_none, ne_eq, atPath?_eq_none_iff,
    HoldsRootModule, not_forall, not_not, exists_prop]

theorem isRootDirectory_iff {file : SourceFile} :
    files.IsRootDirectory file directory ↔ files.rootDirectory file = directory := by
  rw [rootDirectory, Option.getD_eq_iff, Path.find?_selfAndAbove_eq_some_iff,
    Path.find?_selfAndAbove_eq_none_iff]
  simp only [any_atPath?_iff]
  refine or_congr_right ⟨?_, ?_⟩
  · rintro ⟨rfl, nothing⟩
    exact ⟨nothing, rfl⟩
  · rintro ⟨nothing, rfl⟩
    exact ⟨rfl, nothing⟩

/-- The directory in which a module path starts, if its words do not lead above the root. -/
def startDirectory? (files : FileList) (importer : SourceFile) : PathStart → Option String
  | .crate => some (files.rootDirectory importer)
  | .self | .unmarked => some (moduleDirectory importer)
  | .supers more => Path.above? (more + 1) (moduleDirectory importer)

theorem startDirectory?_eq_some_iff :
    files.startDirectory? importer start = some directory ↔
      files.IsStart importer start directory := by
  cases start with
  | crate => exact Option.some_inj.trans isRootDirectory_iff.symm
  | self => exact Option.some_inj.trans isModuleDirectory_iff.symm
  | unmarked => exact Option.some_inj.trans isModuleDirectory_iff.symm
  | supers more => simp only [startDirectory?, IsStart, isModuleDirectory_iff, exists_eq_left']

/-! ### The longest start that is a module -/

/-- The paths at which the file of a module may stand. -/
def moduleFiles (directory : String) (names : List String) : List String :=
  let path := Path.join directory (Text.join '/' names)
  [path ++ ".rs", path ++ "/mod.rs"]

/-- There is a file for a module. -/
def HasModule (files : FileList) (directory : String) (names : List String) : Prop :=
  ∃ path ∈ moduleFiles directory names, ∃ file ∈ files, file.relativePath = path

instance (directory : String) (names : List String) : Decidable (files.HasModule directory names) :=
  inferInstanceAs (Decidable (∃ path ∈ _, _))

/-- The file stands for as many names from the first on as any file does. -/
def IsLongestModule (files : FileList) (directory : String) (names : List String)
    (file : SourceFile) : Prop :=
  ∃ front, front <+: names ∧ front ≠ [] ∧ files.IsAtFirst (moduleFiles directory front) file ∧
    ∀ longer, longer <+: names → front.length < longer.length → ¬ files.HasModule directory longer

theorem atFirst?_moduleFiles_eq_none_iff :
    files.atFirst? (moduleFiles directory names) = none ↔ ¬ files.HasModule directory names := by
  rw [atFirst?_eq_none_iff]
  simp only [HasModule, not_exists, not_and]

theorem longestModule?_eq (files : FileList) (directory : String) (names : List String) :
    files.longestModule? directory names =
      (starts names).findSome? fun front => files.atFirst? (moduleFiles directory front) := by
  rw [starts, List.findSome?_map]
  rfl

theorem longestModule?_eq_some_iff (distinct : (files.map SourceFile.relativePath).Nodup) :
    files.longestModule? directory names = some target ↔
      files.IsLongestModule directory names target := by
  rw [longestModule?_eq,
    findSome?_eq_some_iff_of_longest_first (fun _ => mem_starts_iff) (pairwise_starts _)]
  simp only [atFirst?_eq_some_iff distinct, atFirst?_moduleFiles_eq_none_iff]
  rfl

theorem longestModule?_eq_none_iff :
    files.longestModule? directory names = none ↔
      ∀ front, front <+: names → front ≠ [] → ¬ files.HasModule directory front := by
  simp only [longestModule?_eq, List.findSome?_eq_none_iff, mem_starts_iff, and_imp,
    atFirst?_moduleFiles_eq_none_iff]

/-! ### Module paths -/

theorem climb?_replicate_append {count : Nat} (ends : names.head? ≠ some "super") :
    climb? directory (List.replicate count "super" ++ names) =
      (Path.above? count directory).map (·, names) := by
  induction count generalizing directory with
  | zero =>
    cases names with
    | nil => rfl
    | cons name others =>
      have notSuper : name ≠ "super" := fun same => ends (same ▸ rfl)
      exact if_neg notSuper
  | succ count inductionHypothesis =>
    rw [List.replicate_succ, List.cons_append, climb?, if_pos rfl, Path.above?]
    cases Path.parent? directory with
    | none => rfl
    | some above => exact inductionHypothesis

theorem moduleStart?_eq (areNames : ∀ name ∈ names, IsPathName name)
    (inhabited : start.words ++ names ≠ []) :
    files.moduleStart? importer (start.words ++ names) =
      (files.startDirectory? importer start).map (·, names) := by
  have notSpecial : ∀ name, names.head? = some name → name ∉ ["crate", "self", "super"] :=
    fun name isHead => (areNames name (List.mem_of_head? isHead)).notSpecial
  have notSuper : names.head? ≠ some "super" := fun isHead => notSpecial _ isHead (by decide)
  cases start with
  | crate => rfl
  | self => rfl
  | supers more =>
    have climbed : climb? (moduleDirectory importer) (List.replicate (more + 1) "super" ++ names) =
        (Path.above? (more + 1) (moduleDirectory importer)).map (·, names) :=
      climb?_replicate_append notSuper
    exact climbed
  | unmarked =>
    obtain ⟨name, others, rfl⟩ := List.exists_cons_of_ne_nil inhabited
    have special := notSpecial name rfl
    simp only [List.mem_cons, List.not_mem_nil, or_false, not_or] at special
    obtain ⟨notCrate, notSelf, isPlain⟩ := special
    show files.moduleStart? importer (name :: others) =
      some (moduleDirectory importer, name :: others)
    rw [moduleStart?, if_neg notCrate, if_neg notSelf, climb?, if_neg isPlain]

theorem areWords_of_areNames (start : PathStart) (areNames : ∀ name ∈ names, IsPathName name) :
    ∀ word ∈ start.words ++ names, IsWord word :=
  List.forall_mem_append.mpr ⟨fun _ => PathStart.isWord_of_mem_words,
    fun name member => (areNames name member).toIsWord⟩

/-- The names are followed from the directory in which the path starts. -/
theorem modulePath?_eq (areNames : ∀ name ∈ names, IsPathName name) :
    files.modulePath? importer (modulePathText start names) =
      (files.startDirectory? importer start).bind fun directory =>
        files.longestModule? directory names := by
  have areWords := areWords_of_areNames start areNames
  rw [modulePath?, modulePathText, moduleSegments_intercalate areWords]
  by_cases inhabited : start.words ++ names = []
  · -- Without words nothing is looked for, and without names nothing is found.
    have noNames := (List.append_eq_nil_iff.mp inhabited).2
    have noModule (directory : String) : files.longestModule? directory names = none :=
      longestModule?_eq_none_iff.mpr fun front isStart nonempty =>
        absurd (List.prefix_nil.mp (noNames ▸ isStart)) nonempty
    rw [inhabited]
    simp [moduleStart?, noModule]
  · rw [moduleStart?_eq areNames inhabited]
    cases files.startDirectory? importer start with
    | none => rfl
    | some directory => rfl

/-- A module path leads to the longest start of its names that is a module, from the directory that
the words before them stand for, and nowhere exactly if no start of them is a module there. A list
of members, a star or a new name behind the path changes nothing. -/
theorem modulePath?_longest_start (distinct : (files.map SourceFile.relativePath).Nodup)
    (areNames : ∀ name ∈ names, IsPathName name) :
    (∀ target, files.modulePath? importer (modulePathText start names) = some target ↔
      ∃ directory, files.IsStart importer start directory ∧
        files.IsLongestModule directory names target) ∧
    (files.modulePath? importer (modulePathText start names) = none ↔
      ∀ directory, files.IsStart importer start directory →
        ∀ front, front <+: names → front ≠ [] → ¬ files.HasModule directory front) ∧
    ∀ ending, IsPathEnding ending →
      files.modulePath? importer (modulePathText start names ++ ending) =
        files.modulePath? importer (modulePathText start names) := by
  refine ⟨fun target => ?_, ?_, fun ending isEnding => ?_⟩
  · simp only [modulePath?_eq areNames, Option.bind_eq_some_iff, startDirectory?_eq_some_iff,
      longestModule?_eq_some_iff distinct]
  · simp only [modulePath?_eq areNames, Option.bind_eq_none_iff, startDirectory?_eq_some_iff,
      longestModule?_eq_none_iff]
  · have areWords := areWords_of_areNames start areNames
    rw [modulePath?, modulePathText, moduleSegments_append areWords isEnding, modulePath?]

/-- Modules in files of their own and in directories. -/
def crate : FileList :=
  atPaths ["src/lib.rs", "src/net/tcp.rs", "src/store/mod.rs", "net/store.rs", "src/net/store.rs"]

/-- A type is imported from the module that holds it, below the directory with the root module. -/
theorem modulePath?_of_crate :
    crate.modulePath? crate[1] "crate::store::Store" = some crate[2] := by
  have distinct : (crate.map SourceFile.relativePath).Nodup := by decide
  have text : modulePathText .crate ["store", "Store"] = "crate::store::Store" := by decide
  have areNames : ∀ name ∈ ["store", "Store"], IsPathName name := by decide
  rw [← text]
  refine ((modulePath?_longest_start distinct areNames).1 crate[2]).mpr ⟨"src", .inl ⟨by decide, 1,
    by decide, fun lower less other isOther => ?_⟩, ["store"], by decide, by decide,
    ⟨List.getElem_mem (by decide), ["src/store.rs"], [], by decide, by decide⟩, ?_⟩
  · obtain rfl := Nat.lt_one_iff.mp less
    cases isOther
    decide
  · intro longer isStart more
    have hasLength : longer.length = 2 := Nat.le_antisymm isStart.length_le more
    rw [isStart.eq_of_length hasLength]
    decide

/-- A root module and a module next to it, below a directory that is written as a dot, and a module
of the same name elsewhere. -/
def dotted : FileList := atPaths ["./main.rs", "./net.rs", "x/net.rs"]

/-- The module next to the root module is not looked for at its path. -/
theorem modulePath?_ne_of_dotted :
    ¬ ∀ (files : FileList) (importer target : SourceFile) (names : List String)
      (directory : String), (files.map SourceFile.relativePath).Nodup → importer ∈ files →
        names ≠ [] → (∀ name ∈ names, IsPathName name) → IsModuleDirectory importer directory →
          target ∈ files → target.relativePath = Path.below directory names ++ ".rs" →
            files.modulePath? importer (modulePathText .unmarked names) = some target := by
  intro leads
  have isFound := leads dotted dotted[0] dotted[1] ["net"] "." (by decide)
    (List.getElem_mem (by decide)) (by decide) (by decide) (isModuleDirectory_iff.mpr (by decide))
    (List.getElem_mem (by decide)) (by decide)
  exact absurd isFound (by decide)

end FileList

end CodeGraph
