/-
This file proves which settings that are loaded make sense for a run.

Settings make sense if two limits are not zero, so of all that the environment can change only the
variables of these two matter. A variable overrides a setting if it is set and its value can be
read; if it is not set the setting stays as it is (`override_eq_ok_iff`). Hence settings that make
sense are spoilt exactly by a variable that gives one of the limits as zero
(`validate_of_withEnvironment_iff`), and whether the environment overrides settings at all does not
depend on the settings (`exists_withEnvironment_iff`). What the documents hold is left to a reader
of which nothing is assumed.

The settings of a file are checked after the environment has overridden them, so they always make
sense. The settings that hold without a file make sense by themselves, but they are not checked
once they are overridden. So there is one way to load settings that make no sense, and
`load_gives_invalid_iff` says exactly when it is open: there is no file, every variable is
readable, and one of them sets a limit to zero. An environment that does so is loaded without a
file and refused with one.
-/
import CodeGraph.Proofs.Computations
import CodeGraph.Settings.Basic

namespace CodeGraph.Settings

variable {read : DocumentReader} {environment : Environment} {settings changed : Settings}

theorem fault?_eq_none_iff : settings.fault? = none ↔
    settings.extraction.maxFileSize ≠ 0 ∧ settings.extraction.parseTimeout ≠ 0 := by
  rw [fault?]
  split
  · next noSize => exact iff_of_false nofun fun limits => limits.1 noSize
  · next size =>
    split
    · next noTime => exact iff_of_false nofun fun limits => limits.2 noTime
    · next time => exact iff_of_true rfl ⟨size, time⟩

/-- The check succeeds exactly if both limits are positive. -/
theorem validate_eq_ok_iff : settings.validate = .ok () ↔
    settings.extraction.maxFileSize ≠ 0 ∧ settings.extraction.parseTimeout ≠ 0 := by
  rw [← fault?_eq_none_iff, validate]
  cases settings.fault? with
  | none => exact iff_of_true rfl rfl
  | some fault => exact iff_of_false nofun nofun

/-! ### The environment -/

/-- A variable of the environment has a value that is read as a setting. -/
def Gives {setting : Type} (environment : Environment) (name : String)
    (readValue : List Char → Option setting) (given : setting) : Prop :=
  ∃ value, environment name = some value ∧
    readValue (Text.trimWhere Text.isBlank value.toList) = some given

/-- A variable of the environment is unset or has a value that is read as a setting. -/
def Accepts {setting : Type} (environment : Environment) (name : String)
    (readValue : List Char → Option setting) : Prop :=
  environment name = none ∨ ∃ given, Gives environment name readValue given

section Override

variable {setting : Type} {name : String} {readValue : List Char → Option setting}
  {current given : setting}

/-- A setting is overridden by what its variable gives, and stays as it is if that is not set. -/
theorem override_eq_ok_iff : override environment name readValue current = .ok given ↔
    environment name = none ∧ given = current ∨ Gives environment name readValue given := by
  rw [override]
  split
  · next unset => simp [Gives, unset, eq_comm]
  · next value isSet =>
    split
    · next changed isRead => simp [Gives, isSet, isRead]
    · next unread => simp [Gives, isSet, unread]

theorem exists_override_iff : (∃ given, override environment name readValue current = .ok given) ↔
    Accepts environment name readValue := by
  simp only [Accepts, override_eq_ok_iff, exists_or, exists_and_left, exists_eq, and_true]

theorem Gives.eq_iff {other : setting} (gives : Gives environment name readValue given) :
    Gives environment name readValue other ↔ given = other := by
  obtain ⟨value, isSet, isRead⟩ := gives
  simp [Gives, isSet, isRead]

end Override

/-- A positive limit becomes zero exactly if its variable gives zero. -/
theorem eq_zero_iff_of_override {name : String} {current given : Nat} (positive : current ≠ 0)
    (overridden : override environment name readNumber current = .ok given) :
    given = 0 ↔ Gives environment name readNumber 0 := by
  obtain ⟨unset, rfl⟩ | gives := override_eq_ok_iff.mp overridden
  · exact iff_of_false positive fun ⟨_, isSet, _⟩ => by rw [unset] at isSet; cases isSet
  · exact gives.eq_iff.symm

/-- Every setting but four stays as it is or is a path, which cannot fail to be read. -/
theorem withEnvironment_eq_ok_iff : settings.withEnvironment environment = .ok changed ↔
    override environment "ONTOGRAPH_WORKERS" readNumber settings.extraction.workers =
      .ok changed.extraction.workers ∧
    override environment "ONTOGRAPH_MAX_FILE_SIZE" readNumber settings.extraction.maxFileSize =
      .ok changed.extraction.maxFileSize ∧
    override environment "ONTOGRAPH_PARSE_TIMEOUT_MS" readNumber settings.extraction.parseTimeout =
      .ok changed.extraction.parseTimeout ∧
    override environment "ONTOGRAPH_STRICT_SYNTAX" readBoolean settings.extraction.strictSyntax =
      .ok changed.extraction.strictSyntax ∧
    changed.extraction.followGitignore = settings.extraction.followGitignore ∧
    changed.extraction.includeHidden = settings.extraction.includeHidden ∧
    changed.rulesPath = overridePath environment "ONTOGRAPH_RULES_PATH" settings.rulesPath ∧
    changed.cachePath = overridePath environment "ONTOGRAPH_ONTOLOGY_CACHE" settings.cachePath ∧
    changed.sourcePath = settings.sourcePath ∧
    changed.outputPath = overridePath environment "ONTOGRAPH_OUTPUT" settings.outputPath := by
  simp only [withEnvironment, bind_eq_ok, pure_eq_ok]
  constructor
  · rintro ⟨workers, isWorkers, size, isSize, time, isTime, strict, isStrict, rfl⟩
    exact ⟨isWorkers, isSize, isTime, isStrict, rfl, rfl, rfl, rfl, rfl, rfl⟩
  · obtain ⟨⟨workers, size, time, strict, follows, hidden⟩, rules, cache, source, output⟩ := changed
    rintro ⟨isWorkers, isSize, isTime, isStrict, rfl, rfl, rfl, rfl, rfl, rfl⟩
    exact ⟨_, isWorkers, _, isSize, _, isTime, _, isStrict, rfl⟩

/-- No variable gives one of the limits as zero. -/
def LeavesLimits (environment : Environment) : Prop :=
  ¬ Gives environment "ONTOGRAPH_MAX_FILE_SIZE" readNumber 0 ∧
    ¬ Gives environment "ONTOGRAPH_PARSE_TIMEOUT_MS" readNumber 0

/-- Settings that make sense are spoilt exactly by a limit that is overridden by zero. -/
theorem validate_of_withEnvironment_iff (valid : settings.validate = .ok ())
    (overridden : settings.withEnvironment environment = .ok changed) :
    changed.validate = .ok () ↔ LeavesLimits environment := by
  have ⟨size, time⟩ := validate_eq_ok_iff.mp valid
  obtain ⟨_, isSize, isTime, _⟩ := withEnvironment_eq_ok_iff.mp overridden
  rw [validate_eq_ok_iff, LeavesLimits]
  exact and_congr (not_congr (eq_zero_iff_of_override size isSize))
    (not_congr (eq_zero_iff_of_override time isTime))

/-- The variables that hold numbers. -/
def numberNames : List String :=
  ["ONTOGRAPH_WORKERS", "ONTOGRAPH_MAX_FILE_SIZE", "ONTOGRAPH_PARSE_TIMEOUT_MS"]

/-- Each variable that is not a path is unset or has a value that is read as a setting. -/
def IsReadable (environment : Environment) : Prop :=
  (∀ name ∈ numberNames, Accepts environment name readNumber) ∧
    Accepts environment "ONTOGRAPH_STRICT_SYNTAX" readBoolean

/-- Whether the environment overrides settings does not depend on the settings. -/
theorem exists_withEnvironment_iff :
    (∃ changed, settings.withEnvironment environment = .ok changed) ↔ IsReadable environment := by
  constructor
  · rintro ⟨changed, overridden⟩
    obtain ⟨workers, size, time, strict, _⟩ := withEnvironment_eq_ok_iff.mp overridden
    have numbers : ∀ name ∈ numberNames, Accepts environment name readNumber :=
      List.forall_mem_cons.mpr ⟨exists_override_iff.mp ⟨_, workers⟩, List.forall_mem_cons.mpr
        ⟨exists_override_iff.mp ⟨_, size⟩,
          List.forall_mem_singleton.mpr (exists_override_iff.mp ⟨_, time⟩)⟩⟩
    exact ⟨numbers, exists_override_iff.mp ⟨_, strict⟩⟩
  · rintro ⟨numbers, isStrict⟩
    have number (name : String) (current : Nat) (isName : name ∈ numberNames) :
        ∃ given, override environment name readNumber current = .ok given :=
      exists_override_iff.mpr (numbers name isName)
    obtain ⟨workers, isWorkers⟩ :=
      number "ONTOGRAPH_WORKERS" settings.extraction.workers (by decide)
    obtain ⟨maxFileSize, isSize⟩ :=
      number "ONTOGRAPH_MAX_FILE_SIZE" settings.extraction.maxFileSize (by decide)
    obtain ⟨parseTimeout, isTime⟩ :=
      number "ONTOGRAPH_PARSE_TIMEOUT_MS" settings.extraction.parseTimeout (by decide)
    obtain ⟨strictSyntax, strict⟩ := exists_override_iff.mpr isStrict
    exact ⟨⟨{ settings.extraction with workers, maxFileSize, parseTimeout, strictSyntax },
        _, _, settings.sourcePath, _⟩,
      withEnvironment_eq_ok_iff.mpr
        ⟨isWorkers, isSize, isTime, strict, rfl, rfl, rfl, rfl, rfl, rfl⟩⟩

/-! ### Loading -/

/-- The settings of a file make sense. -/
theorem validate_of_ofFile {file : Option (List UInt8)}
    (loaded : ofFile read environment file = .ok settings) : settings.validate = .ok () := by
  unfold ofFile at loaded
  split at loaded
  · cases loaded
  · split at loaded
    · cases loaded
    · obtain ⟨overridden, _, checked⟩ := bind_eq_ok.mp loaded
      obtain ⟨_, valid, finish⟩ := bind_eq_ok.mp checked
      rwa [← pure_eq_ok.mp finish]

/-- The settings that hold without a file make sense unless a variable sets a limit to zero, and
then they are loaded if every variable is readable. -/
theorem exists_invalid_without_file_iff :
    (∃ settings, load read environment none none = .ok settings ∧ settings.validate ≠ .ok ()) ↔
      IsReadable environment ∧ ¬ LeavesLimits environment := by
  have valid : ({} : Settings).validate = .ok () := rfl
  have readable : (∃ changed, ({} : Settings).withEnvironment environment = .ok changed) ↔
      IsReadable environment := exists_withEnvironment_iff
  rw [← readable]
  constructor
  · rintro ⟨settings, loaded, invalid⟩
    exact ⟨⟨settings, loaded⟩, mt (validate_of_withEnvironment_iff valid loaded).mpr invalid⟩
  · rintro ⟨⟨settings, loaded⟩, spoilt⟩
    exact ⟨settings, loaded, mt (validate_of_withEnvironment_iff valid loaded).mp spoilt⟩

/-- The settings of a file always make sense. Settings that are loaded make sense too, unless there
is no file and a variable that is readable sets a limit to zero: these settings are loaded without
their check. -/
theorem load_gives_invalid_iff (read : DocumentReader) (environment : Environment) :
    (∀ file settings, ofFile read environment file = .ok settings → settings.validate = .ok ()) ∧
    ∀ projectFile userFile,
      (∃ settings, load read environment projectFile userFile = .ok settings ∧
        settings.validate ≠ .ok ()) ↔
      projectFile = none ∧ userFile = none ∧ IsReadable environment ∧
        ¬ LeavesLimits environment := by
  refine ⟨fun file settings => validate_of_ofFile, fun projectFile userFile => ?_⟩
  match projectFile, userFile with
  | some bytes, userFile =>
    exact iff_of_false (fun ⟨settings, loaded, invalid⟩ => invalid (validate_of_ofFile loaded))
      nofun
  | none, some bytes =>
    exact iff_of_false (fun ⟨settings, loaded, invalid⟩ => invalid (validate_of_ofFile loaded))
      nofun
  | none, none =>
    rw [exists_invalid_without_file_iff]
    simp

/-- An environment that sets the limit on the size of files to zero. -/
def zeroFileSize : Environment := fun name =>
  if name = "ONTOGRAPH_MAX_FILE_SIZE" then some "0" else none

theorem zeroFileSize_of_ne {name : String} (other : name ≠ "ONTOGRAPH_MAX_FILE_SIZE") :
    zeroFileSize name = none := if_neg other

theorem gives_zero_of_zeroFileSize :
    Gives zeroFileSize "ONTOGRAPH_MAX_FILE_SIZE" readNumber 0 :=
  ⟨"0", if_pos rfl, by decide +kernel⟩

/-- Without a file the limit of zero is loaded, but it is refused with a file. -/
theorem load_of_zeroFileSize :
    (∃ settings, load (fun _ => some {}) zeroFileSize none none = .ok settings ∧
      settings.validate ≠ .ok ()) ∧
    ¬ ∃ settings, load (fun _ => some {}) zeroFileSize (some []) none = .ok settings ∧
      settings.validate ≠ .ok () := by
  have readable : IsReadable zeroFileSize := by
    refine ⟨fun name _ => ?_, .inl (zeroFileSize_of_ne (by decide))⟩
    by_cases isSize : name = "ONTOGRAPH_MAX_FILE_SIZE"
    · exact .inr ⟨0, isSize ▸ gives_zero_of_zeroFileSize⟩
    · exact .inl (zeroFileSize_of_ne isSize)
  have loads := (load_gives_invalid_iff (fun _ => some {}) zeroFileSize).2
  exact ⟨(loads none none).mpr
      ⟨rfl, rfl, readable, fun leaves => leaves.1 gives_zero_of_zeroFileSize⟩,
    fun invalid => nomatch ((loads (some []) none).mp invalid).1⟩

/-- Settings without a limit on the size of files are loaded, although their check fails. -/
theorem not_validate_of_load_zeroFileSize :
    ∃ settings, load (fun _ => none) zeroFileSize none none = .ok settings ∧
      settings.validate = .error (.invalid .noFileSize) := by
  have unset {setting : Type} {name : String} {readValue : List Char → Option setting}
      {current : setting} (other : name ≠ "ONTOGRAPH_MAX_FILE_SIZE") :
      override zeroFileSize name readValue current = .ok current :=
    override_eq_ok_iff.mpr (.inl ⟨zeroFileSize_of_ne other, rfl⟩)
  have unsetPath {name : String} (other : name ≠ "ONTOGRAPH_MAX_FILE_SIZE") :
      none = overridePath zeroFileSize name none := by
    rw [overridePath, zeroFileSize_of_ne other]
  refine ⟨{ extraction := { maxFileSize := 0 } }, withEnvironment_eq_ok_iff.mpr
    ⟨unset (by decide), override_eq_ok_iff.mpr (.inr gives_zero_of_zeroFileSize),
      unset (by decide), unset (by decide), rfl, rfl, ?_⟩, rfl⟩
  exact ⟨unsetPath (by decide), unsetPath (by decide), rfl, unsetPath (by decide)⟩

end CodeGraph.Settings
