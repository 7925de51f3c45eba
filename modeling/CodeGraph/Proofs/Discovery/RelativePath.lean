/-
This file proves when two files of a repository have different paths.

The path of a file is not the list of the names that lead to it. The names are joined with slashes,
read as text with a replacement for what is no text, and brought into the normal spelling, to which
a backslash separates segments as a slash does. A slash is one byte in every encoding of text, so
the names can be read one by one (`VisitedFile.segments_decodeLossily`), and two files have the
same path exactly if their names come to the same segments (`VisitedFile.relativePath_eq_iff`). A
name that is text without a backslash is one segment, and the text can be read back from it; hence
different files with such names have different paths.

From there the way goes down to storages and up to identifiers. A walk through a storage comes upon
every file once, because each of its entries gives one visit at most, and the names of the visit
are those of the place below the root. And where the digest does not collide, files of one
repository with different paths have different identifiers. Two storages show that the conditions
are needed: one has a backslash in a name, the other has names that are no text.
-/
import CodeGraph.Proofs.Run.Origin
import CodeGraph.Proofs.Text.Lossy
import CodeGraph.Proofs.Text.Pieces

namespace CodeGraph

/-! ### Names of files -/

/-- A name that something in a directory can have. -/
structure IsFileName (name : List UInt8) : Prop where
  nonempty : name ≠ []
  notDot : name ≠ [0x2e]
  notTwoDots : name ≠ [0x2e, 0x2e]
  noSlash : 0x2f ∉ name
  noZero : 0 ∉ name

/-- A name that is text without a backslash. -/
def IsPlainName (name : List UInt8) : Prop :=
  ∃ text, Text.Utf8.encode text = name ∧ '\\' ∉ text.toList

instance (name : List UInt8) : Decidable (IsFileName name) :=
  decidable_of_iff (name ≠ [] ∧ name ≠ [0x2e] ∧ name ≠ [0x2e, 0x2e] ∧ 0x2f ∉ name ∧ 0 ∉ name)
    ⟨fun ⟨nonempty, notDot, notTwoDots, noSlash, noZero⟩ =>
        ⟨nonempty, notDot, notTwoDots, noSlash, noZero⟩,
      fun isName =>
        ⟨isName.nonempty, isName.notDot, isName.notTwoDots, isName.noSlash, isName.noZero⟩⟩

/-- All names below a place are plain names of files. -/
def Storage.HasPlainNamesBelow (storage : Storage) (root : Location) : Prop :=
  ∀ names item, (root ++ names, item) ∈ storage.entries → ∀ name ∈ names,
    IsFileName (Text.Utf8.encode name) ∧ IsPlainName (Text.Utf8.encode name)

open Text

/-- A plain name of a file is one segment of its path. -/
theorem isSegment_of_isFileName {text : String} (isName : IsFileName (Utf8.encode text))
    (plain : '\\' ∉ text.toList) : Path.IsSegment text.toList := by
  have noSlash : '/' ∉ text.toList := by
    intro member
    refine isName.noSlash ?_
    rw [Utf8.encode_eq_flatMap]
    exact List.mem_flatMap.mpr ⟨'/', member, by decide⟩
  refine ⟨?_, fun character member => ?_⟩
  · have nonempty : text.toList ≠ [] := fun empty => by
      refine isName.nonempty ?_
      rw [Utf8.encode_eq_flatMap, empty, List.flatMap_nil]
    have notDot : text.toList ≠ ['.'] := fun dot => by
      refine isName.notDot ?_
      rw [Utf8.encode_eq_flatMap, dot]
      rfl
    simp [Path.isMeaningful, nonempty, notDot]
  · rw [Path.isSeparator, Bool.or_eq_false_iff, beq_eq_false_iff_ne, beq_eq_false_iff_ne]
    exact ⟨fun same => noSlash (same ▸ member), fun same => plain (same ▸ member)⟩

namespace VisitedFile

/-- The segments that the names come to: each name is read as text and cut at backslashes. -/
def segments (file : VisitedFile) : List (List Char) :=
  file.names.flatMap fun name => Path.segments (Utf8.decodeLossily name)

theorem segments_decodeLossily (names : List (List UInt8)) :
    Path.segments (Utf8.decodeLossily ([0x2f].intercalate names)) =
      names.flatMap fun name => Path.segments (Utf8.decodeLossily name) := by
  induction names with
  | nil => exact congrArg Path.segments (Utf8.decodeLossily_flatMap [])
  | cons name rest inductionHypothesis =>
    cases rest with
    | nil => rw [List.intercalate_singleton, List.flatMap_singleton]
    | cons next others =>
      rw [List.intercalate_cons_cons, List.append_assoc, List.singleton_append,
        Utf8.decodeLossily_append_slash, Path.segments_append_slash, inductionHypothesis]
      rfl

/-- Files have the same path exactly if their names come to the same segments. -/
theorem relativePath_eq_iff (file other : VisitedFile) :
    file.relativePath = other.relativePath ↔ file.segments = other.segments := by
  rw [relativePath, relativePath, Path.normalize_eq_iff, segments_decodeLossily,
    segments_decodeLossily]
  rfl

/-- All names that lead to the file are plain names of files. -/
def HasPlainNames (file : VisitedFile) : Prop :=
  ∀ name ∈ file.names, IsFileName name ∧ IsPlainName name

/-- Plain names are the encodings of the segments that they come to. -/
theorem HasPlainNames.names_eq {file : VisitedFile} (plain : file.HasPlainNames) :
    file.names = file.segments.map fun segment => Utf8.encode (String.ofList segment) := by
  have single : ∀ name ∈ file.names, (Path.segments (Utf8.decodeLossily name)).map
      (fun segment => Utf8.encode (String.ofList segment)) = [name] := by
    intro name member
    have ⟨isName, text, isText, noBackslash⟩ := plain name member
    subst isText
    have isSegment := isSegment_of_isFileName isName noBackslash
    have segments := isSegment.segments_ofList
    rw [String.ofList_toList] at segments
    rw [Utf8.decodeLossily_encode, segments, List.map_singleton, String.ofList_toList]
  rw [segments, List.map_flatMap, List.flatMap_congr single, List.flatMap_singleton']

/-- Files with plain names have the same path only if they have the same names. -/
theorem HasPlainNames.names_eq_of_relativePath_eq {file other : VisitedFile}
    (plain : file.HasPlainNames) (otherPlain : other.HasPlainNames)
    (same : file.relativePath = other.relativePath) : file.names = other.names := by
  rw [plain.names_eq, otherPlain.names_eq, (relativePath_eq_iff file other).mp same]

end VisitedFile

/-- Without a collision files of one repository with one identifier have one path. -/
theorem Identifier.path_eq_of_file_eq {repository path other : String}
    {messages : List (List UInt8)} (free : Digest.CollisionFree messages)
    (member : fileMessage repository path ∈ messages)
    (otherMember : fileMessage repository other ∈ messages)
    (same : file repository path = file repository other) : path = other := by
  have digests := Digest.hexadecimal_injective (String.append_right_inj _ |>.mp same)
  have messages := free _ member _ otherMember digests
  exact Utf8.encode_injective (List.cons.inj (List.append_cancel_left messages)).2

/-! ### Paths of the files that are found -/

namespace Visit

variable {settings : ExtractionSettings} {visit : Visit} {found : DiscoveredFile}

/-- What is found is a file that the walk comes upon, with its path. -/
theorem exists_file_of_found? (isFound : visit.found? settings = some found) :
    ∃ file, visit.file? = some file ∧ found.relativePath = file.relativePath := by
  obtain ⟨outcome, isOutcome, succeeds⟩ := Option.bind_eq_some_iff.mp isFound
  cases visit with
  | unreadable path reason =>
    obtain rfl := Option.some.inj isOutcome
    cases succeeds
  | file file =>
    refine ⟨file, rfl, ?_⟩
    unfold outcome? VisitedFile.outcome? at isOutcome
    grind [Except.toOption]

end Visit

namespace Discovery

variable {settings : ExtractionSettings} {visits : List Visit}

/-- A walk finds no path twice if the names of no two files come to the same segments. -/
theorem nodup_relativePath_ofVisits
    (apart : ((visits.filterMap Visit.file?).map VisitedFile.segments).Nodup) :
    ((ofVisits settings visits).files.map DiscoveredFile.relativePath).Nodup := by
  refine ((sortBy_perm _ _).map DiscoveredFile.relativePath).nodup_iff.mpr ?_
  rw [List.Nodup, List.pairwise_map, List.pairwise_filterMap] at apart ⊢
  refine apart.imp fun {left right} different => ?_
  intro found isFound other isOther same
  obtain ⟨file, isFile, path⟩ := Visit.exists_file_of_found? isFound
  obtain ⟨otherFile, isOtherFile, otherPath⟩ := Visit.exists_file_of_found? isOther
  rw [path, otherPath] at same
  exact different file isFile otherFile isOtherFile
    ((file.relativePath_eq_iff otherFile).mp same)

/-- Different files with plain names come to different segments. -/
theorem nodup_segments (once : ((visits.filterMap Visit.file?).map VisitedFile.names).Nodup)
    (plain : ∀ file ∈ visits.filterMap Visit.file?, file.HasPlainNames) :
    ((visits.filterMap Visit.file?).map VisitedFile.segments).Nodup := by
  rw [List.Nodup, List.pairwise_map] at once ⊢
  refine once.imp_of_mem fun {file other} member otherMember different same => different ?_
  rw [(plain file member).names_eq, (plain other otherMember).names_eq, same]

/-! ### Walks through a storage -/

/-- What a walk comes upon at a place is a file below the root, with the names from there. -/
theorem exists_names_of_visitAt? {levels : List IgnoreLevel} {root location : Location}
    {item : StoredItem} {visit : Visit} {file : VisitedFile}
    (isVisit : visitAt? settings levels root location item = some visit)
    (isFile : visit.file? = some file) :
    ∃ names : List String, location = root ++ names ∧ file.names = names.map Utf8.encode := by
  unfold visitAt? at isVisit
  split at isVisit
  · split at isVisit
    · next reached =>
      obtain rfl := Option.some.inj isVisit
      obtain rfl := Option.some.inj isFile
      have below : root <+: location := by
        simp only [isReached, Storage.isBelow, Bool.and_eq_true] at reached
        exact List.isPrefixOf_iff_prefix.mp reached.1.1.1
      exact ⟨location.drop root.length, (List.prefix_iff_eq_append.mp below).symm, rfl⟩
    · cases isVisit
  · cases isVisit

/-- A walk through a storage visits every file once. -/
theorem nodup_names_visits {storage : Storage} {root : Location}
    (once : (storage.entries.map Prod.fst).Nodup) :
    (((Discovery.visits settings storage root).filterMap Visit.file?).map
      VisitedFile.names).Nodup := by
  rw [List.Nodup, List.pairwise_map] at once ⊢
  rw [visits, List.pairwise_filterMap, List.pairwise_filterMap]
  refine once.imp fun {left right} different => ?_
  intro visit isVisit otherVisit isOtherVisit file isFile other isOther same
  obtain ⟨names, atNames, encoded⟩ := exists_names_of_visitAt? isVisit isFile
  obtain ⟨otherNames, atOtherNames, otherEncoded⟩ := exists_names_of_visitAt? isOtherVisit isOther
  rw [encoded, otherEncoded] at same
  have sameNames := List.map_inj_right (fun _ _ => Utf8.encode_injective) |>.mp same
  exact different (by rw [atNames, atOtherNames, sameNames])

/-- The names on a walk through a storage are plain if those below its root are. -/
theorem hasPlainNames_of_mem_visits {storage : Storage} {root : Location}
    (plain : storage.HasPlainNamesBelow root) :
    ∀ file ∈ (Discovery.visits settings storage root).filterMap Visit.file?,
      file.HasPlainNames := by
  intro file member name isName
  obtain ⟨visit, isVisit, isFile⟩ := List.mem_filterMap.mp member
  obtain ⟨entry, isEntry, atEntry⟩ := List.mem_filterMap.mp isVisit
  obtain ⟨names, atNames, encoded⟩ := exists_names_of_visitAt? atEntry isFile
  rw [encoded] at isName
  obtain ⟨text, isText, rfl⟩ := List.mem_map.mp isName
  exact plain names entry.2 (atNames ▸ isEntry) text isText

/-! ### Identifiers of the files of a run -/

/-- Files with different paths have different identifiers. -/
theorem nodup_id_files_runOn {engine : RegularExpression.Engine} {analyzer : Analyzer engine}
    {parser : TreeParser} {repositoryId : String} {discovery : Discovery}
    (distinct : (discovery.files.map DiscoveredFile.relativePath).Nodup)
    (free : Digest.CollisionFree (discovery.files.map fun file =>
      Identifier.fileMessage repositoryId file.relativePath)) :
    ((analyzer.runOn parser repositoryId discovery).files.map fun record =>
      record.file.id).Nodup := by
  refine (Analyzer.files_runOn_perm.map _).nodup_iff.mpr ?_
  rw [List.Nodup, List.pairwise_map] at distinct ⊢
  rw [List.pairwise_filterMap]
  refine distinct.imp_of_mem fun {left right} leftMember rightMember different => ?_
  intro record isEntry other isOtherEntry same
  rw [Analyzer.id_of_entry_analyze isEntry, Analyzer.id_of_entry_analyze isOtherEntry] at same
  exact different (Identifier.path_eq_of_file_eq free (List.mem_map_of_mem leftMember)
    (List.mem_map_of_mem rightMember) same)

/-- What is found has a path that nothing else has, and so has its identifier in a run without a
collision. -/
def TellsFilesApart (discovery : Discovery) : Prop :=
  (discovery.files.map DiscoveredFile.relativePath).Nodup ∧
    ∀ (engine : RegularExpression.Engine) (analyzer : Analyzer engine) (parser : TreeParser)
      (repositoryId : String),
      Digest.CollisionFree (discovery.files.map fun file =>
        Identifier.fileMessage repositoryId file.relativePath) →
      ((analyzer.runOn parser repositoryId discovery).files.map fun record =>
        record.file.id).Nodup

theorem tellsFilesApart_ofVisits
    (apart : ((visits.filterMap Visit.file?).map VisitedFile.segments).Nodup) :
    (ofVisits settings visits).TellsFilesApart :=
  ⟨nodup_relativePath_ofVisits apart, fun _ _ _ _ free =>
    nodup_id_files_runOn (nodup_relativePath_ofVisits apart) free⟩

/-- Two files have the same path exactly if their names come to the same segments, which different
plain names do not. So a walk that visits every file once, and the discovery in a storage in
particular, tells files with plain names apart. -/
theorem tellsFilesApart_of_plain_names :
    (∀ file other : VisitedFile,
      file.relativePath = other.relativePath ↔ file.segments = other.segments) ∧
    (∀ file other : VisitedFile, file.HasPlainNames → other.HasPlainNames →
      file.relativePath = other.relativePath → file.names = other.names) ∧
    (∀ (settings : ExtractionSettings) (visits : List Visit),
      ((visits.filterMap Visit.file?).map VisitedFile.names).Nodup →
      (∀ file ∈ visits.filterMap Visit.file?, file.HasPlainNames) →
      (ofVisits settings visits).TellsFilesApart) ∧
    ∀ (settings : ExtractionSettings) (storage : Storage) (rootPath : String),
      (storage.entries.map Prod.fst).Nodup →
      (∀ root, storage.locate? [] rootPath = some root → storage.HasPlainNamesBelow root) →
      (discover settings storage rootPath).TellsFilesApart := by
  refine ⟨VisitedFile.relativePath_eq_iff,
    fun file other plain otherPlain => plain.names_eq_of_relativePath_eq otherPlain,
    fun settings visits once plain => tellsFilesApart_ofVisits (nodup_segments once plain), ?_⟩
  intro settings storage rootPath once plain
  unfold discover
  split
  · next root isRoot =>
    exact tellsFilesApart_ofVisits (nodup_segments (nodup_names_visits once)
      (hasPlainNames_of_mem_visits (plain root isRoot)))
  · exact tellsFilesApart_ofVisits .nil

/-- A storage whose names are plain. -/
def plainSample : Storage :=
  ⟨[(["repo", "a", "b.py"], .file [120, 10]), (["repo", "a_b.py"], .file [120, 10])]⟩

/-- Settings that follow no ignore files. -/
def sampleSettings : ExtractionSettings := { followGitignore := false }

theorem discover_plainSample : discover sampleSettings plainSample "repo" =
    ⟨[⟨"a/b.py", 2, .bytes [120, 10]⟩, ⟨"a_b.py", 2, .bytes [120, 10]⟩], []⟩ := by
  have isRoot : plainSample.locate? [] "repo" = some ["repo"] := by decide +kernel
  have found : (Discovery.visits sampleSettings plainSample ["repo"]).filterMap
      (Visit.found? sampleSettings) =
        [⟨"a/b.py", 2, .bytes [120, 10]⟩, ⟨"a_b.py", 2, .bytes [120, 10]⟩] := by decide +kernel
  have failed : (Discovery.visits sampleSettings plainSample ["repo"]).filterMap
      (Visit.failure? sampleSettings) = [] := by decide +kernel
  rw [discover, isRoot]
  show ofVisits sampleSettings (Discovery.visits sampleSettings plainSample ["repo"]) = _
  rw [ofVisits, found, failed, sortBy, List.mergeSort_of_pairwise (by decide +kernel)]

/-- The two files of the sample have two identifiers. -/
theorem nodup_id_of_plainSample :
    ((Analyzer.sample.runOn sampleParser "r"
      (discover sampleSettings plainSample "repo")).files.map fun record =>
        record.file.id).Nodup := by
  have plain : ∀ entry ∈ plainSample.entries, ∀ name ∈ entry.1,
      IsFileName (Utf8.encode name) ∧ '\\' ∉ name.toList := by decide +kernel
  have apart := tellsFilesApart_of_plain_names.2.2.2 sampleSettings plainSample "repo" (by decide)
    fun root _ names item member name isName =>
      (plain (root ++ names, item) member name (List.mem_append_right _ isName)).imp_right
        fun noBackslash => ⟨name, rfl, noBackslash⟩
  refine apart.2 _ Analyzer.sample sampleParser "r" ?_
  rw [discover_plainSample]
  decide +kernel

/-- A storage in which a name has a backslash where a path has a slash. -/
def backslashSample : Storage :=
  ⟨[(["repo", "a\\b.py"], .file [120, 10]), (["repo", "a", "b.py"], .file [120, 10])]⟩

/-- Two files whose names are no text. -/
def bytesSample : List Visit :=
  [.file ⟨[[0xff]], .ok 0, .bytes []⟩, .file ⟨[[0xfe]], .ok 0, .bytes []⟩]

/-- Two files have one path if a name of one has a backslash where the other has a slash, and also
if their names are no text. -/
theorem relativePath_of_other_names :
    ((backslashSample.entries.map Prod.fst).Nodup ∧
      (∀ entry ∈ backslashSample.entries, ∀ name ∈ entry.1, IsFileName (Utf8.encode name)) ∧
      (discover sampleSettings backslashSample "repo").files.map DiscoveredFile.relativePath =
        ["a/b.py", "a/b.py"]) ∧
    ((bytesSample.filterMap Visit.file?).map VisitedFile.names).Nodup ∧
      (∀ file ∈ bytesSample.filterMap Visit.file?, ∀ name ∈ file.names, IsFileName name) ∧
      (ofVisits sampleSettings bytesSample).files.map DiscoveredFile.relativePath =
        ["\uFFFD", "\uFFFD"] := by
  refine ⟨⟨by decide, by decide +kernel, ?_⟩, by decide, by decide +kernel, ?_⟩
  · have isRoot : backslashSample.locate? [] "repo" = some ["repo"] := by
      decide +kernel
    have found : (Discovery.visits sampleSettings backslashSample ["repo"]).filterMap
        (Visit.found? sampleSettings) =
          [⟨"a/b.py", 2, .bytes [120, 10]⟩, ⟨"a/b.py", 2, .bytes [120, 10]⟩] := by decide +kernel
    rw [discover, isRoot]
    show (sortBy _ ((Discovery.visits sampleSettings backslashSample ["repo"]).filterMap
      (Visit.found? sampleSettings))).map _ = _
    rw [found, sortBy, List.mergeSort_of_pairwise (by decide +kernel)]
    rfl
  · have found : bytesSample.filterMap (Visit.found? sampleSettings) =
        [⟨"\uFFFD", 0, .bytes []⟩, ⟨"\uFFFD", 0, .bytes []⟩] := by decide +kernel
    rw [ofVisits, found, sortBy, List.mergeSort_of_pairwise (by decide +kernel)]
    rfl

end Discovery

end CodeGraph
