/-
This file proves that identifiers separate what they should.

An identifier is the digest of a message, and of the digest nothing is used but that it has no
collision among the messages of a run. What remains is to read a message. That of a file ends with
the path, and its parts are separated by zero bytes. That of an entity ends with the four bytes of
a line, which may be zero themselves; but their number is fixed, and once they are taken off the
name, the class, the path and the repository stand each behind the last zero byte that is left. So
a message determines the key of the entity (`EntityKey`) if no text of the key holds a zero
character. Of a line only 32 bits stand in a message; a source of less than four gigabytes has no
line that needs more.

That the texts hold no zero character is traced back through the extraction. A name is captured
only if it holds no control character, a class is one of a fixed list, and a canonical name is put
together from names and from the path. For a run it is enough that the repository and the paths can
be printed. Each entity of a run was extracted from one of the discovered files, so all of this
carries over (`separates_entities_and_files`). An identifier also says which of the two kinds it is
of, and so no entity shares one with a file.
-/
import CodeGraph.Proofs.Run.Origin

namespace CodeGraph

/-! ### Lines -/

/-- Words with the same bytes are equal. -/
theorem Digest.bytesOfWord_injective {left right : UInt32}
    (same : bytesOfWord left = bytesOfWord right) : left = right := by
  have bytes (word : UInt32) : (bytesOfWord word).map UInt8.toNat =
      [word.toNat / 2 ^ 24 % 256, word.toNat / 2 ^ 16 % 256, word.toNat / 2 ^ 8 % 256,
        word.toNat % 256] := by
    simp [bytesOfWord, Nat.shiftRight_eq_div_pow]
  have digits := congrArg (List.map UInt8.toNat) same
  rw [bytes, bytes] at digits
  simp only [List.cons.injEq, and_true] at digits
  have bounded := left.toNat_lt
  have otherBounded := right.toNat_lt
  exact UInt32.toNat_inj.mp (by omega)

/-- A text has at most one line more than it has bytes. -/
theorem SourceText.startLine_le (source : SourceText) (offset : Nat) :
    source.startLine offset ≤ source.bytes.length + 1 := by
  have newlines : (source.bytes.take offset).count newline ≤ (source.bytes.take offset).length :=
    List.count_le_length
  rw [List.length_take] at newlines
  exact Nat.succ_le_succ (Nat.le_trans newlines (Nat.min_le_right _ _))

/-- Every definition of a tree starts in a line of the source. -/
theorem Extraction.startLine_le_of_mem_definitionsIn {language : Language} {source : SourceText}
    {tree : SyntaxTree} {definition : Definition}
    (member : definition ∈ definitionsIn language source tree) :
    definition.span.startLine ≤ source.bytes.length + 1 := by
  refine @forall_mem_definitionsIn
    (fun definition => definition.span.startLine ≤ source.bytes.length + 1) _ _ _
    (fun earlier later first second => ?_) (fun _ _ _ captured => ?_) definition member
  · rcases (Definition.unite_cases earlier later).2.2.1 with same | same <;> rwa [same]
  · obtain ⟨_, _, ⟨anchor, _, isSpan⟩, _⟩ := Capture.ofMatch_eq_definition captured
    rw [isSpan]
    exact source.startLine_le anchor.start

/-! ### Keys -/

/-- What the identifier of an entity stands for. -/
structure EntityKey where
  repositoryId : String
  path : String
  className : String
  canonicalName : String
  line : UInt32
  deriving Repr, DecidableEq

namespace EntityKey

/-- The message that the identifier is the digest of. -/
def message (key : EntityKey) : List UInt8 :=
  Identifier.entityMessage key.repositoryId key.path key.className key.canonicalName
    key.line.toNat

/-- The identifier of the entity. -/
def id (key : EntityKey) : String :=
  Identifier.entity key.repositoryId key.path key.className key.canonicalName key.line.toNat

theorem id_eq (key : EntityKey) :
    key.id = "entity:" ++ Digest.hexadecimal (Digest.sha256 key.message) := rfl

/-- No text of a key holds a zero character. -/
structure HoldsNoZero (key : EntityKey) : Prop where
  repositoryId : CodeGraph.HoldsNoZero key.repositoryId
  path : CodeGraph.HoldsNoZero key.path
  className : CodeGraph.HoldsNoZero key.className
  canonicalName : CodeGraph.HoldsNoZero key.canonicalName

end EntityKey

/-- What the identifier of an entity of a repository stands for. -/
def Entity.key (repositoryId : String) (entity : Entity) : EntityKey where
  repositoryId
  path := entity.filePath
  className := entity.className
  canonicalName := entity.canonicalName
  line := .ofNat entity.startLine

namespace Identifier

/-- Only 32 bits of a line stand in a message. -/
theorem entityMessage_ofNat (repository path className canonicalName : String) (line : Nat) :
    entityMessage repository path className canonicalName (UInt32.ofNat line).toNat =
      entityMessage repository path className canonicalName line := by
  rw [entityMessage, lineBytes, UInt32.ofNat_toNat]
  rfl

end Identifier

theorem Entity.message_eq (repositoryId : String) (entity : Entity) :
    (entity.key repositoryId).message = entity.message repositoryId :=
  Identifier.entityMessage_ofNat ..

namespace Identifier

open Text

/-- The message of a file determines the repository and the path. -/
theorem fileMessage_inj {repository otherRepository path otherPath : String}
    (clean : HoldsNoZero repository) (otherClean : HoldsNoZero otherRepository)
    (same : fileMessage repository path = fileMessage otherRepository otherPath) :
    repository = otherRepository ∧ path = otherPath :=
  (append_inj_of_first_zero clean.not_mem_encode otherClean.not_mem_encode same).imp
    Utf8.encode_injective Utf8.encode_injective

/-- The message of an entity determines all that it is made from. -/
theorem key_eq_of_message_eq {key other : EntityKey} (clean : key.HoldsNoZero)
    (otherClean : other.HoldsNoZero) (same : key.message = other.message) : key = other := by
  have ⟨sameFile, sameClass, sameName, sameLine⟩ := parts_eq_of_entityMessage_eq clean.className
    otherClean.className clean.canonicalName otherClean.canonicalName same
  have ⟨sameRepository, samePath⟩ :=
    fileMessage_inj clean.repositoryId otherClean.repositoryId sameFile
  rw [lineBytes, lineBytes, UInt32.ofNat_toNat, UInt32.ofNat_toNat] at sameLine
  cases key
  cases other
  rw [EntityKey.mk.injEq]
  exact ⟨sameRepository, samePath, sameClass, sameName, Digest.bytesOfWord_injective sameLine⟩

end Identifier

/-! ### Extracted entities -/

namespace Extraction

variable {language : Language} {file : SourceFile} {source : SourceText} {tree : SyntaxTree}
  {entity : Entity}

theorem mem_toEntities_of_mem_entities
    (member : entity ∈ (ofTree language file source tree).entities) :
    entity ∈ Definition.toEntities file source (definitionsIn language source tree) :=
  Entity.mem_of_mem_distinct member

theorem filePath_of_mem_entities (member : entity ∈ (ofTree language file source tree).entities) :
    entity.filePath = file.relativePath :=
  (Definition.fileId_of_mem_toEntities (mem_toEntities_of_mem_entities member)).2

theorem id_of_mem_entities (member : entity ∈ (ofTree language file source tree).entities) :
    entity.id = (entity.key file.repositoryId).id := by
  rw [Definition.id_of_mem_toEntities (mem_toEntities_of_mem_entities member), EntityKey.id_eq,
    Entity.message_eq, Entity.message, filePath_of_mem_entities member]
  rfl

/-- What is extracted is named by a text on one line. -/
theorem holdsNoControl_simpleName (member : entity ∈ (ofTree language file source tree).entities) :
    HoldsNoControl entity.simpleName := by
  obtain ⟨index, definition, isDefinition, rfl⟩ :=
    Definition.exists_of_mem_toEntities (mem_toEntities_of_mem_entities member)
  exact (isNamed_of_mem_definitionsIn (List.mem_of_getElem? isDefinition)).name

/-- The identifier of an extracted entity is made from texts without a zero character. -/
theorem holdsNoZero_key (printable : HoldsNoControl file.repositoryId)
    (printablePath : HoldsNoControl file.relativePath)
    (member : entity ∈ (ofTree language file source tree).entities) :
    (entity.key file.repositoryId).HoldsNoZero := by
  have isCandidate := mem_toEntities_of_mem_entities member
  refine ⟨printable.holdsNoZero, ?_,
    Definition.holdsNoZero_className_of_mem_toEntities isCandidate,
    Definition.holdsNoZero_canonicalName_of_mem_toEntities printablePath.holdsNoZero
      (fun _ isDefinition => isNamed_of_mem_definitionsIn isDefinition) isCandidate⟩
  show HoldsNoZero entity.filePath
  rw [filePath_of_mem_entities member]
  exact printablePath.holdsNoZero

/-- The lines of a source of less than 4 GiB need no more than 32 bits. -/
theorem line_key (short : source.bytes.length + 1 < UInt32.size)
    (member : entity ∈ (ofTree language file source tree).entities) :
    (entity.key file.repositoryId).line.toNat = entity.startLine := by
  obtain ⟨index, definition, isDefinition, rfl⟩ :=
    Definition.exists_of_mem_toEntities (mem_toEntities_of_mem_entities member)
  have bounded := startLine_le_of_mem_definitionsIn (List.mem_of_getElem? isDefinition)
  exact UInt32.toNat_ofNat_of_lt' (Nat.lt_of_le_of_lt bounded short)

end Extraction

/-! ### Runs -/

/-- The lines of every discovered file can be counted in 32 bits. -/
def Discovery.CountsLines (discovery : Discovery) : Prop :=
  ∀ file ∈ discovery.files, ∀ bytes, file.content = .bytes bytes → bytes.length + 1 < UInt32.size

namespace Analyzer

variable {engine : RegularExpression.Engine} {analyzer : Analyzer engine} {parser : TreeParser}
  {repositoryId : String} {discovery : Discovery} {entity first second : Entity}

/-- An entity of a run was extracted from one of the discovered files. -/
theorem exists_ofTree_of_mem_entities_runOn
    (member : entity ∈ (analyzer.runOn parser repositoryId discovery).entities) :
    ∃ discovered ∈ discovery.files, ∃ language file source tree,
      file.repositoryId = repositoryId ∧ file.relativePath = discovered.relativePath ∧
        discovered.content = .bytes source.bytes ∧
        entity ∈ (Extraction.ofTree language file source tree).entities := by
  obtain ⟨discovered, isDiscovered, inFile⟩ := exists_file_of_mem_entities_runOn member
  exact ⟨discovered, isDiscovered, exists_ofTree_of_mem_entities_analyze inFile⟩

theorem id_of_mem_entities_runOn
    (member : entity ∈ (analyzer.runOn parser repositoryId discovery).entities) :
    entity.id = (entity.key repositoryId).id := by
  obtain ⟨_, _, _, _, _, _, rfl, _, _, inFile⟩ := exists_ofTree_of_mem_entities_runOn member
  exact Extraction.id_of_mem_entities inFile

theorem holdsNoZero_key_of_mem_entities_runOn (printable : HoldsNoControl repositoryId)
    (printablePaths : ∀ file ∈ discovery.files, HoldsNoControl file.relativePath)
    (member : entity ∈ (analyzer.runOn parser repositoryId discovery).entities) :
    (entity.key repositoryId).HoldsNoZero := by
  obtain ⟨_, isDiscovered, _, _, _, _, rfl, isPath, _, inFile⟩ :=
    exists_ofTree_of_mem_entities_runOn member
  exact Extraction.holdsNoZero_key printable (isPath ▸ printablePaths _ isDiscovered) inFile

theorem line_key_of_mem_entities_runOn (short : discovery.CountsLines)
    (member : entity ∈ (analyzer.runOn parser repositoryId discovery).entities) :
    (entity.key repositoryId).line.toNat = entity.startLine := by
  obtain ⟨_, isDiscovered, _, _, _, _, rfl, _, isContent, inFile⟩ :=
    exists_ofTree_of_mem_entities_runOn member
  exact Extraction.line_key (short _ isDiscovered _ isContent) inFile

/-- Without a collision the identifier of an entity determines what it stands for. -/
theorem key_eq_of_id_eq (printable : HoldsNoControl repositoryId)
    (printablePaths : ∀ file ∈ discovery.files, HoldsNoControl file.relativePath)
    (free : Digest.CollisionFree
      ((analyzer.runOn parser repositoryId discovery).entities.map (Entity.message repositoryId)))
    (isFirst : first ∈ (analyzer.runOn parser repositoryId discovery).entities)
    (isSecond : second ∈ (analyzer.runOn parser repositoryId discovery).entities)
    (same : first.id = second.id) : first.key repositoryId = second.key repositoryId := by
  rw [id_of_mem_entities_runOn isFirst, id_of_mem_entities_runOn isSecond] at same
  have sameMessage := free _ (List.mem_map_of_mem isFirst) _ (List.mem_map_of_mem isSecond) <| by
    rw [← Entity.message_eq, ← Entity.message_eq]
    exact Identifier.sha256_eq_of_entity_eq same
  rw [← Entity.message_eq, ← Entity.message_eq] at sameMessage
  exact Identifier.key_eq_of_message_eq
    (holdsNoZero_key_of_mem_entities_runOn printable printablePaths isFirst)
    (holdsNoZero_key_of_mem_entities_runOn printable printablePaths isSecond) sameMessage

theorem file_id_ne_of_mem_entities_runOn {record : FileRecord}
    (isFile : record ∈ (analyzer.runOn parser repositoryId discovery).files)
    (member : entity ∈ (analyzer.runOn parser repositoryId discovery).entities) :
    record.file.id ≠ entity.id := by
  obtain ⟨file, _, isId⟩ := exists_file_of_mem_files_runOn isFile
  rw [isId, id_of_mem_entities_runOn member]
  exact Identifier.file_ne_entity _ _ _ _ _ _ _

end Analyzer

namespace Identifier

/-- Identifiers separate what they should. The messages of entities and of files determine what
they are made from, if that holds no zero character, which is so for all that is extracted from
files with printable paths. Two entities of a run therefore share an identifier only if they agree
in path, class, canonical name and line, and no entity shares one with a file. -/
theorem separates_entities_and_files :
    (∀ key other : EntityKey, key.HoldsNoZero → other.HoldsNoZero →
        key.message = other.message → key = other) ∧
      (∀ repository path otherRepository otherPath : String,
        HoldsNoZero repository → HoldsNoZero path →
          HoldsNoZero otherRepository → HoldsNoZero otherPath →
            fileMessage repository path = fileMessage otherRepository otherPath →
              repository = otherRepository ∧ path = otherPath) ∧
      (∀ (language : Language) (file : SourceFile) (source : SourceText) (tree : SyntaxTree),
        HoldsNoControl file.repositoryId → HoldsNoControl file.relativePath →
          ∀ entity ∈ (Extraction.ofTree language file source tree).entities,
            entity.id = (entity.key file.repositoryId).id ∧
              HoldsNoControl entity.simpleName ∧
              (entity.key file.repositoryId).HoldsNoZero ∧
              (source.bytes.length + 1 < UInt32.size →
                (entity.key file.repositoryId).line.toNat = entity.startLine)) ∧
      ∀ (engine : RegularExpression.Engine) (analyzer : Analyzer engine) (parser : TreeParser)
        (repositoryId : String) (discovery : Discovery),
        let output := analyzer.runOn parser repositoryId discovery
        HoldsNoControl repositoryId →
          (∀ file ∈ discovery.files, HoldsNoControl file.relativePath) →
            Digest.CollisionFree (output.entities.map (Entity.message repositoryId)) →
              (∀ first ∈ output.entities, ∀ second ∈ output.entities, first.id = second.id →
                first.key repositoryId = second.key repositoryId ∧
                  (discovery.CountsLines → first.startLine = second.startLine)) ∧
              ∀ record ∈ output.files, ∀ entity ∈ output.entities,
                record.file.id ≠ entity.id := by
  refine ⟨fun key other clean otherClean => key_eq_of_message_eq clean otherClean,
    fun repository path otherRepository otherPath clean _ otherClean _ =>
      fileMessage_inj clean otherClean, ?_, ?_⟩
  · intro language file source tree printable printablePath entity member
    exact ⟨Extraction.id_of_mem_entities member, Extraction.holdsNoControl_simpleName member,
      Extraction.holdsNoZero_key printable printablePath member,
      fun short => Extraction.line_key short member⟩
  · intro engine analyzer parser repositoryId discovery output printable printablePaths free
    refine ⟨fun first isFirst second isSecond same => ?_, fun record isFile entity member =>
      Analyzer.file_id_ne_of_mem_entities_runOn isFile member⟩
    have sameKey := Analyzer.key_eq_of_id_eq printable printablePaths free isFirst isSecond same
    refine ⟨sameKey, fun short => ?_⟩
    rw [← Analyzer.line_key_of_mem_entities_runOn short isFirst, sameKey,
      Analyzer.line_key_of_mem_entities_runOn short isSecond]

/-- The sample of a parsed file before it is parsed. -/
def sampleDiscovery : Discovery := ⟨[⟨"p.go", 42, .bytes ParsedFile.sampleSource.bytes⟩], []⟩

theorem entities_runOn_sampleDiscovery :
    (Analyzer.sample.runOn sampleParser "r" sampleDiscovery).entities =
      Entity.distinct (Definition.toEntities ParsedFile.sample.file ParsedFile.sampleSource
        ParsedFile.sampleDefinitions) := by
  have isClassified : Analyzer.sample.classifyFile "r" "p.go" 42 = some ParsedFile.sample.file := by
    decide +kernel
  obtain ⟨text, decoded, sameSource⟩ : ∃ text,
      Text.Utf8.decode ParsedFile.sampleSource.bytes = .ok text ∧
        SourceText.ofString text = ParsedFile.sampleSource :=
    ⟨_, Text.Utf8.decode_eq_ok_iff.mpr rfl, rfl⟩
  show (sortBy FileOutcome.compare [Analyzer.sample.analyze sampleParser "r" "p.go" 42
    (.bytes ParsedFile.sampleSource.bytes)]).flatMap FileOutcome.entities = _
  rw [sortBy, List.mergeSort_singleton, List.flatMap_singleton, Analyzer.analyze, isClassified]
  show (Analyzer.sample.analyzeBytes _ _ _ _).entities = _
  rw [Analyzer.analyzeBytes, decoded, ← ParsedFile.definitions_sample]
  show (Extraction.ofTree .go ParsedFile.sample.file (.ofString text) _).entities = _
  rw [sameSource]
  rfl

/-- The type and the method of the sample have two identifiers, and the file has another one. -/
theorem separates_entities_of_sample :
    let output := Analyzer.sample.runOn sampleParser "r" sampleDiscovery
    ∃ type ∈ output.entities, ∃ method ∈ output.entities,
      type.canonicalName = "p.T" ∧ method.canonicalName = "p.T.f" ∧ type.id ≠ method.id ∧
        ∀ record ∈ output.files, record.file.id ≠ type.id ∧ record.file.id ≠ method.id := by
  intro output
  have ⟨type, isType, method, isMethod, typeName, methodName⟩ :
      ∃ type ∈ output.entities, ∃ method ∈ output.entities,
        type.canonicalName = "p.T" ∧ method.canonicalName = "p.T.f" := by
    rw [entities_runOn_sampleDiscovery]
    decide +kernel
  have free : Digest.CollisionFree ((Definition.toEntities ParsedFile.sample.file
      ParsedFile.sampleSource ParsedFile.sampleDefinitions).map (Entity.message "r")) := by
    decide +kernel
  have separated := separates_entities_and_files.2.2.2 _ Analyzer.sample sampleParser "r"
    sampleDiscovery (by decide) (by decide) <| by
      rw [entities_runOn_sampleDiscovery]
      exact free.mono (List.map_subset _ fun _ => Entity.mem_of_mem_distinct)
  refine ⟨type, isType, method, isMethod, typeName, methodName, fun same => ?_,
    fun record isFile => ⟨separated.2 record isFile type isType,
      separated.2 record isFile method isMethod⟩⟩
  have sameKey := (separated.1 type isType method isMethod same).1
  have sameName : type.canonicalName = method.canonicalName :=
    congrArg EntityKey.canonicalName sameKey
  rw [typeName, methodName] at sameName
  exact absurd sameName (by decide)

end Identifier

end CodeGraph
