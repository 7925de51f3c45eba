/-
This file proves that the lines of JSON are read as the records that were written.

A record is read back from its JSON form if its properties hold texts and numbers of 64 bits
(`GraphRecord.HoldsData`). Those are the values on which the text of JSON is exact, and which do
not change when the members of objects are put in order. The properties of a record stand in the
ascending order of their names. Reading inserts them one after the other, so each is put behind the
ones before it, and the map that comes out has the same entries (`PropertyMap.ofList_entries`). An
edge without properties has no field for them and is read as an edge without properties.

No line holds the end of a line, whatever the texts in the record hold, because what is written for
a value on one line has no control character. Cutting the text at the ends of lines therefore gives
the line of every record, and an empty piece behind the last one (`GraphRecord.split_toJsonLines`).
At the end it is shown that the emission makes no other records: the values of their properties are
names, texts and numbers of the graph, and only the numbers have to be bounded.
-/
import CodeGraph.Proofs.Json.RoundTrip
import CodeGraph.Proofs.Record.Batch
import CodeGraph.Proofs.Text.Pieces
import CodeGraph.Record.JsonLines

namespace CodeGraph

/-! ### Values of properties -/

/-- A value that a property holds: a text or a natural number of 64 bits. -/
inductive Json.IsDatum : Json → Prop where
  | text (text : String) : IsDatum (.string text)
  | number {value : Nat} (bounded : value < UInt64.size) : IsDatum (.ofNat value)

theorem Json.IsDatum.isExact {value : Json} (isDatum : value.IsDatum) : value.IsExact := by
  cases isDatum with
  | text text => exact .string text
  | number => exact .integer _

theorem Json.IsDatum.ordered_eq {value : Json} (isDatum : value.IsDatum) :
    value.ordered = value := by
  cases isDatum with
  | text text => rfl
  | number => rfl

/-! ### Properties -/

namespace PropertyMap

/-- A property whose name comes last is put behind the others. -/
theorem insertMember_of_forall_lt {name : String} {value : Json}
    {entries : List (String × Json)} (last : ∀ entry ∈ entries, entry.1 < name) :
    Json.insertMember name value entries = entries ++ [(name, value)] := by
  induction entries with
  | nil => rfl
  | cons head rest inductionHypothesis =>
    have before := last head List.mem_cons_self
    have notBehind : ¬name < head.1 := fun behind =>
      String.lt_irrefl _ (String.lt_trans before behind)
    have different : name ≠ head.1 := fun same => String.lt_irrefl name (same ▸ before)
    rw [Json.insertMember, if_neg notBehind, if_neg different,
      inductionHypothesis fun entry member => last entry (.tail _ member), List.cons_append]

theorem entries_foldl_insert {properties : PropertyMap} {entries : List (String × Json)}
    (ascending : (properties.entries ++ entries).Pairwise fun left right => left.1 < right.1) :
    (entries.foldl (fun properties (name, value) => properties.insert name value)
      properties).entries = properties.entries ++ entries := by
  induction entries generalizing properties with
  | nil => exact (List.append_nil _).symm
  | cons entry rest inductionHypothesis =>
    have last := (List.pairwise_append.mp ascending).2.2
    have inserted : (properties.insert entry.1 entry.2).entries = properties.entries ++ [entry] :=
      insertMember_of_forall_lt fun earlier member => last earlier member entry List.mem_cons_self
    rw [List.foldl_cons, inductionHypothesis, inserted, List.append_assoc, List.singleton_append]
    rwa [inserted, List.append_assoc, List.singleton_append]

/-- A map is made again from its entries. -/
theorem ofList_entries (properties : PropertyMap) : ofList properties.entries = properties :=
  ext (entries_foldl_insert properties.ascending)

/-- All properties hold data. -/
def HoldsData (properties : PropertyMap) : Prop :=
  ∀ entry ∈ properties.entries, entry.2.IsDatum

theorem HoldsData.isExact {properties : PropertyMap} (data : properties.HoldsData) :
    properties.toJson.IsExact :=
  .object fun entry member => (data entry member).isExact

/-- The properties are read back from their JSON form. -/
theorem HoldsData.ofJson?_toJson {properties : PropertyMap} (data : properties.HoldsData) :
    ofJson? properties.toJson = some properties := by
  have same : properties.entries.map (fun (name, value) => (name, value.ordered)) =
      properties.entries :=
    (List.map_congr_left fun entry member => by
      show (entry.1, entry.2.ordered) = entry
      rw [(data entry member).ordered_eq]).trans (List.map_id _)
  show some (ofList (properties.entries.map fun (name, value) => (name, value.ordered))) = _
  rw [same, ofList_entries]

end PropertyMap

/-! ### Records -/

namespace GraphRecord

/-- All properties of the record hold data. -/
def HoldsData (entry : GraphRecord) : Prop := entry.properties.HoldsData

variable {entry : GraphRecord}

theorem HoldsData.isExact (data : entry.HoldsData) : entry.toJson.IsExact := by
  cases entry with
  | node id className properties =>
    have inner : properties.toJson.IsExact := PropertyMap.HoldsData.isExact data
    refine .object ?_
    simp only [List.forall_mem_cons]
    exact ⟨.string _, .string _, .string _, inner, fun _ none => by cases none⟩
  | edge subject predicate object resolved properties =>
    have inner : properties.toJson.IsExact := PropertyMap.HoldsData.isExact data
    refine .object (List.forall_mem_append.mpr ⟨?_, ?_⟩)
    · simp only [List.forall_mem_cons]
      exact ⟨.string _, .string _, .string _, .string _, .boolean _, fun _ none => by cases none⟩
    · split
      · exact fun _ none => by cases none
      · exact List.forall_mem_singleton.mpr inner

/-- A record is read back from its JSON form. -/
theorem HoldsData.ofJson?_toJson (data : entry.HoldsData) : ofJson? entry.toJson = some entry := by
  cases entry with
  | node id className properties =>
    have back : PropertyMap.ofJson? properties.toJson = some properties :=
      PropertyMap.HoldsData.ofJson?_toJson data
    show (PropertyMap.ofJson? properties.toJson).bind (fun properties =>
      some (node id className properties)) = _
    rw [back]
    rfl
  | edge subject predicate object resolved properties =>
    have back : PropertyMap.ofJson? properties.toJson = some properties :=
      PropertyMap.HoldsData.ofJson?_toJson data
    rw [toJson]
    by_cases none : properties.isEmpty = true
    · -- the field is absent, and the reader takes the empty map in its place
      obtain rfl : properties = .empty := PropertyMap.ext (List.isEmpty_iff.mp none)
      rfl
    · rw [if_neg none]
      show (PropertyMap.ofJson? properties.toJson).bind (fun properties =>
        some (edge subject predicate object resolved properties)) = _
      rw [back]
      rfl

/-- A record is read back from its line. -/
theorem HoldsData.ofJsonLine?_toJsonLine (data : entry.HoldsData) :
    ofJsonLine? entry.toJsonLine = some entry := by
  rw [ofJsonLine?, toJsonLine, data.isExact.parse?_print, Option.bind_some, data.ofJson?_toJson]

/-! ### Lines -/

theorem HoldsData.newline_not_mem (data : entry.HoldsData) : '\n' ∉ entry.toJsonLine.toList := by
  rw [toJsonLine, Json.print, String.toList_ofList]
  intro member
  exact absurd (data.isExact.not_control_of_mem '\n' member) (by decide)

/-- Cutting the text at the ends of lines gives the line of every record, and nothing behind. -/
theorem split_toJsonLines {records : List GraphRecord}
    (data : ∀ entry ∈ records, entry.HoldsData) :
    Text.split '\n' (toJsonLines records) = records.map toJsonLine ++ [""] := by
  induction records with
  | nil => rfl
  | cons entry rest inductionHypothesis =>
    have text : (toJsonLines (entry :: rest)).toList =
        entry.toJsonLine.toList ++ '\n' :: (toJsonLines rest).toList := by
      simp [toJsonLines]
    have plain : ∀ character ∈ entry.toJsonLine.toList, (character == '\n') = false :=
      fun character member => beq_eq_false_iff_ne.mpr fun same =>
        (data entry List.mem_cons_self).newline_not_mem (same ▸ member)
    unfold Text.split Text.piecesAt at inductionHypothesis ⊢
    rw [text, Text.piecesWhere_append_cons (by decide), Text.piecesWhere_eq_singleton plain,
      List.map_append, inductionHypothesis fun other member => data other (.tail _ member)]
    simp

/-! ### Emitted records -/

/-- The numbers of a graph fit into words: sizes of files, and lines of entities and of evidence. -/
structure FitsWords (files : List FileRecord) (entities : List Entity) (edges : List Edge) :
    Prop where
  sizes : ∀ entry ∈ files, entry.file.size < UInt64.size
  lines : ∀ entity ∈ entities, entity.startLine < UInt64.size ∧ entity.endLine < UInt64.size
  evidence : ∀ edge ∈ edges, ∀ span ∈ edge.evidence, span.startLine < UInt64.size ∧
    span.endLine < UInt64.size

theorem holdsData_ofList {entries : List (String × Json)}
    (data : ∀ entry ∈ entries, entry.2.IsDatum) : (PropertyMap.ofList entries).HoldsData :=
  fun entry member => data entry (PropertyMap.mem_entries_ofList member)

theorem holdsData_file {file : FileRecord} (bounded : file.file.size < UInt64.size) :
    file.toRecord.HoldsData := by
  refine holdsData_ofList (List.forall_mem_append.mpr ⟨?_, fun entry member => ?_⟩)
  · simp only [List.forall_mem_cons]
    exact ⟨.text _, .text _, .number bounded, .text _, .text _, .text _,
      fun _ none => by cases none⟩
  · obtain ⟨language, _, rfl⟩ := Option.map_eq_some_iff.mp (Option.mem_toList.mp member)
    exact .text _

theorem holdsData_entity {entity : Entity} (startBounded : entity.startLine < UInt64.size)
    (endBounded : entity.endLine < UInt64.size) : entity.toRecord.HoldsData := by
  refine holdsData_ofList ?_
  simp only [List.forall_mem_cons]
  exact ⟨.text _, .text _, .number startBounded, .number endBounded, .text _, .text _, .text _,
    fun _ none => by cases none⟩

theorem holdsData_edge {edge : Edge}
    (bounded : ∀ span ∈ edge.evidence, span.startLine < UInt64.size ∧ span.endLine < UInt64.size) :
    edge.toRecord.HoldsData := by
  have evidence : ∀ entry ∈ evidenceProperties edge.evidence, entry.2.IsDatum := by
    unfold evidenceProperties
    split
    · next span isEvidence =>
      have ⟨startBounded, endBounded⟩ := bounded span isEvidence
      simp only [List.forall_mem_cons]
      exact ⟨.number startBounded, .number endBounded, fun _ none => by cases none⟩
    · exact fun _ none => by cases none
  unfold Edge.toRecord
  split
  · exact holdsData_ofList evidence
  · exact holdsData_ofList (List.forall_mem_append.mpr
      ⟨evidence, List.forall_mem_singleton.mpr (.text _)⟩)

/-- Everything that is emitted holds texts and numbers only. -/
theorem holdsData_of_mem_emit {ontology : Ontology} {files : List FileRecord}
    {entities : List Entity} {edges : List Edge} (fits : FitsWords files entities edges) :
    ∀ entry ∈ (ontology.emit files entities edges).records, entry.HoldsData := by
  intro entry member
  have isItem := (EmissionBatch.sublist_of_settles
    (ontology.settles_emissions files entities edges)).subset member
  rw [EmissionBatch.items, List.mem_append, List.mem_append] at isItem
  rcases isItem with (isFile | isEntity) | isEdge
  · obtain ⟨file, inFiles, rfl⟩ := List.mem_map.mp isFile
    exact holdsData_file (fits.sizes file inFiles)
  · obtain ⟨entity, inEntities, rfl⟩ := List.mem_map.mp isEntity
    exact holdsData_entity (fits.lines entity inEntities).1 (fits.lines entity inEntities).2
  · obtain ⟨edge, inEdges, rfl⟩ := List.mem_map.mp isEdge
    exact holdsData_edge (fits.evidence edge inEdges)

/-- The lines of JSON hold what was written: the text is cut at the ends of lines into one line for
each record, none of them empty, and an empty piece behind the last, and each line is read as its
record. This is so of all records whose properties hold texts and numbers, and of no other sort are
the records that are emitted. -/
theorem lines_read_back :
    (∀ records : List GraphRecord, (∀ entry ∈ records, entry.HoldsData) →
      ∃ lines : List String, Text.split '\n' (toJsonLines records) = lines ++ [""] ∧
        (∀ line ∈ lines, line ≠ "") ∧ lines.map ofJsonLine? = records.map some) ∧
    ∀ (ontology : Ontology) (files : List FileRecord) (entities : List Entity)
      (edges : List Edge), FitsWords files entities edges →
        ∀ entry ∈ (ontology.emit files entities edges).records, entry.HoldsData := by
  refine ⟨fun records data => ⟨records.map toJsonLine, split_toJsonLines data, ?_, ?_⟩,
    fun _ _ _ _ fits => holdsData_of_mem_emit fits⟩
  · intro line member
    obtain ⟨entry, isEntry, rfl⟩ := List.mem_map.mp member
    exact (data entry isEntry).isExact.print_ne_empty
  · rw [List.map_map]
    exact List.map_congr_left fun entry member => (data entry member).ofJsonLine?_toJsonLine

/-- A node whose texts hold ends of lines, quotes and control characters, and an edge without
properties. -/
def sampleRecords : List GraphRecord := [
  .node "a\nb" "Class\"\\"
    (.ofList [("key\t", .string "\x00\r\n\u2028"), ("line", .ofNat 18446744073709551615)]),
  .edge "a\nb" "is\x7f" "c" false .empty]

/-- The two records of the sample are read back from two lines. -/
theorem lines_read_back_of_sample : ∃ first second : String,
    Text.split '\n' (toJsonLines sampleRecords) = [first, second, ""] ∧
      [first, second].map ofJsonLine? = sampleRecords.map some := by
  have data : ∀ entry ∈ sampleRecords, entry.HoldsData := by
    simp only [sampleRecords, List.forall_mem_cons]
    refine ⟨holdsData_ofList ?_, fun _ none => (by cases none), fun _ none => by cases none⟩
    simp only [List.forall_mem_cons]
    exact ⟨.text _, .number (by decide), fun _ none => by cases none⟩
  obtain ⟨lines, split, _, back⟩ := lines_read_back.1 sampleRecords data
  have two : lines.length = 2 := by
    rw [← List.length_map (f := ofJsonLine?), back]
    rfl
  obtain ⟨first, second, rfl⟩ := List.length_eq_two.mp two
  exact ⟨first, second, split, back⟩

end GraphRecord

end CodeGraph
