/-
This file proves that what the pipeline finds passes the check of the records.

A record is made of names that are fixed beforehand and of a few that come from what is written:
the two classes of a file, the class of an entity, the property of an edge. The fixed names are
listed, and `Ontology.KnowsTerms` says that an ontology has all of them. The names of the
properties in a record are those that it is made from, since a map has no others
(`PropertyMap.mem_names_ofList`). So a record is rejected only for one of the names that are not
fixed, and each of the three sorts of record has a lemma that says so. An edge can also be rejected
because it does not lead from a node to a node that was written.

If the ontology knows the classes and properties, then all files and entities are written;
therefore every edge between them is, and nothing is rejected. The batch then consists of the
records of the files, the entities and the edges, in this order, with no failure
(`Ontology.emit_eq`). That these conditions hold of what the pipeline finds is proved where it is
found.
-/
import CodeGraph.Record.Emission

namespace CodeGraph

/-! ### Properties -/

namespace PropertyMap

private theorem mem_entries_foldl_insert {entry : String × Json} {entries : List (String × Json)}
    {properties : PropertyMap}
    (member : entry ∈ (entries.foldl (fun properties (name, value) =>
      properties.insert name value) properties).entries) :
    entry ∈ properties.entries ∨ entry ∈ entries := by
  induction entries generalizing properties with
  | nil => exact .inl member
  | cons head rest inductionHypothesis =>
    rcases inductionHypothesis member with before | inRest
    · rcases mem_insertMember before with new | old
      · exact .inr (new ▸ List.mem_cons_self)
      · exact .inl old
    · exact .inr (List.mem_cons_of_mem _ inRest)

/-- A map has no other properties than those it is made from. -/
theorem mem_entries_ofList {entry : String × Json} {entries : List (String × Json)}
    (member : entry ∈ (ofList entries).entries) : entry ∈ entries :=
  (mem_entries_foldl_insert member).resolve_left List.not_mem_nil

theorem mem_names_ofList {name : String} {entries : List (String × Json)}
    (member : name ∈ (ofList entries).names) : name ∈ entries.map Prod.fst := by
  obtain ⟨entry, isEntry, same⟩ := List.mem_map.mp member
  exact List.mem_map.mpr ⟨entry, mem_entries_ofList isEntry, same⟩

theorem mem_of_get?_ofList {name : String} {value : Json} {entries : List (String × Json)}
    (found : (ofList entries).get? name = some value) : (name, value) ∈ entries := by
  obtain ⟨before, after, split, _⟩ := List.lookup_eq_some_iff.mp found
  exact mem_entries_ofList (split ▸ List.mem_append_right before List.mem_cons_self)

end PropertyMap

/-! ### Known terms -/

namespace Ontology

/-- An ontology that has all names that extraction, resolution and emission write of themselves. -/
structure KnowsTerms (ontology : Ontology) : Prop where
  classes : ∀ name ∈ Term.constructClasses, ontology.knowsClass name
  edges : ∀ name ∈ Term.edgeProperties, ontology.knows .objectProperty name
  data : ∀ name ∈ Term.dataProperties, ontology.knows .dataProperty name
  label : ontology.knows .annotationProperty Term.label

variable {ontology : Ontology}

theorem KnowsTerms.knowsDataName (known : ontology.KnowsTerms) {name : String}
    (member : name ∈ Term.label :: Term.dataProperties) : ontology.knowsDataName name := by
  rw [Ontology.knowsDataName, Bool.or_eq_true]
  rcases List.mem_cons.mp member with rfl | member
  · exact .inr known.label
  · exact .inl (known.data name member)

/-- A record with known terms only is not rejected. -/
theorem rejection?_eq_none {entry : GraphRecord} (term : ontology.termRejection? entry = none)
    (properties : ∀ name ∈ entry.properties.names, ontology.knowsDataName name)
    (content : ontology.contentRejection? entry = none) : ontology.rejection? entry = none := by
  have noProperty : ontology.propertyRejection? entry = none := by
    rw [propertyRejection?, List.find?_eq_none.mpr, Option.map_none]
    intro name member
    rw [properties name member]
    decide
  rw [rejection?, term, noProperty, content]
  rfl

/-- The record of a file is not rejected if its two classes are known. -/
theorem rejection?_file (known : ontology.KnowsTerms) {entry : FileRecord}
    (carrier : ontology.knowsClass entry.file.carrierClass)
    (content : ontology.knowsClass entry.file.contentClass) :
    ontology.rejection? entry.toRecord = none := by
  refine rejection?_eq_none (if_pos carrier) (fun name member => known.knowsDataName ?_) ?_
  · have fixed : ∀ name ∈ [Term.relativePath, Term.repositoryId, Term.fileSize, Term.contentClass,
        Term.parseStatus, Term.label, Term.programmingLanguage],
        name ∈ Term.label :: Term.dataProperties := by decide
    refine fixed name ?_
    have named := PropertyMap.mem_names_ofList member
    rw [List.map_append, List.mem_append] at named
    rcases named with always | withLanguage
    · exact List.mem_append_left [Term.programmingLanguage] always
    · cases language : entry.file.language <;> rw [language] at withLanguage
      · cases withLanguage
      · exact List.mem_append_right [Term.relativePath, Term.repositoryId, Term.fileSize,
          Term.contentClass, Term.parseStatus, Term.label] withLanguage
  · unfold contentRejection? FileRecord.toRecord
    simp only
    split
    · next given found =>
      have isContent : given = entry.file.contentClass := by
        have member := PropertyMap.mem_of_get?_ofList found
        cases language : entry.file.language <;> rw [language] at member <;>
          simpa [Term.contentClass, Term.relativePath, Term.repositoryId, Term.fileSize,
            Term.parseStatus, Term.label, Term.programmingLanguage] using member
      rw [isContent]
      exact if_pos content
    · rfl

/-- The record of an entity is not rejected if its class is known. -/
theorem rejection?_entity (known : ontology.KnowsTerms) {entity : Entity}
    (isClass : ontology.knowsClass entity.className) :
    ontology.rejection? entity.toRecord = none := by
  refine rejection?_eq_none (if_pos isClass) (fun name member => known.knowsDataName ?_) ?_
  · have fixed : ∀ name ∈ [Term.canonicalName, Term.simpleName, Term.startLine, Term.endLine,
        Term.sourceSnippet, Term.relativePath, Term.label],
        name ∈ Term.label :: Term.dataProperties := by decide
    exact fixed name (PropertyMap.mem_names_ofList member)
  · unfold contentRejection? Entity.toRecord
    simp only
    split
    · next given found =>
      have named : Term.contentClass ∈ [Term.canonicalName, Term.simpleName, Term.startLine,
          Term.endLine, Term.sourceSnippet, Term.relativePath, Term.label] :=
        List.mem_map_of_mem (f := Prod.fst) (PropertyMap.mem_of_get?_ofList found)
      exact absurd named (by decide)
    · rfl

/-- The record of an edge is not rejected if its property is known. -/
theorem rejection?_edge (known : ontology.KnowsTerms) {edge : Edge}
    (isProperty : ontology.knows .objectProperty edge.predicate) :
    ontology.rejection? edge.toRecord = none := by
  have evidence : ∀ name ∈ (evidenceProperties edge.evidence).map Prod.fst,
      name ∈ Term.label :: Term.dataProperties := by
    unfold evidenceProperties
    split
    · exact (by decide : ∀ name ∈ [Term.evidenceStartLine, Term.evidenceEndLine],
        name ∈ Term.label :: Term.dataProperties)
    · exact fun _ none => absurd none List.not_mem_nil
  unfold Edge.toRecord
  split
  · refine rejection?_eq_none (if_pos isProperty) (fun name member => known.knowsDataName ?_) rfl
    exact evidence name (PropertyMap.mem_names_ofList member)
  · refine rejection?_eq_none (if_pos isProperty) (fun name member => known.knowsDataName ?_) rfl
    have named := PropertyMap.mem_names_ofList member
    rw [List.map_append, List.mem_append] at named
    rcases named with inEvidence | raw
    · exact evidence name inEvidence
    · rw [List.mem_singleton.mp raw]
      exact (by decide : Term.rawReference ∈ Term.label :: Term.dataProperties)

/-! ### Emission -/

/-- An outcome that is no rejection is the record. -/
theorem ofRecord_eq_ok {path : String} {entry : GraphRecord}
    (accepted : ontology.rejection? entry = none) :
    Emission.ofRecord ontology path entry = .ok entry := by
  rw [Emission.ofRecord, accepted]

/-- An edge between written nodes is written. -/
theorem edgeEmission_eq_ok (known : ontology.KnowsTerms) {written : List String} {edge : Edge}
    (isProperty : ontology.knows .objectProperty edge.predicate)
    (subject : edge.subjectId ∈ written) (object : ∀ id ∈ edge.object.id?, id ∈ written)
    (path : String) : ontology.edgeEmission written path edge = .ok edge.toRecord := by
  have present : edge.object.id?.filter (!written.contains ·) = none := by
    refine Option.filter_eq_none_iff.mpr fun id isObject => ?_
    rw [List.contains_iff_mem.mpr (object id isObject)]
    decide
  rw [edgeEmission, List.contains_iff_mem.mpr subject, present]
  exact ofRecord_eq_ok (rejection?_edge known isProperty)

theorem ofEmissions_map_ok (records : List GraphRecord) :
    EmissionBatch.ofEmissions (records.map Except.ok) = ⟨records, []⟩ := by
  have kept : (records.map Except.ok).filterMap Emission.record? = records := by
    rw [List.filterMap_map]
    exact List.filterMap_some
  have failed : (records.map Except.ok).filterMap Emission.failure? = [] := by
    rw [List.filterMap_map]
    exact List.filterMap_eq_nil_iff.mpr fun _ _ => rfl
  rw [EmissionBatch.ofEmissions, kept, failed]

/-- Files and entities whose classes are known are all written. -/
theorem nodeEmissions_eq (known : ontology.KnowsTerms) {files : List FileRecord}
    {entities : List Entity}
    (fileClasses : ∀ entry ∈ files, ontology.knowsClass entry.file.carrierClass ∧
      ontology.knowsClass entry.file.contentClass)
    (entityClasses : ∀ entity ∈ entities, ontology.knowsClass entity.className) :
    ontology.nodeEmissions (nodeCandidates files entities) =
      (files.map FileRecord.toRecord ++ entities.map Entity.toRecord).map Except.ok := by
  rw [nodeEmissions, nodeCandidates, List.map_append, List.map_append, List.map_map,
    List.map_map, List.map_map, List.map_map]
  congr 1
  · refine List.map_congr_left fun entry member => ?_
    have ⟨carrier, content⟩ := fileClasses entry member
    exact ofRecord_eq_ok (rejection?_file known carrier content)
  · refine List.map_congr_left fun entity member => ?_
    exact ofRecord_eq_ok (rejection?_entity known (entityClasses entity member))

/-- A graph whose terms are known and whose edges lead from nodes to nodes is emitted in full: the
files, the entities and the edges, in this order, and no failure. -/
theorem emit_eq (known : ontology.KnowsTerms) {files : List FileRecord} {entities : List Entity}
    {edges : List Edge}
    (fileClasses : ∀ entry ∈ files, ontology.knowsClass entry.file.carrierClass ∧
      ontology.knowsClass entry.file.contentClass)
    (entityClasses : ∀ entity ∈ entities, ontology.knowsClass entity.className)
    (properties : ∀ edge ∈ edges, ontology.knows .objectProperty edge.predicate)
    (ends : ∀ edge ∈ edges, ∀ id, edge.subjectId = id ∨ edge.object.id? = some id →
      id ∈ files.map (·.file.id) ++ entities.map Entity.id) :
    ontology.emit files entities edges =
      ⟨files.map FileRecord.toRecord ++ entities.map Entity.toRecord ++ edges.map Edge.toRecord,
        []⟩ := by
  have nodes := nodeEmissions_eq known fileClasses entityClasses
  have written : (ontology.nodeEmissions (nodeCandidates files entities)).filterMap
      (fun emission => emission.record?.bind GraphRecord.nodeId?) =
        files.map (·.file.id) ++ entities.map Entity.id := by
    rw [nodes, List.filterMap_map, List.filterMap_append, List.filterMap_map, List.filterMap_map]
    congr 1
    · exact congrFun List.filterMap_eq_map files
    · exact congrFun List.filterMap_eq_map entities
  have edgeOutcomes : (edges.map fun edge => ontology.edgeEmission
      (files.map (·.file.id) ++ entities.map Entity.id)
      (NodeCandidate.pathOf (nodeCandidates files entities) edge.subjectId) edge) =
        (edges.map Edge.toRecord).map Except.ok := by
    rw [List.map_map]
    refine List.map_congr_left fun edge member => ?_
    exact edgeEmission_eq_ok known (properties edge member) (ends edge member _ (.inl rfl))
      (fun id isObject => ends edge member id (.inr isObject)) _
  rw [emit, emissions, written, edgeOutcomes, nodes, ← List.map_append, ofEmissions_map_ok]

end Ontology

end CodeGraph
