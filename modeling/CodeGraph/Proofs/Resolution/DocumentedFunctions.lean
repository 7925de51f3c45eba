/-
This file proves which functions the comments above them document, whatever the source and the
syntax tree of their file are.

What documents what is known already in terms of siblings, that is of entities with one parent. The
question is which comment and function are siblings. A comment has no owner, so it keeps its
lexical parent. A function that names an owner is moved to the type of that name, and documentation
compares parents after the move. So a comment that stands right above a function in the same
container reaches it exactly if both still have the same parent
(`documents_function_iff_sameParent`).

The rest is to take the statement from definitions to entities. That the comment is the only one to
end on its line is asked of the definitions; every entity comes from one, so it is the last one
there among the entities, too. No entity ends above the line it begins on, because no definition
does. Of two definitions with one identifier only the first becomes an entity, and it has to be
assumed that the comment and the function do. In the sample a method and a function stand directly
in the file with a comment above each, and the method, which names its owner, is not documented.
-/
import CodeGraph.Proofs.Resolution.Documentation
import CodeGraph.Proofs.Resolution.Parameters

namespace CodeGraph

namespace Definition

/-- A comment that is the only one to end on the line above a function, in the same innermost
container as the function. -/
structure IsRightAbove (definitions : List Definition) (place index : Nat)
    (comment function : Definition) : Prop where
  isComment : definitions[place]? = some comment
  ofComment : comment.kind = .comment
  isFunction : definitions[index]? = some function
  ofFunction : function.kind = .functionDefinition
  sameContainer : (lexicalParents definitions).parent? place =
    (lexicalParents definitions).parent? index
  adjacent : comment.span.endLine + 1 = function.span.startLine
  only : ∀ entry ∈ definitions.zipIdx, entry.1.kind = .comment →
    entry.1.span.endLine = comment.span.endLine → entry.2 = place

end Definition

namespace ParsedFile

open Definition

variable {parsed : ParsedFile} {place index : Nat} {definition comment function : Definition}

/-! ### Entities of a parsed file -/

theorem hasOrderedLines_entities (parsed : ParsedFile) :
    EntityList.HasOrderedLines parsed.entities := by
  intro entity member
  obtain ⟨index, definition, isDefinition, rfl⟩ :=
    exists_of_mem_toEntities (mem_candidates member)
  exact Extraction.startLine_le_endLine (List.mem_of_getElem? isDefinition)

theorem mem_siblings_iff {entity other : Entity} (isEntity : entity ∈ parsed.entities) :
    other ∈ EntityList.siblings parsed.entities entity ↔
      other ∈ parsed.entities ∧ other.parentId = entity.parentId := by
  rw [EntityList.mem_siblings]
  refine and_congr_right fun isOther => and_iff_right ?_
  rw [fileId_eq isOther, fileId_eq isEntity]

/-- In the graph of one file a comment documents what it leads to among the entities with its
parent. -/
theorem documents_iff_of_mem_entities {files : FileList} {observations : List Observation}
    {note target : Entity} (isNote : note ∈ parsed.entities) (isTarget : target ∈ parsed.entities) :
    Edge.Documents ((corpusAmong files [parsed]).resolve observations).edges note.id target.id ↔
      target.isComment = false ∧ target.parentId = note.parentId ∧
        EntityList.LeadsTo (EntityList.siblings parsed.entities note) note target.startLine := by
  have same : (corpusAmong files [parsed]).entities = parsed.entities := List.flatMap_singleton _ _
  have ordered := (hasOrderedLines_entities parsed).comments
  rw [Corpus.documents_iff_leadsTo (by rw [same]; exact ordered)
    (by rw [same]; exact Entity.nodup_distinct _) (same ▸ isNote) (same ▸ isTarget), same,
    mem_siblings_iff isNote, and_iff_right isTarget]

/-- Definitions with one parent have entities with one parent. -/
theorem parentId_entityAt_eq
    (same : (parents parsed.definitions).parent? place =
      (parents parsed.definitions).parent? index) :
    (parsed.entityAt place comment).parentId = (parsed.entityAt index definition).parentId :=
  congrArg (Option.bind · _) same

/-- A comment keeps its lexical parent. -/
theorem parent?_parents_of_comment (isComment : parsed.definitions[place]? = some comment)
    (ofComment : comment.kind = .comment) :
    (parents parsed.definitions).parent? place =
      (lexicalParents parsed.definitions).parent? place :=
  parent?_parents_of_unowned isComment
    (Extraction.owner_eq_none_of_rank_lt (List.mem_of_getElem? isComment) (ofComment ▸ by decide))

/-- The only comment to end on a line is the last one there. -/
theorem isLastThere_entityAt (above : IsRightAbove parsed.definitions place index comment function)
    (isKept : parsed.entityAt place comment ∈ parsed.entities) :
    EntityList.IsLastThere (EntityList.siblings parsed.entities (parsed.entityAt place comment))
      (parsed.entityAt place comment) := by
  have ofComment : (parsed.entityAt place comment).isComment := beq_iff_eq.mpr above.ofComment
  refine EntityList.isLastThere_of_only ((mem_siblings_iff isKept).mpr ⟨isKept, rfl⟩) ofComment
    fun other isSibling isNote sameLine => ?_
  obtain ⟨elsewhere, note, isDefinition, rfl⟩ :=
    exists_of_mem_toEntities (mem_candidates ((mem_siblings_iff isKept).mp isSibling).1)
  obtain rfl : elsewhere = place := above.only (note, elsewhere)
    (List.mem_zipIdx_iff_getElem?.mpr isDefinition) (beq_iff_eq.mp isNote) sameLine
  obtain rfl := Option.some.inj (isDefinition.symm.trans above.isComment)
  rfl

/-! ### Functions with a comment above them -/

/-- The comment right above a function documents it exactly if owners leave both with the same
parent, and nothing else of this parent begins where the comment does. They have the same parent if
the function is not moved. This holds for all sources and syntax trees of the file, for all other
files and whatever was observed, as long as both definitions become entities: of two with one
identifier only the first does. -/
theorem documents_function_iff_sameParent (files : FileList) (parsed : ParsedFile)
    (observations : List Observation) {place index : Nat} {comment function : Definition}
    (above : IsRightAbove parsed.definitions place index comment function)
    (isComment : parsed.entityAt place comment ∈ parsed.entities)
    (isFunction : parsed.entityAt index function ∈ parsed.entities) :
    ((parents parsed.definitions).parent? index =
        (lexicalParents parsed.definitions).parent? index →
      (parsed.entityAt index function).parentId = (parsed.entityAt place comment).parentId) ∧
    (Edge.Documents ((corpusAmong files [parsed]).resolve observations).edges
        (parsed.entityAt place comment).id (parsed.entityAt index function).id ↔
      (parsed.entityAt index function).parentId = (parsed.entityAt place comment).parentId ∧
        ∀ other ∈ parsed.entities, other.isComment = false →
          other.parentId = (parsed.entityAt place comment).parentId →
            other.startLine ≠ comment.span.startLine) := by
  have notComment : (parsed.entityAt index function).isComment = false :=
    beq_eq_false_iff_ne.mpr fun isNote => absurd (above.ofFunction.symm.trans isNote) (by decide)
  have ofComment : (parsed.entityAt place comment).isComment := beq_iff_eq.mpr above.ofComment
  constructor
  · intro unmoved
    refine parentId_entityAt_eq (unmoved.trans ?_)
    rw [parent?_parents_of_comment above.isComment above.ofComment, above.sameContainer]
  rw [documents_iff_of_mem_entities isComment isFunction]
  constructor
  · rintro ⟨-, sameParent, leads⟩
    refine ⟨sameParent, fun other isOther otherKind otherParent => ?_⟩
    exact leads.canDocument.isFree other ((mem_siblings_iff isComment).mpr ⟨isOther, otherParent⟩)
      otherKind
  · rintro ⟨sameParent, isFree⟩
    have can : EntityList.CanDocument
        (EntityList.siblings parsed.entities (parsed.entityAt place comment))
        (parsed.entityAt place comment) := by
      refine ⟨ofComment, isLastThere_entityAt above isComment, fun other isSibling otherKind => ?_⟩
      have ⟨isOther, otherParent⟩ := (mem_siblings_iff isComment).mp isSibling
      exact isFree other isOther otherKind otherParent
    have adjacent : (parsed.entityAt place comment).endLine + 1 =
        (parsed.entityAt index function).startLine := above.adjacent
    exact ⟨notComment, sameParent, adjacent ▸ .here can⟩

/-- A file with a comment above a method and a comment above a function without an owner. -/
def documentedFile : ParsedFile where
  file := .ofPath "r" "m.go" (some .go) 81 "SourceFile" "ProgramCode"
  language := .go
  source := .ofString
    ("package p\ntype T struct\x7b\x7d\n// Runs.\nfunc (t *T) Run() \x7b\x7d\n" ++
      "// Stops.\nfunc stop() \x7b\x7d\n")
  tree :=
    let leaf (index : Nat) (kind : String) (start stop : Nat) (field : String) : SyntaxTree :=
      .node { index, kind, start, stop, field } []
    .node { index := 0, kind := "source_file", start := 0, stop := 81 } [
      .node { index := 1, kind := "type_spec", start := 15, stop := 25 } [
        leaf 2 "type_identifier" 15 16 "name", leaf 3 "struct_type" 17 25 "type"],
      .node { index := 4, kind := "comment", start := 26, stop := 34 } [],
      .node { index := 5, kind := "method_declaration", start := 35, stop := 55 } [
        .node { index := 6, kind := "parameter_list", start := 40, stop := 46, field := "receiver" }
          [.node { index := 7, kind := "parameter_declaration", start := 41, stop := 45 } [
            .node { index := 8, kind := "pointer_type", start := 43, stop := 45, field := "type" } [
              .node { index := 9, kind := "type_identifier", start := 44, stop := 45 } []]]],
        leaf 10 "field_identifier" 47 50 "name"],
      .node { index := 11, kind := "comment", start := 56, stop := 65 } [],
      .node { index := 12, kind := "function_declaration", start := 66, stop := 80 } [
        leaf 13 "identifier" 71 75 "name"]]
  identified := rfl

/-- The definitions of the file. -/
def documentedDefinitions : List Definition :=
  [(.structDefinition, ⟨15, 25⟩, some ⟨15, 16⟩, 2, "T", none),
    (.comment, ⟨26, 34⟩, none, 3, "comment_L3C1", none),
    (.functionDefinition, ⟨35, 55⟩, some ⟨47, 50⟩, 4, "Run", some "T"),
    (.comment, ⟨56, 65⟩, none, 5, "comment_L5C1", none),
    (.functionDefinition, ⟨66, 80⟩, some ⟨71, 75⟩, 6, "stop", none)].map
      fun (kind, range, nameRange, line, name, owner) =>
        { kind, range, nameRange, span := ⟨line, line⟩, name, owner }

theorem definitions_documentedFile : documentedFile.definitions = documentedDefinitions := by
  rw [ParsedFile.definitions, Extraction.definitionsIn_eq]
  decide +kernel

theorem entities_documentedFile : documentedFile.entities = documentedFile.candidates := by
  refine entities_eq_candidates ?_ ?_ <;> rw [messages_eq definitions_documentedFile] <;>
    decide +kernel

theorem entityAt_mem_documentedFile (place : Fin 5) :
    documentedFile.entityAt place documentedDefinitions[place] ∈ documentedFile.entities := by
  rw [entities_documentedFile]
  refine entityAt_mem_toEntities ?_
  rw [definitions_documentedFile]
  exact List.getElem?_eq_getElem place.isLt

/-- The comment above the function without an owner documents it. -/
theorem documents_function_of_documentedFile :
    Edge.Documents ((corpusAmong [documentedFile.file] [documentedFile]).resolve []).edges
      (documentedFile.entityAt 3 documentedDefinitions[3]).id
      (documentedFile.entityAt 4 documentedDefinitions[4]).id := by
  have above : IsRightAbove documentedFile.definitions 3 4 documentedDefinitions[3]
      documentedDefinitions[4] := by
    rw [definitions_documentedFile]
    exact ⟨rfl, rfl, rfl, rfl, by decide +kernel, rfl, by decide⟩
  have topLevel : (documentedFile.entityAt 3 documentedDefinitions[3]).parentId = none := by
    rw [ParsedFile.entityAt, definitions_documentedFile]
    decide +kernel
  obtain ⟨sameParent, documents⟩ := documents_function_iff_sameParent [documentedFile.file]
    documentedFile [] above (entityAt_mem_documentedFile 3) (entityAt_mem_documentedFile 4)
  rw [definitions_documentedFile, topLevel] at sameParent
  rw [topLevel, entities_documentedFile, candidates, definitions_documentedFile] at documents
  exact documents.mpr ⟨sameParent (by decide +kernel), by decide +kernel⟩

/-- The comment above the method does not, though both stand directly in the file. -/
theorem not_documents_method_of_documentedFile :
    ¬ ∀ (parsed : ParsedFile) (place index : Nat) (comment function : Definition),
      IsRightAbove parsed.definitions place index comment function →
        (∀ entry ∈ parsed.definitions.zipIdx, entry.1.kind ≠ .comment →
          (lexicalParents parsed.definitions).parent? entry.2 =
            (lexicalParents parsed.definitions).parent? place →
          entry.1.span.startLine ≠ comment.span.startLine) →
        Edge.Documents
          ((corpusAmong [parsed.file] [parsed]).resolve parsed.observations).edges
          (parsed.entityAt place comment).id (parsed.entityAt index function).id := by
  intro documents
  have above : IsRightAbove documentedFile.definitions 1 2 documentedDefinitions[1]
      documentedDefinitions[2] := by
    rw [definitions_documentedFile]
    exact ⟨rfl, rfl, rfl, rfl, by decide +kernel, rfl, by decide⟩
  have isDocumented := documents documentedFile 1 2 _ _ above
    (by rw [definitions_documentedFile]; decide +kernel)
  have ⟨_, sameParent, _⟩ := (documents_iff_of_mem_entities (entityAt_mem_documentedFile 1)
    (entityAt_mem_documentedFile 2)).mp isDocumented
  rw [ParsedFile.entityAt, ParsedFile.entityAt, definitions_documentedFile] at sameParent
  exact absurd sameParent (by decide +kernel)

end ParsedFile

end CodeGraph
