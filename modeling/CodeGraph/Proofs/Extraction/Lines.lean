/-
This file proves which lines are given for what is extracted.

A row is the number of newlines before an offset, and a column the number of bytes since the last
of them. The end of a range is the offset behind its last byte. If that byte is a newline, the end
lies in column zero of the next row, and the rule for this case takes the row back; otherwise the
end lies in the row of the byte. So in both cases a range that is not empty ends in the row of its
last byte (`SourceText.endLine_eq`), and since rows grow with the offset no lines are inverted. A
byte of the source lies in one of its lines, of which there are as many as newlines and one more if
something stands behind the last of these (`SourceText.row_lt_lineCount`). Within a row the column
grows with the offset, so a row and a column determine it.

For what is extracted it is enough to know that its lines are those of a node with at least one
byte (`Span.IsOfNode`). Uniting definitions keeps the lines of one of them. In a laid-out tree the
node of a definition encloses its name, and that of an import its path, neither of which can be
empty; a comment has no name, so that its node is not empty has to be assumed.
-/
import CodeGraph.Proofs.Extraction.Anchors
import CodeGraph.Proofs.Extraction.Evaluation
import CodeGraph.Proofs.Extraction.RepeatedObservations

namespace CodeGraph

namespace SourceText

variable {source : SourceText} {start stop offset left right : Nat}

/-! ### Rows and columns -/

theorem row_mono (before : start ≤ stop) : source.row start ≤ source.row stop :=
  (List.take_sublist_take_left before).count_le _

/-- The bytes up to the end of a range are those before its last byte and that byte. -/
theorem take_eq_append_last (nonempty : 0 < stop) (inside : stop ≤ source.bytes.length) :
    source.bytes.take stop = source.bytes.take (stop - 1) ++ [source.bytes[stop - 1]] := by
  rw [← List.take_succ_eq_append_getElem, Nat.sub_add_cancel nonempty]

theorem row_eq_of_last (nonempty : 0 < stop) (inside : stop ≤ source.bytes.length) :
    source.row stop =
      source.row (stop - 1) + if source.bytes[stop - 1] = newline then 1 else 0 := by
  rw [row, take_eq_append_last nonempty inside, List.count_append, List.count_singleton]
  simp only [beq_iff_eq]
  rfl

/-- An offset lies in column zero exactly if a newline stands before it. -/
theorem column_eq_zero_iff (nonempty : 0 < stop) (inside : stop ≤ source.bytes.length) :
    source.column stop = 0 ↔ source.bytes[stop - 1] = newline := by
  rw [column, take_eq_append_last nonempty inside, List.reverse_append, List.reverse_singleton,
    List.singleton_append, List.takeWhile_cons]
  by_cases last : source.bytes[stop - 1] = newline <;> simp [last]

/-- A range ends in the row of its last byte. -/
theorem endLine_eq (nonempty : start < stop) (inside : stop ≤ source.bytes.length) :
    source.endLine start stop = source.row (stop - 1) + 1 := by
  have positive : 0 < stop := Nat.zero_lt_of_lt nonempty
  have ascending : source.row start ≤ source.row (stop - 1) := row_mono (by omega)
  have rows := row_eq_of_last positive inside
  by_cases last : source.bytes[stop - 1] = newline
  · rw [if_pos last] at rows
    rw [endLine, if_pos ⟨(column_eq_zero_iff positive inside).mpr last, by omega⟩, rows]
  · rw [if_neg last, Nat.add_zero] at rows
    rw [endLine, if_neg fun both => last ((column_eq_zero_iff positive inside).mp both.1), rows]

/-- Within a row the column grows with the offset. -/
theorem column_eq_add_of_row_eq (before : start ≤ stop) (inside : stop ≤ source.bytes.length)
    (sameRow : source.row start = source.row stop) :
    source.column stop = stop - start + source.column start := by
  obtain ⟨between, split⟩ := List.take_prefix_take_left (l := source.bytes) before
  rw [row, row, ← split, List.count_append] at sameRow
  have noNewline : newline ∉ between := List.count_eq_zero.mp (by omega)
  have length := congrArg List.length split
  rw [List.length_append, List.length_take_of_le inside,
    List.length_take_of_le (Nat.le_trans before inside)] at length
  rw [column, ← split, List.reverse_append, List.takeWhile_append_of_pos, List.length_append,
    List.length_reverse, column]
  · omega
  · intro byte member
    exact bne_iff_ne.mpr fun same => noNewline (same ▸ List.mem_reverse.mp member)

/-- An offset is determined by its row and its column. -/
theorem eq_of_row_of_column (leftInside : left ≤ source.bytes.length)
    (rightInside : right ≤ source.bytes.length) (sameRow : source.row left = source.row right)
    (sameColumn : source.column left = source.column right) : left = right := by
  rcases Nat.le_total left right with before | after
  · have grown := column_eq_add_of_row_eq before rightInside sameRow
    omega
  · have grown := column_eq_add_of_row_eq after leftInside sameRow.symm
    omega

/-- The number of lines of a text: each newline closes one, and what follows the last newline is one
more if it is not empty. -/
def lineCount (source : SourceText) : Nat :=
  source.bytes.count newline + if source.bytes.getLast?.any (· != newline) then 1 else 0

/-- No byte lies behind the last line. -/
theorem row_lt_lineCount (inside : offset < source.bytes.length) :
    source.row offset < source.lineCount := by
  have inhabited : source.bytes ≠ [] := List.length_pos_iff.mp (Nat.zero_lt_of_lt inside)
  obtain ⟨before, last, split⟩ : ∃ before last, source.bytes = before ++ [last] :=
    ⟨_, _, (List.dropLast_append_getLast inhabited).symm⟩
  have short : offset ≤ before.length := by
    rw [split, List.length_append, List.length_singleton] at inside
    exact Nat.le_of_lt_succ inside
  have rows : source.row offset ≤ before.count newline := by
    rw [row, split, List.take_append_of_le_length short]
    exact (List.take_sublist _ _).count_le _
  rw [lineCount, split, List.count_append, List.count_singleton, List.getLast?_concat,
    Option.any_some]
  by_cases isNewline : last = newline <;> simp [isNewline] <;> omega

end SourceText

/-! ### Spans -/

/-- A span starts at line one or later, does not end above where it starts, and ends in a line of
the source. -/
structure Span.FitsIn (source : SourceText) (span : Span) : Prop where
  first : 1 ≤ span.startLine
  ordered : span.startLine ≤ span.endLine
  last : span.endLine ≤ source.lineCount

namespace Capture

variable {source : SourceText} {node : SyntaxNode}

/-- The lines of a node are those of its first and its last byte. -/
theorem spanOf_eq (nonempty : node.start < node.stop) (inside : node.stop ≤ source.bytes.length) :
    spanOf source node = ⟨source.row node.start + 1, source.row (node.stop - 1) + 1⟩ := by
  have ascending : source.row node.start ≤ source.row (node.stop - 1) :=
    SourceText.row_mono (by omega)
  rw [spanOf, SourceText.endLine_eq nonempty inside, SourceText.startLine,
    Nat.max_eq_left (Nat.succ_le_succ ascending)]

theorem fitsIn_spanOf (nonempty : node.start < node.stop)
    (inside : node.stop ≤ source.bytes.length) : (spanOf source node).FitsIn source := by
  rw [spanOf_eq nonempty inside]
  refine ⟨Nat.le_add_left 1 _, Nat.succ_le_succ (SourceText.row_mono (by omega)), ?_⟩
  exact SourceText.row_lt_lineCount (by omega)

end Capture

/-- The lines are those of a node of the tree that takes up at least one byte. -/
def Span.IsOfNode (source : SourceText) (tree : SyntaxTree) (span : Span) : Prop :=
  ∃ node, Capture.Covers tree node ∧ span = Capture.spanOf source node

theorem Span.IsOfNode.fitsIn {source : SourceText} {tree : SyntaxTree} {span : Span}
    (ofNode : span.IsOfNode source tree) (laid : tree.LiesIn source) : span.FitsIn source := by
  obtain ⟨node, covers, rfl⟩ := ofNode
  exact Capture.fitsIn_spanOf covers.nonempty (laid.stop_le covers.member)

namespace Extraction

variable {language : Language} {file : SourceFile} {source : SourceText} {tree : SyntaxTree}

theorem isOfNode_of_mem_definitionsIn (laid : tree.LiesIn source)
    (solid : ∀ node ∈ language.commentNodes source tree, node.start < node.stop)
    {definition : Definition} (member : definition ∈ definitionsIn language source tree) :
    definition.span.IsOfNode source tree := by
  refine @forall_mem_definitionsIn (fun definition => definition.span.IsOfNode source tree) _ _ _
    (fun earlier later first second => ?_) (fun isEntry isPattern isFound captured => ?_)
    definition member
  · rcases (Definition.unite_cases earlier later).2.2.1 with same | same <;> rwa [same]
  · obtain ⟨anchor, isAnchor, isName, -, isSpan⟩ := Capture.exists_anchor_of_definition captured
    exact ⟨anchor, Capture.covers_of_definition laid solid isEntry isPattern isFound
      (Capture.ofMatch_eq_definition captured).1 isAnchor isName, isSpan⟩

theorem isOfNode_of_mem_entities (laid : tree.LiesIn source)
    (solid : ∀ node ∈ language.commentNodes source tree, node.start < node.stop)
    {entity : Entity} (member : entity ∈ (ofTree language file source tree).entities) :
    Span.IsOfNode source tree ⟨entity.startLine, entity.endLine⟩ := by
  obtain ⟨index, definition, isDefinition, rfl⟩ :=
    Definition.exists_of_mem_toEntities (Entity.mem_of_mem_distinct member)
  exact isOfNode_of_mem_definitionsIn laid solid (List.mem_of_getElem? isDefinition)

theorem isOfNode_of_mem_observations (laid : tree.LiesIn source) {observation : Observation}
    (member : observation ∈ (ofTree language file source tree).observations) :
    observation.span.IsOfNode source tree := by
  obtain ⟨reference, isReference, isObservation⟩ := Reference.mem_toObservations_iff.mp member
  obtain ⟨_, _, rfl⟩ := Option.map_eq_some_iff.mp isObservation
  obtain ⟨outcome, isOutcome, isCaptured⟩ :=
    List.mem_filterMap.mp (List.mem_filter.mp isReference).1
  obtain ⟨kind, patterns, pattern, index, found, isEntry, isPattern, isFound, same⟩ :=
    Capture.exists_of_mem_ofTable isOutcome
  obtain ⟨anchor, isAnchor, ⟨observed, isObserved, isTarget⟩, isSpan⟩ :=
    Capture.exists_anchor_of_reference (same.trans (eq_reference_of_reference?_eq_some isCaptured))
  exact ⟨anchor, Capture.covers_of_reference laid isEntry isPattern isFound isObserved isAnchor
    isTarget, isSpan⟩

/-- The lines of a node are one more than the newlines before its first byte and one more than those
before its last byte. In a laid-out tree whose comments are not empty every entity and every
observation has the lines of such a node, and these are lines of the source in their order. -/
theorem spans_cover_bytes (source : SourceText) :
    (∀ node : SyntaxNode, node.start < node.stop → node.stop ≤ source.bytes.length →
        Capture.spanOf source node =
          ⟨source.row node.start + 1, source.row (node.stop - 1) + 1⟩) ∧
      ∀ (language : Language) (file : SourceFile) (tree : SyntaxTree), tree.LiesIn source →
        (∀ node ∈ language.commentNodes source tree, node.start < node.stop) →
          (∀ entity ∈ (ofTree language file source tree).entities,
            let span : Span := ⟨entity.startLine, entity.endLine⟩
            span.IsOfNode source tree ∧ span.FitsIn source) ∧
          ∀ observation ∈ (ofTree language file source tree).observations,
            observation.span.IsOfNode source tree ∧ observation.span.FitsIn source := by
  refine ⟨fun node => Capture.spanOf_eq, fun language file tree laid solid => ⟨?_, ?_⟩⟩
  · intro entity member
    have ofNode := isOfNode_of_mem_entities laid solid member
    exact ⟨ofNode, ofNode.fitsIn laid⟩
  · intro observation member
    have ofNode := isOfNode_of_mem_observations laid member
    exact ⟨ofNode, ofNode.fitsIn laid⟩

/-- A comment that takes in the newline behind it, and an import. -/
def documentedImport : SyntaxTree :=
  .node { index := 0, kind := "source_file", start := 0, stop := 13 } [
    .node { index := 1, kind := "line_comment", start := 0, stop := 6, isExtra := true } [
      .node { index := 2, kind := "//", start := 0, stop := 2, isNamed := false } [],
      .node { index := 3, kind := "outer_doc_comment_marker", start := 2, stop := 3,
              field := "outer" } [],
      .node { index := 4, kind := "doc_comment", start := 3, stop := 6, field := "doc" } []],
    .node { index := 5, kind := "mod_item", start := 6, stop := 12 } [
      .node { index := 6, kind := "identifier", start := 10, stop := 11, field := "name" } []]]

/-- The comment ends in the line that it begins in, though it ends at the beginning of the next
one. -/
theorem spans_cover_bytes_of_documentedImport :
    let source := SourceText.ofString "/// a\nmod b;\n"
    let file : SourceFile := ⟨"file", "r", "m.rs", none, 13, "SourceCodeFile", "RustCode"⟩
    let extraction := ofTree .rust file source documentedImport
    (extraction.entities.map fun entity => (entity.startLine, entity.endLine)) = [(1, 1)] ∧
      extraction.observations.map Observation.span = [⟨2, 2⟩] ∧
      (∀ entity ∈ extraction.entities, entity.endLine ≤ source.lineCount) ∧
      ∀ observation ∈ extraction.observations, observation.span.endLine ≤ source.lineCount := by
  intro source file extraction
  have laid : documentedImport.LiesIn source := by decide +kernel
  have solid : ∀ node ∈ Language.commentNodes .rust source documentedImport,
      node.start < node.stop := by
    rw [Language.commentNodes, Pattern.search_eq_matchesIn]
    decide +kernel
  obtain ⟨entitiesFit, observationsFit⟩ :=
    (spans_cover_bytes source).2 .rust file documentedImport laid solid
  refine ⟨?_, ?_, fun entity member => (entitiesFit entity member).2.last,
    fun observation member => (observationsFit observation member).2.last⟩
  · show (Entity.distinct (Definition.toEntities file source
      (definitionsIn .rust source documentedImport))).map _ = _
    rw [definitionsIn_eq]
    decide +kernel
  · show (sortBy Observation.compare _).eraseReps.map _ = _
    rw [sortBy_eq_insertionSort]
    decide +kernel

end Extraction

end CodeGraph
