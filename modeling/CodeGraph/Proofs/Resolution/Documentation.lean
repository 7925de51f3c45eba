/-
This file proves which comments document what.

A comment can document something if it is the last of the comments that end on its line and nothing
else begins where it does (`CanDocument`). Such comments that follow one another without a gap are
a run, and a run documents what begins on the line below it (`LeadsTo`). Both are defined without
the walk that the resolver makes up from an entity. That the walk finds no more than the runs is
read off its steps. That it finds all of them needs that comments end where or below where they
begin: then each step goes up by a line at least, and a walk with a step for each line gets to the
top (`LeadsTo.mem_commentsAbove`).

An edge of documentation names identifiers only. Where these are distinct it comes from one pair of
entities, and a comment and what it documents are siblings and so have the same siblings
(`documents_iff_leadsTo`). From this the cases that matter are read off. A comment right above an
entity documents it if no other comment behind it ends on the same line, and not otherwise; of two
comments on one line only the last counts. A comment that shares its first line with something that
begins there documents nothing, but what merely ends on that line is not looked at, so a comment
behind a closing brace documents what follows.
-/
import CodeGraph.Proofs.Resolution.Containment

namespace CodeGraph

namespace EntityList

variable {siblings : List Entity} {comment : Entity} {line : Nat}

/-- No entity ends above the line it begins on. -/
def HasOrderedLines (entities : List Entity) : Prop :=
  ∀ entity ∈ entities, entity.startLine ≤ entity.endLine

instance (entities : List Entity) : Decidable (HasOrderedLines entities) :=
  List.decidableBAll _ _

theorem mem_siblings {entities : EntityList} {entity other : Entity} :
    other ∈ entities.siblings entity ↔
      other ∈ entities ∧ other.fileId = entity.fileId ∧ other.parentId = entity.parentId := by
  rw [siblings, List.mem_filter, Bool.and_eq_true, beq_iff_eq, beq_iff_eq]

/-- No comment ends above the line it begins on. -/
def HasOrderedComments (entities : List Entity) : Prop :=
  ∀ entity ∈ entities, entity.isComment → entity.startLine ≤ entity.endLine

instance (entities : List Entity) : Decidable (HasOrderedComments entities) :=
  List.decidableBAll _ _

theorem HasOrderedLines.comments {entities : List Entity} (ordered : HasOrderedLines entities) :
    HasOrderedComments entities := fun entity member _ => ordered entity member

theorem HasOrderedComments.inSiblings {entities : EntityList}
    (ordered : HasOrderedComments entities) (entity : Entity) :
    HasOrderedComments (entities.siblings entity) :=
  fun other member => ordered other (mem_siblings.mp member).1

/-! ### Comments that can document something -/

/-- Of the comments that end on one line this one stands last. -/
def IsLastThere (siblings : List Entity) (comment : Entity) : Prop :=
  ∃ before after, siblings = before ++ comment :: after ∧
    ∀ other ∈ after, other.isComment → other.endLine ≠ comment.endLine

theorem IsLastThere.mem (isLast : IsLastThere siblings comment) : comment ∈ siblings := by
  obtain ⟨before, after, rfl, _⟩ := isLast
  exact List.mem_append_right before List.mem_cons_self

theorem commentEndingAt?_eq_some_iff :
    commentEndingAt? siblings line = some comment ↔
      comment.isComment ∧ comment.endLine = line ∧ IsLastThere siblings comment := by
  rw [commentEndingAt?, ← List.head?_reverse, ← List.filter_reverse, List.head?_filter,
    List.find?_eq_some_iff_append]
  simp only [Bool.and_eq_true, beq_iff_eq, Bool.not_eq_true', Bool.and_eq_false_iff,
    beq_eq_false_iff_ne, and_assoc]
  refine and_congr_right fun _ => and_congr_right fun isThere => ⟨?_, ?_⟩
  · rintro ⟨after, before, split, others⟩
    refine ⟨before.reverse, after.reverse, ?_, fun other member isComment same => ?_⟩
    · rw [← List.reverse_reverse siblings, split]
      simp
    · rcases others other (List.mem_reverse.mp member) with notComment | elsewhere
      · rw [isComment] at notComment
        cases notComment
      · exact elsewhere (same.trans isThere)
  · rintro ⟨before, after, split, others⟩
    refine ⟨after.reverse, before.reverse, by simp [split], fun other member => ?_⟩
    cases ofComment : other.isComment with
    | false => exact .inl rfl
    | true =>
      have elsewhere := others other (List.mem_reverse.mp member) ofComment
      exact .inr fun same => elsewhere (same.trans isThere.symm)

/-- Where no other comment ends on its line a comment is the last one there. -/
theorem isLastThere_of_only (member : comment ∈ siblings) (isComment : comment.isComment)
    (only : ∀ other ∈ siblings, other.isComment → other.endLine = comment.endLine →
      other = comment) : IsLastThere siblings comment := by
  have accepted : comment ∈ siblings.filter fun other =>
      other.isComment && other.endLine == comment.endLine :=
    List.mem_filter.mpr ⟨member, by simp [isComment]⟩
  have isFound : commentEndingAt? siblings comment.endLine = some (List.getLast _
      (List.ne_nil_of_mem accepted)) := List.getLast?_eq_some_getLast _
  have ⟨lastComment, sameLine, isLast⟩ := commentEndingAt?_eq_some_iff.mp isFound
  rwa [only _ isLast.mem lastComment sameLine] at isLast

/-- A comment that can document what begins on the line below it. -/
structure CanDocument (siblings : List Entity) (comment : Entity) : Prop where
  isComment : comment.isComment
  isLast : IsLastThere siblings comment
  isFree : ∀ other ∈ siblings, other.isComment = false → other.startLine ≠ comment.startLine

theorem isOccupied_eq_false_iff :
    isOccupied siblings line = false ↔
      ∀ other ∈ siblings, other.isComment = false → other.startLine ≠ line := by
  simp [isOccupied]

theorem commentAbove?_eq_some_iff :
    commentAbove? siblings line = some comment ↔
      CanDocument siblings comment ∧ comment.endLine + 1 = line := by
  cases line with
  | zero => simp [commentAbove?]
  | succ above =>
    rw [commentAbove?, Option.filter_eq_some_iff, commentEndingAt?_eq_some_iff, Bool.not_eq_true',
      isOccupied_eq_false_iff, Nat.add_right_cancel_iff]
    constructor
    · rintro ⟨⟨isComment, isThere, isLast⟩, isFree⟩
      exact ⟨⟨isComment, isLast, isFree⟩, isThere⟩
    · rintro ⟨⟨isComment, isLast, isFree⟩, isThere⟩
      exact ⟨⟨isComment, isThere, isLast⟩, isFree⟩

/-! ### Runs of comments -/

/-- A run of comments without a gap begins with a comment and ends on the line above a line. -/
inductive LeadsTo (siblings : List Entity) (comment : Entity) : Nat → Prop where
  | here (can : CanDocument siblings comment) : LeadsTo siblings comment (comment.endLine + 1)
  | further {lower : Entity} (can : CanDocument siblings lower)
      (rest : LeadsTo siblings comment lower.startLine) :
      LeadsTo siblings comment (lower.endLine + 1)

theorem LeadsTo.canDocument (leads : LeadsTo siblings comment line) :
    CanDocument siblings comment := by
  induction leads with
  | here can => exact can
  | further _ _ inductionHypothesis => exact inductionHypothesis

theorem leadsTo_of_mem_commentsAbove {fuel : Nat}
    (member : comment ∈ commentsAbove siblings fuel line) : LeadsTo siblings comment line := by
  induction fuel generalizing line with
  | zero => cases member
  | succ fuel inductionHypothesis =>
    unfold commentsAbove at member
    split at member
    · next lower isAbove =>
      obtain ⟨can, rfl⟩ := commentAbove?_eq_some_iff.mp isAbove
      rcases List.mem_cons.mp member with rfl | member
      · exact .here can
      · exact .further can (inductionHypothesis member)
    · cases member

/-- The walk up finds a whole run, as long as it has one step for each line. -/
theorem LeadsTo.mem_commentsAbove (ordered : HasOrderedComments siblings)
    (leads : LeadsTo siblings comment line) {fuel : Nat} (enough : line ≤ fuel) :
    comment ∈ commentsAbove siblings fuel line := by
  induction leads generalizing fuel with
  | here can =>
    obtain ⟨fuel, rfl⟩ := Nat.exists_eq_add_of_le' (Nat.le_trans (Nat.le_add_left 1 _) enough)
    rw [commentsAbove, commentAbove?_eq_some_iff.mpr ⟨can, rfl⟩]
    exact List.mem_cons_self
  | further can _ inductionHypothesis =>
    obtain ⟨fuel, rfl⟩ := Nat.exists_eq_add_of_le' (Nat.le_trans (Nat.le_add_left 1 _) enough)
    rw [commentsAbove, commentAbove?_eq_some_iff.mpr ⟨can, rfl⟩]
    have upward := ordered _ can.isLast.mem can.isComment
    exact List.mem_cons_of_mem _ (inductionHypothesis (by omega))

/-- An entity is documented by the runs of comments that lead to its first line. -/
theorem mem_commentsOf_iff (ordered : HasOrderedComments siblings) {target : Entity} :
    comment ∈ commentsOf siblings target ↔ LeadsTo siblings comment target.startLine :=
  ⟨leadsTo_of_mem_commentsAbove, fun leads => leads.mem_commentsAbove ordered (by omega)⟩

end EntityList

/-! ### Edges of documentation -/

/-- Whether an edge says that one thing documents another one. -/
def Edge.Documents (edges : List Edge) (commentId targetId : String) : Prop :=
  ∃ edge ∈ edges, edge.subjectId = commentId ∧ edge.predicate = Term.documents ∧
    edge.object = .resolved targetId

namespace Corpus

open EntityList

variable {corpus : Corpus} {observations : List Observation} {comment target : Entity}
  {commentId targetId : String}

theorem mem_documentationEdges_of_documents {edge : Edge}
    (member : edge ∈ corpus.foundEdges observations) (documents : edge.predicate = Term.documents) :
    edge ∈ corpus.entities.documentationEdges := by
  rcases foundEdges_cases member with
    ⟨_, property⟩ | ⟨_, _, _, property⟩ | ⟨_, property⟩ | ⟨documentation, _⟩
  · exact absurd (documents ▸ property) (by decide)
  · exact absurd (documents ▸ property) (by decide)
  · exact absurd (documents.symm.trans property) (by decide)
  · exact documentation

/-- A graph says that something is documented exactly if a comment leads to it. -/
theorem documents_iff_exists :
    Edge.Documents (corpus.resolve observations).edges commentId targetId ↔
      ∃ target ∈ corpus.entities, target.isComment = false ∧ target.id = targetId ∧
        ∃ comment ∈ commentsOf (corpus.entities.siblings target) target,
          comment.id = commentId := by
  constructor
  · rintro ⟨edge, isEdge, subject, documents, object⟩
    obtain ⟨found, isFound, sameSubject, samePredicate, sameObject⟩ :=
      EdgeSet.exists_of_mem_ofList isEdge
    have inPass := mem_documentationEdges_of_documents isFound (samePredicate ▸ documents)
    obtain ⟨target, isTarget, member⟩ := List.mem_flatMap.mp inPass
    obtain ⟨comment, isAbove, rfl⟩ := List.mem_map.mp member
    have ⟨inEntities, notComment⟩ := List.mem_filter.mp isTarget
    exact ⟨target, inEntities, by simpa using notComment,
      EdgeObject.resolved.inj (sameObject.symm.trans object), comment, isAbove,
      sameSubject.symm.trans subject⟩
  · rintro ⟨target, isTarget, notComment, rfl, comment, isAbove, rfl⟩
    have isFound : comment.documentationEdge target ∈ corpus.foundEdges observations :=
      List.mem_append_right _ (List.mem_flatMap.mpr
        ⟨target, List.mem_filter.mpr ⟨isTarget, by simp [notComment]⟩, List.mem_map_of_mem isAbove⟩)
    obtain ⟨evidence, isEdge⟩ := EdgeSet.exists_mem_ofList isFound
    exact ⟨_, isEdge, rfl, rfl, rfl⟩

/-- Where identifiers are distinct, a comment documents what it leads to among its siblings. -/
theorem documents_iff_mem_commentsOf (distinct : (corpus.entities.map Entity.id).Nodup)
    (isEntity : comment ∈ corpus.entities) (isTarget : target ∈ corpus.entities) :
    Edge.Documents (corpus.resolve observations).edges comment.id target.id ↔
      target.isComment = false ∧ comment ∈ commentsOf (corpus.entities.siblings target) target := by
  rw [documents_iff_exists]
  constructor
  · rintro ⟨other, isOther, notComment, sameTarget, note, isAbove, sameComment⟩
    obtain rfl := List.inj_on_of_nodup_map distinct isOther isTarget sameTarget
    have isSibling := (mem_of_mem_commentsAbove isAbove).1
    obtain rfl := List.inj_on_of_nodup_map distinct (mem_siblings.mp isSibling).1 isEntity
      sameComment
    exact ⟨notComment, isAbove⟩
  · rintro ⟨notComment, isAbove⟩
    exact ⟨target, isTarget, notComment, rfl, comment, isAbove, rfl⟩

theorem siblings_eq_of_mem {entities : EntityList} {entity other : Entity}
    (isSibling : other ∈ entities.siblings entity) :
    entities.siblings other = entities.siblings entity := by
  obtain ⟨_, sameFile, sameParent⟩ := mem_siblings.mp isSibling
  rw [siblings, siblings, sameFile, sameParent]

/-- Where no comment ends above the line it begins on, a comment documents exactly the siblings that
a run leads to from it. -/
theorem documents_iff_leadsTo (ordered : HasOrderedComments corpus.entities)
    (distinct : (corpus.entities.map Entity.id).Nodup) (isEntity : comment ∈ corpus.entities)
    (isTarget : target ∈ corpus.entities) :
    Edge.Documents (corpus.resolve observations).edges comment.id target.id ↔
      target.isComment = false ∧ target ∈ corpus.entities.siblings comment ∧
        LeadsTo (corpus.entities.siblings comment) comment target.startLine := by
  rw [documents_iff_mem_commentsOf distinct isEntity isTarget,
    mem_commentsOf_iff (ordered.inSiblings target)]
  refine and_congr_right fun _ => ⟨fun leads => ?_, fun ⟨isSibling, leads⟩ => ?_⟩
  · have isSibling := leads.canDocument.isLast.mem
    have ⟨_, sameFile, sameParent⟩ := mem_siblings.mp isSibling
    rw [siblings_eq_of_mem isSibling]
    refine ⟨?_, leads⟩
    rw [← siblings_eq_of_mem isSibling]
    exact mem_siblings.mpr ⟨isTarget, sameFile.symm, sameParent.symm⟩
  · rwa [siblings_eq_of_mem isSibling]

/-! ### Comments right above an entity -/

/-- A comment right above an entity, with nothing else beginning where it does, documents the entity
if it is the last of the comments that end on its line, and where identifiers are distinct only
then. -/
theorem documents_below_iff_isLast (corpus : Corpus) (observations : List Observation)
    (ordered : HasOrderedLines corpus.entities) {comment target : Entity}
    (isEntity : comment ∈ corpus.entities) (isComment : comment.isComment)
    (isSibling : target ∈ corpus.entities.siblings comment) (notComment : target.isComment = false)
    (adjacent : comment.endLine + 1 = target.startLine)
    (isFree : ∀ other ∈ corpus.entities.siblings comment, other.isComment = false →
      other.startLine ≠ comment.startLine) :
    (IsLastThere (corpus.entities.siblings comment) comment →
      Edge.Documents (corpus.resolve observations).edges comment.id target.id) ∧
    ((corpus.entities.map Entity.id).Nodup →
      Edge.Documents (corpus.resolve observations).edges comment.id target.id →
        IsLastThere (corpus.entities.siblings comment) comment) := by
  have isTarget : target ∈ corpus.entities := (mem_siblings.mp isSibling).1
  refine ⟨fun isLast => ?_, fun distinct documents => ?_⟩
  · have leads : LeadsTo (corpus.entities.siblings comment) comment target.startLine :=
      adjacent ▸ .here ⟨isComment, isLast, isFree⟩
    rw [← siblings_eq_of_mem isSibling] at leads
    exact documents_iff_exists.mpr ⟨target, isTarget, notComment, rfl, comment,
      (mem_commentsOf_iff (ordered.comments.inSiblings target)).mpr leads, rfl⟩
  · have ⟨_, _, leads⟩ :=
      (documents_iff_leadsTo ordered.comments distinct isEntity isTarget).mp documents
    exact leads.canDocument.isLast

/-- A file of C with entities on the given lines. -/
def layout (places : List (String × Construct × Nat × Nat)) : Corpus where
  files := [⟨"m.c", "r", "m.c", some .c, 60, "SourceCodeFile", "CCode"⟩]
  entities := places.map fun (id, kind, first, last) =>
    { id, className := kind.name, kind, canonicalName := id, simpleName := id, fileId := "m.c",
      filePath := "m.c", startLine := first, endLine := last, snippet := "", parentId := none }

/-- Two comments on one line, and a function below them. -/
def twinComments : Corpus :=
  layout [("first", .comment, 1, 1), ("second", .comment, 1, 1), ("f", .functionDefinition, 2, 2)]

/-- The second of the two comments documents the function. -/
theorem documents_below_of_twinComments :
    Edge.Documents (twinComments.resolve []).edges "second" "f" := by
  have ends : commentEndingAt? (twinComments.entities.siblings twinComments.entities[1]) 1 =
      some twinComments.entities[1] := by decide
  have isSibling : twinComments.entities[2] ∈
      twinComments.entities.siblings twinComments.entities[1] := by decide
  exact (documents_below_iff_isLast twinComments [] (by decide) (List.getElem_mem (by decide)) rfl
    isSibling rfl rfl (by decide)).1 (commentEndingAt?_eq_some_iff.mp ends).2.2

/-- The first one does not, though it stands right above the function and nothing else begins where
it does. -/
theorem not_documents_below_of_twinComments :
    ¬ ∀ (corpus : Corpus) (observations : List Observation), HasOrderedLines corpus.entities →
      ∀ comment ∈ corpus.entities, comment.isComment →
        ∀ target ∈ corpus.entities.siblings comment, target.isComment = false →
          comment.endLine + 1 = target.startLine →
            (∀ other ∈ corpus.entities.siblings comment, other.isComment = false →
              other.startLine ≠ comment.startLine) →
            Edge.Documents (corpus.resolve observations).edges comment.id target.id := by
  intro documents
  have isFirst : twinComments.entities[0] ∈ twinComments.entities := List.getElem_mem (by decide)
  have isTarget : twinComments.entities[2] ∈ twinComments.entities := List.getElem_mem (by decide)
  have isDocumented := documents twinComments [] (by decide) _ isFirst rfl _
    (mem_siblings.mpr ⟨isTarget, rfl, rfl⟩) rfl rfl (by decide)
  rw [documents_iff_mem_commentsOf (by decide) isFirst isTarget] at isDocumented
  exact absurd isDocumented.2 (by decide)

/-! ### Trailing comments -/

/-- What a comment documents that shares its first line with a sibling: nothing if the sibling
begins there; if the sibling begins further up, it is not looked at, and the comment documents the
siblings that a run leads to from it, like any other comment. -/
theorem trailing_documents_iff_leadsTo (corpus : Corpus) (observations : List Observation)
    (ordered : HasOrderedLines corpus.entities)
    (distinct : (corpus.entities.map Entity.id).Nodup) {comment other : Entity}
    (isEntity : comment ∈ corpus.entities) (isSibling : other ∈ corpus.entities.siblings comment)
    (notComment : other.isComment = false)
    (shared : other.startLine ≤ comment.startLine ∧ comment.startLine ≤ other.endLine) :
    (other.startLine = comment.startLine → ∀ targetId,
      ¬ Edge.Documents (corpus.resolve observations).edges comment.id targetId) ∧
    ∀ target ∈ corpus.entities,
      Edge.Documents (corpus.resolve observations).edges comment.id target.id ↔
        other.startLine < comment.startLine ∧ target.isComment = false ∧
          target ∈ corpus.entities.siblings comment ∧
          LeadsTo (corpus.entities.siblings comment) comment target.startLine := by
  have apart {line : Nat} (leads : LeadsTo (corpus.entities.siblings comment) comment line) :
      other.startLine ≠ comment.startLine := leads.canDocument.isFree other isSibling notComment
  refine ⟨fun sameLine targetId documents => ?_, fun target isTarget => ?_⟩
  · obtain ⟨target, isTarget, _, rfl, _⟩ := documents_iff_exists.mp documents
    have ⟨_, _, leads⟩ :=
      (documents_iff_leadsTo ordered.comments distinct isEntity isTarget).mp documents
    exact apart leads sameLine
  · rw [documents_iff_leadsTo ordered.comments distinct isEntity isTarget]
    refine ⟨fun found => ⟨?_, found⟩, fun found => found.2⟩
    exact Nat.lt_of_le_of_ne shared.1 (apart found.2.2)

/-- A variable with a comment behind it, and a function on the next line. -/
def trailingComment : Corpus :=
  layout [("x", .variableDeclaration, 1, 1), ("note", .comment, 1, 1),
    ("g", .functionDefinition, 2, 2)]

/-- The comment behind the variable does not document the function. -/
theorem not_documents_of_trailingComment :
    ¬ Edge.Documents (trailingComment.resolve []).edges "note" "g" := by
  have isSibling : trailingComment.entities[0] ∈
      trailingComment.entities.siblings trailingComment.entities[1] := by decide
  have ⟨silent, _⟩ := trailing_documents_iff_leadsTo trailingComment [] (by decide) (by decide)
    (List.getElem_mem (by decide)) isSibling rfl (by decide)
  exact silent rfl "g"

/-- A function with a comment behind its last line, and another function on the next line. -/
def closingComment : Corpus :=
  layout [("f", .functionDefinition, 1, 3), ("note", .comment, 3, 3),
    ("g", .functionDefinition, 4, 4)]

/-- The comment behind the first function documents the second one. -/
theorem documents_of_closingComment :
    ¬ ∀ (corpus : Corpus) (observations : List Observation), HasOrderedLines corpus.entities →
      ∀ comment ∈ corpus.entities, comment.isComment →
        ∀ other ∈ corpus.entities.siblings comment, other.isComment = false →
          other.startLine ≤ comment.startLine ∧ comment.startLine ≤ other.endLine →
            ∀ targetId,
              ¬ Edge.Documents (corpus.resolve observations).edges comment.id targetId := by
  intro silent
  have isNote : closingComment.entities[1] ∈ closingComment.entities := List.getElem_mem (by decide)
  have isNext : closingComment.entities[2] ∈ closingComment.entities := List.getElem_mem (by decide)
  refine silent closingComment [] (by decide) _ isNote rfl closingComment.entities[0]
    (mem_siblings.mpr ⟨List.getElem_mem (by decide), rfl, rfl⟩) rfl (by decide) "g" ?_
  exact (documents_iff_mem_commentsOf (by decide) isNote isNext).mpr ⟨rfl, by decide⟩

end Corpus

end CodeGraph
