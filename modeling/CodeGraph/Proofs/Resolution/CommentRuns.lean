/-
This file proves that documentation follows runs of comments.

The walk up from an entity goes from a line to the first line of the comment above it. Where no
comment ends above the line it begins on, every step goes up (`lt_of_lineAbove?`). The walk
therefore comes to an end, and as it may take one step for each line none of it is cut off; that is
said by comparing it with the way up along the steps, which has no bound (`ascent_commentsAbove`).

The comments on the walk are related to runs, which are lists: comments of one file and parent that
follow one another without a gap, each of which can document what begins below it (`IsRun`). A run
that leads to a line is built from above and grows at its lower end, while the relation that the
walk was compared with grows at its upper end; one becomes the other by induction on the list, and
on the relation (`leadsTo_iff_exists_isRun`). The edges of documentation thus say of every comment
and every other entity of the same file and parent whether a run leads from one to the other. Where
identifiers are distinct, these two are the entities that the edge names.
-/
import Mathlib.Data.List.Chain
import Mathlib.Data.List.Induction
import CodeGraph.Proofs.Resolution.Documentation

namespace CodeGraph

namespace EntityList

variable {siblings : List Entity} {comment lower : Entity} {line above : Nat}

/-! ### The walk up -/

/-- The line that the walk up goes on to from a line: the first line of the comment above it. -/
def lineAbove? (siblings : List Entity) (line : Nat) : Option Nat :=
  (commentAbove? siblings line).map Entity.startLine

/-- Every step of the walk goes up. -/
theorem lt_of_lineAbove? (ordered : HasOrderedComments siblings)
    (isAbove : lineAbove? siblings line = some above) : above < line := by
  obtain ⟨comment, isFound, rfl⟩ := Option.map_eq_some_iff.mp isAbove
  obtain ⟨can, rfl⟩ := commentAbove?_eq_some_iff.mp isFound
  exact Nat.lt_succ_of_le (ordered comment can.isLast.mem can.isComment)

/-- The walk comes to an end, and what it meets is not cut off if there is one step for each
line. -/
theorem ascent_commentsAbove (ordered : HasOrderedComments siblings) {fuel : Nat}
    (enough : line ≤ fuel) :
    Ascent (lineAbove? siblings) line
      ((commentsAbove siblings fuel line).map Entity.startLine) := by
  induction fuel generalizing line with
  | zero =>
    obtain rfl := Nat.le_zero.mp enough
    exact .top rfl
  | succ fuel inductionHypothesis =>
    cases isFound : commentAbove? siblings line with
    | none =>
      rw [commentsAbove, isFound]
      exact .top (congrArg (Option.map Entity.startLine) isFound)
    | some comment =>
      have isAbove : lineAbove? siblings line = some comment.startLine :=
        congrArg (Option.map Entity.startLine) isFound
      have goesUp := lt_of_lineAbove? ordered isAbove
      rw [commentsAbove, isFound, List.map_cons]
      exact .step isAbove (inductionHypothesis (by omega))

/-! ### Runs -/

/-- Comments of the same file and parent that follow one another without a gap, from a comment down
to the line above a line, each of which can document what begins below it. -/
structure IsRun (siblings run : List Entity) (comment : Entity) (line : Nat) : Prop where
  starts : run.head? = some comment
  hasNoGap : run.IsChain fun upper lower => upper.endLine + 1 = lower.startLine
  ends : ∃ lowest, run.getLast? = some lowest ∧ lowest.endLine + 1 = line
  canDocument : ∀ member ∈ run, CanDocument siblings member

theorem isRun_singleton (can : CanDocument siblings comment) :
    IsRun siblings [comment] comment (comment.endLine + 1) :=
  ⟨rfl, .singleton comment, ⟨comment, rfl, rfl⟩, List.forall_mem_singleton.mpr can⟩

/-- A run goes on with a comment that begins on the line that it leads to. -/
theorem IsRun.append_singleton {run : List Entity}
    (isRun : IsRun siblings run comment lower.startLine)
    (can : CanDocument siblings lower) :
    IsRun siblings (run ++ [lower]) comment (lower.endLine + 1) := by
  obtain ⟨lowest, isLowest, adjacent⟩ := isRun.ends
  refine ⟨?_, ?_, ⟨lower, List.getLast?_concat .., rfl⟩, ?_⟩
  · rw [List.head?_append, isRun.starts, Option.some_or]
  · refine List.isChain_append.mpr ⟨isRun.hasNoGap, .singleton lower, ?_⟩
    intro upper isLast next isNext
    obtain rfl := Option.some.inj (isLowest.symm.trans isLast)
    obtain rfl := Option.some.inj isNext
    exact adjacent
  · intro member inRun
    rcases List.mem_append.mp inRun with before | isLower
    · exact isRun.canDocument member before
    · exact List.mem_singleton.mp isLower ▸ can

theorem LeadsTo.exists_isRun (leads : LeadsTo siblings comment line) :
    ∃ run, IsRun siblings run comment line := by
  induction leads with
  | here can => exact ⟨[comment], isRun_singleton can⟩
  | further can _ inductionHypothesis =>
    obtain ⟨run, isRun⟩ := inductionHypothesis
    exact ⟨_, isRun.append_singleton can⟩

theorem IsRun.leadsTo {run : List Entity} (isRun : IsRun siblings run comment line) :
    LeadsTo siblings comment line := by
  obtain ⟨starts, hasNoGap, ⟨lowest, isLowest, rfl⟩, can⟩ := isRun
  induction run using List.reverseRecOn generalizing lowest with
  | nil => cases starts
  | append_singleton upper last inductionHypothesis =>
    obtain rfl : last = lowest := Option.some.inj ((List.getLast?_concat ..).symm.trans isLowest)
    have canLast := can last (List.mem_append_right upper (List.mem_singleton_self last))
    obtain ⟨chain, -, adjacent⟩ := List.isChain_append.mp hasNoGap
    cases isUpper : upper.getLast? with
    | none =>
      obtain rfl := List.getLast?_eq_none_iff.mp isUpper
      obtain rfl := Option.some.inj starts
      exact .here canLast
    | some next =>
      have inhabited : upper ≠ [] := List.ne_nil_of_mem (List.mem_of_getLast? isUpper)
      rw [List.head?_append_of_ne_nil _ inhabited] at starts
      have leads := inductionHypothesis starts chain
        (fun member before => can member (List.mem_append_left _ before)) next isUpper
      rw [adjacent next isUpper last rfl] at leads
      exact .further canLast leads

/-- A run leads from a comment to a line. -/
theorem leadsTo_iff_exists_isRun :
    LeadsTo siblings comment line ↔ ∃ run, IsRun siblings run comment line :=
  ⟨LeadsTo.exists_isRun, fun ⟨_, isRun⟩ => isRun.leadsTo⟩

/-- A comment documents another entity of the same file and parent through a run that leads to
it. -/
structure DocumentsByRun (entities : EntityList) (comment target : Entity) : Prop where
  sameFile : comment.fileId = target.fileId
  sameParent : comment.parentId = target.parentId
  notComment : target.isComment = false
  hasRun : ∃ run, IsRun (entities.siblings target) run comment target.startLine

theorem documentsByRun_iff {entities : EntityList} (ordered : HasOrderedComments entities)
    {target : Entity} :
    DocumentsByRun entities comment target ↔
      target.isComment = false ∧ comment ∈ commentsOf (entities.siblings target) target := by
  rw [mem_commentsOf_iff (ordered.inSiblings target), leadsTo_iff_exists_isRun]
  constructor
  · rintro ⟨_, _, notComment, hasRun⟩
    exact ⟨notComment, hasRun⟩
  · rintro ⟨notComment, run, isRun⟩
    have isSibling := isRun.leadsTo.canDocument.isLast.mem
    obtain ⟨_, sameFile, sameParent⟩ := mem_siblings.mp isSibling
    exact ⟨sameFile, sameParent, notComment, run, isRun⟩

end EntityList

namespace Corpus

open EntityList

/-- Documentation follows runs of comments. Where no comment ends above the line it begins on, the
walk up from every entity goes up with each step and comes to an end, with nothing cut off. An
edge of documentation is there exactly if a comment documents another entity of the same file
and parent through a run without a gap; and where identifiers are distinct the two are the entities
that the edge names. -/
theorem documents_iff_documentsByRun (corpus : Corpus) (observations : List Observation)
    (ordered : HasOrderedComments corpus.entities) :
    (∀ entity, (∀ line above,
        lineAbove? (corpus.entities.siblings entity) line = some above → above < line) ∧
      Ascent (lineAbove? (corpus.entities.siblings entity)) entity.startLine
        ((commentsOf (corpus.entities.siblings entity) entity).map Entity.startLine)) ∧
    (∀ commentId targetId,
      Edge.Documents (corpus.resolve observations).edges commentId targetId ↔
        ∃ comment ∈ corpus.entities, ∃ target ∈ corpus.entities, comment.id = commentId ∧
          target.id = targetId ∧ DocumentsByRun corpus.entities comment target) ∧
    ((corpus.entities.map Entity.id).Nodup →
      ∀ comment ∈ corpus.entities, ∀ target ∈ corpus.entities,
        Edge.Documents (corpus.resolve observations).edges comment.id target.id ↔
          DocumentsByRun corpus.entities comment target) := by
  refine ⟨fun entity => ⟨fun line above => ?_, ?_⟩, fun commentId targetId => ?_, ?_⟩
  · exact lt_of_lineAbove? (ordered.inSiblings entity)
  · exact ascent_commentsAbove (ordered.inSiblings entity) (Nat.le_add_right ..)
  · rw [documents_iff_exists]
    constructor
    · rintro ⟨target, isTarget, notComment, named, comment, isAbove, subject⟩
      have isEntity := (mem_siblings.mp (mem_of_mem_commentsAbove isAbove).1).1
      exact ⟨comment, isEntity, target, isTarget, subject, named,
        (documentsByRun_iff ordered).mpr ⟨notComment, isAbove⟩⟩
    · rintro ⟨comment, _, target, isTarget, subject, named, byRun⟩
      obtain ⟨notComment, isAbove⟩ := (documentsByRun_iff ordered).mp byRun
      exact ⟨target, isTarget, notComment, named, comment, isAbove, subject⟩
  · intro distinct comment isEntity target isTarget
    rw [documents_iff_mem_commentsOf distinct isEntity isTarget, documentsByRun_iff ordered]

/-- A variable with a comment behind it, two more comments below it, and a function below these. -/
def commentedFunction : Corpus :=
  layout [("x", .variableDeclaration, 1, 1), ("behind", .comment, 1, 1), ("upper", .comment, 2, 3),
    ("lower", .comment, 4, 4), ("f", .functionDefinition, 5, 7)]

/-- The run begins below the comment that shares its line with the variable. -/
theorem documents_iff_of_commentedFunction :
    Edge.Documents (commentedFunction.resolve []).edges "upper" "f" ∧
      ¬ Edge.Documents (commentedFunction.resolve []).edges "behind" "f" := by
  obtain ⟨_, _, byRun⟩ := documents_iff_documentsByRun commentedFunction [] (by decide)
  have isBehind : commentedFunction.entities[1] ∈ commentedFunction.entities :=
    List.getElem_mem (by decide)
  have isUpper : commentedFunction.entities[2] ∈ commentedFunction.entities :=
    List.getElem_mem (by decide)
  have isFunction : commentedFunction.entities[4] ∈ commentedFunction.entities :=
    List.getElem_mem (by decide)
  constructor
  · have upperAbove : commentAbove? commentedFunction.entities 4 =
        some commentedFunction.entities[2] := by decide
    have lowerAbove : commentAbove? commentedFunction.entities 5 =
        some commentedFunction.entities[3] := by decide
    have isRun := (isRun_singleton (commentAbove?_eq_some_iff.mp upperAbove).1).append_singleton
      (commentAbove?_eq_some_iff.mp lowerAbove).1
    exact (byRun (by decide) _ isUpper _ isFunction).mpr ⟨rfl, rfl, rfl, _, isRun⟩
  · intro documents
    obtain ⟨_, _, _, run, isRun⟩ := (byRun (by decide) _ isBehind _ isFunction).mp documents
    exact isRun.leadsTo.canDocument.isFree commentedFunction.entities[0] (by decide) rfl rfl

end Corpus

end CodeGraph
