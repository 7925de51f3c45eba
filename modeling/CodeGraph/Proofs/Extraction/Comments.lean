/-
This file proves that no comment is lost.

A comment has no name in the source. It is called by the line and the column in which it begins,
and line and column together determine the offset (`start_eq_of_commentName_eq`): the digits of the
one end where the letter before the other begins. So comments that do not overlap have different
names, and their definitions are not united with each other. A definition of another kind is united
with that of a comment only if it has the same range and name, hence a name node within the comment
that reads like the name the comment was given. No parser gives such a node, which is a hypothesis
of its own (`Language.SparesCommentNames`) beside those on how the comments lie
(`Language.KeepsCommentsApart`).

From the definitions one comes to the entities through their identifiers. The given name holds no
dot and is therefore read off the end of the canonical name, whatever the comment stands in
(`Definition.name_eq_of_canonicalName_eq`). Where two entities have one identifier and the digest
does not collide, their canonical names are equal, so the comments are; what is kept under the
identifier of a comment shows that comment. That a comment has no more than one entity goes back
the same way, as definitions with one range and one name are one definition.
-/
import Mathlib.Data.List.TakeWhile
import CodeGraph.Proofs.Extraction.Lines
import CodeGraph.Proofs.Extraction.Kinds
import CodeGraph.Proofs.Extraction.Merging
import CodeGraph.Proofs.Text.Utf8

namespace CodeGraph

/-! ### Names of comments -/

namespace Capture

variable {source : SourceText} {left right node : SyntaxNode}

theorem toList_commentName (source : SourceText) (node : SyntaxNode) :
    (commentName source node).toList = "comment_L".toList ++
      (Nat.toDigits 10 (source.startLine node.start) ++
        'C' :: Nat.toDigits 10 (source.column node.start + 1)) := by
  simp only [commentName, String.toList_append, Nat.toString_eq_repr, Nat.toList_repr,
    List.append_assoc]
  rfl

theorem not_mem_toDigits {character : Char} (noDigit : character.isDigit = false) (number : Nat) :
    character ∉ Nat.toDigits 10 number := by
  intro member
  rw [Nat.isDigit_of_mem_toDigits (by decide) (by decide) member] at noDigit
  cases noDigit

theorem toDigits_injective {number other : Nat}
    (same : Nat.toDigits 10 number = Nat.toDigits 10 other) : number = other := by
  have read := congrArg (Nat.ofDigitChars 10 · 0) same
  simpa only [Nat.ofDigitChars_toDigits (by decide : 1 < 10) (by decide : 10 ≤ 10)] using read

theorem dot_not_mem_commentName (source : SourceText) (node : SyntaxNode) :
    '.' ∉ (commentName source node).toList := by
  rw [toList_commentName]
  intro member
  rcases List.mem_append.mp member with start | member
  · exact absurd start (by decide)
  · rcases List.mem_append.mp member with line | member
    · exact not_mem_toDigits (by decide) _ line
    · rcases List.mem_cons.mp member with between | column
      · exact absurd between (by decide)
      · exact not_mem_toDigits (by decide) _ column

/-- The name of a comment says where it begins. -/
theorem start_eq_of_commentName_eq (leftInside : left.start ≤ source.bytes.length)
    (rightInside : right.start ≤ source.bytes.length)
    (same : commentName source left = commentName source right) : left.start = right.start := by
  have spelled := congrArg String.toList same
  rw [toList_commentName, toList_commentName] at spelled
  have noLetter (number : Nat) : 'C' ∉ Nat.toDigits 10 number := not_mem_toDigits (by decide) number
  obtain ⟨lines, -, columns⟩ := (List.append_cons_inj_of_notMem (noLetter _) (noLetter _)).mp
    (List.append_cancel_left spelled)
  exact SourceText.eq_of_row_of_column leftInside rightInside
    (Nat.succ_inj.mp (toDigits_injective lines)) (Nat.succ_inj.mp (toDigits_injective columns))

end Capture

/-- A last part without dots can be read off a name with dots between its parts. -/
theorem takeWhile_reverse_intercalate (front : List String) {last : String}
    (noDot : '.' ∉ last.toList) :
    (".".intercalate (front ++ [last])).toList.reverse.takeWhile (· != '.') =
      last.toList.reverse := by
  have plain : ∀ character ∈ last.toList.reverse, character != '.' := fun character member =>
    bne_iff_ne.mpr fun dot => noDot (dot ▸ List.mem_reverse.mp member)
  by_cases alone : front = []
  · rw [alone, List.nil_append, String.intercalate_singleton]
    exact List.takeWhile_eq_self_iff.mpr plain
  · rw [String.intercalate_append_of_ne_nil alone (List.cons_ne_nil _ _),
      String.intercalate_singleton, String.toList_append, List.reverse_append,
      List.takeWhile_append_of_pos plain, String.toList_append, List.reverse_append]
    exact List.append_nil _

/-- Definitions with one canonical name have one name, if it holds no dot. -/
theorem Definition.name_eq_of_canonicalName_eq {module : String} {definitions : List Definition}
    {parents : ParentTable} {index place : Nat} {definition other : Definition}
    (noDot : '.' ∉ definition.name.toList) (noDotToo : '.' ∉ other.name.toList)
    (same : canonicalName module definitions parents index definition =
      canonicalName module definitions parents place other) : definition.name = other.name := by
  have spelled := congrArg (fun name => name.toList.reverse.takeWhile (· != '.')) same
  simp only [canonicalName, nameParts_eq] at spelled
  rw [takeWhile_reverse_intercalate _ noDot, takeWhile_reverse_intercalate _ noDotToo] at spelled
  exact String.toList_inj.mp (List.reverse_inj.mp spelled)

/-! ### Comments in a tree -/

namespace Language

/-- The nodes of a tree that the patterns of a language capture as names. -/
def nameNodes (language : Language) (source : SourceText) (tree : SyntaxTree) : List SyntaxNode :=
  language.queries.flatMap fun (_, patterns) => patterns.flatMap fun pattern =>
    (pattern.search source tree).filterMap (·.captured? .name)

theorem mem_nameNodes {language : Language} {source : SourceText} {tree : SyntaxTree}
    {kind : Construct} {patterns : List Pattern} {pattern : Pattern} {found : Match}
    {name : SyntaxNode} (isEntry : (kind, patterns) ∈ language.queries)
    (isPattern : pattern ∈ patterns) (isFound : found ∈ pattern.search source tree)
    (isName : found.captured? .name = some name) : name ∈ language.nameNodes source tree :=
  List.mem_flatMap.mpr ⟨_, isEntry, List.mem_flatMap.mpr ⟨pattern, isPattern,
    List.mem_filterMap.mpr ⟨found, isFound, isName⟩⟩⟩

/-- How comments are laid out in a tree: none is empty, and no two overlap. -/
structure KeepsCommentsApart (language : Language) (source : SourceText) (tree : SyntaxTree) :
    Prop where
  nonempty : ∀ node ∈ language.commentNodes source tree, node.start < node.stop
  disjoint : ∀ left ∈ language.commentNodes source tree,
    ∀ right ∈ language.commentNodes source tree, left ≠ right →
      left.stop ≤ right.start ∨ right.stop ≤ left.start

/-- Nothing that is captured as a name within a comment reads like the name that the comment is
given. This is a fact about parsers and not about the layout of comments: to the parser of each
language a comment is one token or is made of parts that no pattern captures as a name, whatever
the text of the comment says. -/
def SparesCommentNames (language : Language) (source : SourceText) (tree : SyntaxTree) : Prop :=
  ∀ comment ∈ language.commentNodes source tree,
    ∀ name ∈ language.nameNodes source tree, comment.range.encloses name.range →
      Capture.cleanName? (Capture.textOf source name) ≠ some (Capture.commentName source comment)

end Language

/-- A definition is that of a comment at a node. -/
structure Definition.IsCommentAt (source : SourceText) (node : SyntaxNode)
    (definition : Definition) : Prop where
  kind : definition.kind = .comment
  range : definition.range = node.range
  name : definition.name = Capture.commentName source node
  span : definition.span = Capture.spanOf source node

namespace Extraction

variable {language : Language} {source : SourceText} {tree : SyntaxTree}
  {node left right : SyntaxNode} {definition : Definition}

/-- Each comment is captured as a definition. -/
theorem exists_captured_of_commentNode (isNode : node ∈ language.commentNodes source tree) :
    ∃ definition ∈ captured language source tree, definition.IsCommentAt source node := by
  obtain ⟨patterns, isEntry, pattern, isPattern, found, isFound, isAnchor⟩ :=
    Language.mem_commentNodes_iff.mp isNode
  obtain ⟨index, isPlace⟩ := List.mem_iff_getElem?.mp isPattern
  let definition : Definition :=
    { kind := .comment, range := node.range,
      nameRange := (found.captured? .name).map SyntaxNode.range,
      span := Capture.spanOf source node, name := Capture.commentName source node,
      owner := Capture.nameIn? source found .owner }
  have outcome : Capture.ofMatch source .comment index found = .ok (.definition definition) := by
    rw [Capture.ofMatch, isAnchor]
    rfl
  refine ⟨definition, List.mem_filterMap.mpr ⟨.ok (.definition definition), ?_, rfl⟩,
    rfl, rfl, rfl, rfl⟩
  refine List.mem_flatMap.mpr ⟨(.comment, patterns), isEntry, List.mem_flatMap.mpr
    ⟨(pattern, index), List.mem_zipIdx_iff_getElem?.mpr isPlace, List.mem_map.mpr ?_⟩⟩
  exact ⟨found, isFound, outcome⟩

/-- What is captured as a comment is that of a comment node. -/
theorem exists_commentNode_of_captured (member : definition ∈ captured language source tree)
    (isComment : definition.kind = .comment) :
    ∃ node ∈ language.commentNodes source tree, definition.IsCommentAt source node := by
  obtain ⟨kind, patterns, pattern, index, found, isEntry, isPattern, isFound, outcome⟩ :=
    exists_match_of_mem_captured member
  obtain rfl : kind = .comment := (Capture.ofMatch_eq_definition outcome).2.1.symm.trans isComment
  obtain ⟨anchor, isAnchor, isName, isRange, isSpan⟩ := Capture.exists_anchor_of_definition outcome
  exact ⟨anchor, Language.mem_commentNodes_iff.mpr
    ⟨patterns, isEntry, pattern, isPattern, found, isFound, isAnchor⟩,
    isComment, isRange, (Option.some.inj isName).symm, isSpan⟩

/-- The definition of a comment is that of a comment node. -/
theorem exists_commentNode_of_mem_definitionsIn
    (member : definition ∈ definitionsIn language source tree)
    (isComment : definition.kind = .comment) :
    ∃ node ∈ language.commentNodes source tree, definition.IsCommentAt source node := by
  obtain ⟨base, isBase, -, same⟩ := (Definition.unites_of_mem_merge member).base
  rw [same] at isComment
  obtain ⟨node, isNode, isAt⟩ := exists_commentNode_of_captured isBase isComment
  rw [same]
  exact ⟨node, isNode, isAt.kind, isAt.range, isAt.name, isAt.span⟩

section

variable (laid : tree.LiesIn source)
include laid

section

variable (spared : language.SparesCommentNames source tree)
include spared

/-- Nothing else has the range and the name of a comment: its name would stand within the
comment. -/
theorem kind_eq_comment_of_key_eq (isNode : node ∈ language.commentNodes source tree)
    (member : definition ∈ captured language source tree)
    (sameKey : definition.key = (node.range, Capture.commentName source node)) :
    definition.kind = .comment := by
  obtain ⟨sameRange, sameName⟩ := Prod.mk.inj sameKey
  obtain ⟨kind, patterns, pattern, index, found, isEntry, isPattern, isFound, outcome⟩ :=
    exists_match_of_mem_captured member
  obtain ⟨notReference, isKind, -⟩ := Capture.ofMatch_eq_definition outcome
  obtain ⟨anchor, isAnchor, isName, isRange, -⟩ := Capture.exists_anchor_of_definition outcome
  rw [isKind]
  by_contra notComment
  rw [Capture.definedName?, if_neg notComment, sameName] at isName
  obtain ⟨name, captured, -⟩ :=
    Capture.exists_node_of_textIn (Capture.ne_empty_of_cleanName? isName)
  have within : anchor.range.encloses name.range := by
    rw [Capture.anchor?_of_not_reference notReference] at isAnchor
    rcases Option.or_eq_some_iff.mp isAnchor with isDefinition | ⟨-, isItself⟩
    · exact Pattern.encloses_of_keepsWithin laid
        (Language.keepsWithin_of_mem_queries isEntry isPattern).1 isFound isDefinition captured
    · obtain rfl := Option.some.inj (captured.symm.trans isItself)
      simp [ByteRange.encloses]
  refine spared node isNode name (Language.mem_nameNodes isEntry isPattern isFound captured)
    ?_ ?_
  · rw [← sameRange, isRange]
    exact within
  · rw [← isName, Capture.textIn, captured]
    rfl

/-- Each comment has a definition of its own. -/
theorem exists_definition_of_commentNode (isNode : node ∈ language.commentNodes source tree) :
    ∃ definition ∈ definitionsIn language source tree, definition.IsCommentAt source node := by
  obtain ⟨given, isGiven, isComment⟩ := exists_captured_of_commentNode isNode
  have isKey : given.key = (node.range, Capture.commentName source node) :=
    Prod.ext isComment.range isComment.name
  obtain ⟨united, member, sameKey⟩ := List.mem_map.mp
    (Definition.mem_map_key_merge.mpr (List.mem_map_of_mem isGiven))
  obtain ⟨base, isBase, baseKey, same⟩ := (Definition.unites_of_mem_merge member).base
  have nodeKey : base.key = (node.range, Capture.commentName source node) :=
    baseKey.trans (sameKey.trans isKey)
  -- What the definition is made of may be captured at another node in the same place.
  obtain ⟨other, -, isOther⟩ := exists_commentNode_of_captured isBase
    (kind_eq_comment_of_key_eq laid spared isNode isBase nodeKey)
  obtain ⟨sameRange, sameName⟩ := Prod.mk.inj nodeKey
  obtain ⟨sameStart, sameStop⟩ := ByteRange.mk.inj (isOther.range.symm.trans sameRange)
  refine ⟨united, member, ?_⟩
  rw [same]
  refine ⟨isOther.kind, sameRange, sameName, isOther.span.trans ?_⟩
  rw [Capture.spanOf, Capture.spanOf, sameStart, sameStop]

end

variable (apart : language.KeepsCommentsApart source tree)
include apart

theorem covers_of_commentNode (isNode : node ∈ language.commentNodes source tree) :
    Capture.Covers tree node := by
  obtain ⟨patterns, isEntry, pattern, isPattern, found, isFound, isAnchor⟩ :=
    Language.mem_commentNodes_iff.mp isNode
  exact Capture.covers_of_definition laid apart.nonempty isEntry isPattern isFound rfl isAnchor rfl

/-- Comments with one name are one comment. -/
theorem commentNode_eq_of_commentName_eq (isLeft : left ∈ language.commentNodes source tree)
    (isRight : right ∈ language.commentNodes source tree)
    (same : Capture.commentName source left = Capture.commentName source right) : left = right := by
  have inside {node : SyntaxNode} (isNode : node ∈ language.commentNodes source tree) :
      node.start ≤ source.bytes.length :=
    have covers := covers_of_commentNode laid apart isNode
    Nat.le_trans (Nat.le_of_lt covers.nonempty) (laid.stop_le covers.member)
  have sameStart := Capture.start_eq_of_commentName_eq (inside isLeft) (inside isRight) same
  have leftNonempty := apart.nonempty left isLeft
  have rightNonempty := apart.nonempty right isRight
  by_contra differ
  rcases apart.disjoint left isLeft right isRight differ with before | after <;> omega

end

end Extraction

/-! ### Entities of comments -/

/-- An entity is that of a comment at a node: it has the name and the lines of the comment, and the
text that the bytes of the node spell. -/
structure Entity.ShowsComment (source : SourceText) (node : SyntaxNode) (entity : Entity) :
    Prop where
  kind : entity.kind = .comment
  className : entity.className = Construct.comment.name
  simpleName : entity.simpleName = Capture.commentName source node
  span : (⟨entity.startLine, entity.endLine⟩ : Span) = Capture.spanOf source node
  snippet : ∀ text,
    Text.Utf8.encode text = (source.bytes.drop node.start).take (node.stop - node.start) →
      entity.snippet = text

/-- A slice within a source is the text that its bytes spell. -/
theorem SourceText.slice_eq {source : SourceText} {start stop : Nat} (ordered : start ≤ stop)
    (inside : stop ≤ source.bytes.length) {text : String}
    (spelled : Text.Utf8.encode text = (source.bytes.drop start).take (stop - start)) :
    source.slice start stop = text := by
  rw [slice, if_pos ⟨ordered, inside⟩, Text.Utf8.decode_eq_ok_iff.mpr spelled]

namespace ParsedFile

open Definition

variable {parsed : ParsedFile} {node : SyntaxNode} {entity : Entity}

/-- The nodes of the file that are found as comments. -/
def commentNodes (parsed : ParsedFile) : List SyntaxNode :=
  parsed.language.commentNodes parsed.source parsed.tree

/-- Entities with one identifier are one entity. -/
theorem entity_eq_of_id_eq {second : Entity} (member : entity ∈ parsed.entities)
    (otherMember : second ∈ parsed.entities) (same : entity.id = second.id) : entity = second :=
  List.inj_on_of_nodup_map (Entity.nodup_distinct parsed.candidates) member otherMember same

/-- The name of a comment is the last part of the canonical name. -/
theorem commentName_eq_of_canonicalName_eq {other : SyntaxNode} {second : Entity}
    (member : entity ∈ parsed.candidates) (otherMember : second ∈ parsed.candidates)
    (shows : entity.ShowsComment parsed.source node)
    (otherShows : second.ShowsComment parsed.source other)
    (same : entity.canonicalName = second.canonicalName) :
    Capture.commentName parsed.source node = Capture.commentName parsed.source other := by
  obtain ⟨index, definition, -, rfl⟩ := exists_of_mem_toEntities member
  obtain ⟨place, otherDefinition, -, rfl⟩ := exists_of_mem_toEntities otherMember
  have isName : definition.name = Capture.commentName parsed.source node := shows.simpleName
  have isOtherName : otherDefinition.name = Capture.commentName parsed.source other :=
    otherShows.simpleName
  rw [canonicalName_entityAt, canonicalName_entityAt] at same
  rw [← isName, ← isOtherName]
  refine name_eq_of_canonicalName_eq ?_ ?_ same
  · rw [isName]
    exact Capture.dot_not_mem_commentName _ _
  · rw [isOtherName]
    exact Capture.dot_not_mem_commentName _ _

section

variable (laid : parsed.tree.LiesIn parsed.source)
  (apart : parsed.language.KeepsCommentsApart parsed.source parsed.tree)
include laid apart

theorem showsComment_entityAt (isNode : node ∈ parsed.commentNodes) {index : Nat}
    {definition : Definition} (isDefinition : parsed.definitions[index]? = some definition)
    (isComment : definition.IsCommentAt parsed.source node) :
    (entityAt parsed.file parsed.source parsed.definitions index definition).ShowsComment
      parsed.source node := by
  have isCandidate : entityAt parsed.file parsed.source parsed.definitions index definition ∈
      parsed.candidates := entityAt_mem_toEntities isDefinition
  have isKind : (entityAt parsed.file parsed.source parsed.definitions index definition).kind =
      .comment := isComment.kind
  refine ⟨isKind, ?_, isComment.name, isComment.span, fun text spelled => ?_⟩
  · rw [(fitsKind isCandidate).className_eq (by rw [isKind]; decide), isKind]
  · have covers := Extraction.covers_of_commentNode laid apart isNode
    show parsed.source.slice definition.range.start definition.range.stop = text
    rw [isComment.range]
    exact SourceText.slice_eq (Nat.le_of_lt covers.nonempty) (laid.stop_le covers.member) spelled

/-- An entity of a comment shows one of the comment nodes. -/
theorem exists_commentNode_of_mem_entities (member : entity ∈ parsed.entities)
    (isComment : entity.kind = .comment) :
    ∃ node ∈ parsed.commentNodes, entity.ShowsComment parsed.source node := by
  obtain ⟨index, definition, isDefinition, rfl⟩ := exists_of_mem_toEntities (mem_candidates member)
  obtain ⟨node, isNode, isAt⟩ := Extraction.exists_commentNode_of_mem_definitionsIn
    (List.mem_of_getElem? isDefinition) isComment
  exact ⟨node, isNode, showsComment_entityAt laid apart isNode isDefinition isAt⟩

/-- What is kept with the identifier of a comment shows that comment. -/
theorem exists_showsComment (spared : parsed.language.SparesCommentNames parsed.source parsed.tree)
    (free : Digest.CollisionFree parsed.messages) (isNode : node ∈ parsed.commentNodes) :
    ∃ entity ∈ parsed.entities, entity.ShowsComment parsed.source node := by
  obtain ⟨definition, member, isComment⟩ :=
    Extraction.exists_definition_of_commentNode laid spared isNode
  obtain ⟨index, isDefinition⟩ := List.mem_iff_getElem?.mp member
  have shows := showsComment_entityAt laid apart isNode isDefinition isComment
  have isCandidate : entityAt parsed.file parsed.source parsed.definitions index definition ∈
      parsed.candidates := entityAt_mem_toEntities isDefinition
  obtain ⟨kept, isKept, same⟩ := Entity.exists_mem_distinct isCandidate
  obtain ⟨sameClass, sameName⟩ :=
    names_eq_of_id_eq free (mem_candidates isKept) isCandidate same
  have sameKind := (fitsKind (mem_candidates isKept)).kind_eq (fitsKind isCandidate) sameClass
  obtain ⟨other, isOther, keptShows⟩ :=
    exists_commentNode_of_mem_entities laid apart isKept (sameKind.trans shows.kind)
  have names := commentName_eq_of_canonicalName_eq (mem_candidates isKept) isCandidate keptShows
    shows sameName
  obtain rfl := Extraction.commentNode_eq_of_commentName_eq laid apart isOther isNode names
  exact ⟨kept, isKept, keptShows⟩

/-- The definition of an entity that shows a comment has the range and the name of the comment. -/
theorem key_eq_of_showsComment (isNode : node ∈ parsed.commentNodes) {index : Nat}
    {definition : Definition} (isDefinition : parsed.definitions[index]? = some definition)
    (shows : (entityAt parsed.file parsed.source parsed.definitions index definition).ShowsComment
      parsed.source node) :
    definition.key = (node.range, Capture.commentName parsed.source node) := by
  obtain ⟨found, isFound, isAt⟩ := Extraction.exists_commentNode_of_mem_definitionsIn
    (List.mem_of_getElem? isDefinition) shows.kind
  obtain rfl := Extraction.commentNode_eq_of_commentName_eq laid apart isFound isNode
    (isAt.name.symm.trans shows.simpleName)
  exact Prod.ext isAt.range isAt.name

/-- A comment is shown by one entity only, as it has one definition only. -/
theorem entity_eq_of_showsComment (isNode : node ∈ parsed.commentNodes) {second : Entity}
    (member : entity ∈ parsed.entities) (otherMember : second ∈ parsed.entities)
    (shows : entity.ShowsComment parsed.source node)
    (otherShows : second.ShowsComment parsed.source node) : entity = second := by
  obtain ⟨index, definition, isDefinition, rfl⟩ := exists_of_mem_toEntities (mem_candidates member)
  obtain ⟨place, other, isOther, rfl⟩ := exists_of_mem_toEntities (mem_candidates otherMember)
  have sameKey : (parsed.definitions.map key)[index]? = (parsed.definitions.map key)[place]? := by
    rw [List.getElem?_map, List.getElem?_map, isDefinition, isOther, Option.map_some,
      Option.map_some, key_eq_of_showsComment laid apart isNode isDefinition shows,
      key_eq_of_showsComment laid apart isNode isOther otherShows]
  have inside : index < (parsed.definitions.map key).length := by
    rw [List.length_map]
    exact (List.getElem?_eq_some_iff.mp isDefinition).1
  obtain rfl : index = place := (List.getElem?_inj inside (nodup_map_key_merge _)).mp sameKey
  rw [Option.some.inj (isDefinition.symm.trans isOther)]

end

/-- Each comment of a parsed file has exactly one entity that shows it, and each entity of a comment
shows one. Entities that show different comments have different identifiers, wherever the comments
stand. -/
theorem comments_stay_distinct (laid : parsed.tree.LiesIn parsed.source)
    (apart : parsed.language.KeepsCommentsApart parsed.source parsed.tree)
    (spared : parsed.language.SparesCommentNames parsed.source parsed.tree)
    (free : Digest.CollisionFree parsed.messages) :
    (∀ node ∈ parsed.commentNodes, ∃ entity ∈ parsed.entities,
        entity.ShowsComment parsed.source node ∧
          ∀ other ∈ parsed.entities, other.ShowsComment parsed.source node → other = entity) ∧
      (∀ entity ∈ parsed.entities, entity.kind = .comment →
        ∃ node ∈ parsed.commentNodes, entity.ShowsComment parsed.source node) ∧
      ∀ left ∈ parsed.commentNodes, ∀ right ∈ parsed.commentNodes, left ≠ right →
        ∀ first ∈ parsed.entities, ∀ second ∈ parsed.entities,
          first.ShowsComment parsed.source left → second.ShowsComment parsed.source right →
            first.id ≠ second.id := by
  refine ⟨fun node isNode => ?_, fun entity => exists_commentNode_of_mem_entities laid apart, ?_⟩
  · obtain ⟨entity, member, shows⟩ := exists_showsComment laid apart spared free isNode
    exact ⟨entity, member, shows, fun other otherMember otherShows =>
      entity_eq_of_showsComment laid apart isNode otherMember member otherShows shows⟩
  intro left isLeft right isRight differ first isFirst second isSecond shows otherShows same
  obtain rfl := entity_eq_of_id_eq isFirst isSecond same
  refine differ (Extraction.commentNode_eq_of_commentName_eq laid apart isLeft isRight ?_)
  rw [← shows.simpleName, ← otherShows.simpleName]

/-- A file with a function in which two comments stand on one line. -/
def neighbours : ParsedFile where
  file := .ofPath "r" "m.c" (some .c) 32 "SourceFile" "ProgramCode"
  language := .c
  source := .ofString "int f(void) \x7b /* a */ /* b */ \x7d\n"
  tree :=
    .node { index := 0, kind := "translation_unit", start := 0, stop := 32 } [
      .node { index := 1, kind := "function_definition", start := 0, stop := 31 } [
        .node { index := 2, kind := "primitive_type", start := 0, stop := 3, field := "type" } [],
        .node { index := 3, kind := "function_declarator", start := 4, stop := 11,
                field := "declarator" } [
          .node { index := 4, kind := "identifier", start := 4, stop := 5, field := "declarator" }
            []],
        .node { index := 5, kind := "compound_statement", start := 12, stop := 31,
                field := "body" } [
          .node { index := 6, kind := "comment", start := 14, stop := 21, isExtra := true } [],
          .node { index := 7, kind := "comment", start := 22, stop := 29, isExtra := true } []]]]
  identified := rfl

theorem definitions_neighbours : neighbours.definitions =
    [(.functionDefinition, ⟨0, 31⟩, some ⟨4, 5⟩, "f"), (.comment, ⟨14, 21⟩, none, "comment_L1C15"),
      (.comment, ⟨22, 29⟩, none, "comment_L1C23")].map
        fun (kind, range, nameRange, name) =>
          { kind, range, nameRange, span := ⟨1, 1⟩, name, owner := none } := by
  rw [ParsedFile.definitions, Extraction.definitionsIn_eq]
  decide +kernel

/-- The two comments are kept apart, each with its text. -/
theorem comments_stay_distinct_of_neighbours :
    ∃ first ∈ neighbours.entities, ∃ second ∈ neighbours.entities,
      first.snippet = "/* a */" ∧ second.snippet = "/* b */" ∧
        first.startLine = second.startLine ∧ first.id ≠ second.id := by
  have laid : neighbours.tree.LiesIn neighbours.source := by decide +kernel
  have comments : neighbours.commentNodes =
      [{ index := 6, kind := "comment", start := 14, stop := 21, isExtra := true },
        { index := 7, kind := "comment", start := 22, stop := 29, isExtra := true }] := by
    rw [commentNodes, Language.commentNodes, Pattern.search_eq_matchesIn]
    decide +kernel
  have apart : neighbours.language.KeepsCommentsApart neighbours.source neighbours.tree := by
    constructor <;> rw [show neighbours.language.commentNodes _ _ = _ from comments] <;> decide
  have spared : neighbours.language.SparesCommentNames neighbours.source neighbours.tree := by
    rw [Language.SparesCommentNames, show neighbours.language.commentNodes _ _ = _ from comments,
      Language.nameNodes, Pattern.search_eq_matchesIn]
    decide +kernel
  have free : Digest.CollisionFree neighbours.messages := by
    rw [messages_eq definitions_neighbours]
    decide +kernel
  have isLeft := comments ▸ List.mem_cons_self
  have isRight := comments ▸ List.mem_cons_of_mem _ List.mem_cons_self
  obtain ⟨exist, -, distinct⟩ := comments_stay_distinct laid apart spared free
  obtain ⟨first, isFirst, shows, -⟩ := exist _ isLeft
  obtain ⟨second, isSecond, otherShows, -⟩ := exist _ isRight
  refine ⟨first, isFirst, second, isSecond, shows.snippet _ (by decide +kernel),
    otherShows.snippet _ (by decide +kernel), ?_,
    distinct _ isLeft _ isRight (by decide) first isFirst second isSecond shows otherShows⟩
  have line := congrArg Span.startLine shows.span
  have otherLine := congrArg Span.startLine otherShows.span
  exact line.trans (Eq.trans (by decide +kernel) otherLine.symm)

end ParsedFile

end CodeGraph
