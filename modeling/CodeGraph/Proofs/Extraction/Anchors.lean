/-
This file proves where definitions and references stand. Each is found at one node of the tree, its
anchor, from which it has its range and its lines.

What is captured depends on several roles of a match, and the two theorems on anchors say once what
comes from which of them. A definition has a name, and a reference something that it refers to, and
these texts are not empty. A text that is not empty stands at a node with at least one byte; in a
laid-out tree that node lies within the anchor, since the patterns capture names and paths at or
below the definition. So the anchor takes up at least one byte, too (`Capture.Covers`). Where the
anchor is the node of the text itself there is nothing to show. Comments are the exception: they
have no name in the source, so it must be known of their nodes that they are not empty.
-/
import CodeGraph.Proofs.Extraction.Definitions
import CodeGraph.Proofs.SyntaxTree.Nesting

namespace CodeGraph

namespace Language

/-- The nodes of a tree that the patterns of a language find as comments. -/
def commentNodes (language : Language) (source : SourceText) (tree : SyntaxTree) :
    List SyntaxNode :=
  language.queries.flatMap fun (kind, patterns) =>
    if kind = .comment then
      patterns.flatMap fun pattern =>
        (pattern.search source tree).filterMap (Capture.anchor? .comment)
    else []

theorem mem_commentNodes_iff {language : Language} {source : SourceText} {tree : SyntaxTree}
    {node : SyntaxNode} :
    node ∈ language.commentNodes source tree ↔
      ∃ patterns, (.comment, patterns) ∈ language.queries ∧ ∃ pattern ∈ patterns,
        ∃ found ∈ pattern.search source tree, Capture.anchor? .comment found = some node := by
  unfold commentNodes
  rw [List.mem_flatMap]
  constructor
  · rintro ⟨⟨kind, patterns⟩, isEntry, member⟩
    dsimp only at member
    split at member
    · next isComment =>
      subst isComment
      obtain ⟨pattern, isPattern, isNode⟩ := List.mem_flatMap.mp member
      exact ⟨patterns, isEntry, pattern, isPattern, List.mem_filterMap.mp isNode⟩
    · cases member
  · rintro ⟨patterns, isEntry, pattern, isPattern, isNode⟩
    refine ⟨(.comment, patterns), isEntry, ?_⟩
    dsimp only
    rw [if_pos rfl]
    exact List.mem_flatMap.mpr ⟨pattern, isPattern, List.mem_filterMap.mpr isNode⟩

end Language

theorem SourceText.slice_eq_empty (source : SourceText) {start stop : Nat} (empty : stop ≤ start) :
    source.slice start stop = "" := by
  unfold slice
  split
  · rw [Nat.sub_eq_zero_of_le empty, List.take_zero]
    rfl
  · rfl

namespace Capture

variable {source : SourceText} {tree : SyntaxTree} {kind : Construct} {pattern : Pattern}
  {index : Nat} {found : Match} {anchor : SyntaxNode} {role : Role}

/-! ### Anchors -/

/-- A definition has the name, the range and the lines that its anchor gives it. -/
theorem exists_anchor_of_definition {definition : Definition}
    (captured : ofMatch source kind index found = .ok (.definition definition)) :
    ∃ anchor, anchor? kind found = some anchor ∧
      definedName? source kind anchor found = some definition.name ∧
      definition.range = anchor.range ∧ definition.span = spanOf source anchor := by
  unfold ofMatch at captured
  split at captured
  · cases captured
  · next anchor isAnchor =>
    simp only at captured
    split at captured
    · split at captured <;> cases captured
    · split at captured
      · cases captured
      · next name named =>
        cases captured
        exact ⟨anchor, isAnchor, named, rfl, rfl⟩

/-- A reference has the lines of its anchor, and something that it refers to. -/
theorem exists_anchor_of_reference {reference : Reference}
    (captured : ofMatch source kind index found = .ok (.reference reference)) :
    ∃ anchor, anchor? kind found = some anchor ∧
      (∃ observed, ObservationKind.ofConstruct? kind = some observed ∧
        target? source found observed = some reference.target) ∧
      reference.span = spanOf source anchor := by
  unfold ofMatch at captured
  split at captured
  · cases captured
  · next anchor isAnchor =>
    simp only at captured
    split at captured
    · next observed isObserved =>
      split at captured
      · cases captured
      · next target isTarget =>
        cases captured
        exact ⟨anchor, isAnchor, ⟨observed, isObserved, isTarget⟩, rfl⟩
    · split at captured <;> cases captured

/-! ### Texts within anchors -/

/-- A text that is not empty stands at a node that takes up at least one byte. -/
theorem exists_node_of_textIn (nonempty : textIn source found role ≠ "") :
    ∃ node, found.captured? role = some node ∧ node.start < node.stop := by
  unfold textIn at nonempty
  cases captured : found.captured? role with
  | none =>
    rw [captured] at nonempty
    exact absurd rfl nonempty
  | some node =>
    rw [captured] at nonempty
    refine ⟨node, rfl, Nat.lt_of_not_le fun empty => nonempty ?_⟩
    exact source.slice_eq_empty empty

theorem ne_empty_of_cleanName? {raw name : String} (isName : cleanName? raw = some name) :
    raw ≠ "" := by
  rintro rfl
  cases isName.symm.trans (show cleanName? "" = none by decide)

theorem ne_empty_of_cleanPath? {raw path : String} (isPath : cleanPath? raw = some path) :
    raw ≠ "" := by
  rintro rfl
  cases isPath.symm.trans (show cleanPath? "" = none by decide)

/-- A node of a tree that takes up at least one byte. -/
structure Covers (tree : SyntaxTree) (node : SyntaxNode) : Prop where
  member : node ∈ tree.nodes
  nonempty : node.start < node.stop

/-- An anchor that holds a text which is not empty is not empty either. -/
theorem covers_of_textIn (laid : tree.LiesIn source) (keeps : pattern.keepsWithin role)
    (member : found ∈ pattern.search source tree) (nonempty : textIn source found role ≠ "")
    (isAnchor : (found.captured? .definition).or (found.captured? role) = some anchor) :
    Covers tree anchor := by
  obtain ⟨node, isNode, nonemptyNode⟩ := exists_node_of_textIn nonempty
  rcases Option.or_eq_some_iff.mp isAnchor with isDefinition | ⟨-, isAnchor⟩
  · have within := Pattern.encloses_of_keepsWithin laid keeps member isDefinition isNode
    obtain ⟨starts, stops⟩ := Bool.and_eq_true_iff.mp within
    have starts : anchor.start ≤ node.start := of_decide_eq_true starts
    have stops : node.stop ≤ anchor.stop := of_decide_eq_true stops
    exact ⟨Pattern.mem_nodes_of_mem_search member isDefinition, by omega⟩
  · obtain rfl := Option.some.inj (isAnchor.symm.trans isNode)
    exact ⟨Pattern.mem_nodes_of_mem_search member isNode, nonemptyNode⟩

variable {language : Language} {patterns : List Pattern}

theorem anchor?_of_not_reference (notReference : ObservationKind.ofConstruct? kind = none) :
    anchor? kind found = (found.captured? .definition).or (found.captured? .name) := by
  cases kind <;> first | rfl | cases notReference

/-- The anchor of a definition takes up at least one byte. -/
theorem covers_of_definition (laid : tree.LiesIn source)
    (solid : ∀ node ∈ language.commentNodes source tree, node.start < node.stop)
    (isEntry : (kind, patterns) ∈ language.queries) (isPattern : pattern ∈ patterns)
    (isFound : found ∈ pattern.search source tree) {name : String}
    (notReference : ObservationKind.ofConstruct? kind = none)
    (isAnchor : anchor? kind found = some anchor)
    (isName : definedName? source kind anchor found = some name) : Covers tree anchor := by
  have choice := isAnchor
  rw [anchor?_of_not_reference notReference] at choice
  by_cases isComment : kind = .comment
  · subst isComment
    refine ⟨?_, solid anchor (Language.mem_commentNodes_iff.mpr
      ⟨patterns, isEntry, pattern, isPattern, found, isFound, isAnchor⟩)⟩
    rcases Option.or_eq_some_iff.mp choice with isDefinition | ⟨-, isName⟩
    · exact Pattern.mem_nodes_of_mem_search isFound isDefinition
    · exact Pattern.mem_nodes_of_mem_search isFound isName
  · rw [definedName?, if_neg isComment] at isName
    exact covers_of_textIn laid (Language.keepsWithin_of_mem_queries isEntry isPattern).1 isFound
      (ne_empty_of_cleanName? isName) choice

/-- The anchor of a reference takes up at least one byte. -/
theorem covers_of_reference (laid : tree.LiesIn source)
    (isEntry : (kind, patterns) ∈ language.queries) (isPattern : pattern ∈ patterns)
    (isFound : found ∈ pattern.search source tree) {observed : ObservationKind} {target : String}
    (isObserved : ObservationKind.ofConstruct? kind = some observed)
    (isAnchor : anchor? kind found = some anchor)
    (isTarget : target? source found observed = some target) : Covers tree anchor := by
  obtain ⟨keepsName, keepsPath⟩ := Language.keepsWithin_of_mem_queries isEntry isPattern
  cases kind with
  | callSite =>
    obtain rfl := Option.some.inj isObserved
    exact covers_of_textIn laid keepsName isFound (ne_empty_of_cleanName? isTarget) isAnchor
  | importDeclaration =>
    obtain rfl := Option.some.inj isObserved
    exact covers_of_textIn laid keepsPath isFound (ne_empty_of_cleanPath? isTarget) isAnchor
  | inheritance =>
    obtain rfl := Option.some.inj isObserved
    obtain ⟨node, isNode, nonempty⟩ := exists_node_of_textIn (ne_empty_of_cleanName? isTarget)
    obtain rfl := Option.some.inj (isNode.symm.trans isAnchor)
    exact ⟨Pattern.mem_nodes_of_mem_search isFound isNode, nonempty⟩
  | _ => cases isObserved

end Capture

end CodeGraph
