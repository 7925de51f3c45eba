/-
This file proves where the nodes of a match lie.

A match consists of nodes of the tree in which it was found. That is shown along the definition of
matching, which goes through patterns, parts and children at once, so each fact about it comes in
three: one for a pattern at a tree, one for alternatives, one for the parts of a node among its
children. `exists_of_mem_matchParts_cons` and its companions say what a match of each form of
pattern is made of, and later proofs cite them instead of unfolding the search.

Where one captured node lies with respect to another cannot be told from the tree, but it can be
told from the pattern. `keepsWithin` reads off a pattern whether the node in a role is captured at
or below the one that is captured as the definition. The test looks for the definition on the way
down and asks that nothing beside that way captures either of the two;
`exists_subtree_of_keepsWithin` proves it right, by induction on the pattern. The tables of queries
are data, so that all names and imported paths pass the test is a computation.

A parser lays out every node within those above it (`SyntaxTree.LiesIn`). In such a tree a
definition therefore encloses its name and its path, in every language (`encloses_of_keepsWithin`).
-/
import CodeGraph.Language.Basic
import CodeGraph.Extraction.Capture
import CodeGraph.Proofs.SyntaxTree.Roles

namespace CodeGraph

namespace SyntaxTree

/-! ### Trees within trees -/

theorem mem_subtrees_self (tree : SyntaxTree) : tree ∈ tree.subtrees := by
  cases tree
  rw [subtrees]
  exact List.mem_cons_self

theorem root_mem_nodes (tree : SyntaxTree) : tree.root ∈ tree.nodes := by
  cases tree
  rw [nodes]
  exact List.mem_cons_self

theorem subtreesOf_append (front back : List SyntaxTree) :
    subtreesOf (front ++ back) = subtreesOf front ++ subtreesOf back := by
  induction front with
  | nil => rw [subtreesOf, List.nil_append, List.nil_append]
  | cons tree rest inductionHypothesis =>
    rw [List.cons_append, subtreesOf, subtreesOf, inductionHypothesis, List.append_assoc]

theorem nodesOf_append (front back : List SyntaxTree) :
    nodesOf (front ++ back) = nodesOf front ++ nodesOf back := by
  induction front with
  | nil => rw [nodesOf, List.nil_append, List.nil_append]
  | cons tree rest inductionHypothesis =>
    rw [List.cons_append, nodesOf, nodesOf, inductionHypothesis, List.append_assoc]

theorem mem_nodes_of_mem_nodesOf_children {tree : SyntaxTree} {node : SyntaxNode}
    (member : node ∈ nodesOf tree.children) : node ∈ tree.nodes := by
  cases tree
  rw [nodes]
  exact List.mem_cons_of_mem _ member

theorem mem_subtrees_of_mem_subtreesOf_children {tree subtree : SyntaxTree}
    (member : subtree ∈ subtreesOf tree.children) : subtree ∈ tree.subtrees := by
  cases tree
  rw [subtrees]
  exact List.mem_cons_of_mem _ member

mutual

/-- What lies within a tree within a tree lies within the tree. -/
theorem subtrees_subset_of_mem_subtrees (tree subtree : SyntaxTree)
    (member : subtree ∈ tree.subtrees) : subtree.subtrees ⊆ tree.subtrees := by
  match tree with
  | .node root children =>
    rw [subtrees] at member
    rcases List.mem_cons.mp member with rfl | below
    · exact List.Subset.refl _
    · rw [subtrees]
      exact List.subset_cons_of_subset _
        (subtrees_subset_of_mem_subtreesOf children subtree below)

theorem subtrees_subset_of_mem_subtreesOf (trees : List SyntaxTree) (subtree : SyntaxTree)
    (member : subtree ∈ subtreesOf trees) : subtree.subtrees ⊆ subtreesOf trees := by
  match trees with
  | [] =>
    rw [subtreesOf] at member
    cases member
  | tree :: rest =>
    rw [subtreesOf] at member ⊢
    rcases List.mem_append.mp member with first | later
    · exact List.subset_append_of_subset_left _
        (subtrees_subset_of_mem_subtrees tree subtree first)
    · exact List.subset_append_of_subset_right _
        (subtrees_subset_of_mem_subtreesOf rest subtree later)

end

mutual

/-- The nodes of a tree are the roots of the trees within it. -/
theorem nodes_eq_map_root (tree : SyntaxTree) : tree.nodes = tree.subtrees.map root := by
  match tree with
  | .node root children =>
    rw [nodes, subtrees, List.map_cons, nodesOf_eq_map_root children]
    rfl

theorem nodesOf_eq_map_root (trees : List SyntaxTree) :
    nodesOf trees = (subtreesOf trees).map root := by
  match trees with
  | [] => rw [nodesOf, subtreesOf, List.map_nil]
  | tree :: rest =>
    rw [nodesOf, subtreesOf, List.map_append, nodes_eq_map_root tree, nodesOf_eq_map_root rest]

end

theorem nodes_subset_of_mem_subtrees {tree subtree : SyntaxTree}
    (member : subtree ∈ tree.subtrees) : subtree.nodes ⊆ tree.nodes := by
  rw [nodes_eq_map_root, nodes_eq_map_root]
  exact List.map_subset root (subtrees_subset_of_mem_subtrees tree subtree member)

/-- How a parser lays out the nodes of a tree over a source: all within the source, and each one
within those above it. -/
structure LiesIn (tree : SyntaxTree) (source : SourceText) : Prop where
  nested : ∀ subtree ∈ tree.subtrees, ∀ node ∈ subtree.nodes,
    subtree.root.range.encloses node.range
  bounded : tree.root.stop ≤ source.bytes.length

instance (tree : SyntaxTree) (source : SourceText) : Decidable (tree.LiesIn source) :=
  decidable_of_iff
    ((∀ subtree ∈ tree.subtrees, ∀ node ∈ subtree.nodes,
      subtree.root.range.encloses node.range) ∧ tree.root.stop ≤ source.bytes.length)
    ⟨fun ⟨nested, bounded⟩ => ⟨nested, bounded⟩, fun laid => ⟨laid.nested, laid.bounded⟩⟩

theorem LiesIn.stop_le {tree : SyntaxTree} {source : SourceText} (laid : tree.LiesIn source)
    {node : SyntaxNode} (member : node ∈ tree.nodes) : node.stop ≤ source.bytes.length := by
  have within := laid.nested tree tree.mem_subtrees_self node member
  exact Nat.le_trans (of_decide_eq_true (Bool.and_eq_true_iff.mp within).2) laid.bounded

end SyntaxTree

namespace Match

theorem captured?_append (first second : Match) (role : Role) :
    (first.append second).captured? role = (first.captured? role).or (second.captured? role) :=
  List.lookup_append

theorem mem_captures_of_captured? {found : Match} {role : Role} {node : SyntaxNode}
    (captured : found.captured? role = some node) : (role, node) ∈ found.captures := by
  obtain ⟨before, after, split, -⟩ := List.lookup_eq_some_iff.mp captured
  exact split ▸ List.mem_append_right before List.mem_cons_self

end Match

namespace Pattern

variable {source : SourceText} {role : Role} {found : Match} {tree : SyntaxTree}

/-! ### How patterns match -/

theorem exists_of_mem_choices {part : Pattern} {children : List SyntaxTree}
    {choice : SyntaxTree × List SyntaxTree} (member : choice ∈ choices part children) :
    ∃ before, children = before ++ choice.1 :: choice.2 := by
  induction children with
  | nil => cases member
  | cons child rest inductionHypothesis =>
    have either : choice = (child, rest) ∨ choice ∈ choices part rest := by
      unfold choices at member
      split at member
      · split at member
        · exact .inl (List.mem_singleton.mp member)
        · exact List.mem_cons.mp member
      · exact List.mem_cons.mp member
    rcases either with rfl | later
    · exact ⟨[], rfl⟩
    · obtain ⟨before, split⟩ := inductionHypothesis later
      exact ⟨child :: before, congrArg (child :: ·) split⟩

/-- A match of a node is one of its parts among the children. -/
theorem exists_of_mem_matchesAt_node {kind : String} {absent : List String} {parts : List Pattern}
    (isMatch : found ∈ matchesAt source (.node kind absent parts) tree) :
    ∃ inner ∈ matchParts source parts tree.children, found.captures = inner.captures := by
  unfold matchesAt at isMatch
  split at isMatch
  · obtain ⟨inner, innerMatch, rfl⟩ := List.mem_map.mp isMatch
    exact ⟨inner, innerMatch, rfl⟩
  · cases isMatch

theorem captures_of_mem_matchesAt_anything (isMatch : found ∈ matchesAt source .anything tree) :
    found.captures = [] := by
  unfold matchesAt at isMatch
  split at isMatch
  · exact congrArg Match.captures (List.mem_singleton.mp isMatch)
  · cases isMatch

theorem captures_of_mem_matchesAt_token {text : String}
    (isMatch : found ∈ matchesAt source (.token text) tree) : found.captures = [] := by
  unfold matchesAt at isMatch
  split at isMatch
  · exact congrArg Match.captures (List.mem_singleton.mp isMatch)
  · cases isMatch

theorem exists_of_mem_matchesAt_capture {own : Role} {inner : Pattern}
    (isMatch : found ∈ matchesAt source (.capture own inner) tree) :
    ∃ rest ∈ matchesAt source inner tree,
      found.captures = (own, tree.root) :: rest.captures := by
  unfold matchesAt at isMatch
  obtain ⟨rest, restMatch, rfl⟩ := List.mem_map.mp isMatch
  exact ⟨rest, restMatch, rfl⟩

theorem mem_matchesAt_of_inField {field : String} {inner : Pattern}
    (isMatch : found ∈ matchesAt source (.inField field inner) tree) :
    found ∈ matchesAt source inner tree := by
  unfold matchesAt at isMatch
  split at isMatch
  · exact isMatch
  · cases isMatch

theorem mem_matchesAt_of_adjacent {inner : Pattern}
    (isMatch : found ∈ matchesAt source (.adjacent inner) tree) :
    found ∈ matchesAt source inner tree := by
  unfold matchesAt at isMatch
  exact isMatch

theorem mem_matchesAt_of_textIn {texts : List String} {inner : Pattern}
    (isMatch : found ∈ matchesAt source (.textIn texts inner) tree) :
    found ∈ matchesAt source inner tree := by
  unfold matchesAt at isMatch
  split at isMatch
  · exact isMatch
  · cases isMatch

theorem mem_matchesAt_of_textNotIn {texts : List String} {inner : Pattern}
    (isMatch : found ∈ matchesAt source (.textNotIn texts inner) tree) :
    found ∈ matchesAt source inner tree := by
  unfold matchesAt at isMatch
  split at isMatch
  · cases isMatch
  · exact isMatch

/-- The first part matches one of the children, and the other parts some of those after it. -/
theorem exists_of_mem_matchParts_cons {part : Pattern} {parts : List Pattern}
    {children : List SyntaxTree} (isMatch : found ∈ matchParts source (part :: parts) children) :
    ∃ before child rest, children = before ++ child :: rest ∧
      ∃ first ∈ matchesAt source part child, ∃ later ∈ matchParts source parts rest,
        found = first.append later := by
  unfold matchParts at isMatch
  obtain ⟨⟨child, rest⟩, isChoice, isMatch⟩ := List.mem_flatMap.mp isMatch
  obtain ⟨first, firstMatch, isMatch⟩ := List.mem_flatMap.mp isMatch
  obtain ⟨later, laterMatch, rfl⟩ := List.mem_map.mp isMatch
  obtain ⟨before, split⟩ := exists_of_mem_choices isChoice
  exact ⟨before, child, rest, split, first, firstMatch, later, laterMatch, rfl⟩

/-! ### Captured nodes -/

mutual

/-- A match captures nodes of the tree. -/
theorem mem_nodes_of_mem_matchesAt (pattern : Pattern) (tree : SyntaxTree) (found : Match)
    (isMatch : found ∈ matchesAt source pattern tree) {node : SyntaxNode}
    (captured : (role, node) ∈ found.captures) : node ∈ tree.nodes := by
  match pattern with
  | .node kind absent parts =>
    obtain ⟨inner, innerMatch, same⟩ := exists_of_mem_matchesAt_node isMatch
    exact SyntaxTree.mem_nodes_of_mem_nodesOf_children
      (mem_nodesOf_of_mem_matchParts parts tree.children inner innerMatch (same ▸ captured))
  | .anything =>
    rw [captures_of_mem_matchesAt_anything isMatch] at captured
    cases captured
  | .token text =>
    rw [captures_of_mem_matchesAt_token isMatch] at captured
    cases captured
  | .either alternatives =>
    unfold matchesAt at isMatch
    exact mem_nodes_of_mem_matchAny alternatives tree found isMatch captured
  | .capture own inner =>
    obtain ⟨rest, restMatch, same⟩ := exists_of_mem_matchesAt_capture isMatch
    rw [same] at captured
    rcases List.mem_cons.mp captured with here | there
    · rw [(Prod.mk.inj here).2]
      exact tree.root_mem_nodes
    · exact mem_nodes_of_mem_matchesAt inner tree rest restMatch there
  | .inField field inner =>
    exact mem_nodes_of_mem_matchesAt inner tree found (mem_matchesAt_of_inField isMatch) captured
  | .adjacent inner =>
    exact mem_nodes_of_mem_matchesAt inner tree found (mem_matchesAt_of_adjacent isMatch) captured
  | .textIn texts inner =>
    exact mem_nodes_of_mem_matchesAt inner tree found (mem_matchesAt_of_textIn isMatch) captured
  | .textNotIn texts inner =>
    exact mem_nodes_of_mem_matchesAt inner tree found (mem_matchesAt_of_textNotIn isMatch) captured

theorem mem_nodes_of_mem_matchAny (patterns : List Pattern) (tree : SyntaxTree) (found : Match)
    (isMatch : found ∈ matchAny source patterns tree) {node : SyntaxNode}
    (captured : (role, node) ∈ found.captures) : node ∈ tree.nodes := by
  match patterns with
  | [] =>
    unfold matchAny at isMatch
    cases isMatch
  | pattern :: rest =>
    unfold matchAny at isMatch
    rcases List.mem_append.mp isMatch with first | later
    · exact mem_nodes_of_mem_matchesAt pattern tree found first captured
    · exact mem_nodes_of_mem_matchAny rest tree found later captured

theorem mem_nodesOf_of_mem_matchParts (parts : List Pattern) (children : List SyntaxTree)
    (found : Match) (isMatch : found ∈ matchParts source parts children) {node : SyntaxNode}
    (captured : (role, node) ∈ found.captures) : node ∈ SyntaxTree.nodesOf children := by
  match parts with
  | [] =>
    unfold matchParts at isMatch
    rw [List.mem_singleton.mp isMatch] at captured
    cases captured
  | part :: rest =>
    obtain ⟨before, child, others, rfl, first, firstMatch, later, laterMatch, rfl⟩ :=
      exists_of_mem_matchParts_cons isMatch
    rw [SyntaxTree.nodesOf_append, SyntaxTree.nodesOf]
    refine List.mem_append_right _ (List.mem_append.mpr ?_)
    rcases List.mem_append.mp captured with here | there
    · exact .inl (mem_nodes_of_mem_matchesAt part child first firstMatch here)
    · exact .inr (mem_nodesOf_of_mem_matchParts rest others later laterMatch there)

end

/-! ### Nodes below a definition -/

/-- Whether a pattern that is known to match some node captures no other one as the definition. -/
def definesHere : Pattern → Bool
  | .capture .definition _ => true
  | inner => !speaksOf .definition inner

mutual

/-- Whether a pattern that captures both a definition and a node in a role captures the node at or
below the definition. -/
def keepsWithin (role : Role) : Pattern → Bool
  | .node _ _ parts => oneKeepsWithin role parts
  | .anything => true
  | .token _ => true
  | .either alternatives => allKeepWithin role alternatives
  | .capture own inner =>
    own == .definition || if own == role then definesHere inner else keepsWithin role inner
  | .inField _ inner => keepsWithin role inner
  | .adjacent inner => keepsWithin role inner
  | .textIn _ inner => keepsWithin role inner
  | .textNotIn _ inner => keepsWithin role inner

/-- Whether each of several patterns does so. -/
def allKeepWithin (role : Role) : List Pattern → Bool
  | [] => true
  | pattern :: rest => keepsWithin role pattern && allKeepWithin role rest

/-- Whether one of several parts does so and the others capture neither. -/
def oneKeepsWithin (role : Role) : List Pattern → Bool
  | [] => true
  | part :: rest =>
    (keepsWithin role part && !anySpeaksOf .definition rest && !anySpeaksOf role rest)
      || (!speaksOf .definition part && !speaksOf role part && oneKeepsWithin role rest)

end

theorem captured?_eq_none_of_mem_matchesAt {pattern : Pattern}
    (isMatch : found ∈ matchesAt source pattern tree) (silent : speaksOf role pattern = false) :
    found.captured? role = none := by
  refine Option.eq_none_iff_forall_ne_some.mpr fun node captured => ?_
  have spoken := speaksOf_of_mem_matchesAt pattern tree found isMatch
    (Match.mem_captures_of_captured? captured)
  rw [silent] at spoken
  cases spoken

theorem captured?_eq_none_of_mem_matchParts {parts : List Pattern} {children : List SyntaxTree}
    (isMatch : found ∈ matchParts source parts children)
    (silent : anySpeaksOf role parts = false) : found.captured? role = none := by
  refine Option.eq_none_iff_forall_ne_some.mpr fun node captured => ?_
  have spoken := anySpeaksOf_of_mem_matchParts parts children found isMatch
    (Match.mem_captures_of_captured? captured)
  rw [silent] at spoken
  cases spoken

/-- A pattern that defines here captures the root as the definition or nothing. -/
theorem eq_root_of_definesHere {inner : Pattern} (isMatch : found ∈ matchesAt source inner tree)
    (here : inner.definesHere) {definition : SyntaxNode}
    (isDefinition : found.captured? .definition = some definition) : definition = tree.root := by
  unfold definesHere at here
  split at here
  · obtain ⟨rest, -, same⟩ := exists_of_mem_matchesAt_capture isMatch
    rw [Match.captured?, same, List.lookup_cons_self] at isDefinition
    exact (Option.some.inj isDefinition).symm
  · rw [captured?_eq_none_of_mem_matchesAt isMatch (by simpa using here)] at isDefinition
    cases isDefinition

mutual

/-- The test of a pattern is right: the node in the role lies at or below the definition. -/
theorem exists_subtree_of_keepsWithin (pattern : Pattern) (tree : SyntaxTree) (found : Match)
    (isMatch : found ∈ matchesAt source pattern tree) (keeps : keepsWithin role pattern)
    {definition node : SyntaxNode} (isDefinition : found.captured? .definition = some definition)
    (isNode : found.captured? role = some node) :
    ∃ subtree ∈ tree.subtrees, subtree.root = definition ∧ node ∈ subtree.nodes := by
  match pattern with
  | .node kind absent parts =>
    obtain ⟨inner, innerMatch, same⟩ := exists_of_mem_matchesAt_node isMatch
    rw [Match.captured?, same] at isDefinition isNode
    rw [keepsWithin] at keeps
    obtain ⟨subtree, member, facts⟩ := exists_subtree_of_oneKeepsWithin parts tree.children inner
      innerMatch keeps isDefinition isNode
    exact ⟨subtree, SyntaxTree.mem_subtrees_of_mem_subtreesOf_children member, facts⟩
  | .anything =>
    rw [Match.captured?, captures_of_mem_matchesAt_anything isMatch] at isNode
    cases isNode
  | .token text =>
    rw [Match.captured?, captures_of_mem_matchesAt_token isMatch] at isNode
    cases isNode
  | .either alternatives =>
    unfold matchesAt at isMatch
    rw [keepsWithin] at keeps
    exact exists_subtree_of_allKeepWithin alternatives tree found isMatch keeps isDefinition isNode
  | .capture own inner =>
    obtain ⟨rest, restMatch, same⟩ := exists_of_mem_matchesAt_capture isMatch
    rw [keepsWithin, Bool.or_eq_true, beq_iff_eq] at keeps
    have isBelow : node ∈ tree.nodes := mem_nodes_of_mem_matchesAt (.capture own inner) tree found
      isMatch (Match.mem_captures_of_captured? isNode)
    rw [Match.captured?, same] at isDefinition isNode
    by_cases here : own = .definition
    · subst here
      rw [List.lookup_cons_self] at isDefinition
      exact ⟨tree, tree.mem_subtrees_self, Option.some.inj isDefinition, isBelow⟩
    · have keeps := keeps.resolve_left here
      rw [List.lookup_cons, beq_false_of_ne (Ne.symm here)] at isDefinition
      split at keeps
      · have isRoot := eq_root_of_definesHere restMatch keeps isDefinition
        exact ⟨tree, tree.mem_subtrees_self, isRoot.symm, isBelow⟩
      · next other =>
        have different : role ≠ own := fun same => other (beq_iff_eq.mpr same.symm)
        rw [List.lookup_cons, beq_false_of_ne different] at isNode
        exact exists_subtree_of_keepsWithin inner tree rest restMatch keeps isDefinition isNode
  | .inField field inner =>
    rw [keepsWithin] at keeps
    exact exists_subtree_of_keepsWithin inner tree found (mem_matchesAt_of_inField isMatch) keeps
      isDefinition isNode
  | .adjacent inner =>
    rw [keepsWithin] at keeps
    exact exists_subtree_of_keepsWithin inner tree found (mem_matchesAt_of_adjacent isMatch) keeps
      isDefinition isNode
  | .textIn texts inner =>
    rw [keepsWithin] at keeps
    exact exists_subtree_of_keepsWithin inner tree found (mem_matchesAt_of_textIn isMatch) keeps
      isDefinition isNode
  | .textNotIn texts inner =>
    rw [keepsWithin] at keeps
    exact exists_subtree_of_keepsWithin inner tree found (mem_matchesAt_of_textNotIn isMatch) keeps
      isDefinition isNode

theorem exists_subtree_of_allKeepWithin (patterns : List Pattern) (tree : SyntaxTree)
    (found : Match) (isMatch : found ∈ matchAny source patterns tree)
    (keep : allKeepWithin role patterns) {definition node : SyntaxNode}
    (isDefinition : found.captured? .definition = some definition)
    (isNode : found.captured? role = some node) :
    ∃ subtree ∈ tree.subtrees, subtree.root = definition ∧ node ∈ subtree.nodes := by
  match patterns with
  | [] =>
    unfold matchAny at isMatch
    cases isMatch
  | pattern :: rest =>
    unfold matchAny at isMatch
    rw [allKeepWithin, Bool.and_eq_true] at keep
    rcases List.mem_append.mp isMatch with first | later
    · exact exists_subtree_of_keepsWithin pattern tree found first keep.1 isDefinition isNode
    · exact exists_subtree_of_allKeepWithin rest tree found later keep.2 isDefinition isNode

theorem exists_subtree_of_oneKeepsWithin (parts : List Pattern) (children : List SyntaxTree)
    (found : Match) (isMatch : found ∈ matchParts source parts children)
    (keeps : oneKeepsWithin role parts) {definition node : SyntaxNode}
    (isDefinition : found.captured? .definition = some definition)
    (isNode : found.captured? role = some node) :
    ∃ subtree ∈ SyntaxTree.subtreesOf children,
      subtree.root = definition ∧ node ∈ subtree.nodes := by
  match parts with
  | [] =>
    unfold matchParts at isMatch
    rw [List.mem_singleton.mp isMatch] at isNode
    cases isNode
  | part :: rest =>
    obtain ⟨before, child, others, rfl, first, firstMatch, later, laterMatch, rfl⟩ :=
      exists_of_mem_matchParts_cons isMatch
    simp only [SyntaxTree.subtreesOf_append, SyntaxTree.subtreesOf, List.mem_append]
    simp only [oneKeepsWithin, Bool.or_eq_true, Bool.and_eq_true, Bool.not_eq_true'] at keeps
    rw [Match.captured?_append] at isDefinition isNode
    rcases keeps with ⟨⟨keeps, noDefinition⟩, noNode⟩ | ⟨⟨noDefinition, noNode⟩, keeps⟩
    · rw [captured?_eq_none_of_mem_matchParts laterMatch noDefinition, Option.or_none]
        at isDefinition
      rw [captured?_eq_none_of_mem_matchParts laterMatch noNode, Option.or_none] at isNode
      obtain ⟨subtree, member, facts⟩ :=
        exists_subtree_of_keepsWithin part child first firstMatch keeps isDefinition isNode
      exact ⟨subtree, .inr (.inl member), facts⟩
    · rw [captured?_eq_none_of_mem_matchesAt firstMatch noDefinition, Option.none_or]
        at isDefinition
      rw [captured?_eq_none_of_mem_matchesAt firstMatch noNode, Option.none_or] at isNode
      obtain ⟨subtree, member, facts⟩ :=
        exists_subtree_of_oneKeepsWithin rest others later laterMatch keeps isDefinition isNode
      exact ⟨subtree, .inr (.inr member), facts⟩

end

/-! ### Laid-out trees -/

variable {pattern : Pattern} {node : SyntaxNode}

/-- A search captures nodes of the tree. -/
theorem mem_nodes_of_mem_search (member : found ∈ search source pattern tree)
    (captured : found.captured? role = some node) : node ∈ tree.nodes := by
  obtain ⟨subtree, isSubtree, isMatch⟩ := exists_mem_matchesAt_of_mem_search member
  exact SyntaxTree.nodes_subset_of_mem_subtrees isSubtree
    (mem_nodes_of_mem_matchesAt pattern subtree found isMatch
      (Match.mem_captures_of_captured? captured))

/-- In a laid-out tree a definition encloses what is kept within it. -/
theorem encloses_of_keepsWithin (laid : tree.LiesIn source) (keeps : pattern.keepsWithin role)
    (member : found ∈ search source pattern tree) {definition : SyntaxNode}
    (isDefinition : found.captured? .definition = some definition)
    (isNode : found.captured? role = some node) : definition.range.encloses node.range := by
  obtain ⟨outer, isOuter, isMatch⟩ := exists_mem_matchesAt_of_mem_search member
  obtain ⟨subtree, isSubtree, rfl, isBelow⟩ :=
    exists_subtree_of_keepsWithin pattern outer found isMatch keeps isDefinition isNode
  have within := SyntaxTree.subtrees_subset_of_mem_subtrees tree outer isOuter isSubtree
  exact laid.nested subtree within node isBelow

end Pattern

/-- Every language captures names and imported paths within the definition. -/
theorem Language.keepsWithin_of_mem_queries {language : Language} {kind : Construct}
    {patterns : List Pattern} {pattern : Pattern} (isEntry : (kind, patterns) ∈ language.queries)
    (isPattern : pattern ∈ patterns) :
    pattern.keepsWithin .name ∧ pattern.keepsWithin .path := by
  have each : ∀ entry ∈ language.queries, ∀ pattern ∈ entry.2,
      pattern.keepsWithin .name ∧ pattern.keepsWithin .path := by
    cases language <;> decide +kernel
  exact each _ isEntry pattern isPattern

end CodeGraph
