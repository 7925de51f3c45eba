/-
This file says which roles a pattern speaks of and proves that its matches capture nodes in no
other role.

Patterns contain patterns, in alternatives and as parts, and matching goes through them together
with the children of a node. So the fact is proved for a pattern, for one of several alternatives
and for several parts at once, along the definition of matching; a capture adds one role, and every
other form of pattern hands on what its parts have captured. A search collects such matches at all
subtrees and drops repeated ones, so it captures nothing in a role that the pattern does not speak
of (`captured?_eq_none_of_mem_search`). What a match can hold is therefore known from the query
table alone, whatever the syntax tree is.
-/
import CodeGraph.SyntaxTree.Pattern

namespace CodeGraph

namespace Pattern

mutual

/-- Whether a pattern captures a node in a role. -/
def speaksOf (role : Role) : Pattern → Bool
  | .node _ _ parts => anySpeaksOf role parts
  | .anything => false
  | .token _ => false
  | .either alternatives => anySpeaksOf role alternatives
  | .capture own inner => own == role || speaksOf role inner
  | .inField _ inner => speaksOf role inner
  | .adjacent inner => speaksOf role inner
  | .textIn _ inner => speaksOf role inner
  | .textNotIn _ inner => speaksOf role inner

/-- Whether one of several patterns captures a node in a role. -/
def anySpeaksOf (role : Role) : List Pattern → Bool
  | [] => false
  | pattern :: rest => speaksOf role pattern || anySpeaksOf role rest

end

variable {source : SourceText} {role : Role} {node : SyntaxNode}

mutual

/-- A match captures nodes only in roles that the pattern speaks of. -/
theorem speaksOf_of_mem_matchesAt (pattern : Pattern) (tree : SyntaxTree) (found : Match)
    (isMatch : found ∈ matchesAt source pattern tree) (captured : (role, node) ∈ found.captures) :
    speaksOf role pattern := by
  match pattern with
  | .node kind absent parts =>
    unfold matchesAt at isMatch
    split at isMatch
    · obtain ⟨inner, innerMatch, rfl⟩ := List.mem_map.mp isMatch
      exact anySpeaksOf_of_mem_matchParts parts tree.children inner innerMatch captured
    · cases isMatch
  | .anything =>
    unfold matchesAt at isMatch
    split at isMatch
    · rw [List.mem_singleton.mp isMatch] at captured
      cases captured
    · cases isMatch
  | .token text =>
    unfold matchesAt at isMatch
    split at isMatch
    · rw [List.mem_singleton.mp isMatch] at captured
      cases captured
    · cases isMatch
  | .either alternatives =>
    unfold matchesAt at isMatch
    exact anySpeaksOf_of_mem_matchAny alternatives tree found isMatch captured
  | .capture own inner =>
    unfold matchesAt at isMatch
    obtain ⟨rest, restMatch, rfl⟩ := List.mem_map.mp isMatch
    rw [speaksOf, Bool.or_eq_true_iff, beq_iff_eq]
    rcases List.mem_append.mp captured with here | there
    · exact .inl (congrArg Prod.fst (List.mem_singleton.mp here)).symm
    · exact .inr (speaksOf_of_mem_matchesAt inner tree rest restMatch there)
  | .inField field inner =>
    unfold matchesAt at isMatch
    split at isMatch
    · exact speaksOf_of_mem_matchesAt inner tree found isMatch captured
    · cases isMatch
  | .adjacent inner =>
    unfold matchesAt at isMatch
    exact speaksOf_of_mem_matchesAt inner tree found isMatch captured
  | .textIn texts inner =>
    unfold matchesAt at isMatch
    split at isMatch
    · exact speaksOf_of_mem_matchesAt inner tree found isMatch captured
    · cases isMatch
  | .textNotIn texts inner =>
    unfold matchesAt at isMatch
    split at isMatch
    · cases isMatch
    · exact speaksOf_of_mem_matchesAt inner tree found isMatch captured

/-- The same for a match of one of several patterns. -/
theorem anySpeaksOf_of_mem_matchAny (patterns : List Pattern) (tree : SyntaxTree) (found : Match)
    (isMatch : found ∈ matchAny source patterns tree) (captured : (role, node) ∈ found.captures) :
    anySpeaksOf role patterns := by
  match patterns with
  | [] =>
    unfold matchAny at isMatch
    cases isMatch
  | pattern :: rest =>
    unfold matchAny at isMatch
    rw [anySpeaksOf, Bool.or_eq_true_iff]
    rcases List.mem_append.mp isMatch with first | later
    · exact .inl (speaksOf_of_mem_matchesAt pattern tree found first captured)
    · exact .inr (anySpeaksOf_of_mem_matchAny rest tree found later captured)

/-- The same for a match of several parts. -/
theorem anySpeaksOf_of_mem_matchParts (parts : List Pattern) (children : List SyntaxTree)
    (found : Match) (isMatch : found ∈ matchParts source parts children)
    (captured : (role, node) ∈ found.captures) : anySpeaksOf role parts := by
  match parts with
  | [] =>
    unfold matchParts at isMatch
    rw [List.mem_singleton.mp isMatch] at captured
    cases captured
  | part :: rest =>
    unfold matchParts at isMatch
    obtain ⟨⟨child, others⟩, -, isMatch⟩ := List.mem_flatMap.mp isMatch
    obtain ⟨first, firstMatch, isMatch⟩ := List.mem_flatMap.mp isMatch
    obtain ⟨later, laterMatch, rfl⟩ := List.mem_map.mp isMatch
    rw [anySpeaksOf, Bool.or_eq_true_iff]
    rcases List.mem_append.mp captured with here | there
    · exact .inl (speaksOf_of_mem_matchesAt part child first firstMatch here)
    · exact .inr (anySpeaksOf_of_mem_matchParts rest others later laterMatch there)

end

/-! ### Searches -/

theorem mem_of_mem_dropRepeated {found : Match} {seen : List (List (Role × SyntaxNode))}
    {given : List Match} (member : found ∈ dropRepeated seen given) : found ∈ given := by
  induction given generalizing seen with
  | nil => exact member
  | cons head rest inductionHypothesis =>
    unfold dropRepeated at member
    split at member
    · exact List.mem_cons_of_mem _ (inductionHypothesis member)
    · rcases List.mem_cons.mp member with rfl | member
      · exact List.mem_cons_self
      · exact List.mem_cons_of_mem _ (inductionHypothesis member)

/-- What a search finds are matches at subtrees. -/
theorem exists_mem_matchesAt_of_mem_search {pattern : Pattern} {tree : SyntaxTree} {found : Match}
    (member : found ∈ search source pattern tree) :
    ∃ subtree ∈ tree.subtrees, found ∈ matchesAt source pattern subtree := by
  obtain ⟨⟨index, _⟩, sorted, rfl⟩ := List.mem_map.mp (mem_of_mem_dropRepeated member)
  obtain ⟨subtree, isSubtree, located⟩ := List.mem_flatMap.mp (List.mem_mergeSort.mp sorted)
  obtain ⟨_, isMatch, same⟩ := List.mem_map.mp located
  rw [← (Prod.mk.inj same).2]
  exact ⟨subtree, isSubtree, isMatch⟩

/-- A search of a pattern that does not speak of a role captures nothing in it. -/
theorem captured?_eq_none_of_mem_search {pattern : Pattern} {tree : SyntaxTree} {found : Match}
    (member : found ∈ search source pattern tree) (silent : speaksOf role pattern = false) :
    found.captured? role = none := by
  obtain ⟨subtree, -, isMatch⟩ := exists_mem_matchesAt_of_mem_search member
  cases captured : found.captured? role with
  | none => rfl
  | some node =>
    obtain ⟨before, after, split, -⟩ := List.lookup_eq_some_iff.mp captured
    have spoken := speaksOf_of_mem_matchesAt pattern subtree found isMatch
      (split ▸ List.mem_append_right before List.mem_cons_self)
    rw [silent] at spoken
    cases spoken

end Pattern

end CodeGraph
