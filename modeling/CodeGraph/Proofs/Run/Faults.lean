/-
This file proves which fault of a source is blamed.

The search goes down from the root of the syntax tree into the first child that is faulty or says
that a fault lies below it, and it never turns back. That is right only if nodes say the truth
about the faults below them (`SyntaxTree.FlagsFaults`), as the nodes of a parser do. Then among
several trees the search finds the first fault in document order (`faultAmong_eq_find?`). The
induction is on the trees that are left: the first of them is faulty, or holds the fault, or is
passed over because nothing in it is faulty.

The root is not among the trees that are looked at. It is blamed if nothing below it is faulty and
passed over otherwise, although it stands before all other nodes (`firstFault?_eq`). So nothing is
blamed exactly if nothing is faulty; and the first faulty node of all is blamed unless both the
root and a node below it are faulty. The parser is a parameter here and may answer anything. In the
first of two trees the first fault is blamed; in the second one that is the root, and a comma below
it is blamed.
-/
import CodeGraph.Proofs.Run.Outcomes

namespace CodeGraph

namespace SyntaxTree

/-- Every node says whether it or a node below it is faulty. -/
def FlagsFaults (tree : SyntaxTree) : Prop :=
  ∀ subtree ∈ tree.subtrees, subtree.root.hasError = subtree.nodes.any SyntaxNode.isFaulty

instance (tree : SyntaxTree) : Decidable tree.FlagsFaults := List.decidableBAll _ _

/-- The nodes below the root in document order. -/
def nodesBelow (tree : SyntaxTree) : List SyntaxNode := nodesOf tree.children

theorem nodes_eq (tree : SyntaxTree) : tree.nodes = tree.root :: tree.nodesBelow := by
  cases tree
  rw [nodes]
  rfl

/-! ### The search -/

/-- Among trees the search finds the first fault in document order. The induction is on the trees
that are left: the first of them is faulty, or holds the fault, or is passed over. -/
theorem faultAmong_eq_find? (trees : List SyntaxTree)
    (honest : ∀ subtree ∈ subtreesOf trees,
      subtree.root.hasError = subtree.nodes.any SyntaxNode.isFaulty) :
    faultAmong trees = (nodesOf trees).find? SyntaxNode.isFaulty := by
  match trees with
  | [] => rw [faultAmong, nodesOf, List.find?_nil]
  | .node root children :: rest =>
    rw [subtreesOf, subtrees] at honest
    obtain ⟨honestFirst, honestRest⟩ := List.forall_mem_append.mp honest
    obtain ⟨flagged, honestChildren⟩ := List.forall_mem_cons.mp honestFirst
    rw [SyntaxTree.root, nodes, List.any_cons, ← List.isSome_find?] at flagged
    have below := faultAmong_eq_find? children honestChildren
    have later := faultAmong_eq_find? rest honestRest
    rw [faultAmong, nodesOf, nodes, List.cons_append, List.find?_cons, List.find?_append, flagged,
      below, later]
    cases root.isFaulty with
    | true => rfl
    | false => cases (nodesOf children).find? SyntaxNode.isFaulty <;> rfl

variable {tree : SyntaxTree}

/-- The first fault below the root is blamed, and the root only if there is none. -/
theorem firstFault?_eq (honest : tree.FlagsFaults) :
    tree.firstFault? =
      (tree.nodesBelow.find? SyntaxNode.isFaulty).or
        (if tree.root.isFaulty then some tree.root else none) := by
  cases tree with
  | node root children =>
    rw [FlagsFaults, subtrees] at honest
    obtain ⟨flagged, honestChildren⟩ := List.forall_mem_cons.mp honest
    rw [SyntaxTree.root, nodes, List.any_cons, ← List.isSome_find?] at flagged
    rw [firstFault?, faultBelow, faultAmong_eq_find? children honestChildren, nodesBelow,
      SyntaxTree.root, SyntaxTree.children, flagged]
    cases root.isFaulty <;> cases (nodesOf children).find? SyntaxNode.isFaulty <;> rfl

/-- Nothing is blamed exactly if nothing is faulty. -/
theorem firstFault?_eq_none_iff (honest : tree.FlagsFaults) :
    tree.firstFault? = none ↔ ∀ node ∈ tree.nodes, ¬node.isFaulty := by
  rw [firstFault?_eq honest, Option.or_eq_none_iff, List.find?_eq_none, nodes_eq,
    List.forall_mem_cons, and_comm]
  refine and_congr_left' ?_
  rw [ite_eq_right_iff]
  exact forall_congr' fun _ => iff_of_false (Option.some_ne_none _) not_false

theorem firstFault?_eq_some_iff (honest : tree.FlagsFaults) {fault : SyntaxNode} :
    tree.firstFault? = some fault ↔
      tree.nodesBelow.find? SyntaxNode.isFaulty = some fault ∨
        (∀ node ∈ tree.nodesBelow, ¬node.isFaulty) ∧ tree.root.isFaulty ∧ tree.root = fault := by
  rw [firstFault?_eq honest, Option.or_eq_some_iff, List.find?_eq_none,
    Option.ite_none_right_eq_some, Option.some_inj]

/-- Unless the root is faulty and something below it as well, the first fault in document order is
blamed. -/
theorem firstFault?_eq_find? (honest : tree.FlagsFaults)
    (single : tree.root.isFaulty → ∀ node ∈ tree.nodesBelow, ¬node.isFaulty) :
    tree.firstFault? = tree.nodes.find? SyntaxNode.isFaulty := by
  rw [firstFault?_eq honest, nodes_eq, List.find?_cons]
  cases faulty : tree.root.isFaulty with
  | true => rw [List.find?_eq_none.mpr (single faulty)]; rfl
  | false => exact Option.or_none

end SyntaxTree

/-! ### The blamed line -/

namespace Analyzer

variable {engine : RegularExpression.Engine} {analyzer : Analyzer engine} {parser : TreeParser}
  {language : Language} {text : String} {tree : SyntaxTree}

theorem parse_of_firstFault?_eq_none
    (isTree : parser analyzer.settings.parseLimit language text = .ok tree)
    (clean : tree.firstFault? = none) : analyzer.parse parser language text = .ok tree := by
  rw [parse, isTree]
  simp only [clean, ite_self]

theorem parse_of_firstFault?_eq_some
    (isTree : parser analyzer.settings.parseLimit language text = .ok tree)
    (strict : analyzer.settings.strictSyntax) {fault : SyntaxNode}
    (isFirst : tree.firstFault? = some fault) :
    analyzer.parse parser language text =
      .error (.syntaxFault ((SourceText.ofString text).startLine fault.start)) := by
  rw [parse, isTree]
  simp only [if_pos strict, isFirst]

/-- Strict parsing accepts a source exactly if no node of its tree is faulty. Otherwise it blames
the line of the first faulty node in document order below the root, and the line of the root if only
that is faulty. So it blames the first faulty node of all, unless both the root and a node below it
are faulty. -/
theorem parse_blames_first_below_root
    (isTree : parser analyzer.settings.parseLimit language text = .ok tree)
    (strict : analyzer.settings.strictSyntax) (honest : tree.FlagsFaults) :
    (tree.firstFault? = none ↔ ∀ node ∈ tree.nodes, ¬node.isFaulty) ∧
      (∀ fault, tree.firstFault? = some fault ↔
        tree.nodesBelow.find? SyntaxNode.isFaulty = some fault ∨
          (∀ node ∈ tree.nodesBelow, ¬node.isFaulty) ∧ tree.root.isFaulty ∧ tree.root = fault) ∧
      ((tree.root.isFaulty → ∀ node ∈ tree.nodesBelow, ¬node.isFaulty) →
        tree.firstFault? = tree.nodes.find? SyntaxNode.isFaulty) ∧
      (analyzer.parse parser language text = .ok tree ↔ tree.firstFault? = none) ∧
      ∀ fault, tree.firstFault? = some fault → analyzer.parse parser language text =
        .error (.syntaxFault ((SourceText.ofString text).startLine fault.start)) := by
  refine ⟨SyntaxTree.firstFault?_eq_none_iff honest,
    fun fault => SyntaxTree.firstFault?_eq_some_iff honest,
    SyntaxTree.firstFault?_eq_find? honest,
    ⟨fun accepted => ?_, parse_of_firstFault?_eq_none isTree⟩,
    fun fault => parse_of_firstFault?_eq_some isTree strict⟩
  by_contra blamed
  obtain ⟨fault, isFirst⟩ := Option.ne_none_iff_exists'.mp blamed
  rw [parse_of_firstFault?_eq_some isTree strict isFirst] at accepted
  cases accepted

/-- A call without its closing parenthesis and a stray bracket after it. -/
def openCall : SyntaxTree :=
  .node { index := 0, kind := "module", start := 0, stop := 7, hasError := true } [
    .node { index := 1, kind := "identifier", start := 0, stop := 2 } [],
    .node { index := 2, kind := "call", start := 3, stop := 5, hasError := true } [
      .node { index := 3, kind := "identifier", start := 3, stop := 4 } [],
      .node { index := 4, kind := "argument_list", start := 4, stop := 5, hasError := true } [
        .node { index := 5, kind := "(", start := 4, stop := 5, isNamed := false } [],
        .node { index := 6, kind := ")", start := 5, stop := 5, isNamed := false,
                isMissing := true, hasError := true } []]],
    .node { index := 7, kind := "ERROR", start := 6, stop := 7, isExtra := true, isError := true,
            hasError := true } []]

/-- The parenthesis that is missing is blamed and not the bracket after it. -/
theorem parse_blames_of_openCall :
    openCall.FlagsFaults ∧ sample.settings.strictSyntax ∧
      sample.parse (fun _ _ _ => .ok openCall) .python "ok\nf(\n]\n" = .error (.syntaxFault 2) := by
  have honest : openCall.FlagsFaults := by decide +kernel
  have strict : sample.settings.strictSyntax := rfl
  obtain ⟨-, isFirst_iff, -, -, blames⟩ :=
    @parse_blames_first_below_root _ sample (fun _ _ _ => .ok
        openCall) .python "ok\nf(\n]\n" openCall
      rfl strict honest
  have isMissing : openCall.firstFault? = some
      { index := 6, kind := ")", start := 5, stop := 5, isNamed := false, isMissing := true,
        hasError := true } :=
    (isFirst_iff _).mpr (.inl (by decide +kernel))
  have line : (SourceText.ofString "ok\nf(\n]\n").startLine 5 = 2 := by decide +kernel
  exact ⟨honest, strict, (blames _ isMissing).trans (by rw [line])⟩

/-- A class without its end, so that the root of the tree is an error, with a stray comma in its
body. What stands in the inner class is left out. -/
def openClass : SyntaxTree :=
  .node { index := 0, kind := "ERROR", start := 0, stop := 104, isError := true,
          hasError := true } [
    .node { index := 1, kind := "class", start := 0, stop := 5, isNamed := false } [],
    .node { index := 2, kind := "constant", start := 6, stop := 7 } [],
    .node { index := 3, kind := ";", start := 7, stop := 8, isNamed := false } [],
    .node { index := 4, kind := "body_statement", start := 9, stop := 103, hasError := true } [
      .node { index := 5, kind := "call", start := 9, stop := 12 } [],
      .node { index := 6, kind := "ERROR", start := 13, stop := 15, isExtra := true,
              isError := true, hasError := true } [
        .node { index := 7, kind := "integer", start := 13, stop := 14 } [],
        .node { index := 8, kind := ",", start := 14, stop := 15, isNamed := false } []],
      .node { index := 9, kind := "integer", start := 16, stop := 17 } [],
      .node { index := 10, kind := "class", start := 18, stop := 103 } []]]

/-- The source of the class. -/
def openClassText : String :=
  "class A; n()\n1, 2\nclass B; def m; n(); self.n; A.n; d; self.n; A.n; d; def n; end; end; "
    ++ "def n; end; end\n"

/-- The class is the first fault, in the first line, but the comma in the second line is blamed. -/
theorem not_parse_blames_first_of_openClass :
    openClass.FlagsFaults ∧
      openClass.nodes.find? SyntaxNode.isFaulty = some openClass.root ∧
      (SourceText.ofString openClassText).startLine openClass.root.start = 1 ∧
      openClass.firstFault? ≠ some openClass.root ∧
      sample.parse (fun _ _ _ => .ok openClass) .ruby openClassText = .error (.syntaxFault 2) := by
  have honest : openClass.FlagsFaults := by decide +kernel
  have isComma : openClass.firstFault? = some
      { index := 6, kind := "ERROR", start := 13, stop := 15, isExtra := true, isError := true,
        hasError := true } :=
    (SyntaxTree.firstFault?_eq_some_iff honest).mpr (.inl (by decide +kernel))
  have line : (SourceText.ofString openClassText).startLine 13 = 2 := by decide +kernel
  refine ⟨honest, by decide +kernel, by decide +kernel, ?_, ?_⟩
  · rw [isComma]
    decide
  · exact (parse_of_firstFault?_eq_some rfl rfl isComma).trans (by rw [line])

end Analyzer

end CodeGraph
