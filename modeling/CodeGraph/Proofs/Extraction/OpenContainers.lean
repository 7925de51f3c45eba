/-
This file proves which containers are open where a definition begins, whatever the ranges of the
definitions are, and what that means for the ranges of parent and child.

Nothing is assumed of the ranges here, so a container may be closed by a definition that only
sticks out of it. A container is open before an index if it lies around every definition between
itself and that index (`IsOpen`). This is the invariant of the pass. Each open container lies
within the ones opened before it, so dropping scopes from the front until one lies around the next
definition drops exactly those that do not (`mem_within_iff`), and what is left is what is open one
step later (`Scopes.OpenBefore.next`). The lexical parent is the last open container that lies
around the definition as well; for an attribute it is the last such type, if there is one.

Whether a parent lies strictly around its child is a matter of document order. Of definitions with
one start the longest comes first, so those that lie between two definitions with one range have
that range, too. An earlier container with the range of a definition is therefore still open, and
the parent has that range exactly if there is such a container (`range_eq_iff_exists_twin`). This
happens in a language in which one declaration gives a structure two names.
-/
import CodeGraph.Proofs.Extraction.Definitions
import CodeGraph.Proofs.Extraction.Enclosure
import CodeGraph.Proofs.Extraction.Evaluation
import CodeGraph.Proofs.Extraction.Ownership

namespace CodeGraph

namespace ByteRange

variable {first second third : ByteRange}

theorem encloses_refl (range : ByteRange) : range.encloses range :=
  encloses_iff.mpr ⟨Nat.le_refl _, Nat.le_refl _⟩

theorem encloses_trans (outer : first.encloses second) (inner : second.encloses third) :
    first.encloses third := by
  rw [encloses_iff] at *
  omega

theorem eq_of_encloses (around : first.encloses second) (within : second.encloses first) :
    first = second := by
  obtain ⟨start, stop⟩ := first
  obtain ⟨otherStart, otherStop⟩ := second
  simp only [encloses_iff, mk.injEq] at *
  omega

end ByteRange

namespace Definition

variable {definitions : List Definition} {index place : Nat} {definition container : Definition}

/-! ### Open containers -/

/-- A container that is open when the definitions before an index are passed: it lies around all of
them that come after it. -/
structure IsOpen (definitions : List Definition) (index place : Nat) (container : Definition) :
    Prop where
  before : place < index
  isPlace : definitions[place]? = some container
  isContainer : container.kind.isContainer
  encloses : ∀ between inner, place < between → between < index →
    definitions[between]? = some inner → container.range.encloses inner.range

namespace IsOpen

theorem succ_iff (isDefinition : definitions[index]? = some definition) :
    IsOpen definitions (index + 1) place container ↔
      (definition.kind.isContainer ∧ place = index ∧ container = definition) ∨
        (IsOpen definitions index place container ∧
          container.range.encloses definition.range) := by
  constructor
  · rintro ⟨before, isPlace, isContainer, encloses⟩
    obtain before | rfl := Nat.lt_succ_iff_lt_or_eq.mp before
    · exact .inr ⟨⟨before, isPlace, isContainer,
        fun between inner after upTo => encloses between inner after (Nat.lt_succ_of_lt upTo)⟩,
        encloses index definition before (Nat.lt_succ_self _) isDefinition⟩
    · obtain rfl := Option.some.inj (isPlace.symm.trans isDefinition)
      exact .inl ⟨isContainer, rfl, rfl⟩
  · rintro (⟨isContainer, rfl, rfl⟩ | ⟨⟨before, isPlace, isContainer, encloses⟩, around⟩)
    · exact ⟨Nat.lt_succ_self _, isDefinition, isContainer, by omega⟩
    · refine ⟨Nat.lt_succ_of_lt before, isPlace, isContainer, fun between inner after upTo => ?_⟩
      obtain upTo | rfl := Nat.lt_succ_iff_lt_or_eq.mp upTo
      · exact encloses between inner after upTo
      · intro isInner
        exact Option.some.inj (isInner.symm.trans isDefinition) ▸ around

end IsOpen

/-- Whether scopes hold the containers that are open before an index, the last one first. -/
structure Scopes.OpenBefore (scopes : Scopes) (definitions : List Definition) (index : Nat) :
    Prop where
  mem_iff : ∀ scope : Nat × Definition,
    scope ∈ scopes ↔ IsOpen definitions index scope.1 scope.2
  descending : scopes.Pairwise fun inner outer => outer.1 < inner.1

namespace Scopes.OpenBefore

variable {scopes : Scopes}

/-- Before the first definition nothing is open. -/
theorem nil (definitions : List Definition) : OpenBefore [] definitions 0 :=
  ⟨fun _ => ⟨fun member => absurd member List.not_mem_nil,
    fun isOpen => absurd isOpen.before (Nat.not_lt_zero _)⟩, .nil⟩

/-- Each open container lies within those below it, so those around a range are a lower part. -/
theorem mem_within_iff (opened : scopes.OpenBefore definitions index) {range : ByteRange}
    (scope : Nat × Definition) :
    scope ∈ scopes.within range ↔
      IsOpen definitions index scope.1 scope.2 ∧ scope.2.range.encloses range := by
  have upward : scopes.Pairwise fun inner outer =>
      inner.2.range.encloses range → outer.2.range.encloses range := by
    refine opened.descending.imp_of_mem fun {inner outer} isInner isOuter below around => ?_
    have innerOpen := (opened.mem_iff inner).mp isInner
    have outerOpen := (opened.mem_iff outer).mp isOuter
    exact ByteRange.encloses_trans
      (outerOpen.encloses inner.1 inner.2 below innerOpen.before innerOpen.isPlace) around
  rw [within, dropWhile_eq_filter upward, List.mem_filter, opened.mem_iff]

/-- Passing one definition keeps the scopes the open containers. -/
theorem next (opened : scopes.OpenBefore definitions index)
    (isDefinition : definitions[index]? = some definition) :
    OpenBefore (if definition.kind.isContainer then
        (index, definition) :: scopes.within definition.range
      else scopes.within definition.range) definitions (index + 1) := by
  have kept : (scopes.within definition.range).Pairwise fun inner outer => outer.1 < inner.1 :=
    opened.descending.sublist (List.dropWhile_suffix _).sublist
  split
  · next isContainer =>
    refine ⟨fun scope => ?_, List.pairwise_cons.mpr ⟨fun scope member => ?_, kept⟩⟩
    · rw [List.mem_cons, opened.mem_within_iff, IsOpen.succ_iff isDefinition, Prod.ext_iff,
        and_iff_right isContainer]
    · exact ((opened.mem_within_iff scope).mp member).1.before
  · next notContainer =>
    refine ⟨fun scope => ?_, kept⟩
    rw [opened.mem_within_iff, IsOpen.succ_iff isDefinition,
      or_iff_right fun last => notContainer last.1]

end Scopes.OpenBefore

/-- A definition belongs to the last scope; an attribute for which a type is open, to the last
type. -/
theorem Scopes.exists_of_parentOf? {scopes : Scopes}
    (descending : scopes.Pairwise fun inner outer => outer.1 < inner.1)
    (isParent : scopes.parentOf? definition = some place) :
    ∃ container, (place, container) ∈ scopes ∧ ∀ scope ∈ scopes,
      (definition.kind = .attributeDeclaration → container.kind.isType → scope.2.kind.isType) →
        scope.1 ≤ place := by
  have below {outside rest : Scopes} {last : Nat × Definition}
      (split : scopes = outside ++ last :: rest) {scope : Nat × Definition}
      (member : scope ∈ last :: rest) : scope.1 ≤ last.1 := by
    rw [split] at descending
    obtain rfl | behind := List.mem_cons.mp member
    · exact Nat.le_refl _
    · have ⟨_, descendingBehind, _⟩ := List.pairwise_append.mp descending
      exact Nat.le_of_lt ((List.pairwise_cons.mp descendingBehind).1 scope behind)
  have innermost (isHead : scopes.head?.map Prod.fst = some place) :
      ∃ container, (place, container) ∈ scopes ∧ ∀ scope ∈ scopes, scope.1 ≤ place := by
    obtain ⟨⟨_, container⟩, isFirst, rfl⟩ := Option.map_eq_some_iff.mp isHead
    obtain ⟨rest, split⟩ := List.head?_eq_some_iff.mp isFirst
    exact ⟨container, List.mem_of_head? isFirst,
      fun scope member => @below [] rest _ split scope (split ▸ member)⟩
  unfold parentOf? at isParent
  split at isParent
  · next isAttribute =>
    obtain isType | ⟨-, isHead⟩ := Option.or_eq_some_iff.mp isParent
    · obtain ⟨⟨_, container⟩, found, rfl⟩ := Option.map_eq_some_iff.mp isType
      obtain ⟨isType, outside, rest, split, noTypes⟩ := List.find?_eq_some_iff_append.mp found
      refine ⟨container, List.mem_of_find?_eq_some found, fun scope member ofType => ?_⟩
      have scopeType := ofType isAttribute isType
      refine below split ((List.mem_append.mp (split ▸ member)).resolve_left fun inner => ?_)
      simpa [scopeType] using noTypes scope inner
    · obtain ⟨container, member, last⟩ := innermost isHead
      exact ⟨container, member, fun scope isOpen _ => last scope isOpen⟩
  · obtain ⟨container, member, last⟩ := innermost isParent
    exact ⟨container, member, fun scope isOpen _ => last scope isOpen⟩

theorem Scopes.parentOf?_eq_none_iff {scopes : Scopes} :
    scopes.parentOf? definition = none ↔ scopes = [] := by
  unfold parentOf?
  split
  · rw [Option.or_eq_none_iff, Option.map_eq_none_iff, Option.map_eq_none_iff,
      List.head?_eq_none_iff, and_iff_right_iff_imp]
    rintro rfl
    rfl
  · rw [Option.map_eq_none_iff, List.head?_eq_none_iff]

/-- Each definition is given a parent among the containers that are open before it. -/
theorem exists_openBefore {scopes : Scopes} {count : Nat}
    (opened : scopes.OpenBefore definitions count)
    (isDefinition : definitions[count + index]? = some definition) :
    ∃ current : Scopes, current.OpenBefore definitions (count + index) ∧
      (parentsWithin count scopes (definitions.drop count))[index]? =
        some ((current.within definition.range).parentOf? definition) := by
  induction index generalizing scopes count with
  | zero =>
    rw [Nat.add_zero] at *
    obtain ⟨inside, rfl⟩ := List.getElem?_eq_some_iff.mp isDefinition
    refine ⟨scopes, opened, ?_⟩
    rw [List.drop_eq_getElem_cons inside, parentsWithin, List.getElem?_cons_zero]
  | succ index inductionHypothesis =>
    have inside : count < definitions.length := by
      have := (List.getElem?_eq_some_iff.mp isDefinition).1
      omega
    rw [← Nat.add_assoc, Nat.add_right_comm] at *
    obtain ⟨current, isOpen, isParent⟩ := inductionHypothesis
      (opened.next (List.getElem?_eq_getElem inside)) isDefinition
    refine ⟨current, isOpen, ?_⟩
    rw [List.drop_eq_getElem_cons inside, parentsWithin, List.getElem?_cons_succ]
    exact isParent

/-! ### Lexical parents -/

theorem exists_parentOf?_eq (isDefinition : definitions[index]? = some definition) :
    ∃ scopes : Scopes, scopes.OpenBefore definitions index ∧
      (lexicalParents definitions).parent? index =
        (scopes.within definition.range).parentOf? definition := by
  rw [← Nat.zero_add index] at isDefinition
  obtain ⟨scopes, opened, given⟩ := exists_openBefore (.nil definitions) isDefinition
  rw [Nat.zero_add] at opened
  exact ⟨scopes, opened, congrArg Option.join given⟩

/-- A definition has no lexical parent exactly if no container around it is open. -/
theorem parent?_lexicalParents_eq_none_iff (isDefinition : definitions[index]? = some definition) :
    (lexicalParents definitions).parent? index = none ↔
      ∀ place container, IsOpen definitions index place container →
        ¬ container.range.encloses definition.range := by
  obtain ⟨scopes, opened, given⟩ := exists_parentOf?_eq isDefinition
  rw [given, Scopes.parentOf?_eq_none_iff, List.eq_nil_iff_forall_not_mem]
  simp only [opened.mem_within_iff, Prod.forall, not_and]

/-- A lexical parent is the last open container around its child; for an attribute with an open
type around it, the last such type. -/
theorem exists_isOpen (isDefinition : definitions[index]? = some definition)
    (isParent : (lexicalParents definitions).parent? index = some place) :
    ∃ container, IsOpen definitions index place container ∧
      container.range.encloses definition.range ∧
      ∀ other outer, IsOpen definitions index other outer →
        outer.range.encloses definition.range →
        (definition.kind = .attributeDeclaration → container.kind.isType → outer.kind.isType) →
          other ≤ place := by
  obtain ⟨scopes, opened, given⟩ := exists_parentOf?_eq isDefinition
  obtain ⟨container, member, last⟩ := Scopes.exists_of_parentOf?
    (opened.descending.sublist (List.dropWhile_suffix _).sublist) (given.symm.trans isParent)
  obtain ⟨isOpen, around⟩ := (opened.mem_within_iff (place, container)).mp member
  exact ⟨container, isOpen, around, fun other outer isOuter outerAround =>
    last (other, outer) ((opened.mem_within_iff (other, outer)).mpr ⟨isOuter, outerAround⟩)⟩

/-- In document order a container is open before a later definition that has its range. -/
theorem isOpen_of_same_range
    (sorted : definitions.Pairwise fun earlier later => (compare earlier later).isLE)
    (isDefinition : definitions[index]? = some definition)
    (isContainer : container.kind.isContainer) (isPlace : definitions[place]? = some container)
    (before : place < index) (same : container.range = definition.range) :
    IsOpen definitions index place container := by
  refine ⟨before, isPlace, isContainer, fun between inner after upTo isBetween => ?_⟩
  have ordered {earlier later : Nat} {first second : Definition} (less : earlier < later)
      (isFirst : definitions[earlier]? = some first)
      (isSecond : definitions[later]? = some second) : (compare first second).isLE := by
    obtain ⟨_, rfl⟩ := List.getElem?_eq_some_iff.mp isFirst
    obtain ⟨_, rfl⟩ := List.getElem?_eq_some_iff.mp isSecond
    exact List.pairwise_iff_getElem.mp sorted _ _ _ _ less
  have ⟨start_le, stop_le⟩ := start_and_stop_of_compare (ordered after isPlace isBetween)
  have ⟨le_start, _⟩ := start_and_stop_of_compare (ordered upTo isBetween isDefinition)
  rw [← same] at le_start
  exact ByteRange.encloses_iff.mpr ⟨start_le, stop_le (Nat.le_antisymm start_le le_start)⟩

/-- A lexical parent has the range of its child exactly if an earlier container has it; for an
attribute in a type, an earlier type. -/
theorem range_eq_iff_exists_twin
    (sorted : definitions.Pairwise fun earlier later => (compare earlier later).isLE)
    (isDefinition : definitions[index]? = some definition)
    (isParent : (lexicalParents definitions).parent? index = some place) :
    ∃ container, IsOpen definitions index place container ∧
      container.range.encloses definition.range ∧
      (container.range = definition.range ↔
        ∃ other twin, other < index ∧ definitions[other]? = some twin ∧
          twin.range = definition.range ∧ twin.kind.isContainer ∧
          (definition.kind = .attributeDeclaration → container.kind.isType →
            twin.kind.isType)) := by
  obtain ⟨container, isOpen, around, last⟩ := exists_isOpen isDefinition isParent
  refine ⟨container, isOpen, around, fun same => ?_, ?_⟩
  · exact ⟨place, container, isOpen.before, isOpen.isPlace, same, isOpen.isContainer,
      fun _ isType => isType⟩
  · rintro ⟨other, twin, before, isTwin, same, twinContainer, ofType⟩
    have twinOpen := isOpen_of_same_range sorted isDefinition twinContainer isTwin before same
    obtain less | rfl := Nat.lt_or_eq_of_le
      (last other twin twinOpen (same ▸ ByteRange.encloses_refl _) ofType)
    · exact ByteRange.eq_of_encloses around
        (same ▸ twinOpen.encloses place container less isOpen.before isOpen.isPlace)
    · obtain rfl := Option.some.inj (isTwin.symm.trans isOpen.isPlace)
      exact same

/-- A definition without an owner keeps its lexical parent. -/
theorem parent?_parents_of_unowned (isDefinition : definitions[index]? = some definition)
    (unowned : definition.owner = none) :
    (parents definitions).parent? index = (lexicalParents definitions).parent? index := by
  rw [parent?_parents_eq isDefinition, ← parent?_parentsBefore_self]
  simp only [linkOwner, unowned]

/-- The innermost container around a definition: the last one of the open ones around it. -/
structure IsInnermost (definitions : List Definition) (index place : Nat)
    (definition container : Definition) : Prop where
  isDefinition : definitions[index]? = some definition
  isOpen : IsOpen definitions index place container
  encloses : container.range.encloses definition.range
  last : ∀ other outer, IsOpen definitions index other outer →
    outer.range.encloses definition.range → other ≤ place

/-- Without an owner a definition that is no attribute lies in its innermost container. -/
theorem exists_isInnermost (isDefinition : definitions[index]? = some definition)
    (unowned : definition.owner = none) (notAttribute : definition.kind ≠ .attributeDeclaration)
    (isParent : (parents definitions).parent? index = some place) :
    ∃ container, IsInnermost definitions index place definition container := by
  rw [parent?_parents_of_unowned isDefinition unowned] at isParent
  obtain ⟨container, isOpen, encloses, last⟩ := exists_isOpen isDefinition isParent
  exact ⟨container, isDefinition, isOpen, encloses, fun other outer isOuter around =>
    last other outer isOuter around fun isAttribute => absurd isAttribute notAttribute⟩

end Definition

namespace Extraction

open Definition

/-- In every syntax tree a definition without an owner has a parent exactly if a container around it
is open. It lies in that parent, and strictly unless an earlier container has its range. -/
theorem encloses_parent (language : Language) (source : SourceText) (tree : SyntaxTree)
    {index : Nat} {definition : Definition}
    (isDefinition : (definitionsIn language source tree)[index]? = some definition)
    (unowned : definition.owner = none) :
    ((parents (definitionsIn language source tree)).parent? index = none ↔
      ∀ place container, IsOpen (definitionsIn language source tree) index place container →
        ¬ container.range.encloses definition.range) ∧
    ∀ place, (parents (definitionsIn language source tree)).parent? index = some place →
      ∃ container, IsOpen (definitionsIn language source tree) index place container ∧
        container.range.encloses definition.range ∧
        (container.range = definition.range ↔
          ∃ other twin, other < index ∧
            (definitionsIn language source tree)[other]? = some twin ∧
            twin.range = definition.range ∧ twin.kind.isContainer ∧
              (definition.kind = .attributeDeclaration → container.kind.isType →
                twin.kind.isType)) := by
  rw [parent?_parents_of_unowned isDefinition unowned]
  refine ⟨parent?_lexicalParents_eq_none_iff isDefinition, fun place isParent => ?_⟩
  exact range_eq_iff_exists_twin (pairwise_merge _) isDefinition isParent

/-- A declaration of two names for one structure. -/
def twinNamesSource : SourceText :=
  .ofString "typedef struct \x7b int k; \x7d T, U;\n"

/-- Its syntax tree. -/
def twinNamesTree : SyntaxTree :=
  let leaf (index : Nat) (kind : String) (start stop : Nat) (field : String) : SyntaxTree :=
    .node { index, kind, start, stop, field } []
  .node { index := 0, kind := "translation_unit", start := 0, stop := 32 } [
    .node { index := 1, kind := "type_definition", start := 0, stop := 31 } [
      .node { index := 2, kind := "struct_specifier", start := 8, stop := 25, field := "type" } [
        .node { index := 3, kind := "field_declaration_list", start := 15, stop := 25,
                field := "body" }
          [.node { index := 4, kind := "field_declaration", start := 17, stop := 23 } [
            leaf 5 "primitive_type" 17 20 "type", leaf 6 "field_identifier" 21 22 "declarator"]]],
      leaf 7 "type_identifier" 26 27 "declarator", leaf 8 "type_identifier" 29 30 "declarator"]]

/-- Its definitions: both names have the range of the declaration. -/
def twinNames : List Definition :=
  [(.structDefinition, ⟨0, 31⟩, ⟨26, 27⟩, "T"), (.structDefinition, ⟨0, 31⟩, ⟨29, 30⟩, "U"),
    (.attributeDeclaration, ⟨17, 23⟩, ⟨21, 22⟩, "k")].map fun (kind, range, nameRange, name) =>
      { kind, range, nameRange := some nameRange, span := ⟨1, 1⟩, name, owner := none }

theorem definitionsIn_twinNames :
    definitionsIn .c twinNamesSource twinNamesTree = twinNames := by
  rw [definitionsIn_eq]
  decide +kernel

/-- The field lies strictly in the second of the two structures. -/
theorem encloses_parent_of_twinNames :
    ∃ container, twinNames[1]? = some container ∧ container.range.encloses ⟨17, 23⟩ ∧
      container.range ≠ ⟨17, 23⟩ := by
  have isParent : (parents (definitionsIn .c twinNamesSource twinNamesTree)).parent? 2 =
      some 1 := by
    rw [definitionsIn_twinNames]
    decide +kernel
  obtain ⟨container, isOpen, around, same⟩ := (encloses_parent .c twinNamesSource twinNamesTree
    (congrArg (·[2]?) definitionsIn_twinNames) rfl).2 1 isParent
  rw [definitionsIn_twinNames] at isOpen same
  have apart : ∀ twin ∈ twinNames.take 2, twin.range ≠ ⟨17, 23⟩ := by decide
  refine ⟨container, isOpen.isPlace, around, fun sameRange => ?_⟩
  obtain ⟨other, twin, before, isTwin, isSame, -⟩ := same.mp sameRange
  rw [← List.getElem?_take_of_lt before] at isTwin
  exact apart twin (List.mem_of_getElem? isTwin) isSame

/-- The second structure has the range of the first one and lies in it. -/
theorem not_strictly_encloses_of_twinNames :
    ¬ ∀ language source tree index place definition container,
      (definitionsIn language source tree)[index]? = some definition →
        definition.owner = none →
          (parents (definitionsIn language source tree)).parent? index = some place →
            (definitionsIn language source tree)[place]? = some container →
              container.range.encloses definition.range ∧
                container.range ≠ definition.range := by
  intro strictly
  have apart := strictly .c twinNamesSource twinNamesTree 1 0 twinNames[1] twinNames[0]
  rw [definitionsIn_twinNames] at apart
  exact (apart rfl rfl (by decide +kernel) rfl).2 rfl

end Extraction

end CodeGraph
