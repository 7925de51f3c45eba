/-
This file proves that the canonical name of a definition grows on the way down, in a measure that
depends on the class and the name of an entity only.

A name has the names of all definitions around it as its parts, so it has more dots than the name
of its parent. There is one exception. A function may show an owner that is not found, which is one
more part of its own name and no part of the names of what stands in it; then both may have as many
dots. Such a function is a method, since it has an owner. What stands in it is no method unless it
shows an owner itself, because it does not stand in a type. Twice the number of dots, with one more
for what is no method, therefore always grows (`Definition.namingRank_lt`).

The dots are counted part by part, with one for the dot before or after each part. That names may
hold dots themselves does no harm: the parts that the name of the parent has in common with that of
the child count the same in both. Only of owners it is assumed that they hold none. The same
division into parts shows that a canonical name holds no zero character if the path of the file
holds none.
-/
import CodeGraph.Proofs.Extraction.Definitions
import CodeGraph.Proofs.Extraction.ParentForest
import CodeGraph.Proofs.Graph.Identifier
import CodeGraph.Proofs.Text.Characters

namespace CodeGraph

/-- The number of dots in a text. -/
def dotCount (text : String) : Nat := text.toList.count '.'

/-- The measure that grows on the way down: twice the number of dots in the canonical name, and
one more for what is no method. -/
def namingRank (className canonicalName : String) : Nat :=
  2 * dotCount canonicalName + if className = Term.methodDefinition then 0 else 1

theorem HoldsNoControl.holdsNoZero {text : String} (printable : HoldsNoControl text) :
    HoldsNoZero text :=
  fun member => printable _ member (by decide)

namespace Definition

/-- Only functions carry owners, and no owner holds a dot. -/
def OwnersFit (definitions : List Definition) : Prop :=
  ∀ definition ∈ definitions, ∀ owner, definition.owner = some owner →
    definition.kind = .functionDefinition ∧ '.' ∉ owner.toList

instance (definitions : List Definition) : Decidable (OwnersFit definitions) :=
  inferInstanceAs (Decidable (∀ definition ∈ definitions, ∀ owner ∈ definition.owner,
    definition.kind = .functionDefinition ∧ '.' ∉ owner.toList))

variable {definitions : List Definition} {parents : ParentTable} {index : Nat}

/-! ### Classes -/

/-- The class of a definition is that of its kind, or that of methods. -/
theorem className_cases (definition : Definition) :
    (className definitions parents index definition = Term.methodDefinition ∧
        (isTypeAt definitions (parents.parent? index) ∨ definition.owner.isSome)) ∨
      className definitions parents index definition =
        (Term.classOf? definition.kind).getD Construct.comment.name := by
  unfold className
  split
  · next isMethod => exact .inl ⟨rfl, isMethod.2⟩
  · exact .inr rfl

theorem className_mem_constructClasses (definition : Definition) :
    className definitions parents index definition ∈ Term.constructClasses := by
  rcases className_cases definition with ⟨same, _⟩ | same <;> rw [same]
  · decide
  · cases definition.kind <;> decide

theorem className_eq_method_of_owner {definition : Definition}
    (isFunction : definition.kind = .functionDefinition) (owned : definition.owner.isSome) :
    className definitions parents index definition = Term.methodDefinition :=
  if_pos ⟨isFunction, .inr owned⟩

theorem className_ne_method {definition : Definition}
    (outside : isTypeAt definitions (parents.parent? index) = false)
    (unowned : definition.owner = none) :
    className definitions parents index definition ≠ Term.methodDefinition := by
  rcases className_cases definition with ⟨_, inType | owned⟩ | same
  · rw [outside] at inType
    cases inType
  · rw [unowned] at owned
    cases owned
  · rw [same]
    cases definition.kind <;> decide

/-! ### Parts of names -/

/-- The names of the definitions around a definition, from the outside. -/
def namesAround (definitions : List Definition) (parents : ParentTable) (index : Nat) :
    List String :=
  (parents.ancestors index).reverse.filterMap fun ancestor =>
    (definitions[ancestor]?).map Definition.name

/-- The owner that the canonical name of a definition shows. -/
def shownOwner (definitions : List Definition) (parents : ParentTable) (index : Nat)
    (definition : Definition) : List String :=
  if isTypeAt definitions (parents.parent? index) then [] else definition.owner.toList

theorem nameParts_eq (module : String) (definition : Definition) :
    nameParts module definitions parents index definition =
      (if module = "" then [] else [module]) ++ namesAround definitions parents index
        ++ shownOwner definitions parents index definition ++ [definition.name] := rfl

/-- Around a definition are its parent and what is around the parent. -/
theorem namesAround_of_parent? (forest : parents.IsForest) {parent : Nat} {around : Definition}
    (isParent : parents.parent? index = some parent)
    (isAround : definitions[parent]? = some around) :
    namesAround definitions parents index =
      namesAround definitions parents parent ++ [around.name] := by
  rw [namesAround, forest.ancestors_of_parent? isParent, List.reverse_cons, List.filterMap_append,
    List.filterMap_cons, isAround]
  rfl

theorem mem_definition_of_mem_namesAround {name : String}
    (member : name ∈ namesAround definitions parents index) :
    ∃ definition ∈ definitions, definition.name = name := by
  obtain ⟨ancestor, _, named⟩ := List.mem_filterMap.mp member
  obtain ⟨definition, isDefinition, same⟩ := Option.map_eq_some_iff.mp named
  exact ⟨definition, List.mem_of_getElem? isDefinition, same⟩

theorem mem_owner_of_mem_shownOwner {definition : Definition} {owner : String}
    (member : owner ∈ shownOwner definitions parents index definition) :
    definition.owner = some owner := by
  unfold shownOwner at member
  split at member
  · cases member
  · exact Option.mem_toList.mp member

/-- A canonical name holds no zero character if the path of the file holds none. -/
theorem holdsNoZero_canonicalName {path : String} {definition : Definition}
    (cleanPath : HoldsNoZero path) (named : ∀ other ∈ definitions, other.IsNamed)
    (isDefinition : definition ∈ definitions) :
    HoldsNoZero (canonicalName (Path.moduleName path) definitions parents index definition) := by
  have cleanModule : HoldsNoZero (Path.moduleName path) := fun member =>
    (Path.mem_of_mem_moduleName member).elim (by decide) cleanPath
  have isNamed := named definition isDefinition
  intro member
  rcases Text.mem_intercalate member with dot | ⟨part, isPart, inside⟩
  · exact absurd dot (by decide)
  refine absurd inside ?_
  show HoldsNoZero part
  rw [nameParts_eq, List.mem_append, List.mem_append, List.mem_append] at isPart
  rcases isPart with ((inModule | around) | owner) | itself
  · split at inModule
    · cases inModule
    · rwa [List.mem_singleton.mp inModule]
  · obtain ⟨other, isOther, rfl⟩ := mem_definition_of_mem_namesAround around
    exact (named other isOther).name.holdsNoZero
  · exact (isNamed.owner part (mem_owner_of_mem_shownOwner owner)).holdsNoZero
  · rw [List.mem_singleton.mp itself]
    exact isNamed.name.holdsNoZero

/-! ### Dots -/

/-- The dots of the parts, and one for the dot before or after each of them. -/
def dotsOf : List String → Nat
  | [] => 0
  | part :: rest => dotCount part + 1 + dotsOf rest

theorem dotsOf_append (first second : List String) :
    dotsOf (first ++ second) = dotsOf first + dotsOf second := by
  induction first with
  | nil => rw [List.nil_append, dotsOf, Nat.zero_add]
  | cons part rest inductionHypothesis =>
    rw [List.cons_append, dotsOf, inductionHypothesis, dotsOf, Nat.add_assoc _ (dotsOf rest)]

theorem dotCount_append (first second : String) :
    dotCount (first ++ second) = dotCount first + dotCount second := by
  rw [dotCount, String.toList_append, List.count_append, dotCount, dotCount]

theorem dotCount_intercalate {parts : List String} (nonempty : parts ≠ []) :
    dotCount (".".intercalate parts) + 1 = dotsOf parts := by
  induction parts with
  | nil => exact absurd rfl nonempty
  | cons part rest inductionHypothesis =>
    by_cases last : rest = []
    · subst last
      rw [String.intercalate_singleton]
      rfl
    · rw [String.intercalate_cons_of_ne_nil last, dotCount_append, dotCount_append, dotsOf,
        ← inductionHypothesis last, show dotCount "." = 1 by decide]
      omega

theorem dotCount_canonicalName (module : String) (definition : Definition) :
    dotCount (canonicalName module definitions parents index definition) + 1 =
      dotsOf (nameParts module definitions parents index definition) :=
  dotCount_intercalate (by simp [nameParts])

/-- An owner that is shown counts once, and what shows it is a method. -/
theorem dotsOf_shownOwner_cases (fit : OwnersFit definitions) {definition : Definition}
    (member : definition ∈ definitions) :
    dotsOf (shownOwner definitions parents index definition) = 0 ∨
      dotsOf (shownOwner definitions parents index definition) = 1 ∧
        definition.kind = .functionDefinition ∧
        className definitions parents index definition = Term.methodDefinition := by
  unfold shownOwner
  split
  · exact .inl rfl
  · cases owned : definition.owner with
    | none => exact .inl rfl
    | some owner =>
      have ⟨isFunction, noDot⟩ := fit definition member owner owned
      refine .inr ⟨?_, isFunction, className_eq_method_of_owner isFunction (by rw [owned]; rfl)⟩
      show dotCount owner + 1 + 0 = 1
      rw [dotCount, List.count_eq_zero_of_not_mem noDot]

/-- Outside of types a definition shows its owner, or it is no method. -/
theorem dotsOf_shownOwner_pos_or_ne_method {definition : Definition}
    (outside : isTypeAt definitions (parents.parent? index) = false) :
    0 < dotsOf (shownOwner definitions parents index definition) ∨
      className definitions parents index definition ≠ Term.methodDefinition := by
  cases owned : definition.owner with
  | none => exact .inr (className_ne_method outside owned)
  | some owner =>
    refine .inl ?_
    rw [shownOwner, outside, owned]
    exact Nat.succ_pos _

/-- The measure grows from a definition to what stands directly in it. -/
theorem namingRank_lt (fit : OwnersFit definitions) (forest : parents.IsForest) (module : String)
    {parent : Nat} {around : Definition} (definition : Definition)
    (isParent : parents.parent? index = some parent)
    (isAround : definitions[parent]? = some around) :
    namingRank (className definitions parents parent around)
        (canonicalName module definitions parents parent around) <
      namingRank (className definitions parents index definition)
        (canonicalName module definitions parents index definition) := by
  have single (name : String) : dotsOf [name] = dotCount name + 1 := rfl
  have outer := @dotCount_canonicalName definitions parents parent module around
  have inner := @dotCount_canonicalName definitions parents index module definition
  rw [nameParts_eq, dotsOf_append, dotsOf_append, dotsOf_append, single] at outer
  rw [nameParts_eq, dotsOf_append, dotsOf_append, dotsOf_append, single,
    namesAround_of_parent? forest isParent isAround, dotsOf_append, single] at inner
  unfold namingRank
  rcases @dotsOf_shownOwner_cases definitions parents parent fit around
    (List.mem_of_getElem? isAround) with hidden | ⟨shown, isFunction, isMethod⟩
  · -- the names of the parent are a proper part of the names of the definition
    split <;> split <;> omega
  · have outside : isTypeAt definitions (parents.parent? index) = false := by
      rw [isParent, isTypeAt, Option.bind_some, isAround, Option.any_some, isFunction]
      rfl
    rw [if_pos isMethod]
    rcases @dotsOf_shownOwner_pos_or_ne_method definitions parents index definition outside with
      shownToo | noMethod
    · split <;> omega
    · rw [if_neg noMethod]
      omega

end Definition

end CodeGraph
