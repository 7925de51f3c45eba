/-
This file proves what is known of the definitions of a file, whatever its source and its syntax
tree are.

A definition comes into being when a match of a pattern is captured, and it changes only when it is
united with another one of the same construct. So what is known of all definitions is proved in two
steps: it holds of what is captured, and uniting two definitions keeps it
(`forall_mem_definitionsIn`). What a match can be captured as is said once
(`ofMatch_eq_definition`). By it every definition is a construct that becomes an entity, and its
name and its owner hold no control character, also if the name is one that a comment was given; and
none ends above the line on which it begins.

Who has an owner is a matter of the query tables. A pattern that does not speak of owners captures
none, so in a language without such a pattern no definition has one. In the others only patterns
for functions and for references speak of owners, which is checked by computation. Uniting may hand
the owner of a function on to a definition of another kind, but only to one that wins over
functions, and the ranks of the kinds say which those are (`Extraction.owner_eq_none_of_rank_lt`).
-/
import CodeGraph.Extraction.Basic
import CodeGraph.Proofs.SyntaxTree.Roles

namespace CodeGraph

/-- Whether a text holds no control character. -/
def HoldsNoControl (text : String) : Prop := ∀ character ∈ text.toList, ¬Text.isControl character

instance (text : String) : Decidable (HoldsNoControl text) := List.decidableBAll _ _

namespace Definition

/-! ### Merging -/

variable {holds : Definition → Prop}

theorem forall_mem_addMerged
    (closed : ∀ earlier later, holds earlier → holds later → holds (earlier.unite later))
    {definition : Definition} {merged : List Definition} (given : holds definition)
    (before : ∀ other ∈ merged, holds other) :
    ∀ other ∈ addMerged definition merged, holds other := by
  induction merged with
  | nil =>
    intro other member
    rwa [List.mem_singleton.mp member]
  | cons head rest inductionHypothesis =>
    have ⟨headHolds, restHold⟩ := List.forall_mem_cons.mp before
    unfold addMerged
    split
    · exact List.forall_mem_cons.mpr ⟨closed head definition headHolds given, restHold⟩
    · exact List.forall_mem_cons.mpr ⟨headHolds, inductionHypothesis restHold⟩

/-- What holds of definitions holds of the merged ones, if uniting two definitions keeps it. -/
theorem forall_mem_merge
    (closed : ∀ earlier later, holds earlier → holds later → holds (earlier.unite later))
    {definitions : List Definition} (given : ∀ definition ∈ definitions, holds definition) :
    ∀ definition ∈ merge definitions, holds definition := by
  have step (merged : List Definition) (before : ∀ other ∈ merged, holds other) :
      ∀ other ∈ definitions.foldl (fun merged definition => addMerged definition merged) merged,
        holds other := by
    induction definitions generalizing merged with
    | nil => exact before
    | cons head rest inductionHypothesis =>
      have ⟨headHolds, restHold⟩ := List.forall_mem_cons.mp given
      exact inductionHypothesis restHold _ (forall_mem_addMerged closed headHolds before)
  intro definition member
  exact step [] (fun _ none => absurd none List.not_mem_nil) definition
    ((mem_sortBy compare).mp member)

instance transCmp_compareStop :
    Std.TransCmp fun left right : Definition => Ord.compare right.range.stop left.range.stop where
  eq_swap := Std.OrientedCmp.eq_swap
  isLE_trans first second := Std.TransCmp.isLE_trans second first

instance transCmp_compare : Std.TransCmp compare := by
  unfold compare
  infer_instance

/-- The merged definitions stand in document order. -/
theorem pairwise_merge (definitions : List Definition) :
    (merge definitions).Pairwise fun earlier later => (compare earlier later).isLE :=
  pairwise_sortBy compare _

/-- United definitions are of the kind, the name and the lines of one of the two, and so is their
owner. -/
theorem unite_cases (earlier later : Definition) :
    ((earlier.unite later).kind = earlier.kind ∨ (earlier.unite later).kind = later.kind) ∧
      ((earlier.unite later).name = earlier.name ∨ (earlier.unite later).name = later.name) ∧
      ((earlier.unite later).span = earlier.span ∨ (earlier.unite later).span = later.span) ∧
      ((earlier.unite later).owner = earlier.owner ∨
        (earlier.unite later).owner = later.owner) := by
  unfold unite
  split
  · refine ⟨.inr rfl, .inr rfl, .inr rfl, ?_⟩
    cases later.owner with
    | none => exact .inl rfl
    | some owner => exact .inr rfl
  · split
    · refine ⟨.inl rfl, .inl rfl, .inl rfl, ?_⟩
      cases earlier.owner with
      | none => exact .inr rfl
      | some owner => exact .inl rfl
    · exact ⟨.inl rfl, .inl rfl, .inl rfl, .inl rfl⟩

/-! ### Captures -/

/-- A definition that can become an entity: it is no reference, and what it is called can be
printed on one line. -/
structure IsNamed (definition : Definition) : Prop where
  notReference : definition.kind.isReference = false
  name : HoldsNoControl definition.name
  owner : ∀ owner, definition.owner = some owner → HoldsNoControl owner

theorem IsNamed.unite {earlier later : Definition} (first : earlier.IsNamed)
    (second : later.IsNamed) : (earlier.unite later).IsNamed := by
  have ⟨kind, name, _, owner⟩ := unite_cases earlier later
  refine ⟨?_, ?_, fun given isOwner => ?_⟩
  · rcases kind with same | same <;> rw [same]
    · exact first.notReference
    · exact second.notReference
  · rcases name with same | same <;> rw [same]
    · exact first.name
    · exact second.name
  · rcases owner with same | same <;> rw [same] at isOwner
    · exact first.owner given isOwner
    · exact second.owner given isOwner

end Definition

namespace Capture

open Text

theorem holdsNoControl_of_usable? {name : List Char} {text : String}
    (isUsable : usable? name = some text) : HoldsNoControl text := by
  unfold usable? at isUsable
  split at isUsable
  · cases isUsable
  · next plain =>
    obtain rfl := Option.some.inj isUsable
    intro character member control
    rw [String.toList_ofList] at member
    exact plain (Bool.or_eq_true_iff.mpr (.inr (List.any_eq_true.mpr ⟨character, member, control⟩)))

theorem not_isControl_of_isDigit {character : Char} (digit : character.isDigit) :
    ¬isControl character := by
  have ⟨atLeast, atMost⟩ := Bool.and_eq_true_iff.mp digit
  have low : 48 ≤ character.toNat := by simpa [UInt32.le_iff_toNat_le] using atLeast
  have high : character.toNat ≤ 57 := by simpa [UInt32.le_iff_toNat_le] using atMost
  simp only [isControl, Bool.or_eq_true, decide_eq_true_eq, Bool.and_eq_true]
  omega

/-- The name of a comment is printable whatever its place is. -/
theorem holdsNoControl_commentName (source : SourceText) (node : SyntaxNode) :
    HoldsNoControl (commentName source node) := by
  have digits (number : Nat) : HoldsNoControl (toString number) := by
    intro character member
    rw [Nat.toString_eq_repr, Nat.toList_repr] at member
    exact not_isControl_of_isDigit
      (Nat.isDigit_of_mem_toDigits (by decide) (by decide) member)
  intro character member
  simp only [commentName, String.toList_append, List.mem_append] at member
  rcases member with ((start | line) | between) | column
  · exact (by decide : HoldsNoControl "comment_L") character start
  · exact digits _ character line
  · exact (by decide : HoldsNoControl "C") character between
  · exact digits _ character column

/-- What a captured definition is made of. -/
theorem ofMatch_eq_definition {source : SourceText} {kind : Construct} {pattern : Nat}
    {found : Match} {definition : Definition}
    (captured : ofMatch source kind pattern found = .ok (.definition definition)) :
    ObservationKind.ofConstruct? kind = none ∧ definition.kind = kind ∧
      (∃ anchor, definedName? source kind anchor found = some definition.name ∧
        definition.span = spanOf source anchor) ∧
      definition.owner = nameIn? source found .owner := by
  unfold ofMatch at captured
  split at captured
  · cases captured
  · next anchor _ =>
    simp only at captured
    split at captured
    · split at captured <;> cases captured
    · next notObserved =>
      split at captured
      · cases captured
      · next name named =>
        cases captured
        exact ⟨notObserved, rfl, ⟨anchor, named, rfl⟩, rfl⟩

/-- Every definition that is captured can become an entity. -/
theorem isNamed_of_ofMatch {source : SourceText} {kind : Construct} {pattern : Nat} {found : Match}
    {definition : Definition}
    (captured : ofMatch source kind pattern found = .ok (.definition definition)) :
    definition.IsNamed := by
  obtain ⟨notObserved, isKind, ⟨anchor, named, _⟩, isOwner⟩ := ofMatch_eq_definition captured
  refine ⟨?_, ?_, fun owner owned => ?_⟩
  · rw [isKind]
    cases kind <;> first | rfl | cases notObserved
  · unfold definedName? at named
    split at named
    · rw [← Option.some.inj named]
      exact holdsNoControl_commentName source anchor
    · exact holdsNoControl_of_usable? named
  · obtain ⟨node, _, clean⟩ := Option.bind_eq_some_iff.mp (isOwner.symm.trans owned)
    exact holdsNoControl_of_usable? clean

/-- A captured definition of a table comes from a match of one of its patterns. -/
theorem exists_of_mem_ofTable {source : SourceText} {tree : SyntaxTree} {table : Queries.Table}
    {outcome : Except ExtractionWarning Capture} (member : outcome ∈ ofTable source tree table) :
    ∃ kind patterns pattern index found, (kind, patterns) ∈ table ∧ pattern ∈ patterns ∧
      found ∈ pattern.search source tree ∧ ofMatch source kind index found = outcome := by
  obtain ⟨⟨kind, patterns⟩, isEntry, member⟩ := List.mem_flatMap.mp member
  obtain ⟨⟨pattern, index⟩, isPattern, member⟩ := List.mem_flatMap.mp member
  obtain ⟨found, isFound, same⟩ := List.mem_map.mp member
  exact ⟨kind, patterns, pattern, index, found, isEntry, List.fst_mem_of_mem_zipIdx isPattern,
    isFound, same⟩

end Capture

/-- Whether a language has a pattern that captures the owner of a definition. -/
def Language.namesOwners (language : Language) : Bool :=
  language.queries.any fun (_, patterns) => patterns.any (Pattern.speaksOf .owner)

namespace Extraction

/-- The definitions of a syntax tree, one for each construct. -/
def definitionsIn (language : Language) (source : SourceText) (tree : SyntaxTree) :
    List Definition :=
  Definition.merge ((Capture.ofTable source tree language.queries).filterMap definition?)

theorem eq_definition_of_definition?_eq_some {outcome : Except ExtractionWarning Capture}
    {definition : Definition} (isDefinition : definition? outcome = some definition) :
    outcome = .ok (.definition definition) := by
  unfold definition? at isDefinition
  split at isDefinition
  · rw [Option.some.inj isDefinition]
  · cases isDefinition

theorem eq_reference_of_reference?_eq_some {outcome : Except ExtractionWarning Capture}
    {reference : Reference} (isReference : reference? outcome = some reference) :
    outcome = .ok (.reference reference) := by
  unfold reference? at isReference
  split at isReference
  · rw [Option.some.inj isReference]
  · cases isReference

/-- The definitions that the patterns of a language capture, before they are united. -/
def captured (language : Language) (source : SourceText) (tree : SyntaxTree) : List Definition :=
  (Capture.ofTable source tree language.queries).filterMap definition?

theorem exists_match_of_mem_captured {language : Language} {source : SourceText}
    {tree : SyntaxTree} {definition : Definition}
    (member : definition ∈ captured language source tree) :
    ∃ kind patterns pattern index found, (kind, patterns) ∈ language.queries ∧
      pattern ∈ patterns ∧ found ∈ pattern.search source tree ∧
      Capture.ofMatch source kind index found = .ok (.definition definition) := by
  obtain ⟨outcome, isOutcome, isDefinition⟩ := List.mem_filterMap.mp member
  obtain ⟨kind, patterns, pattern, index, found, isEntry, isPattern, isFound, same⟩ :=
    Capture.exists_of_mem_ofTable isOutcome
  exact ⟨kind, patterns, pattern, index, found, isEntry, isPattern, isFound,
    same.trans (eq_definition_of_definition?_eq_some isDefinition)⟩

/-- What holds of the definitions that the patterns of a language capture holds of those of a tree,
if uniting two definitions keeps it. -/
theorem forall_mem_definitionsIn {holds : Definition → Prop} {language : Language}
    {source : SourceText} {tree : SyntaxTree}
    (closed : ∀ earlier later, holds earlier → holds later → holds (earlier.unite later))
    (captured : ∀ {kind patterns pattern index found definition},
      (kind, patterns) ∈ language.queries → pattern ∈ patterns →
        found ∈ pattern.search source tree →
          Capture.ofMatch source kind index found = .ok (.definition definition) →
            holds definition) :
    ∀ definition ∈ definitionsIn language source tree, holds definition := by
  refine Definition.forall_mem_merge closed fun definition isCaptured => ?_
  obtain ⟨kind, patterns, pattern, index, found, isEntry, isPattern, isFound, isMatch⟩ :=
    exists_match_of_mem_captured isCaptured
  exact captured isEntry isPattern isFound isMatch

/-- Every definition of a tree can become an entity. -/
theorem isNamed_of_mem_definitionsIn {language : Language} {source : SourceText}
    {tree : SyntaxTree} {definition : Definition}
    (member : definition ∈ definitionsIn language source tree) : definition.IsNamed :=
  forall_mem_definitionsIn (fun _ _ first second => first.unite second)
    (fun _ _ _ captured => Capture.isNamed_of_ofMatch captured) definition member

/-- No definition of a tree ends above the line it begins on. -/
theorem startLine_le_endLine {language : Language} {source : SourceText} {tree : SyntaxTree}
    {definition : Definition} (member : definition ∈ definitionsIn language source tree) :
    definition.span.startLine ≤ definition.span.endLine := by
  refine @forall_mem_definitionsIn
    (fun definition => definition.span.startLine ≤ definition.span.endLine) _ _ _
    (fun earlier later first second => ?_) (fun _ _ _ captured => ?_) definition member
  · rcases (Definition.unite_cases earlier later).2.2.1 with same | same <;> rwa [same]
  · obtain ⟨_, _, ⟨anchor, _, isSpan⟩, _⟩ := Capture.ofMatch_eq_definition captured
    rw [isSpan]
    exact Nat.le_max_right _ _

/-- In a language that names no owners no definition has one. -/
theorem owner_eq_none_of_mem_definitionsIn {language : Language} {source : SourceText}
    {tree : SyntaxTree} (silent : language.namesOwners = false) {definition : Definition}
    (member : definition ∈ definitionsIn language source tree) : definition.owner = none := by
  refine @forall_mem_definitionsIn (fun definition => definition.owner = none) _ _ _
    (fun earlier later first second => ?_)
    (fun {kind patterns pattern _ _ _} isEntry isPattern isFound captured => ?_) definition member
  · rcases (Definition.unite_cases earlier later).2.2.2 with same | same <;> rwa [same]
  · have unspoken : pattern.speaksOf .owner = false := by
      have := List.any_eq_false.mp silent (kind, patterns) isEntry
      simpa using List.any_eq_false.mp (by simpa using this) pattern isPattern
    rw [(Capture.ofMatch_eq_definition captured).2.2.2, Capture.nameIn?,
      Pattern.captured?_eq_none_of_mem_search isFound unspoken]
    rfl

end Extraction

/-! ### Owners -/

/-- Only what finds functions or references captures an owner. -/
theorem Language.kind_of_speaksOf_owner {language : Language} {kind : Construct}
    {patterns : List Pattern} {pattern : Pattern} (isEntry : (kind, patterns) ∈ language.queries)
    (isPattern : pattern ∈ patterns) (speaks : pattern.speaksOf .owner) :
    kind = .functionDefinition ∨ kind.isReference := by
  have each : ∀ entry ∈ language.queries, ∀ pattern ∈ entry.2, pattern.speaksOf .owner →
      entry.1 = .functionDefinition ∨ entry.1.isReference := by
    cases language <;> decide +kernel
  exact each _ isEntry pattern isPattern speaks

/-- A definition with an owner is a function, or of a kind that wins over functions. -/
def Definition.OwnerFitsKind (definition : Definition) : Prop :=
  definition.owner.isSome → definition.kind.rank ≤ Construct.functionDefinition.rank

theorem Definition.OwnerFitsKind.unite {earlier later : Definition} (first : earlier.OwnerFitsKind)
    (second : later.OwnerFitsKind) : (earlier.unite later).OwnerFitsKind := by
  unfold Definition.unite
  split
  · next less =>
    rw [OwnerFitsKind, Option.isSome_or, Bool.or_eq_true]
    rintro (ofLater | ofEarlier)
    · exact second ofLater
    · exact Nat.le_trans (Nat.le_of_lt less) (first ofEarlier)
  · split
    · next sameKind =>
      rw [OwnerFitsKind, Option.isSome_or, Bool.or_eq_true]
      rintro (ofEarlier | ofLater)
      · exact first ofEarlier
      · exact sameKind ▸ second ofLater
    · exact first

theorem Extraction.ownerFitsKind_of_mem_definitionsIn {language : Language} {source : SourceText}
    {tree : SyntaxTree} {definition : Definition}
    (member : definition ∈ definitionsIn language source tree) : definition.OwnerFitsKind := by
  refine forall_mem_definitionsIn (fun _ _ first second => first.unite second)
    (fun {kind patterns pattern _ found captured} isEntry isPattern isFound isCaptured => ?_)
    definition member
  intro owned
  obtain ⟨_, isKind, _, isOwner⟩ := Capture.ofMatch_eq_definition isCaptured
  cases speaks : pattern.speaksOf .owner with
  | false =>
    rw [isOwner, Capture.nameIn?, Pattern.captured?_eq_none_of_mem_search isFound speaks] at owned
    cases owned
  | true =>
    rw [isKind]
    rcases Language.kind_of_speaksOf_owner isEntry isPattern speaks with rfl | isReference
    · exact Nat.le_refl _
    · have notReference := (Capture.isNamed_of_ofMatch isCaptured).notReference
      rw [isKind, isReference] at notReference
      cases notReference

/-- A definition of a kind over which functions win has no owner. -/
theorem Extraction.owner_eq_none_of_rank_lt {language : Language} {source : SourceText}
    {tree : SyntaxTree} {definition : Definition}
    (member : definition ∈ definitionsIn language source tree)
    (behind : Construct.functionDefinition.rank < definition.kind.rank) :
    definition.owner = none :=
  Option.not_isSome_iff_eq_none.mp fun owned =>
    Nat.not_le_of_lt behind (ownerFitsKind_of_mem_definitionsIn member owned)

end CodeGraph
