/-
This file proves that the two ways to find what a place in a source lies in agree. One goes over
the definitions and keeps the containers that are still open; the other one looks through all
definitions before a place for the smallest one around it.

Both need that the definitions come in document order and that their ranges are nested or disjoint
(`Definition.AreLaidOut`). What this gives for two ranges is collected in `ByteRange.Precedes`, and
the facts about it are the only ones that need arithmetic. A later range whose start lies in an
earlier one lies in it altogether, and a range that does not lie around the next one lies around
nothing that follows: it is closed for good.

The invariant of the pass is `Scopes.Follow`: around each definition that is still to come the open
containers are all the containers there are, each within those that were opened before it. The next
definition closes those that do not lie around it, which are exactly the ones in front, and by the
second fact above no later definition misses them (`Scopes.Follow.next`). By induction every
definition chooses its parent among all containers around it. For the search it is shown that it
finds a smallest definition, of several the last one, and that there is only one such
(`smallestEnclosing?_eq_some_iff`). The containers around a place are nested, so they get smaller
in document order; the innermost open one is the last one and hence the smallest.
-/
import Mathlib.Data.List.Induction
import CodeGraph.Extraction.Basic
import CodeGraph.Proofs.Extraction.ParentForest

namespace CodeGraph

/-! ### Ranges in document order -/

namespace ByteRange

variable {first second third : ByteRange} {offset : Nat}

theorem contains_iff : first.contains offset ↔ first.start ≤ offset ∧ offset < first.stop := by
  simp [contains]

theorem encloses_iff :
    first.encloses second ↔ first.start ≤ second.start ∧ second.stop ≤ first.stop := by
  simp [encloses]

/-- Whether two ranges are nested or disjoint, like those of two nodes of one tree. -/
def NestsWith (first second : ByteRange) : Prop :=
  first.encloses second ∨ second.encloses first ∨ first.stop ≤ second.start ∨
    second.stop ≤ first.start

instance (first second : ByteRange) : Decidable (first.NestsWith second) :=
  inferInstanceAs (Decidable (_ ∨ _))

/-- What is known of two ranges of which one comes before the other one in document order. -/
structure Precedes (first second : ByteRange) : Prop where
  start_le : first.start ≤ second.start
  stop_le : first.start = second.start → second.stop ≤ first.stop
  inhabited : second.start < second.stop
  nested : first.NestsWith second

namespace Precedes

/-- Two ranges around one place are nested, the later one in the earlier one. -/
theorem encloses_of_contains (precedes : first.Precedes second) (around : first.contains offset)
    (alsoAround : second.contains offset) : first.encloses second := by
  have ⟨start_le, stop_le, _, nested⟩ := precedes
  simp only [NestsWith, contains_iff, encloses_iff] at *
  omega

/-- A range lies around the start of a later one exactly if it lies around all of it. -/
theorem contains_start_iff (precedes : first.Precedes second) :
    first.contains second.start ↔ first.encloses second := by
  constructor
  · intro around
    exact precedes.encloses_of_contains around
      (contains_iff.mpr ⟨Nat.le_refl _, precedes.inhabited⟩)
  · intro around
    have := precedes.inhabited
    rw [encloses_iff] at around
    exact contains_iff.mpr ⟨around.1, by omega⟩

/-- A range that does not lie around the next one is closed: it lies around nothing behind that. -/
theorem encloses_of_encloses (precedes : first.Precedes second) (onward : second.Precedes third)
    (around : first.encloses third) : first.encloses second := by
  have ⟨_, stop_le⟩ := encloses_iff.mp around
  have startInside := onward.start_le
  have := onward.inhabited
  exact precedes.contains_start_iff.mp (contains_iff.mpr ⟨precedes.start_le, by omega⟩)

end Precedes

end ByteRange

namespace Definition

/-- Definitions in document order whose ranges hold something and are nested or disjoint. -/
structure AreLaidOut (definitions : List Definition) : Prop where
  sorted : definitions.Pairwise fun earlier later => (compare earlier later).isLE
  inhabited : ∀ definition ∈ definitions, definition.range.start < definition.range.stop
  nested : definitions.Pairwise fun earlier later => earlier.range.NestsWith later.range

theorem start_and_stop_of_compare {earlier later : Definition}
    (order : (compare earlier later).isLE) :
    earlier.range.start ≤ later.range.start ∧
      (earlier.range.start = later.range.start → later.range.stop ≤ earlier.range.stop) := by
  rw [compare, compareLex, compareOn, Ordering.isLE_then_iff_or] at order
  rcases order with less | ⟨same, order⟩
  · have := Nat.compare_eq_lt.mp less
    exact ⟨Nat.le_of_lt this, fun same => absurd same (Nat.ne_of_lt this)⟩
  · rw [compareLex, Ordering.isLE_then_iff_or] at order
    refine ⟨Nat.le_of_eq (Nat.compare_eq_eq.mp same), fun _ => ?_⟩
    rcases order with less | ⟨same, _⟩
    · exact Nat.le_of_lt (Nat.compare_eq_lt.mp less)
    · exact Nat.le_of_eq (Nat.compare_eq_eq.mp same)

theorem AreLaidOut.precedes {definitions : List Definition} (laidOut : AreLaidOut definitions) :
    definitions.Pairwise fun earlier later => earlier.range.Precedes later.range := by
  refine (laidOut.sorted.and laidOut.nested).imp_of_mem fun _ isLater both => ?_
  have ⟨start_le, stop_le⟩ := start_and_stop_of_compare both.1
  exact ⟨start_le, stop_le, laidOut.inhabited _ isLater, both.2⟩

/-! ### Open containers -/

/-- The containers around a range, the innermost first, each with its place. -/
def Scopes.around (definitions : List Definition) (range : ByteRange) : Scopes :=
  ((definitions.zipIdx.filter fun (definition, _) =>
    definition.kind.isContainer && definition.range.encloses range).map Prod.swap).reverse

theorem Scopes.around_concat (before : List Definition) (definition : Definition)
    (range : ByteRange) :
    around (before ++ [definition]) range =
      if definition.kind.isContainer && definition.range.encloses range then
        (before.length, definition) :: around before range
      else around before range := by
  rw [around, List.zipIdx_append, List.filter_append, List.map_append, List.reverse_append,
    Nat.zero_add, List.zipIdx_singleton]
  split
  · next isAround => simp [isAround, around]
  · next notAround => simp [notAround, around]

theorem dropWhile_eq_filter {item : Type} {accept : item → Bool} {items : List item}
    (upward : items.Pairwise fun earlier later => accept earlier → accept later) :
    items.dropWhile (fun entry => !accept entry) = items.filter accept := by
  induction items with
  | nil => rfl
  | cons head rest inductionHypothesis =>
    have ⟨above, restUpward⟩ := List.pairwise_cons.mp upward
    cases accepted : accept head with
    | true =>
      rw [List.dropWhile_cons_of_neg (by simp [accepted]), List.filter_cons_of_pos accepted,
        List.filter_eq_self.mpr fun entry member => above entry member accepted]
    | false =>
      rw [List.dropWhile_cons_of_pos (by simp [accepted]),
        List.filter_cons_of_neg (by simp [accepted]), inductionHypothesis restUpward]

/-- What the open containers are when some definitions are passed and others follow: around each
that follows they are all the containers there are, and each lies within those below it. -/
structure Scopes.Follow (scopes : Scopes) (before after : List Definition) : Prop where
  complete : ∀ later ∈ after,
    scopes.filter (fun scope => scope.2.range.encloses later.range) = around before later.range
  chain : scopes.Pairwise fun inner outer => outer.2.range.encloses inner.2.range
  passed : ∀ scope ∈ scopes, scope.2 ∈ before

namespace Scopes.Follow

variable {scopes : Scopes} {before after : List Definition} {definition : Definition}

/-- The containers that are still open at a definition are those around it. -/
theorem within_eq (follow : scopes.Follow before (definition :: after)) :
    scopes.within definition.range = around before definition.range := by
  rw [within, ← follow.complete definition List.mem_cons_self]
  refine dropWhile_eq_filter (follow.chain.imp fun {inner outer} outside inside => ?_)
  rw [ByteRange.encloses_iff] at *
  omega

/-- Passing one definition keeps the open containers what they are. -/
theorem next (follow : scopes.Follow before (definition :: after))
    (precedes : (before ++ definition :: after).Pairwise fun earlier later =>
      earlier.range.Precedes later.range) :
    Follow (if definition.kind.isContainer then
        (before.length, definition) :: around before definition.range
      else around before definition.range) (before ++ [definition]) after := by
  have ⟨_, precedesRest, precedesAcross⟩ := List.pairwise_append.mp precedes
  have precedesAfter := (List.pairwise_cons.mp precedesRest).1
  have kept : around before definition.range =
      scopes.filter fun scope => scope.2.range.encloses definition.range :=
    (follow.complete definition List.mem_cons_self).symm
  have keptPassed (scope : Nat × Definition) (member : scope ∈ around before definition.range) :
      scope.2 ∈ before := by
    rw [kept] at member
    exact follow.passed scope (List.mem_filter.mp member).1
  have keptEnclose (scope : Nat × Definition) (member : scope ∈ around before definition.range) :
      scope.2.range.encloses definition.range := by
    rw [kept] at member
    exact (List.mem_filter.mp member).2
  have keptChain : (around before definition.range).Pairwise fun inner outer =>
      outer.2.range.encloses inner.2.range := by
    rw [kept]
    exact follow.chain.sublist List.filter_sublist
  -- What encloses a later definition encloses this one, so nothing that was closed is missing.
  have keptComplete (later : Definition) (isLater : later ∈ after) :
      (around before definition.range).filter (fun scope => scope.2.range.encloses later.range) =
        around before later.range := by
    rw [kept, List.filter_filter, ← follow.complete later (List.mem_cons_of_mem _ isLater)]
    refine List.filter_congr fun scope member => ?_
    rw [Bool.eq_iff_iff, Bool.and_eq_true_iff, and_iff_left_iff_imp]
    exact (precedesAcross _ (follow.passed scope member) _ List.mem_cons_self).encloses_of_encloses
      (precedesAfter later isLater)
  split
  · next isContainer =>
    refine ⟨fun later isLater => ?_, List.pairwise_cons.mpr ⟨keptEnclose, keptChain⟩,
      List.forall_mem_cons.mpr ⟨List.mem_append_right _ (List.mem_singleton_self _),
        fun scope member => List.mem_append_left _ (keptPassed scope member)⟩⟩
    rw [List.filter_cons, keptComplete later isLater, around_concat, isContainer, Bool.true_and]
  · next notContainer =>
    refine ⟨fun later isLater => ?_, keptChain,
      fun scope member => List.mem_append_left _ (keptPassed scope member)⟩
    rw [keptComplete later isLater, around_concat, Bool.eq_false_iff.mpr notContainer,
      Bool.false_and, if_neg Bool.false_ne_true]

end Scopes.Follow

/-- Each of the definitions that follow is given a parent among the containers around it. -/
theorem getElem?_parentsWithin {scopes : Scopes} {before after : List Definition}
    (precedes : (before ++ after).Pairwise fun earlier later =>
      earlier.range.Precedes later.range)
    (follow : scopes.Follow before after) {index : Nat} {definition : Definition}
    (isDefinition : after[index]? = some definition) :
    (parentsWithin before.length scopes after)[index]? =
      some ((Scopes.around (before ++ after.take index) definition.range).parentOf?
        definition) := by
  induction after generalizing before scopes index with
  | nil => cases isDefinition
  | cons head rest inductionHypothesis =>
    rw [parentsWithin]
    simp only [follow.within_eq]
    cases index with
    | zero =>
      obtain rfl := Option.some.inj isDefinition
      rw [List.getElem?_cons_zero, List.take_zero, List.append_nil]
    | succ index =>
      have concat : before ++ (head :: rest).take (index + 1) =
          (before ++ [head]) ++ rest.take index := by
        rw [List.take_succ_cons, List.append_assoc, List.singleton_append]
      have counted : before.length + 1 = (before ++ [head]).length := by simp
      rw [List.getElem?_cons_succ, concat, counted]
      refine inductionHypothesis ?_ (follow.next precedes) isDefinition
      rwa [List.append_assoc, List.singleton_append]

/-- The lexical parent of a definition is chosen from the containers around it. -/
theorem AreLaidOut.parent?_eq_parentOf? {definitions : List Definition}
    (laidOut : AreLaidOut definitions) {index : Nat} {definition : Definition}
    (isDefinition : definitions[index]? = some definition) :
    (lexicalParents definitions).parent? index =
      (Scopes.around (definitions.take index) definition.range).parentOf? definition := by
  have start : Scopes.Follow [] [] definitions :=
    ⟨fun _ _ => rfl, .nil, fun _ member => nomatch member⟩
  have given := @getElem?_parentsWithin [] [] definitions laidOut.precedes start index definition
    isDefinition
  rw [ParentTable.parent?, lexicalParents]
  exact congrArg Option.join given

/-! ### The smallest definition around a place -/

open Reference

theorem foldl_smaller_concat (entries : List (Definition × Nat)) (last : Definition × Nat) :
    (entries ++ [last]).foldl smaller none = smaller (entries.foldl smaller none) last := by
  rw [List.foldl_append, List.foldl_cons, List.foldl_nil]

/-- Where definitions get smaller and smaller the last one is the smallest. -/
theorem foldl_smaller_eq_getLast? {entries : List (Definition × Nat)}
    (descending : entries.Pairwise fun earlier later =>
      later.1.range.size ≤ earlier.1.range.size) :
    entries.foldl smaller none = entries.getLast? := by
  induction entries using List.reverseRecOn with
  | nil => rfl
  | append_singleton entries last inductionHypothesis =>
    have ⟨earlierDescending, _, lastSmallest⟩ := List.pairwise_append.mp descending
    rw [foldl_smaller_concat, inductionHypothesis earlierDescending, List.getLast?_concat]
    cases found : entries.getLast? with
    | none => rfl
    | some entry =>
      exact if_pos (lastSmallest entry (List.mem_of_getLast? found) last
        (List.mem_singleton_self _))

/-- Among definitions with ascending places the search finds the smallest one, and of several the
last one. -/
theorem foldl_smaller_cases {entries : List (Definition × Nat)}
    (ascending : entries.Pairwise fun earlier later => earlier.2 < later.2) :
    (entries = [] ∧ entries.foldl smaller none = none) ∨
      ∃ found ∈ entries, entries.foldl smaller none = some found ∧
        ∀ other ∈ entries, found.1.range.size < other.1.range.size ∨
          found.1.range.size = other.1.range.size ∧ other.2 ≤ found.2 := by
  induction entries using List.reverseRecOn with
  | nil => exact .inl ⟨rfl, rfl⟩
  | append_singleton entries last inductionHypothesis =>
    have ⟨earlierAscending, _, lastBehind⟩ := List.pairwise_append.mp ascending
    have isLast := List.mem_append_right entries (List.mem_singleton_self last)
    right
    rw [foldl_smaller_concat]
    rcases inductionHypothesis earlierAscending with ⟨rfl, none⟩ | ⟨best, isBest, isFound, least⟩
    · refine ⟨last, isLast, by rw [none, smaller], fun other member => ?_⟩
      rw [List.mem_singleton.mp member]
      exact .inr ⟨rfl, Nat.le_refl _⟩
    · rw [isFound, smaller]
      split
      · next smallest =>
        refine ⟨last, isLast, rfl, fun other member => ?_⟩
        rcases List.mem_append.mp member with isEarlier | isSame
        · have := lastBehind other isEarlier last (List.mem_singleton_self _)
          have := least other isEarlier
          omega
        · rw [List.mem_singleton.mp isSame]
          exact .inr ⟨rfl, Nat.le_refl _⟩
      · next notSmallest =>
        refine ⟨best, List.mem_append_left _ isBest, rfl, fun other member => ?_⟩
        rcases List.mem_append.mp member with isEarlier | isSame
        · exact least other isEarlier
        · rw [List.mem_singleton.mp isSame]
          exact .inl (Nat.lt_of_not_le notSmallest)

/-- A definition of an accepted kind around an offset that is smaller than all others; of those with
its size it is the last one. -/
def IsSmallestAround (definitions : List Definition) (offset : Nat) (accept : Construct → Bool)
    (place : Nat) : Prop :=
  ∃ definition, definitions[place]? = some definition ∧ accept definition.kind ∧
    definition.range.contains offset ∧
    ∀ (other : Nat) (twin : Definition), definitions[other]? = some twin → accept twin.kind →
      twin.range.contains offset → definition.range.size < twin.range.size ∨
        definition.range.size = twin.range.size ∧ other ≤ place

theorem IsSmallestAround.unique {definitions : List Definition} {offset : Nat}
    {accept : Construct → Bool} {place other : Nat}
    (smallest : IsSmallestAround definitions offset accept place)
    (alsoSmallest : IsSmallestAround definitions offset accept other) : place = other := by
  obtain ⟨definition, isDefinition, accepted, around, least⟩ := smallest
  obtain ⟨twin, isTwin, twinAccepted, twinAround, twinLeast⟩ := alsoSmallest
  have := least other twin isTwin twinAccepted twinAround
  have := twinLeast place definition isDefinition accepted around
  omega

theorem pairwise_snd_zipIdx (definitions : List Definition) :
    definitions.zipIdx.Pairwise fun earlier later => earlier.2 < later.2 := by
  rw [← List.pairwise_map (f := Prod.snd), List.zipIdx_map_snd]
  exact List.pairwise_lt_range' 1

/-- The search for the smallest definition around an offset finds what it is meant to find. -/
theorem smallestEnclosing?_eq_some_iff {definitions : List Definition} {offset : Nat}
    {accept : Construct → Bool} {place : Nat} :
    smallestEnclosing? definitions offset accept = some place ↔
      IsSmallestAround definitions offset accept place := by
  have member (entry : Definition × Nat) : entry ∈ definitions.zipIdx.filter (fun
      (definition, _) => accept definition.kind && definition.range.contains offset) ↔
        definitions[entry.2]? = some entry.1 ∧ accept entry.1.kind ∧
          entry.1.range.contains offset := by
    rw [List.mem_filter, List.mem_zipIdx_iff_getElem?, Bool.and_eq_true_iff]
  rw [smallestEnclosing?]
  rcases foldl_smaller_cases ((pairwise_snd_zipIdx definitions).filter _) with
    ⟨none, notFound⟩ | ⟨⟨found, index⟩, isMember, isFound, least⟩
  · rw [notFound]
    refine ⟨(nomatch ·), fun ⟨definition, isDefinition, accepted, around, _⟩ => ?_⟩
    have candidate := (member (definition, place)).mpr ⟨isDefinition, accepted, around⟩
    rw [none] at candidate
    cases candidate
  · have ⟨isDefinition, accepted, around⟩ := (member _).mp isMember
    have smallest : IsSmallestAround definitions offset accept index :=
      ⟨found, isDefinition, accepted, around, fun other twin isTwin twinAccepted twinAround =>
        least (twin, other) ((member _).mpr ⟨isTwin, twinAccepted, twinAround⟩)⟩
    rw [isFound, Option.map_some, Option.some.injEq]
    exact ⟨fun same => same ▸ smallest, smallest.unique⟩

/-! ### Both searches -/

/-- The open container that is found by its kind is the smallest definition of that kind around the
start of a definition that comes next. -/
theorem find?_around {definitions : List Definition} {definition : Definition}
    (precedes : (definitions ++ [definition]).Pairwise fun earlier later =>
      earlier.range.Precedes later.range) {accept : Construct → Bool}
    (containers : ∀ kind, accept kind → kind.isContainer) :
    ((Scopes.around definitions definition.range).find? fun scope => accept scope.2.kind).map
        Prod.fst = smallestEnclosing? definitions definition.range.start accept := by
  have ⟨precedesBefore, _, precedesNext⟩ := List.pairwise_append.mp precedes
  have nested : definitions.zipIdx.Pairwise fun earlier later =>
      earlier.1.range.Precedes later.1.range := by
    rw [← List.zipIdx_map_fst 0 definitions, List.pairwise_map] at precedesBefore
    exact precedesBefore
  -- A container before the definition lies around it if it lies around its start.
  have same : definitions.zipIdx.filter (fun entry =>
        accept entry.1.kind && (entry.1.kind.isContainer &&
          entry.1.range.encloses definition.range)) =
      definitions.zipIdx.filter fun entry =>
        accept entry.1.kind && entry.1.range.contains definition.range.start := by
    refine List.filter_congr fun entry member => ?_
    have before : entry.1 ∈ definitions := List.fst_mem_of_mem_zipIdx member
    rw [Bool.eq_iff_iff, Bool.and_eq_true_iff, Bool.and_eq_true_iff, Bool.and_eq_true_iff,
      (precedesNext _ before _ (List.mem_singleton_self _)).contains_start_iff]
    exact ⟨fun ⟨accepted, _, around⟩ => ⟨accepted, around⟩,
      fun ⟨accepted, around⟩ => ⟨accepted, containers _ accepted, around⟩⟩
  have descending : (definitions.zipIdx.filter fun entry =>
        accept entry.1.kind && entry.1.range.contains definition.range.start).Pairwise
      fun earlier later => later.1.range.size ≤ earlier.1.range.size := by
    refine (nested.filter _).imp_of_mem fun {earlier later} isEarlier isLater order => ?_
    have around := (Bool.and_eq_true_iff.mp (List.mem_filter.mp isEarlier).2).2
    have alsoAround := (Bool.and_eq_true_iff.mp (List.mem_filter.mp isLater).2).2
    have := ByteRange.encloses_iff.mp (order.encloses_of_contains around alsoAround)
    rw [ByteRange.size, ByteRange.size]
    omega
  rw [Scopes.around, ← List.head?_filter, List.filter_reverse, List.head?_reverse,
    List.filter_map, List.filter_filter, List.getLast?_map, Option.map_map]
  rw [smallestEnclosing?]
  exact (congrArg (Option.map Prod.snd) ((congrArg List.getLast? same).trans
    (foldl_smaller_eq_getLast? descending).symm))

theorem head?_around (definitions : List Definition) (range : ByteRange) :
    (Scopes.around definitions range).head? =
      (Scopes.around definitions range).find? fun scope => scope.2.kind.isContainer := by
  rw [← List.head?_filter, List.filter_eq_self.mpr fun scope member => ?_]
  obtain ⟨entry, isAround, rfl⟩ := List.mem_map.mp (List.mem_reverse.mp member)
  exact (Bool.and_eq_true_iff.mp (List.mem_filter.mp isAround).2).1

/-- The open containers and the search among the definitions before give every definition the same
lexical parent: the smallest type or container around its start, of several with one range the last
one. -/
theorem parent?_lexicalParents_eq {definitions : List Definition}
    (laidOut : AreLaidOut definitions) {index : Nat} {definition : Definition}
    (isDefinition : definitions[index]? = some definition) :
    (lexicalParents definitions).parent? index =
      (if definition.kind = .attributeDeclaration then
        (smallestEnclosing? (definitions.take index) definition.range.start Construct.isType).or
          (smallestEnclosing? (definitions.take index) definition.range.start
            Construct.isContainer)
      else
        smallestEnclosing? (definitions.take index) definition.range.start
          Construct.isContainer) ∧
    ∀ accept place,
      smallestEnclosing? (definitions.take index) definition.range.start accept = some place ↔
        IsSmallestAround (definitions.take index) definition.range.start accept place := by
  refine ⟨?_, fun accept place => smallestEnclosing?_eq_some_iff⟩
  have precedes : (definitions.take index ++ [definition]).Pairwise fun earlier later =>
      earlier.range.Precedes later.range := by
    refine laidOut.precedes.sublist ?_
    rw [← Option.toList_some definition, ← isDefinition, ← List.take_add_one]
    exact List.take_sublist _ _
  have innermost := find?_around precedes fun _ isContainer => isContainer
  have innermostType := find?_around precedes Construct.isContainer_of_isType
  rw [laidOut.parent?_eq_parentOf? isDefinition, Scopes.parentOf?, head?_around, innermost,
    innermostType]

/-- A module with two types that have one range, and in them a function with an attribute. -/
def twinTypes : List Definition :=
  [(.moduleDefinition, ⟨0, 60⟩, "m"), (.structDefinition, ⟨10, 50⟩, "S"),
    (.structDefinition, ⟨10, 50⟩, "T"), (.functionDefinition, ⟨20, 40⟩, "f"),
    (.attributeDeclaration, ⟨25, 30⟩, "a")].map fun (kind, range, name) =>
      { kind, range, nameRange := none, span := ⟨1, 1⟩, name, owner := none }

/-- The attribute belongs to the second type and not to the function around it. -/
theorem parent?_lexicalParents_of_twinTypes : AreLaidOut twinTypes ∧
    (lexicalParents twinTypes).parent? 4 = some 2 ∧
      IsSmallestAround (twinTypes.take 4) 25 Construct.isType 2 := by
  have laidOut : AreLaidOut twinTypes :=
    ⟨by decide +kernel, by decide +kernel, by decide +kernel⟩
  have ⟨parent, smallest⟩ := @parent?_lexicalParents_eq twinTypes laidOut 4 _ rfl
  exact ⟨laidOut, parent.trans (by decide +kernel), (smallest _ _).mp (by decide +kernel)⟩

end Definition

end CodeGraph
