/-
This file proves what merging definitions comes to.

Merging keeps a table with one definition for each construct, that is for each range and name, and
adds one definition after the other to it. What the table holds of the definitions added so far is
an invariant (`Definition.Tabulates`): each construct among them has one line, and that line is
what they are united into. `Definition.Unites` says the latter without the order in which they
came. The kind is the least of theirs; apart from its owner the result is one of them with that
kind; the owner is that of one of them, and there is one if a definition of the least kind has one.
It is enough to show that one more definition keeps this: it may be the first of its construct, be
of another construct, or be united with what the others came to (`Definition.Unites.unite`). The
induction is on the definitions from the last one to the first, as each is added to the table of
those before it.

In the end the table is sorted. Its definitions differ in range or name, which is part of what is
compared, so no two of them compare equal. The sorted list therefore ascends strictly, and it does
not depend on the order in which the table lists its definitions.
-/
import CodeGraph.Proofs.Extraction.Definitions
import CodeGraph.Proofs.Graph.EdgeSet
import CodeGraph.Proofs.Sorting

namespace CodeGraph.Definition

/-- What tells constructs apart. -/
def key (definition : Definition) : ByteRange × String := (definition.range, definition.name)

theorem isSameConstruct_iff {left right : Definition} :
    left.isSameConstruct right ↔ left.key = right.key := by
  rw [isSameConstruct, Bool.and_eq_true, beq_iff_eq, beq_iff_eq, key, key, Prod.mk.injEq]

/-! ### Uniting two definitions -/

/-- What a definition is that given definitions of one construct are united into: one of those
whose kind comes first, with the owner of one of them. It has an owner if one of its kind has. -/
structure Unites (given : List Definition) (united : Definition) : Prop where
  base : ∃ definition ∈ given, definition.key = united.key ∧
    united = { definition with owner := united.owner }
  least : ∀ definition ∈ given, definition.key = united.key →
    united.kind.rank ≤ definition.kind.rank
  owned : ∀ definition ∈ given, definition.key = united.key → definition.kind = united.kind →
    definition.owner.isSome → united.owner.isSome
  ownerGiven : united.owner.isSome → ∃ definition ∈ given, definition.key = united.key ∧
    definition.owner = united.owner

variable {given merged : List Definition} {earlier later definition united : Definition}

/-- A definition of a construct that was not given before stands for itself. -/
theorem unites_of_new (new : ∀ other ∈ given, other.key ≠ definition.key) :
    definition.Unites (given ++ [definition]) where
  base := ⟨definition, List.mem_append_right _ List.mem_cons_self, rfl, rfl⟩
  least other member sameKey := by
    rcases List.mem_append.mp member with before | last
    · exact absurd sameKey (new other before)
    · exact List.mem_singleton.mp last ▸ Nat.le_refl _
  owned other member sameKey _ owned := by
    rcases List.mem_append.mp member with before | last
    · exact absurd sameKey (new other before)
    · rwa [← List.mem_singleton.mp last]
  ownerGiven _ := ⟨definition, List.mem_append_right _ List.mem_cons_self, rfl, rfl⟩

/-- A definition of another construct changes nothing. -/
theorem Unites.append_other (unites : united.Unites given) (other : definition.key ≠ united.key) :
    united.Unites (given ++ [definition]) where
  base :=
    have ⟨base, member, facts⟩ := unites.base
    ⟨base, List.mem_append_left _ member, facts⟩
  least further member sameKey := by
    rcases List.mem_append.mp member with before | last
    · exact unites.least further before sameKey
    · exact absurd (List.mem_singleton.mp last ▸ sameKey) other
  owned further member sameKey := by
    rcases List.mem_append.mp member with before | last
    · exact unites.owned further before sameKey
    · exact absurd (List.mem_singleton.mp last ▸ sameKey) other
  ownerGiven owned :=
    have ⟨source, member, facts⟩ := unites.ownerGiven owned
    ⟨source, List.mem_append_left _ member, facts⟩

/-- The kind of two united definitions is the one that comes first. -/
theorem rank_kind_unite (earlier later : Definition) :
    (earlier.unite later).kind.rank = min earlier.kind.rank later.kind.rank := by
  unfold unite
  split
  · next less => exact (Nat.min_eq_right (Nat.le_of_lt less)).symm
  · next notLess =>
    rw [Nat.min_eq_left (Nat.le_of_not_lt notLess)]
    split <;> rfl

theorem key_unite (sameKey : later.key = earlier.key) :
    (earlier.unite later).key = earlier.key := by
  unfold unite
  split
  · exact sameKey
  · split <;> rfl

/-- Apart from its owner a united definition is one of the two. -/
theorem unite_eq_or (earlier later : Definition) :
    earlier.unite later = { earlier with owner := (earlier.unite later).owner } ∨
      earlier.unite later = { later with owner := (earlier.unite later).owner } := by
  unfold unite
  split
  · exact .inr rfl
  · split <;> exact .inl rfl

/-- An owner is kept if the definition that has it is of the kind that wins. -/
theorem isSome_owner_unite
    (owned : earlier.kind = (earlier.unite later).kind ∧ earlier.owner.isSome ∨
      later.kind = (earlier.unite later).kind ∧ later.owner.isSome) :
    (earlier.unite later).owner.isSome := by
  unfold unite at owned ⊢
  split at owned
  · next less =>
    rw [if_pos less, Option.isSome_or, Bool.or_eq_true]
    rcases owned with ⟨-, owned⟩ | ⟨-, owned⟩
    · exact .inr owned
    · exact .inl owned
  · next notLess =>
    rw [if_neg notLess]
    split at owned
    · next sameKind =>
      rw [if_pos sameKind, Option.isSome_or, Bool.or_eq_true]
      exact owned.imp And.right And.right
    · next otherKind =>
      rw [if_neg otherKind]
      rcases owned with ⟨-, owned⟩ | ⟨sameKind, -⟩
      · exact owned
      · exact absurd sameKind otherKind

/-- One more definition of the construct is united with what the others came to. -/
theorem Unites.unite (unites : earlier.Unites given) (sameKey : later.key = earlier.key) :
    (earlier.unite later).Unites (given ++ [later]) := by
  have isLast : later ∈ given ++ [later] := List.mem_append_right _ List.mem_cons_self
  have kept : (earlier.unite later).key = earlier.key := key_unite sameKey
  have rank := rank_kind_unite earlier later
  obtain ⟨base, baseMember, baseKey, isBase⟩ := unites.base
  refine ⟨?_, fun other member otherKey => ?_, fun other member otherKey sameKind owned => ?_,
    fun owned => ?_⟩
  · rw [kept]
    rcases unite_eq_or earlier later with ofEarlier | ofLater
    · refine ⟨base, List.mem_append_left _ baseMember, baseKey, ofEarlier.trans ?_⟩
      rw [isBase]
    · exact ⟨later, isLast, sameKey, ofLater⟩
  · rw [kept] at otherKey
    rw [rank]
    rcases List.mem_append.mp member with before | last
    · exact Nat.le_trans (Nat.min_le_left _ _) (unites.least other before otherKey)
    · rw [List.mem_singleton.mp last]
      exact Nat.min_le_right _ _
  · rw [kept] at otherKey
    refine isSome_owner_unite ?_
    rcases List.mem_append.mp member with before | last
    · -- The kind of the united definition is that of a given one, so the earlier one has it too.
      have least := unites.least other before otherKey
      rw [sameKind, rank] at least
      have isKind : earlier.kind = (earlier.unite later).kind :=
        Construct.rank_injective (by omega)
      exact .inl ⟨isKind,
        unites.owned other before otherKey (sameKind.trans isKind.symm) owned⟩
    · obtain rfl := List.mem_singleton.mp last
      exact .inr ⟨sameKind, owned⟩
  · rw [kept]
    rcases (unite_cases earlier later).2.2.2 with ofEarlier | ofLater
    · rw [ofEarlier] at owned ⊢
      obtain ⟨source, member, facts⟩ := unites.ownerGiven owned
      exact ⟨source, List.mem_append_left _ member, facts⟩
    · exact ⟨later, isLast, sameKey, ofLater.symm⟩

/-! ### The table -/

/-- A table holds one definition for each construct that was given. -/
structure Tabulates (given merged : List Definition) : Prop where
  distinct : (merged.map key).Nodup
  complete : ∀ construct, construct ∈ merged.map key ↔ construct ∈ given.map key
  united : ∀ united ∈ merged, united.Unites given

theorem map_key_addMerged (definition : Definition) (merged : List Definition) :
    (addMerged definition merged).map key =
      if definition.key ∈ merged.map key then merged.map key
      else merged.map key ++ [definition.key] := by
  induction merged with
  | nil => rfl
  | cons head rest inductionHypothesis =>
    unfold addMerged
    split
    · next same =>
      have sameKey := isSameConstruct_iff.mp same
      rw [List.map_cons, key_unite sameKey.symm, List.map_cons,
        if_pos (List.mem_cons.mpr (.inl sameKey.symm))]
    · next other =>
      have otherKey : definition.key ≠ head.key := fun sameKey =>
        other (isSameConstruct_iff.mpr sameKey.symm)
      rw [List.map_cons, inductionHypothesis, List.map_cons]
      simp only [List.mem_cons, otherKey, false_or]
      split <;> rfl

/-- A definition of the table is one of those before, the added one united with one of those, or
the added one itself. -/
theorem mem_addMerged (distinct : (merged.map key).Nodup)
    (member : united ∈ addMerged definition merged) :
    (united ∈ merged ∧ definition.key ≠ united.key) ∨
      (∃ earlier ∈ merged, definition.key = earlier.key ∧ united = earlier.unite definition) ∨
      (definition.key ∉ merged.map key ∧ united = definition) := by
  induction merged with
  | nil => exact .inr (.inr ⟨List.not_mem_nil, List.mem_singleton.mp member⟩)
  | cons head rest inductionHypothesis =>
    obtain ⟨notInRest, distinctRest⟩ := List.nodup_cons.mp distinct
    unfold addMerged at member
    split at member
    · next same =>
      have sameKey := isSameConstruct_iff.mp same
      rcases List.mem_cons.mp member with isHead | inRest
      · exact .inr (.inl ⟨head, List.mem_cons_self, sameKey.symm, isHead⟩)
      · refine .inl ⟨List.mem_cons_of_mem _ inRest, fun isKey => notInRest ?_⟩
        exact List.mem_map.mpr ⟨united, inRest, (sameKey.trans isKey).symm⟩
    · next other =>
      have otherKey : definition.key ≠ head.key := fun sameKey =>
        other (isSameConstruct_iff.mpr sameKey.symm)
      rcases List.mem_cons.mp member with isHead | inRest
      · exact .inl ⟨List.mem_cons.mpr (.inl isHead), isHead ▸ otherKey⟩
      · rcases inductionHypothesis distinctRest inRest with
          ⟨kept, isOther⟩ | ⟨earlier, earlierMember, facts⟩ | ⟨new, isNew⟩
        · exact .inl ⟨List.mem_cons_of_mem _ kept, isOther⟩
        · exact .inr (.inl ⟨earlier, List.mem_cons_of_mem _ earlierMember, facts⟩)
        · refine .inr (.inr ⟨fun isKey => ?_, isNew⟩)
          rcases List.mem_cons.mp isKey with sameKey | inRest
          · exact otherKey sameKey
          · exact new inRest

/-- One more definition is added. -/
theorem Tabulates.addMerged (table : Tabulates given merged) (definition : Definition) :
    Tabulates (given ++ [definition]) (addMerged definition merged) := by
  have keys := map_key_addMerged definition merged
  refine ⟨?_, fun construct => ?_, fun united member => ?_⟩
  · rw [keys]
    split
    · exact table.distinct
    · next new =>
      refine List.nodup_append.mpr ⟨table.distinct, List.nodup_singleton _, ?_⟩
      rintro construct member other isNew rfl
      exact new (List.mem_singleton.mp isNew ▸ member)
  · rw [keys, List.map_append, List.mem_append, ← table.complete, List.map_singleton,
      List.mem_singleton]
    split
    · next known => exact ⟨.inl, fun either => either.elim id fun isKey => isKey ▸ known⟩
    · rw [List.mem_append, List.mem_singleton]
  · rcases mem_addMerged table.distinct member with
      ⟨kept, other⟩ | ⟨earlier, earlierMember, sameKey, rfl⟩ | ⟨new, rfl⟩
    · exact (table.united united kept).append_other other
    · exact (table.united earlier earlierMember).unite sameKey
    · refine unites_of_new fun other otherMember sameKey => new ?_
      exact (table.complete _).mpr (List.mem_map.mpr ⟨other, otherMember, sameKey⟩)

/-- The table of definitions before it is sorted. -/
def table (definitions : List Definition) : List Definition :=
  definitions.foldl (fun merged definition => addMerged definition merged) []

/-- The table of given definitions holds one definition for each construct among them. The
induction is on the definitions from the last one to the first, as each one is added to the table
of those before it. -/
theorem tabulates_table (given : List Definition) : Tabulates given (table given) := by
  induction given using List.reverseRecOn with
  | nil => exact ⟨List.nodup_nil, fun _ => Iff.rfl, fun _ none => absurd none List.not_mem_nil⟩
  | append_singleton before last inductionHypothesis =>
    rw [table, List.foldl_append]
    exact inductionHypothesis.addMerged last

/-! ### The order -/

theorem compare_eq_eq_iff {left right : Definition} :
    compare left right = .eq ↔ left.key = right.key ∧ left.kind = right.kind := by
  have kinds : left.kind.rank = right.kind.rank ↔ left.kind = right.kind :=
    ⟨Construct.rank_injective, congrArg Construct.rank⟩
  rw [compare, compareLex_eq_eq, compareLex_eq_eq, compareLex_eq_eq, compareOn_eq_eq_iff,
    Std.LawfulEqCmp.compare_eq_iff_eq, compareOn_eq_eq_iff, compareOn_eq_eq_iff, kinds, key, key,
    Prod.mk.injEq]
  rcases left with ⟨_, ⟨leftStart, leftStop⟩, _, _, _, _⟩
  rcases right with ⟨_, ⟨rightStart, rightStop⟩, _, _, _, _⟩
  rw [ByteRange.mk.injEq]
  constructor
  · rintro ⟨start, stop, kind, name⟩
    exact ⟨⟨⟨start, stop.symm⟩, name⟩, kind⟩
  · rintro ⟨⟨⟨start, stop⟩, name⟩, kind⟩
    exact ⟨start, stop.symm, kind, name⟩

/-- Definitions of distinct constructs differ in what is compared. -/
theorem separates_compare (distinct : (merged.map key).Nodup) : Separates compare merged :=
  fun _ leftMember _ rightMember same =>
    List.inj_on_of_nodup_map distinct leftMember rightMember (compare_eq_eq_iff.mp same).1

theorem nodup_map_key_merge (definitions : List Definition) :
    ((merge definitions).map key).Nodup :=
  ((sortBy_perm compare (table definitions)).map key).nodup_iff.mpr
    (tabulates_table definitions).distinct

theorem mem_map_key_merge {definitions : List Definition} {construct : ByteRange × String} :
    construct ∈ (merge definitions).map key ↔ construct ∈ definitions.map key :=
  ((sortBy_perm compare (table definitions)).map key).mem_iff.trans
    ((tabulates_table definitions).complete construct)

theorem unites_of_mem_merge {definitions : List Definition} (member : united ∈ merge definitions) :
    united.Unites definitions :=
  (tabulates_table definitions).united united ((mem_sortBy compare).mp member)

/-- No two merged definitions are alike in what is compared. -/
theorem pairwise_lt_merge (definitions : List Definition) :
    (merge definitions).Pairwise fun earlier later => compare earlier later = .lt := by
  have distinct := List.pairwise_map.mp (nodup_map_key_merge definitions)
  refine List.Pairwise.imp₂ (fun earlier later below otherKey => ?_) (pairwise_merge definitions)
    distinct
  cases order : compare earlier later with
  | lt => rfl
  | eq => exact absurd (compare_eq_eq_iff.mp order).1 otherKey
  | gt => rw [order] at below; cases below

/-- Merging any definitions gives exactly one definition for each range and name among them. It is
one of the given definitions of that construct, of the least kind among them, up to its owner: that
is the owner of one of them, and there is one if a definition of the least kind has one. The merged
definitions ascend strictly, and they are the same in whatever order the table lists them. -/
theorem merge_unites_each (definitions : List Definition) :
    ((merge definitions).map key).Nodup ∧
      (∀ construct, construct ∈ (merge definitions).map key ↔ construct ∈ definitions.map key) ∧
      (∀ united ∈ merge definitions, united.Unites definitions) ∧
      ((merge definitions).Pairwise fun earlier later => compare earlier later = .lt) ∧
      ∀ listed, listed.Perm (table definitions) → sortBy compare listed = merge definitions := by
  refine ⟨nodup_map_key_merge definitions, fun _ => mem_map_key_merge,
    fun _ => unites_of_mem_merge, pairwise_lt_merge definitions, fun listed perm => ?_⟩
  exact (sortBy_eq_of_perm (separates_compare (tabulates_table definitions).distinct)
    perm.symm).symm

end CodeGraph.Definition
