/-
This file follows a partial function upwards. A place from which that comes to an end has exactly
one way up, and no place is met twice on it. This is what "no cycle" means wherever something is
held by something else: among definitions, among entities, and along the edges of the graph.

The way up is a list that belongs to the place by a relation, so nothing is assumed of the
function, and every fact goes by induction on the way. A place on the way has a shorter way up of
its own; as ways are unique, no place is on its own way, and none is met twice. A way of places
from a list is therefore shorter than the list. Where every place has a measure that what is above
it has less of, there is a way up from everywhere.
-/
import Mathlib.Data.List.Perm.Subperm
import Mathlib.Logic.Relation

namespace CodeGraph

/-- The way up from a place: what is above it, what is above that, and so on, up to a place that
nothing is above. -/
inductive Ascent {place : Type} (above? : place → Option place) : place → List place → Prop
  /-- Nothing is above the place. -/
  | top {here : place} (noneAbove : above? here = none) : Ascent above? here []
  /-- The way goes on from the place above. -/
  | step {here above : place} {way : List place} (isAbove : above? here = some above)
      (rest : Ascent above? above way) : Ascent above? here (above :: way)

namespace Ascent

variable {place : Type} {above? : place → Option place} {here : place} {way : List place}

/-- There is only one way up. -/
theorem unique {other : List place} (first : Ascent above? here way)
    (second : Ascent above? here other) : way = other := by
  induction first generalizing other with
  | top noneAbove =>
    cases second with
    | top => rfl
    | step isAbove _ =>
      rw [noneAbove] at isAbove
      cases isAbove
  | step isAbove _ inductionHypothesis =>
    cases second with
    | top noneAbove =>
      rw [noneAbove] at isAbove
      cases isAbove
    | step isAboveToo rest =>
      have same := Option.some.inj (isAbove.symm.trans isAboveToo)
      subst same
      rw [inductionHypothesis rest]

/-- The way up from a place on the way is shorter. -/
theorem exists_shorter_of_mem (ascent : Ascent above? here way) {there : place}
    (member : there ∈ way) : ∃ rest, Ascent above? there rest ∧ rest.length < way.length := by
  induction ascent with
  | top => cases member
  | step _ rest inductionHypothesis =>
    rcases List.mem_cons.mp member with rfl | member
    · exact ⟨_, rest, Nat.lt_succ_self _⟩
    · obtain ⟨shorter, isAscent, less⟩ := inductionHypothesis member
      exact ⟨shorter, isAscent, Nat.lt_succ_of_lt less⟩

/-- No place is on its own way up. -/
theorem not_mem (ascent : Ascent above? here way) : here ∉ way := by
  intro member
  obtain ⟨rest, isAscent, less⟩ := ascent.exists_shorter_of_mem member
  rw [ascent.unique isAscent] at less
  exact Nat.lt_irrefl _ less

/-- No place is met twice. -/
theorem nodup (ascent : Ascent above? here way) : (here :: way).Nodup := by
  induction ascent with
  | top => exact List.pairwise_singleton _ _
  | step isAbove rest inductionHypothesis =>
    exact List.nodup_cons.mpr ⟨(Ascent.step isAbove rest).not_mem, inductionHypothesis⟩

/-- The places on the way are those that are reached by going up at least once. -/
theorem mem_iff_transGen (ascent : Ascent above? here way) {there : place} :
    there ∈ way ↔
      Relation.TransGen (fun lower upper => above? lower = some upper) here there := by
  induction ascent with
  | top noneAbove =>
    rw [Relation.TransGen.head'_iff]
    refine iff_of_false List.not_mem_nil ?_
    rintro ⟨above, isAbove, -⟩
    cases noneAbove.symm.trans isAbove
  | @step here above way isAbove rest inductionHypothesis =>
    have behind : there ∈ above :: way ↔
        Relation.ReflTransGen (fun lower upper => above? lower = some upper) above there := by
      rw [List.mem_cons, inductionHypothesis, Relation.reflTransGen_iff_eq_or_transGen]
    rw [behind, Relation.TransGen.head'_iff]
    refine ⟨fun reaches => ⟨above, isAbove, reaches⟩, ?_⟩
    rintro ⟨other, isOther, reaches⟩
    exact Option.some.inj (isAbove.symm.trans isOther) ▸ reaches

/-- Places with the same above them have the same way up. -/
theorem of_same (ascent : Ascent above? here way) {there : place}
    (same : above? there = above? here) : Ascent above? there way := by
  cases ascent with
  | top noneAbove => exact .top (same.trans noneAbove)
  | step isAbove rest => exact .step (same.trans isAbove) rest

/-- Only what is above the places on the way counts. -/
theorem congr {other? : place → Option place} (ascent : Ascent above? here way)
    (same : ∀ there ∈ here :: way, other? there = above? there) : Ascent other? here way := by
  induction ascent with
  | top noneAbove => exact .top ((same _ List.mem_cons_self).trans noneAbove)
  | step isAbove _ inductionHypothesis =>
    exact .step ((same _ List.mem_cons_self).trans isAbove)
      (inductionHypothesis fun there member => same there (List.mem_cons_of_mem _ member))

/-- A way of places from a list is shorter than the list. -/
theorem length_lt_of_subset (ascent : Ascent above? here way) {places : List place}
    (inside : ∀ there ∈ here :: way, there ∈ places) : way.length < places.length :=
  Nat.lt_of_lt_of_le (Nat.lt_succ_self _) (List.subperm_of_subset ascent.nodup inside).length_le

/-- Where every place has a measure that what is above it has less of, every place has a way
up. -/
theorem exists_of_lt {measure : place → Nat}
    (less : ∀ here above, above? here = some above → measure above < measure here)
    (start : place) : ∃ way, Ascent above? start way := by
  induction size : measure start using Nat.strongRecOn generalizing start with
  | ind _ inductionHypothesis =>
    cases found : above? start with
    | none => exact ⟨[], .top found⟩
    | some above =>
      obtain ⟨way, ascent⟩ :=
        inductionHypothesis (measure above) (size ▸ less start above found) above rfl
      exact ⟨above :: way, .step found ascent⟩

end Ascent

end CodeGraph
