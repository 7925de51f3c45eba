/-
This file defines the properties of a record: a finite map from names to values, kept as the
list of its entries in strictly ascending order of the names. Two maps with the same entries
are therefore equal.
-/
import CodeGraph.Json.Record

namespace CodeGraph

/-- The properties of a record, ascending by name. -/
structure PropertyMap where
  entries : List (String × Json)
  ascending : entries.Pairwise fun left right => left.1 < right.1

namespace PropertyMap

/-! ### Insertion -/

open Json (insertMember)

theorem mem_insertMember {name : String} {value : Json} {entry : String × Json}
    {entries : List (String × Json)} (member : entry ∈ insertMember name value entries) :
    entry = (name, value) ∨ entry ∈ entries := by
  induction entries with
  | nil => exact .inl (List.mem_singleton.mp member)
  | cons head rest inductionHypothesis =>
    unfold insertMember at member
    split at member
    · rcases List.mem_cons.mp member with new | old
      · exact .inl new
      · exact .inr old
    · split at member
      · rcases List.mem_cons.mp member with new | old
        · exact .inl new
        · exact .inr (List.mem_cons_of_mem _ old)
      · rcases List.mem_cons.mp member with here | there
        · exact .inr (here ▸ List.mem_cons_self)
        · rcases inductionHypothesis there with new | old
          · exact .inl new
          · exact .inr (List.mem_cons_of_mem _ old)

theorem pairwise_insertMember {name : String} {value : Json} {entries : List (String × Json)}
    (ascending : entries.Pairwise fun left right => left.1 < right.1) :
    (insertMember name value entries).Pairwise fun left right => left.1 < right.1 := by
  induction entries with
  | nil => exact List.pairwise_singleton _ _
  | cons head rest inductionHypothesis =>
    have ⟨above, restAscending⟩ := List.pairwise_cons.mp ascending
    unfold insertMember
    split
    · next before =>
      refine List.pairwise_cons.mpr ⟨fun entry member => ?_, ascending⟩
      rcases List.mem_cons.mp member with rfl | member
      · exact before
      · exact String.lt_trans before (above entry member)
    · next notBefore =>
      split
      · next same =>
        exact List.pairwise_cons.mpr
          ⟨fun entry member => by simpa [same] using above entry member, restAscending⟩
      · next different =>
        refine List.pairwise_cons.mpr
          ⟨fun entry member => ?_, inductionHypothesis restAscending⟩
        rcases mem_insertMember member with rfl | member
        · rcases Decidable.em (head.1 < name) with after | notAfter
          · exact after
          · exact absurd (String.le_antisymm (String.not_lt.mp notAfter)
              (String.not_lt.mp notBefore)) different
        · exact above entry member

/-! ### Maps -/

/-- The map without properties. -/
def empty : PropertyMap := ⟨[], .nil⟩

/-- The map with one property more; a property of the same name gives way. -/
def insert (properties : PropertyMap) (name : String) (value : Json) : PropertyMap :=
  ⟨insertMember name value properties.entries, pairwise_insertMember properties.ascending⟩

/-- The map of a list of properties; of two with one name the later one counts. -/
def ofList (entries : List (String × Json)) : PropertyMap :=
  entries.foldl (fun properties (name, value) => properties.insert name value) empty

/-- The names of the properties, in ascending order. -/
def names (properties : PropertyMap) : List String := properties.entries.map (·.1)

/-- The value of a property. -/
def get? (properties : PropertyMap) (name : String) : Option Json :=
  properties.entries.lookup name

/-- Whether there is no property. -/
def isEmpty (properties : PropertyMap) : Bool := properties.entries.isEmpty

/-- The properties as a JSON object. -/
def toJson (properties : PropertyMap) : Json := .object properties.entries

/-- The properties that a JSON object holds. -/
def ofJson? (value : Json) : Option PropertyMap :=
  value.members?.map fun members => ofList (members.map fun (name, value) => (name, value.ordered))

@[ext]
theorem ext {left right : PropertyMap} (same : left.entries = right.entries) :
    left = right := by
  cases left; cases right; cases same; rfl

end PropertyMap

end CodeGraph
