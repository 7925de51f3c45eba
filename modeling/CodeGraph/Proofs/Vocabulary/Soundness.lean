/-
This file proves what the check of a vocabulary accepts and what follows for an ontology.

The check looks at each of the four sets in turn, for a blank name and for a name that also lies in
a later set. So no fault is found exactly if no set holds a blank name and the sets are disjoint in
pairs, by induction on the kinds that are left (`Vocabulary.faultAmong_eq_none_iff`). To compare
each set with the later ones is to compare any two of them, as disjointness is symmetric; this is
the property that the check is meant to have (`Vocabulary.IsSound`).

An ontology carries a vocabulary without faults, so what follows needs no further hypothesis. A
name is known as a term of one sort at most. To look for the sort of a name is to go through the
sorts until one has the name in its set, and since no other can have it, the search and the sets
say the same (`Ontology.kindOf?_eq_some_iff`). A name is that of a property exactly if its sort is
one of the three sorts of property.
-/
import Mathlib.Data.List.Nodup
import Mathlib.Data.List.Pairwise
import CodeGraph.Proofs.Text.Trimming
import CodeGraph.Proofs.Vocabulary.Terms

namespace CodeGraph

namespace Vocabulary

/-! ### The check -/

/-- Something is left of every name when it is trimmed, and no name lies in two of the sets. -/
structure IsSound (vocabulary : Vocabulary) : Prop where
  named : ∀ kind name, (vocabulary.terms kind).contains name = true → Text.trim name ≠ ""
  apart : ∀ name kind other, (vocabulary.terms kind).contains name = true →
    (vocabulary.terms other).contains name = true → kind = other

variable {vocabulary : Vocabulary}

theorem isBlankName_iff {name : String} : isBlankName name = true ↔ Text.trim name = "" := by
  rw [isBlankName, List.all_eq_true, ← Text.trimWhere_eq_nil_iff, Text.trim,
    ← String.toList_inj, String.toList_ofList]
  rfl

theorem overlap?_eq_none_iff {kind : TermKind} {later : List TermKind} :
    vocabulary.overlap? kind later = none ↔ ∀ other ∈ later, ∀ name,
      (vocabulary.terms kind).contains name = true →
        (vocabulary.terms other).contains name = false := by
  rw [overlap?, List.findSome?_eq_none_iff]
  refine forall₂_congr fun other _ => ?_
  rw [Option.map_eq_none_iff, List.find?_eq_none]
  exact forall_congr' fun name => by
    rw [← TermSet.contains_iff_mem, Bool.not_eq_true]

/-- An overlap that is found is a name in the sets of two sorts. -/
theorem exists_of_overlap? {kind : TermKind} {later : List TermKind} {fault : VocabularyError}
    (found : vocabulary.overlap? kind later = some fault) :
    ∃ term other, fault = .overlap term kind other := by
  obtain ⟨other, _, inOther⟩ := List.exists_of_findSome?_eq_some found
  obtain ⟨term, _, rfl⟩ := Option.map_eq_some_iff.mp inOther
  exact ⟨term, other, rfl⟩

/-- No fault is found exactly if no set holds a blank name and none meets a later one. -/
theorem faultAmong_eq_none_iff {kinds : List TermKind} :
    vocabulary.faultAmong kinds = none ↔
      (∀ kind ∈ kinds, ∀ name, (vocabulary.terms kind).contains name = true →
        isBlankName name = false) ∧
      kinds.Pairwise fun kind other => ∀ name, (vocabulary.terms kind).contains name = true →
        (vocabulary.terms other).contains name = false := by
  induction kinds with
  | nil => simp [faultAmong]
  | cons kind later inductionHypothesis =>
    have noBlank : ((vocabulary.terms kind).toList.any isBlankName = false) ↔
        ∀ name, (vocabulary.terms kind).contains name = true → isBlankName name = false := by
      simp only [List.any_eq_false, TermSet.contains_iff_mem, Bool.not_eq_true]
    rw [faultAmong, List.forall_mem_cons, List.pairwise_cons, ← overlap?_eq_none_iff, ← noBlank]
    cases blank : (vocabulary.terms kind).toList.any isBlankName with
    | true => simp
    | false =>
      cases found : vocabulary.overlap? kind later with
      | some fault => simp
      | none => simp [inductionHypothesis]

/-- The check succeeds exactly for sound vocabularies: comparing each set with the later ones
compares any two of them. -/
theorem fault?_eq_none_iff : vocabulary.fault? = none ↔ vocabulary.IsSound := by
  rw [fault?, faultAmong_eq_none_iff]
  constructor
  · rintro ⟨named, pairwise⟩
    refine ⟨fun kind name inside blank => ?_, fun name kind other inside inOther => ?_⟩
    · have notBlank := named kind kind.mem_all name inside
      rw [isBlankName_iff.mpr blank] at notBlank
      cases notBlank
    · have symmetric : Std.Symm fun kind other : TermKind => ∀ name,
          (vocabulary.terms kind).contains name = true →
            (vocabulary.terms other).contains name = false :=
        ⟨fun kind other disjoint name inOther => by
          cases inKind : (vocabulary.terms kind).contains name with
          | false => rfl
          | true => exact absurd inOther (by simp [disjoint name inKind])⟩
      by_contra different
      have disjoint := pairwise.forall kind.mem_all other.mem_all different name inside
      rw [inOther] at disjoint
      cases disjoint
  · intro sound
    refine ⟨fun kind _ name inside => ?_, ?_⟩
    · exact Bool.eq_false_iff.mpr (mt isBlankName_iff.mp (sound.named kind name inside))
    · refine List.Nodup.pairwise_of_forall_ne (by decide)
        fun kind _ other _ different name inside => ?_
      cases inOther : (vocabulary.terms other).contains name with
      | false => rfl
      | true => exact absurd (sound.apart name kind other inside inOther) different

/-- Where no name is blank, the fault is that a name lies in two sets. -/
theorem exists_overlap_of_fault? {fault : VocabularyError} (faulty : vocabulary.fault? = some fault)
    (named : ∀ kind name, (vocabulary.terms kind).contains name = true → Text.trim name ≠ "") :
    ∃ term first second, fault = .overlap term first second := by
  have run (kinds : List TermKind) (found : vocabulary.faultAmong kinds = some fault) :
      ∃ term first second, fault = .overlap term first second := by
    induction kinds with
    | nil => cases found
    | cons kind later inductionHypothesis =>
      rw [faultAmong] at found
      split at found
      · next blank =>
        obtain ⟨name, inside, isBlank⟩ := List.any_eq_true.mp blank
        exact absurd (isBlankName_iff.mp isBlank)
          (named kind name (TermSet.contains_iff_mem.mpr inside))
      · split at found
        · next overlapping =>
          cases found
          obtain ⟨term, other, rfl⟩ := exists_of_overlap? overlapping
          exact ⟨term, kind, other, rfl⟩
        · exact inductionHypothesis found
  exact run TermKind.all faulty

end Vocabulary

/-! ### Ontologies -/

namespace Ontology

/-- An ontology is made of a vocabulary exactly if that is sound, and then holds it. -/
theorem ofVocabulary_eq_ok_iff {vocabulary : Vocabulary} {ontology : Ontology} :
    ofVocabulary vocabulary = .ok ontology ↔ ontology.vocabulary = vocabulary := by
  unfold ofVocabulary
  split
  · next noFault =>
    rw [Except.ok.injEq, eq_comm]
    exact ⟨fun same => same ▸ rfl, fun same => by cases ontology; cases same; rfl⟩
  · next fault isFault =>
    refine ⟨fun same => (by cases same), fun same => ?_⟩
    have sound := ontology.sound
    rw [same, isFault] at sound
    cases sound

theorem ofVocabulary_eq_error_iff {vocabulary : Vocabulary} {fault : VocabularyError} :
    ofVocabulary vocabulary = .error fault ↔ vocabulary.fault? = some fault := by
  unfold ofVocabulary
  split
  · next noFault =>
    exact ⟨fun same => (by cases same), fun same => by rw [noFault] at same; cases same⟩
  · next other isFault => rw [isFault, Except.error.injEq, Option.some.injEq]

/-- A vocabulary without faults is that of an ontology. -/
theorem exists_ofVocabulary_eq_ok {vocabulary : Vocabulary} (noFault : vocabulary.fault? = none) :
    ∃ ontology, ofVocabulary vocabulary = .ok ontology ∧ ontology.vocabulary = vocabulary :=
  ⟨⟨vocabulary, noFault⟩, ofVocabulary_eq_ok_iff.mpr rfl, rfl⟩

variable {ontology : Ontology} {name : String} {kind other : TermKind}

/-- No name is known as a term of two sorts. -/
theorem eq_of_knows (known : ontology.knows kind name = true)
    (knownOther : ontology.knows other name = true) : kind = other :=
  (Vocabulary.fault?_eq_none_iff.mp ontology.sound).apart name kind other known knownOther

/-- The sort of a name is the one as which it is known. -/
theorem kindOf?_eq_some_iff :
    ontology.kindOf? name = some kind ↔ ontology.knows kind name = true := by
  have known_of_found {sort : TermKind} (found : ontology.kindOf? name = some sort) :
      ontology.knows sort name = true :=
    @List.find?_some _ (ontology.knows · name) _ _ found
  constructor
  · exact known_of_found
  · intro known
    cases found : ontology.kindOf? name with
    | none => exact absurd known (List.find?_eq_none.mp found kind kind.mem_all)
    | some other => rw [eq_of_knows (known_of_found found) known]

theorem knowsProperty_iff :
    ontology.knowsProperty name = true ↔
      ∃ kind, kind ≠ .classTerm ∧ ontology.kindOf? name = some kind := by
  simp only [knowsProperty, Bool.or_eq_true, kindOf?_eq_some_iff]
  constructor
  · rintro ((object | data) | annotation)
    · exact ⟨.objectProperty, by decide, object⟩
    · exact ⟨.dataProperty, by decide, data⟩
    · exact ⟨.annotationProperty, by decide, annotation⟩
  · rintro ⟨kind, notClass, known⟩
    cases kind with
    | classTerm => exact absurd rfl notClass
    | objectProperty => exact .inl (.inl known)
    | dataProperty => exact .inl (.inr known)
    | annotationProperty => exact .inr known

/-- A vocabulary passes its check exactly if no name is blank and no name lies in two of its four
sets. The ontology of a vocabulary that passes holds this vocabulary, and in every such ontology the
sort of a name is the one whose set has it: the name is in one set at most, and it is a property
exactly if its sort is one of the three sorts of property. -/
theorem kindOf?_inverts_knows :
    (∀ vocabulary : Vocabulary,
      (vocabulary.fault? = none ↔ vocabulary.IsSound) ∧
      (vocabulary.IsSound ↔ ∃ ontology, ofVocabulary vocabulary = .ok ontology)) ∧
    ∀ vocabulary ontology, ofVocabulary vocabulary = .ok ontology →
      ontology.vocabulary = vocabulary ∧ ∀ name,
        (∀ kind, ontology.kindOf? name = some kind ↔ ontology.knows kind name = true) ∧
        (∀ kind other, ontology.knows kind name = true → ontology.knows other name = true →
          kind = other) ∧
        (ontology.knowsProperty name = true ↔
          ∃ kind, kind ≠ .classTerm ∧ ontology.kindOf? name = some kind) := by
  refine ⟨fun vocabulary => ⟨Vocabulary.fault?_eq_none_iff, ?_⟩, fun vocabulary ontology made => ?_⟩
  · rw [← Vocabulary.fault?_eq_none_iff]
    refine ⟨fun noFault => ?_,
      fun ⟨ontology, made⟩ => ofVocabulary_eq_ok_iff.mp made ▸ ontology.sound⟩
    have ⟨ontology, made, _⟩ := exists_ofVocabulary_eq_ok noFault
    exact ⟨ontology, made⟩
  · obtain rfl := ofVocabulary_eq_ok_iff.mp made
    exact ⟨rfl, fun name => ⟨fun _ => kindOf?_eq_some_iff, fun _ _ => eq_of_knows,
      knowsProperty_iff⟩⟩

end Ontology

/-- A vocabulary with names of all sorts, of which two differ in case only. -/
def Vocabulary.people : Vocabulary :=
  ⟨.ofList ["Person", "Label"], .ofList ["knows"], .ofList ["age"], .ofList ["label"]⟩

/-- The vocabulary of people is sound, and the sorts of its names are found. -/
theorem Ontology.kindOf?_of_people : ∃ ontology, ofVocabulary Vocabulary.people = .ok ontology ∧
    ontology.vocabulary = Vocabulary.people ∧ ontology.kindOf? "Label" = some .classTerm ∧
      ontology.kindOf? "label" = some .annotationProperty ∧
        ontology.knowsProperty "label" = true := by
  have noFault : Vocabulary.people.fault? = none := by decide +kernel
  obtain ⟨ontology, made⟩ :=
    (kindOf?_inverts_knows.1 Vocabulary.people).2.mp (Vocabulary.fault?_eq_none_iff.mp noFault)
  have ⟨same, sorts⟩ := kindOf?_inverts_knows.2 Vocabulary.people ontology made
  have known : ontology.knows .classTerm "Label" = true ∧
      ontology.knows .annotationProperty "label" = true := by
    rw [knows, knows, same]
    decide +kernel
  have annotation := ((sorts "label").1 .annotationProperty).mpr known.2
  exact ⟨ontology, made, same, ((sorts "Label").1 .classTerm).mpr known.1, annotation,
    (sorts "label").2.2.mpr ⟨.annotationProperty, by decide, annotation⟩⟩

end CodeGraph
