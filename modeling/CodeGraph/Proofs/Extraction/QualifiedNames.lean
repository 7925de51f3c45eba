/-
This file proves when the name of an entity is the path to it: when it goes on where the canonical
name of the parent ends.

A canonical name is made of parts with dots between them. Both names begin with the module and with
the names of the definitions around the parent, which do not matter for the comparison
(`nestsIn_intercalate_append_iff`). Then come, in the name of the parent, the owner that it shows,
if any, and its own name; in the name of the child the parent's own name and what stands behind it.
So names nest below every parent that shows no owner. Below one that does, the rest of the child's
name would have to begin with that owner and the name of the parent. Where the parts hold no dots,
what stands before the first dot decides, and the names do not nest unless the parent has the name
of its owner (`not_nestsIn_canonicalName`).

An owner is shown by a definition that is not held by a type, so by a method of a type that is not
found. The entity that is kept for the parent may be made of another definition; without a
collision of the digest it has the same name. The sample is a method of a type that is not
declared, with a parameter: the name of the parameter leaves out the owner that its method shows.
-/
import CodeGraph.Proofs.Extraction.Entities
import CodeGraph.Proofs.Extraction.Evaluation

namespace CodeGraph

/-- A name that begins with another one and a dot. -/
def NestsIn (outer inner : String) : Prop := (outer ++ ".").toList <+: inner.toList

instance (outer inner : String) : Decidable (NestsIn outer inner) :=
  inferInstanceAs (Decidable ((outer ++ ".").toList <+: inner.toList))

/-! ### Names of parts -/

theorem nestsIn_append_iff (common outer inner : String) :
    NestsIn (common ++ outer) (common ++ inner) ↔ NestsIn outer inner := by
  rw [NestsIn, NestsIn, String.append_assoc, String.toList_append,
    @String.toList_append common inner, List.prefix_append_right_inj]

/-- Parts with which both names begin do not matter. -/
theorem nestsIn_intercalate_append_iff (common : List String) {front back : List String}
    (frontInhabited : front ≠ []) (backInhabited : back ≠ []) :
    NestsIn (".".intercalate (common ++ front)) (".".intercalate (common ++ back)) ↔
      NestsIn (".".intercalate front) (".".intercalate back) := by
  by_cases none : common = []
  · rw [none, List.nil_append, List.nil_append]
  · rw [String.intercalate_append_of_ne_nil none frontInhabited,
      String.intercalate_append_of_ne_nil none backInhabited, nestsIn_append_iff]

theorem nestsIn_intercalate_cons (name : String) {rest : List String} (inhabited : rest ≠ []) :
    NestsIn name (".".intercalate (name :: rest)) := by
  rw [NestsIn, String.intercalate_cons_of_ne_nil inhabited, @String.toList_append (name ++ ".")]
  exact List.prefix_append _ _

/-- What stands before the first dot is the same in a text and in its beginning. -/
theorem eq_of_prefix_of_no_dot {left right front back : List Char} (noDot : '.' ∉ left)
    (noDotToo : '.' ∉ right) (isPrefix : left ++ '.' :: front <+: right ++ '.' :: back) :
    left = right := by
  have first {text : List Char} (rest : List Char) (noDot : '.' ∉ text) :
      (text ++ '.' :: rest).takeWhile (· != '.') = text := by
    rw [List.takeWhile_append_of_pos fun character member => ?_]
    · simp
    · exact bne_iff_ne.mpr fun dot => noDot (dot ▸ member)
  obtain ⟨rest, same⟩ := isPrefix
  rw [List.append_assoc, List.cons_append] at same
  rw [← first (front ++ rest) noDot, same, first back noDotToo]

/-! ### Names of definitions -/

namespace Definition

variable {definitions : List Definition} {parents : ParentTable} {index place : Nat}
  {around definition : Definition}

theorem shownOwner_cases (definitions : List Definition) (parents : ParentTable) (index : Nat)
    (definition : Definition) :
    shownOwner definitions parents index definition = [] ∨
      ∃ owner, shownOwner definitions parents index definition = [owner] := by
  unfold shownOwner
  split
  · exact .inl rfl
  · cases definition.owner with
    | none => exact .inl rfl
    | some owner => exact .inr ⟨owner, rfl⟩

/-- The canonical name of a definition nests in that of its parent unless the parent shows an owner
with which the rest of the name does not begin. -/
theorem nestsIn_canonicalName_iff (forest : parents.IsForest) (module : String)
    (isParent : parents.parent? index = some place) (isAround : definitions[place]? = some around) :
    NestsIn (canonicalName module definitions parents place around)
        (canonicalName module definitions parents index definition) ↔
      ∀ owner ∈ shownOwner definitions parents place around,
        NestsIn (".".intercalate [owner, around.name])
          (".".intercalate (around.name ::
            (shownOwner definitions parents index definition ++ [definition.name]))) := by
  have outer : nameParts module definitions parents place around =
      ((if module = "" then [] else [module]) ++ namesAround definitions parents place) ++
        (shownOwner definitions parents place around ++ [around.name]) := by
    rw [nameParts_eq, List.append_assoc]
  have inner : nameParts module definitions parents index definition =
      ((if module = "" then [] else [module]) ++ namesAround definitions parents place) ++
        around.name :: (shownOwner definitions parents index definition ++ [definition.name]) := by
    rw [nameParts_eq, namesAround_of_parent? forest isParent isAround]
    simp only [List.append_assoc, List.cons_append, List.nil_append]
  rw [canonicalName, canonicalName, outer, inner,
    nestsIn_intercalate_append_iff _ (by simp) (List.cons_ne_nil _ _)]
  obtain hidden | ⟨owner, shown⟩ := shownOwner_cases definitions parents place around
  · simp [hidden, nestsIn_intercalate_cons]
  · simp [shown]

/-- Below a parent that shows an owner other than its own name no name nests, if there are no dots
in the parts. -/
theorem not_nestsIn_canonicalName (forest : parents.IsForest) (module : String)
    (isParent : parents.parent? index = some place) (isAround : definitions[place]? = some around)
    {owner : String} (isShown : owner ∈ shownOwner definitions parents place around)
    (noDot : '.' ∉ owner.toList) (noDotToo : '.' ∉ around.name.toList)
    (differ : owner ≠ around.name) :
    ¬ NestsIn (canonicalName module definitions parents place around)
        (canonicalName module definitions parents index definition) := by
  intro nests
  have begins := (nestsIn_canonicalName_iff forest module isParent isAround).mp nests owner isShown
  rw [NestsIn, String.intercalate_cons_cons, String.intercalate_singleton,
    String.intercalate_cons_of_ne_nil (by simp)] at begins
  simp only [String.toList_append, List.append_assoc] at begins
  exact differ (String.toList_inj.mp (eq_of_prefix_of_no_dot noDot noDotToo begins))

end Definition

/-! ### Names of entities -/

namespace ParsedFile

open Definition

/-- The canonical name of an entity nests in that of its parent exactly if the parent shows no owner
or the rest of the name happens to begin with that owner. In a language without owners every name
nests. -/
theorem nestsIn_parent_iff {parsed : ParsedFile} (free : Digest.CollisionFree parsed.messages)
    {entity : Entity} {id : String} (member : entity ∈ parsed.entities)
    (isParent : entity.parentId = some id) :
    ∃ parent ∈ parsed.entities, parent.id = id ∧
      ∃ index place definition around,
        parsed.definitions[index]? = some definition ∧
        entityAt parsed.file parsed.source parsed.definitions index definition = entity ∧
        (parents parsed.definitions).parent? index = some place ∧
        parsed.definitions[place]? = some around ∧
        (NestsIn parent.canonicalName entity.canonicalName ↔
          ∀ owner ∈ shownOwner parsed.definitions (parents parsed.definitions) place around,
            NestsIn (".".intercalate [owner, around.name])
              (".".intercalate (around.name ::
                (shownOwner parsed.definitions (parents parsed.definitions) index definition ++
                  [definition.name])))) ∧
        (parsed.language.namesOwners = false →
          NestsIn parent.canonicalName entity.canonicalName) := by
  obtain ⟨index, place, definition, around, isDefinition, rfl, isPlace, isAround, rfl⟩ :=
    exists_of_parentId (mem_candidates member) isParent
  have isCandidate : entityAt parsed.file parsed.source parsed.definitions place around ∈
      parsed.candidates := entityAt_mem_toEntities isAround
  -- The entity that is kept for the parent may be made of another definition with its name.
  obtain ⟨parent, isKept, same⟩ := Entity.exists_mem_distinct isCandidate
  have sameName := (names_eq_of_id_eq free (mem_candidates isKept) isCandidate same).2
  have nests := @nestsIn_canonicalName_iff _ _ index place around definition
    (isForest_parents parsed.definitions) (Path.moduleName parsed.file.relativePath) isPlace
    isAround
  rw [canonicalName_entityAt] at sameName
  rw [← sameName, ← @canonicalName_entityAt parsed.file parsed.source] at nests
  refine ⟨parent, isKept, same, index, place, definition, around, isDefinition, rfl, isPlace,
    isAround, nests, fun unnamed => nests.mpr fun owner isShown => ?_⟩
  have unowned := Extraction.owner_eq_none_of_mem_definitionsIn unnamed
    (List.mem_of_getElem? isAround)
  cases unowned.symm.trans (mem_owner_of_mem_shownOwner isShown)

/-- A file with a method of a type that is not declared and a function. -/
def strayMethod : ParsedFile where
  file := .ofPath "r" "m.go" (some .go) 66 "SourceFile" "ProgramCode"
  language := .go
  source := .ofString
    "package main\n\nfunc (s *Server) Start(n int) \x7b\x7d\nfunc run(m int) \x7b\x7d\n"
  tree :=
    let leaf (index : Nat) (kind : String) (start stop : Nat) (field : String) : SyntaxTree :=
      .node { index, kind, start, stop, field } []
    .node { index := 0, kind := "source_file", start := 0, stop := 66 } [
      .node { index := 1, kind := "method_declaration", start := 14, stop := 46 } [
        .node { index := 2, kind := "parameter_list", start := 19, stop := 30, field := "receiver" }
          [.node { index := 3, kind := "parameter_declaration", start := 20, stop := 29 } [
            leaf 4 "identifier" 20 21 "name",
            .node { index := 5, kind := "pointer_type", start := 22, stop := 29, field := "type" } [
              .node { index := 6, kind := "type_identifier", start := 23, stop := 29 } []]]],
        leaf 7 "field_identifier" 31 36 "name",
        .node { index := 8, kind := "parameter_list", start := 36, stop := 43,
                field := "parameters" }
          [.node { index := 9, kind := "parameter_declaration", start := 37, stop := 42 } [
            leaf 10 "identifier" 37 38 "name", leaf 11 "type_identifier" 39 42 "type"]]],
      .node { index := 12, kind := "function_declaration", start := 47, stop := 65 } [
        leaf 13 "identifier" 52 55 "name",
        .node { index := 14, kind := "parameter_list", start := 55, stop := 62,
                field := "parameters" }
          [.node { index := 15, kind := "parameter_declaration", start := 56, stop := 61 } [
            leaf 16 "identifier" 56 57 "name", leaf 17 "type_identifier" 58 61 "type"]]]]
  identified := rfl

/-- The definitions of the file. -/
def strayDefinitions : List Definition :=
  [(.functionDefinition, ⟨14, 46⟩, ⟨31, 36⟩, 3, "Start", some "Server"),
    (.parameter, ⟨37, 42⟩, ⟨37, 38⟩, 3, "n", none),
    (.functionDefinition, ⟨47, 65⟩, ⟨52, 55⟩, 4, "run", none),
    (.parameter, ⟨56, 61⟩, ⟨56, 57⟩, 4, "m", none)].map
      fun (kind, range, nameRange, line, name, owner) =>
        { kind, range, nameRange := some nameRange, span := ⟨line, line⟩, name, owner }

theorem definitions_strayMethod : strayMethod.definitions = strayDefinitions := by
  rw [ParsedFile.definitions, Extraction.definitionsIn_eq]
  decide +kernel

theorem collisionFree_strayMethod : Digest.CollisionFree strayMethod.messages := by
  rw [messages_eq definitions_strayMethod]
  decide +kernel

theorem entities_strayMethod : strayMethod.entities =
    toEntities strayMethod.file strayMethod.source strayDefinitions := by
  refine entities_eq_toEntities definitions_strayMethod collisionFree_strayMethod ?_
  rw [messages_eq definitions_strayMethod]
  decide +kernel

/-- The parameter of the function is named after the function. -/
theorem nestsIn_parent_of_strayMethod :
    ∃ entity ∈ strayMethod.entities, entity.canonicalName = "m.run.m" ∧
      ∃ parent ∈ strayMethod.entities, entity.parentId = some parent.id ∧
        NestsIn parent.canonicalName entity.canonicalName := by
  have inFile : entityAt strayMethod.file strayMethod.source strayDefinitions 3
      strayDefinitions[3] ∈ strayMethod.entities :=
    entities_strayMethod ▸ entityAt_mem_toEntities rfl
  have named : (entityAt strayMethod.file strayMethod.source strayDefinitions 3
      strayDefinitions[3]).canonicalName = "m.run.m" := by decide +kernel
  have unowned : ∀ entry ∈ strayDefinitions.zipIdx,
      canonicalName "m" strayDefinitions (parents strayDefinitions) entry.2 entry.1 = "m.run.m" →
        ∀ place ∈ (parents strayDefinitions).parent? entry.2, ∀ around ∈ strayDefinitions[place]?,
          shownOwner strayDefinitions (parents strayDefinitions) place around = [] := by
    decide +kernel
  obtain ⟨parent, isKept, same, index, place, definition, around, isDefinition, isEntity, isPlace,
    isAround, nests, -⟩ := nestsIn_parent_iff collisionFree_strayMethod inFile rfl
  refine ⟨_, inFile, named, parent, isKept, congrArg some same.symm, nests.mpr ?_⟩
  rw [← isEntity, canonicalName_entityAt] at named
  rw [definitions_strayMethod] at isDefinition isPlace isAround named ⊢
  rw [unowned (definition, index) (List.mem_zipIdx_iff_getElem?.mpr isDefinition) named place
    isPlace around isAround]
  exact fun _ none => absurd none List.not_mem_nil

/-- The parameter of the method is not named after the method. -/
theorem not_nestsIn_parent_of_strayMethod :
    ¬ ∀ entity ∈ strayMethod.entities, ∀ parent ∈ strayMethod.entities,
      entity.parentId = some parent.id → NestsIn parent.canonicalName entity.canonicalName := by
  intro nests
  have nestsBelow := nests
    (entityAt strayMethod.file strayMethod.source strayDefinitions 1 strayDefinitions[1])
    (entities_strayMethod ▸ entityAt_mem_toEntities rfl)
    (entityAt strayMethod.file strayMethod.source strayDefinitions 0 strayDefinitions[0])
    (entities_strayMethod ▸ entityAt_mem_toEntities rfl) rfl
  have isShown : "Server" ∈ shownOwner strayDefinitions (parents strayDefinitions) 0
      strayDefinitions[0] := by decide +kernel
  rw [canonicalName_entityAt, canonicalName_entityAt] at nestsBelow
  exact not_nestsIn_canonicalName (isForest_parents strayDefinitions) _ (by decide +kernel) rfl
    isShown (by decide) (by decide) (by decide) nestsBelow

end ParsedFile

end CodeGraph
