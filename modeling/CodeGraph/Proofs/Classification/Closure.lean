/-
This file proves that classification is closed over the ontology, whatever engine the regular
expressions are left to.

Compiling a table checks classes and patterns and reports the first that is refused. For a result
it is enough to know when nothing is refused. A rule does not depend on the rules before it, except
for the place that a refusal names, so rules compile exactly if each of them does by itself
(`CompiledTaxonomy.compileRules_eq_ok_iff`). A table therefore compiles exactly if it is sound, and
then to what can be read off it without the ontology (`RuleTable.ofTable`): the ontology says
whether a table compiles, but not to what. The engine is asked for one thing only, whether a
pattern is a regular expression.

The classes that a compiled table gives are those of its rules and its fallbacks, and they are
known because the table is sound. A path is left out by the patterns for that or gets one class of
each taxonomy. As the taxonomies are compiled apart, a table that differs in the other one gives
the same class of this one.
-/
import CodeGraph.Proofs.Record.Completeness

namespace CodeGraph

/-! ### Sound tables -/

/-- A taxonomy whose classes are known and whose patterns are regular expressions. -/
structure TaxonomyTable.IsSound (engine : RegularExpression.Engine) (ontology : Ontology)
    (table : TaxonomyTable) : Prop where
  fallback : ontology.knowsClass table.fallback
  rules : ∀ rule ∈ table.rules,
    ontology.knowsClass rule.className ∧ (engine.compile? rule.pattern).isSome

/-- A table whose classes are known and whose patterns are regular expressions. -/
structure RuleTable.IsSound (engine : RegularExpression.Engine) (ontology : Ontology)
    (table : RuleTable) : Prop where
  ignorePatterns : ∀ pattern ∈ table.ignorePatterns, (engine.compile? pattern).isSome
  taxonomies : ∀ taxonomy, (table.taxonomy taxonomy).IsSound engine ontology

/-! ### What a table compiles to -/

/-- A rule with its pattern as an expression, if it is one. -/
def CompiledRule.ofRule? (engine : RegularExpression.Engine) (rule : Rule) :
    Option (CompiledRule engine) :=
  (engine.compile? rule.pattern).map fun expression => ⟨rule, expression⟩

namespace CompiledTaxonomy

variable {engine : RegularExpression.Engine} {ontology : Ontology} {taxonomy : Taxonomy}

/-- What a taxonomy compiles to. -/
def ofTable (engine : RegularExpression.Engine) (table : TaxonomyTable) :
    CompiledTaxonomy engine :=
  ⟨table.fallback, table.rules.filterMap (CompiledRule.ofRule? engine)⟩

theorem checkClass_eq_ok_iff {place : RulePlace} {name : String} {checked : Unit} :
    checkClass ontology taxonomy place name = .ok checked ↔ ontology.knowsClass name := by
  refine ⟨knowsClass_of_checkClass, fun known => ?_⟩
  rw [checkClass, if_pos known]

/-- Rules compile if each of them does by itself, whatever their places are. -/
theorem compileRules_eq_ok_iff {index : Nat} {rules : List Rule}
    {compiled : List (CompiledRule engine)} :
    compileRules ontology taxonomy index rules = .ok compiled ↔
      (∀ rule ∈ rules,
        ontology.knowsClass rule.className ∧ (engine.compile? rule.pattern).isSome) ∧
      compiled = rules.filterMap (CompiledRule.ofRule? engine) := by
  induction rules generalizing index compiled with
  | nil =>
    rw [compileRules, Except.ok.injEq, eq_comm]
    simp
  | cons rule rest inductionHypothesis =>
    rw [compileRules, bind_eq_ok, List.forall_mem_cons]
    simp only [checkClass_eq_ok_iff, exists_const]
    cases parsed : engine.compile? rule.pattern with
    | none => simp
    | some expression =>
      have here : CompiledRule.ofRule? engine rule = some ⟨rule, expression⟩ := by
        rw [CompiledRule.ofRule?, parsed, Option.map_some]
      rw [List.filterMap_cons_some here, bind_eq_ok]
      simp only [inductionHypothesis, pure_eq_ok, Option.isSome_some, and_true]
      constructor
      · rintro ⟨known, _, ⟨restSound, rfl⟩, finish⟩
        exact ⟨⟨known, restSound⟩, finish.symm⟩
      · rintro ⟨⟨known, restSound⟩, rfl⟩
        exact ⟨known, _, ⟨restSound, rfl⟩, rfl⟩

theorem compile_eq_ok_iff {table : TaxonomyTable} {compiled : CompiledTaxonomy engine} :
    compile ontology taxonomy table = .ok compiled ↔
      table.IsSound engine ontology ∧ compiled = ofTable engine table := by
  rw [compile, bind_eq_ok]
  simp only [bind_eq_ok, checkClass_eq_ok_iff, exists_const, compileRules_eq_ok_iff, pure_eq_ok]
  constructor
  · rintro ⟨known, _, ⟨rulesSound, rfl⟩, finish⟩
    exact ⟨⟨known, rulesSound⟩, finish.symm⟩
  · rintro ⟨⟨known, rulesSound⟩, rfl⟩
    exact ⟨known, _, ⟨rulesSound, rfl⟩, rfl⟩

end CompiledTaxonomy

namespace RuleSet

variable {engine : RegularExpression.Engine}

/-- What a table compiles to. -/
def ofTable (engine : RegularExpression.Engine) (table : RuleTable) : RuleSet engine :=
  ⟨table.ignorePatterns.filterMap engine.compile?, .ofTable engine table.carrier,
    .ofTable engine table.content⟩

theorem compileIgnorePatterns_eq_ok_iff {index : Nat} {patterns : List String}
    {expressions : List engine.Compiled} :
    compileIgnorePatterns index patterns = .ok expressions ↔
      (∀ pattern ∈ patterns, (engine.compile? pattern).isSome) ∧
        expressions = patterns.filterMap engine.compile? := by
  induction patterns generalizing index expressions with
  | nil =>
    rw [compileIgnorePatterns, Except.ok.injEq, eq_comm]
    simp
  | cons pattern rest inductionHypothesis =>
    rw [compileIgnorePatterns, List.forall_mem_cons]
    cases parsed : engine.compile? pattern with
    | none => simp
    | some expression =>
      rw [List.filterMap_cons_some parsed]
      simp only [bind_eq_ok, inductionHypothesis, pure_eq_ok, Option.isSome_some, true_and]
      constructor
      · rintro ⟨_, ⟨restSound, rfl⟩, finish⟩
        exact ⟨restSound, finish.symm⟩
      · rintro ⟨restSound, rfl⟩
        exact ⟨_, ⟨restSound, rfl⟩, rfl⟩

/-- A table compiles if it is sound, and then to what can be read off it: the ontology says whether
a table compiles, but not to what. -/
theorem compile_eq_ok_iff {ontology : Ontology} {table : RuleTable} {rules : RuleSet engine} :
    compile ontology table engine = .ok rules ↔
      table.IsSound engine ontology ∧ rules = ofTable engine table := by
  rw [compile, bind_eq_ok]
  simp only [bind_eq_ok, compileIgnorePatterns_eq_ok_iff, CompiledTaxonomy.compile_eq_ok_iff,
    pure_eq_ok]
  constructor
  · rintro ⟨_, ⟨patternsSound, rfl⟩, _, ⟨carrierSound, rfl⟩, _, ⟨contentSound, rfl⟩, finish⟩
    refine ⟨⟨patternsSound, fun taxonomy => ?_⟩, finish.symm⟩
    cases taxonomy with
    | carrier => exact carrierSound
    | content => exact contentSound
  · rintro ⟨⟨patternsSound, taxonomiesSound⟩, rfl⟩
    exact ⟨_, ⟨patternsSound, rfl⟩, _, ⟨taxonomiesSound .carrier, rfl⟩, _,
      ⟨taxonomiesSound .content, rfl⟩, rfl⟩

theorem taxonomy_ofTable (table : RuleTable) (taxonomy : Taxonomy) :
    (ofTable engine table).taxonomy taxonomy = .ofTable engine (table.taxonomy taxonomy) := by
  cases taxonomy <;> rfl

end RuleSet

/-! ### Two taxonomies -/

/-- The class that a taxonomy gives to a path; none if the path is left out. -/
def Outcome.className? (taxonomy : Taxonomy) : Outcome → Option String
  | .ignored => none
  | .classified classes =>
    match taxonomy with
    | .carrier => some classes.carrier
    | .content => some classes.content

namespace RuleSet

variable {engine : RegularExpression.Engine}

theorem className?_classify (rules : RuleSet engine) (taxonomy : Taxonomy) (path : String) :
    (rules.classify path).className? taxonomy =
      if rules.ignores (Path.normalize path) then none
      else some ((rules.taxonomy taxonomy).classify (Path.normalize path)) := by
  unfold classify
  simp only
  split
  · rfl
  · cases taxonomy <;> rfl

/-- Tables that leave out the same paths and have one taxonomy in common give every path the same
class of this taxonomy. -/
theorem className?_classify_congr {first second : RuleTable} {taxonomy : Taxonomy}
    (samePatterns : first.ignorePatterns = second.ignorePatterns)
    (sameTaxonomy : first.taxonomy taxonomy = second.taxonomy taxonomy) (path : String) :
    ((ofTable engine first).classify path).className? taxonomy =
      ((ofTable engine second).classify path).className? taxonomy := by
  have sameIgnores (normal : String) :
      (ofTable engine first).ignores normal = (ofTable engine second).ignores normal := by
    rw [ignores, ignores, ofTable, ofTable, samePatterns]
  rw [className?_classify, className?_classify, sameIgnores, taxonomy_ofTable, taxonomy_ofTable,
    sameTaxonomy]

/-- Classification is closed over the ontology. A table compiles exactly if all its patterns are
regular expressions and all its classes are known; a path is then left out or gets a known class of
each taxonomy, and a table that differs in the other taxonomy alone gives the same one. -/
theorem compile_closes_classes (engine : RegularExpression.Engine) (ontology : Ontology)
    (table : RuleTable) :
    ((∃ rules, compile ontology table engine = .ok rules) ↔ table.IsSound engine ontology) ∧
      ∀ rules, compile ontology table engine = .ok rules →
        (∀ path, rules.classify path = .ignored ∨ ∃ carrier content,
          rules.classify path = .classified ⟨carrier, content⟩ ∧
            ontology.knowsClass carrier ∧ ontology.knowsClass content) ∧
        ∀ otherOntology other others taxonomy, compile otherOntology other engine = .ok others →
          other.ignorePatterns = table.ignorePatterns →
            other.taxonomy taxonomy = table.taxonomy taxonomy → ∀ path,
              (others.classify path).className? taxonomy =
                (rules.classify path).className? taxonomy := by
  refine ⟨⟨?_, ?_⟩, fun rules compiled => ⟨fun path => ?_, ?_⟩⟩
  · rintro ⟨rules, compiled⟩
    exact (compile_eq_ok_iff.mp compiled).1
  · intro sound
    exact ⟨_, compile_eq_ok_iff.mpr ⟨sound, rfl⟩⟩
  · cases outcome : rules.classify path with
    | ignored => exact .inl rfl
    | classified classes =>
      exact .inr ⟨classes.carrier, classes.content, rfl, knowsClass_classify compiled outcome⟩
  · intro otherOntology other others taxonomy otherCompiled samePatterns sameTaxonomy path
    obtain ⟨_, rfl⟩ := compile_eq_ok_iff.mp compiled
    obtain ⟨_, rfl⟩ := compile_eq_ok_iff.mp otherCompiled
    exact className?_classify_congr samePatterns sameTaxonomy path

open ClassifiedFile in
/-- The kind of a file does not change if the rules for what it holds are taken away. -/
theorem compile_closes_classes_of_sample :
    ∃ rules others, compile sampleOntology sampleTable = .ok rules ∧
      compile sampleOntology { sampleTable with content := ⟨"SourceFile", []⟩ } = .ok others ∧
      rules.classify "p.go" = .classified ⟨"SourceFile", "ProgramCode"⟩ ∧
      others.classify "p.go" = .classified ⟨"SourceFile", "SourceFile"⟩ ∧
      ∀ path, (others.classify path).className? .carrier =
        (rules.classify path).className? .carrier := by
  have sound : sampleTable.IsSound .standard sampleOntology :=
    ⟨by decide, fun taxonomy => by cases taxonomy <;> exact ⟨by decide +kernel, by decide +kernel⟩⟩
  -- What the table says of the kind of a file stays, so only the other taxonomy is left to check.
  have otherSound : RuleTable.IsSound .standard sampleOntology
      { sampleTable with content := ⟨"SourceFile", []⟩ } := by
    refine ⟨sound.ignorePatterns, fun taxonomy => ?_⟩
    cases taxonomy with
    | carrier => exact sound.taxonomies .carrier
    | content => exact ⟨by decide +kernel, by decide +kernel⟩
  obtain ⟨rules, compiled⟩ :=
    (compile_closes_classes .standard sampleOntology sampleTable).1.mpr sound
  obtain ⟨others, otherCompiled⟩ := (compile_closes_classes _ _ _).1.mpr otherSound
  refine ⟨rules, others, compiled, otherCompiled, ?_, ?_, ?_⟩
  · rw [(compile_eq_ok_iff.mp compiled).2]
    decide +kernel
  · rw [(compile_eq_ok_iff.mp otherCompiled).2]
    decide +kernel
  · exact ((compile_closes_classes _ _ _).2 rules compiled).2 _ _ others .carrier otherCompiled rfl
      rfl

end RuleSet

end CodeGraph
