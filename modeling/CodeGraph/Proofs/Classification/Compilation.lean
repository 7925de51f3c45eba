/-
This file proves what a compiled rule set promises: every class that it can give to a path is known
to the ontology that it was compiled against.

Compiling checks the fallback and the class of every rule before it hands out anything, so an
induction on the rules finds the check of each class behind the rule that was compiled from it.
Classifying gives the class of some rule or the fallback and nothing else. The patterns play no
part in this, whatever engine compiles and matches them.
-/
import CodeGraph.Classification.RuleSet
import CodeGraph.Proofs.Computations

namespace CodeGraph

namespace CompiledTaxonomy

variable {engine : RegularExpression.Engine} {ontology : Ontology} {taxonomy : Taxonomy}

theorem knowsClass_of_checkClass {place : RulePlace} {name : String}
    (checked : checkClass ontology taxonomy place name = .ok ()) : ontology.knowsClass name := by
  unfold checkClass at checked
  split at checked
  · assumption
  · cases checked

/-- The classes of compiled rules are known. -/
theorem knowsClass_of_compileRules {index : Nat} {rules : List Rule}
    {compiledRules : List (CompiledRule engine)}
    (compiled : compileRules ontology taxonomy index rules = .ok compiledRules) :
    ∀ compiledRule ∈ compiledRules, ontology.knowsClass compiledRule.rule.className := by
  induction rules generalizing index compiledRules with
  | nil =>
    rw [← Except.ok.inj compiled]
    exact fun _ none => absurd none List.not_mem_nil
  | cons rule rest inductionHypothesis =>
    rw [compileRules] at compiled
    obtain ⟨_, checked, compiled⟩ := bind_eq_ok.mp compiled
    split at compiled
    · cases compiled
    · obtain ⟨others, restCompiled, finish⟩ := bind_eq_ok.mp compiled
      rw [← pure_eq_ok.mp finish]
      exact List.forall_mem_cons.mpr
        ⟨knowsClass_of_checkClass checked, inductionHypothesis restCompiled⟩

/-- The class that a compiled taxonomy gives to a path is known. -/
theorem knowsClass_classify {table : TaxonomyTable} {compiledTaxonomy : CompiledTaxonomy engine}
    (compiled : compile ontology taxonomy table = .ok compiledTaxonomy) (path : String) :
    ontology.knowsClass (compiledTaxonomy.classify path) := by
  obtain ⟨_, checked, compiled⟩ := bind_eq_ok.mp compiled
  obtain ⟨rules, rulesCompiled, finish⟩ := bind_eq_ok.mp compiled
  rw [← pure_eq_ok.mp finish]
  unfold classify
  split
  · next found => exact knowsClass_of_compileRules rulesCompiled _ (List.mem_of_find?_eq_some found)
  · exact knowsClass_of_checkClass checked

end CompiledTaxonomy

/-- The classes that a compiled rule set gives to a path are known. -/
theorem RuleSet.knowsClass_classify {engine : RegularExpression.Engine} {ontology : Ontology}
    {table : RuleTable} {rules : RuleSet engine}
    (compiled : compile ontology table engine = .ok rules) {path : String}
    {classes : Classification}
    (classified : rules.classify path = .classified classes) :
    ontology.knowsClass classes.carrier ∧ ontology.knowsClass classes.content := by
  obtain ⟨_, _, compiled⟩ := bind_eq_ok.mp compiled
  obtain ⟨carrier, carrierCompiled, compiled⟩ := bind_eq_ok.mp compiled
  obtain ⟨content, contentCompiled, finish⟩ := bind_eq_ok.mp compiled
  rw [← pure_eq_ok.mp finish, classify] at classified
  simp only at classified
  split at classified
  · cases classified
  · cases classified
    exact ⟨CompiledTaxonomy.knowsClass_classify carrierCompiled _,
      CompiledTaxonomy.knowsClass_classify contentCompiled _⟩

end CodeGraph
