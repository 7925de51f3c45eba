/-
This file compiles rule tables and classifies paths by them. A compiled rule set has only
patterns that are regular expressions and classes that the ontology knows; compiling a table
fails exactly when it has others. Classifying never fails: a path is left out, or gets one class
of each taxonomy. What a regular expression is and what it matches is left to an engine.
-/
import CodeGraph.Classification.RuleTable
import CodeGraph.RegularExpression.Engine
import CodeGraph.Vocabulary.Basic

namespace CodeGraph

/-- The classes of a file. -/
structure Classification where
  carrier : String
  content : String
  deriving Repr, DecidableEq

/-- What becomes of a path: it is left out, or it is classified. -/
inductive Outcome where
  | ignored
  | classified (classes : Classification)
  deriving Repr, DecidableEq

/-- A compiled rule. -/
structure CompiledRule (engine : RegularExpression.Engine) where
  rule : Rule
  expression : engine.Compiled

/-- The compiled rules of one taxonomy, in the order in which they are tried. -/
structure CompiledTaxonomy (engine : RegularExpression.Engine) where
  fallback : String
  rules : List (CompiledRule engine)

/-- The compiled rules of both taxonomies. -/
structure RuleSet (engine : RegularExpression.Engine := .standard) where
  ignorePatterns : List engine.Compiled
  carrier : CompiledTaxonomy engine
  content : CompiledTaxonomy engine

namespace CompiledTaxonomy

variable {engine : RegularExpression.Engine}

/-- Checks that the ontology knows a class. -/
def checkClass (ontology : Ontology) (taxonomy : Taxonomy) (place : RulePlace) (name : String) :
    Except RuleError Unit :=
  if ontology.knowsClass name then .ok () else .error (.unknownClass taxonomy place name)

/-- Compiles the rules from an index on; the class of a rule is checked before its pattern. -/
def compileRules (ontology : Ontology) (taxonomy : Taxonomy) (index : Nat) :
    List Rule → Except RuleError (List (CompiledRule engine))
  | [] => .ok []
  | rule :: rest => do
    checkClass ontology taxonomy (.rule index) rule.className
    match engine.compile? rule.pattern with
    | none => .error (.invalidPattern taxonomy index rule.pattern)
    | some expression =>
      return ⟨rule, expression⟩ :: (← compileRules ontology taxonomy (index + 1) rest)

/-- Compiles the rules of a taxonomy. -/
def compile (ontology : Ontology) (taxonomy : Taxonomy) (table : TaxonomyTable) :
    Except RuleError (CompiledTaxonomy engine) := do
  checkClass ontology taxonomy .fallback table.fallback
  return ⟨table.fallback, ← compileRules ontology taxonomy 0 table.rules⟩

/-- The class of the first rule that matches a path, or the fallback. -/
def classify (taxonomy : CompiledTaxonomy engine) (path : String) : String :=
  match taxonomy.rules.find? fun compiled => engine.isMatch compiled.expression path with
  | some compiled => compiled.rule.className
  | none => taxonomy.fallback

end CompiledTaxonomy

namespace RuleSet

variable {engine : RegularExpression.Engine}

/-- Compiles the patterns of the paths to leave out, from an index on. -/
def compileIgnorePatterns (index : Nat) :
    List String → Except RuleError (List engine.Compiled)
  | [] => .ok []
  | pattern :: rest =>
    match engine.compile? pattern with
    | none => .error (.invalidIgnorePattern index pattern)
    | some expression => do return expression :: (← compileIgnorePatterns (index + 1) rest)

/-- Compiles a table against an ontology. -/
def compile (ontology : Ontology) (table : RuleTable)
    (engine : RegularExpression.Engine := .standard) : Except RuleError (RuleSet engine) := do
  let ignorePatterns ← compileIgnorePatterns 0 table.ignorePatterns
  let carrier ← CompiledTaxonomy.compile ontology .carrier table.carrier
  let content ← CompiledTaxonomy.compile ontology .content table.content
  return ⟨ignorePatterns, carrier, content⟩

/-- The compiled rules of a taxonomy. -/
def taxonomy (rules : RuleSet engine) : Taxonomy → CompiledTaxonomy engine
  | .carrier => rules.carrier
  | .content => rules.content

/-- Whether a path is left out. -/
def ignores (rules : RuleSet engine) (path : String) : Bool :=
  rules.ignorePatterns.any (engine.isMatch · path)

/-- Classifies a path in its normal spelling. -/
def classify (rules : RuleSet engine) (path : String) : Outcome :=
  let normal := Path.normalize path
  if rules.ignores normal then .ignored
  else .classified ⟨rules.carrier.classify normal, rules.content.classify normal⟩

end RuleSet

end CodeGraph
