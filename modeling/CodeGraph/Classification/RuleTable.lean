/-
This file defines rule tables. A table lists the patterns of the paths that are left out, and
for each of the two taxonomies the rules in the order in which they are tried, with a class for
the paths that no rule matches. Tables are read from TOML and YAML documents.
-/
import CodeGraph.Path
import CodeGraph.Text.Quoted
import CodeGraph.Toml.Parser
import CodeGraph.Yaml.Parser

namespace CodeGraph

/-- The two taxonomies by which files are classified: by the kind of file, and by what the file
holds. -/
inductive Taxonomy where
  | carrier
  | content
  deriving Repr, DecidableEq

/-- The name of a taxonomy. -/
def Taxonomy.name : Taxonomy → String
  | carrier => "carrier"
  | content => "content"

/-- A place in the rules of a taxonomy that names a class. -/
inductive RulePlace where
  | fallback
  | rule (index : Nat)
  deriving Repr, DecidableEq

/-- The name of a place. -/
def RulePlace.name : RulePlace → String
  | fallback => "fallback"
  | rule index => s!"rule #{index}"

/-- Why no rules could be had from a table or a file. -/
inductive RuleError where
  /-- The file cannot be read as text. -/
  | unavailable (path : String)
  /-- The file is no TOML document that holds a table. -/
  | malformedToml
  /-- The file is no YAML document that holds a table. -/
  | malformedYaml
  /-- The extension of the file names no format. -/
  | unsupportedFormat (path : String)
  /-- A pattern of paths to leave out is no regular expression. -/
  | invalidIgnorePattern (index : Nat) (pattern : String)
  /-- The pattern of a rule is no regular expression. -/
  | invalidPattern (taxonomy : Taxonomy) (index : Nat) (pattern : String)
  /-- A class is not one of the ontology's. -/
  | unknownClass (taxonomy : Taxonomy) (place : RulePlace) (name : String)
  deriving Repr, DecidableEq

/-- The fault in words. -/
def RuleError.message : RuleError → String
  | unavailable path => s!"IO error at {path}: the file is not available"
  | malformedToml => "TOML error: not a rule table"
  | malformedYaml => "YAML error: not a rule table"
  | unsupportedFormat path => s!"Unsupported rule file extension: {path}"
  | invalidIgnorePattern index pattern =>
    s!"Invalid ignore pattern #{index} {Text.quoted pattern}: not a regular expression"
  | invalidPattern taxonomy index pattern =>
    s!"Invalid {taxonomy.name} rule #{index} {Text.quoted pattern}: not a regular expression"
  | unknownClass taxonomy place name =>
    s!"{taxonomy.name} {place.name} names unknown ontology class {Text.quoted name}"

/-- A rule: the class of the paths that a pattern matches. -/
structure Rule where
  className : String
  pattern : String
  deriving Repr, DecidableEq

/-- The rules of one taxonomy. -/
structure TaxonomyTable where
  /-- The class of the paths that no rule matches. -/
  fallback : String
  rules : List Rule := []
  deriving Repr, DecidableEq

/-- The rules of both taxonomies and the patterns of the paths that are left out. -/
structure RuleTable where
  ignorePatterns : List String := []
  carrier : TaxonomyTable
  content : TaxonomyTable
  deriving Repr, DecidableEq

namespace RuleTable

/-- The rules of a taxonomy. -/
def taxonomy (table : RuleTable) : Taxonomy → TaxonomyTable
  | .carrier => table.carrier
  | .content => table.content

/-! ### Reading tables -/

variable {value : Type}

/-- The rule that a value holds. -/
def readRule (format : DataFormat value) (record : value) : Option Rule := do
  match ← format.fields? ["class", "regex"] record with
  | [some className, some pattern] =>
    return ⟨← format.text? className, ← format.text? pattern⟩
  | _ => none

/-- The rules of a taxonomy that a value holds. -/
def readTaxonomy (format : DataFormat value) (record : value) : Option TaxonomyTable := do
  match ← format.fields? ["fallback", "rules"] record with
  | [some fallback, rules] =>
    let readRules := fun list => do (← format.items? list).mapM (readRule format)
    return ⟨← format.text? fallback, ← DataFormat.optional readRules [] rules⟩
  | _ => none

/-- The table that a value holds. -/
def read (format : DataFormat value) (record : value) : Option RuleTable := do
  match ← format.fields? ["ignore_patterns", "carrier", "content"] record with
  | [patterns, some carrier, some content] =>
    return ⟨← DataFormat.optional format.texts? [] patterns, ← readTaxonomy format carrier,
      ← readTaxonomy format content⟩
  | _ => none

/-- The table that a TOML document holds. -/
def ofToml (text : String) : Except RuleError RuleTable :=
  match (Toml.parse? text).bind (read Toml.format) with
  | some table => .ok table
  | none => .error .malformedToml

/-- The table that a YAML document holds. -/
def ofYaml (text : String) : Except RuleError RuleTable :=
  match (Yaml.parse? text).bind (read Yaml.format) with
  | some table => .ok table
  | none => .error .malformedYaml

/-- The table of a file with the given path and text, which is absent if it cannot be read. The
extension in any case says which format the text has. -/
def ofFile (path : String) (text : Option String) : Except RuleError RuleTable :=
  match text with
  | none => .error (.unavailable path)
  | some text =>
    match (Path.extension? path).map Text.asciiLowercase with
    | some "toml" => ofToml text
    | some "yaml" | some "yml" => ofYaml text
    | _ => .error (.unsupportedFormat path)

end RuleTable

end CodeGraph
