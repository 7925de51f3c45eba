/-
This file defines catalogs: selections of languages whose query tables only look for constructs
that the vocabulary has classes for. A catalog enters the extensions of its languages in a table,
in which it finds a language by a file extension in any case.
-/
import CodeGraph.Language.Basic
import CodeGraph.Sorting
import CodeGraph.Vocabulary.Basic

namespace CodeGraph

/-- A query table looks for constructs of a class that the vocabulary does not have. -/
structure CatalogError where
  language : Language
  kind : Construct
  className : String
  deriving Repr, DecidableEq

/-- The fault in words. -/
def CatalogError.message (fault : CatalogError) : String :=
  s!"{fault.language.name} {fault.kind.name} queries map to unknown ontology class "
    ++ s!"'{fault.className}'"

/-- The classes that the entities of a kind can have. -/
def Construct.possibleClasses (kind : Construct) : List String :=
  if kind = .functionDefinition then [Term.functionDefinition, Term.methodDefinition]
  else (Term.classOf? kind).toList

/-- The first class that a language's queries need and the vocabulary lacks. -/
def Language.catalogFault? (language : Language) (ontology : Ontology) : Option CatalogError :=
  language.queries.findSome? fun (kind, _) =>
    (kind.possibleClasses.find? (!ontology.knowsClass ·)).map (⟨language, kind, ·⟩)

/-- The number of patterns of a language. -/
def Language.patternCount (language : Language) : Nat :=
  (language.queries.flatMap Prod.snd).length

/-- A selection of languages. -/
structure Catalog where
  /-- The languages as they were selected, some perhaps repeatedly. -/
  selected : List Language
  deriving Repr, DecidableEq

/-- A table of languages by file extensions. -/
abbrev ExtensionTable := List (String × Language)

namespace ExtensionTable

/-- Enters a language under an extension in lower case. An earlier entry is replaced. -/
def enter (language : Language) (table : ExtensionTable) (extension : String) : ExtensionTable :=
  let key := Text.lowercase extension
  (key, language) :: table.filter (·.1 != key)

/-- Enters a language under all its extensions. -/
def enterAll (table : ExtensionTable) (language : Language) : ExtensionTable :=
  language.extensions.foldl (enter language) table

end ExtensionTable

namespace Catalog

/-- The catalog of the given languages, or the first fault of one of them. -/
def ofLanguages (languages : List Language) (ontology : Ontology) :
    Except CatalogError Catalog :=
  match languages.findSome? (·.catalogFault? ontology) with
  | some fault => .error fault
  | none => .ok ⟨languages⟩

/-- The catalog of every language. -/
def complete (ontology : Ontology) : Except CatalogError Catalog :=
  ofLanguages Language.all ontology

/-- The languages in their order, each once. -/
def languages (catalog : Catalog) : List Language :=
  Language.all.filter catalog.selected.contains

/-- The languages by their extensions. -/
def table (catalog : Catalog) : ExtensionTable :=
  catalog.selected.foldl ExtensionTable.enterAll []

/-- The language with a file extension, in whatever case the extension is. -/
def ofExtension? (catalog : Catalog) (extension : String) : Option Language :=
  catalog.table.lookup (Text.lowercase extension)

/-- The language of the file with the given path. -/
def ofPath? (catalog : Catalog) (path : String) : Option Language :=
  (Path.extension? path).bind catalog.ofExtension?

/-- Whether a file with the given extension can be parsed. -/
def canParse (catalog : Catalog) (extension : String) : Bool :=
  catalog.table.any (·.1 == Text.lowercase extension)

/-- The extensions of all languages, in ascending order. -/
def extensions (catalog : Catalog) : List String :=
  sortBy compare (catalog.table.map Prod.fst)

/-- The number of patterns of all languages. -/
def patternCount (catalog : Catalog) : Nat :=
  catalog.languages.foldl (fun total language => total + language.patternCount) 0

end Catalog

end CodeGraph
