/-
This file holds the query tables of the scripting languages: Python, Ruby, Bash and Elixir.
-/
import CodeGraph.Language.Queries.Shorthand

namespace CodeGraph.Queries

/-! ### Python -/

/-- A parameter of a function. -/
def pythonParameter (parameter : Pattern) : Pattern :=
  node "function_definition" [field "parameters" (node "parameters" [parameter])]

/-- The names of the parameters that stand for the instance and the class of a method. -/
def pythonImplicitNames : List String := ["self", "cls"]

/-- The patterns of Python. -/
def python : Table := [
  (.classDefinition, [declared "class_definition" "identifier"]),
  (.functionDefinition, [declared "function_definition" "identifier"]),
  (.parameter, [
    pythonParameter (.textNotIn pythonImplicitNames (bareName "identifier")),
    pythonParameter (definition (node "typed_parameter" [
      .adjacent (.textNotIn pythonImplicitNames (name "identifier"))])),
    pythonParameter (declared "default_parameter" "identifier"),
    pythonParameter (declared "typed_default_parameter" "identifier"),
    pythonParameter (definition (node "list_splat_pattern" [name "identifier"])),
    pythonParameter (definition (node "dictionary_splat_pattern" [name "identifier"]))]),
  (.attributeDeclaration, [
    node "class_definition" [field "body" (node "block" [node "expression_statement" [
      definition (node "assignment" [field "left" (name "identifier")])]])],
    definition (node "assignment" [field "left" (node "attribute" [
      field "object" (word "identifier" ["self"]), field "attribute" (name "identifier")])])]),
  (.variableDeclaration, [
    node "module" [node "expression_statement" [
      definition (node "assignment" [field "left" (name "identifier")])]]]),
  comments,
  (.callSite, [
    definition (node "call" [field "function" (name "identifier")]),
    definition (node "call" [field "function" (node "attribute" [
      field "object" receiver, field "attribute" (name "identifier")])])]),
  (.importDeclaration, [
    definition (node "import_statement" [field "name" (path "dotted_name")]),
    definition (node "import_statement" [
      field "name" (node "aliased_import" [field "name" (path "dotted_name")])]),
    definition (node "import_from_statement" [
      field "module_name" (.capture .path .anything), field "name" (member "dotted_name")]),
    definition (node "import_from_statement" [
      field "module_name" (.capture .path .anything),
      field "name" (node "aliased_import" [field "name" (member "dotted_name")])]),
    definition (node "import_from_statement" [
      field "module_name" (.capture .path .anything), leaf "wildcard_import"])]),
  (.inheritance, [
    node "class_definition" [
      field "superclasses" (node "argument_list" [supertype "identifier"])],
    node "class_definition" [
      field "superclasses" (node "argument_list" [
        node "attribute" [field "attribute" (supertype "identifier")]])]])]

/-! ### Ruby -/

/-- A parameter of a method of the given kind. -/
def rubyParameter (method : String) : Pattern :=
  node method [field "parameters" (node "method_parameters" [definition (either [
    name "identifier",
    node "optional_parameter" [field "name" (name "identifier")],
    node "keyword_parameter" [field "name" (name "identifier")],
    node "splat_parameter" [field "name" (name "identifier")],
    node "hash_splat_parameter" [field "name" (name "identifier")],
    node "block_parameter" [field "name" (name "identifier")]])])]

/-- A construct whose name is a constant, with or without the scope before it. -/
def rubyDeclared (kind : String) : List Pattern := [
  declared kind "constant",
  definition (node kind [
    field "name" (node "scope_resolution" [field "name" (name "constant")])])]

/-- The patterns of Ruby. -/
def ruby : Table := [
  (.moduleDefinition, rubyDeclared "module"),
  (.classDefinition, rubyDeclared "class"),
  (.functionDefinition, [
    definition (node "method" [field "name" (.capture .name .anything)]),
    definition (node "singleton_method" [field "name" (.capture .name .anything)])]),
  (.parameter, [rubyParameter "method", rubyParameter "singleton_method"]),
  (.attributeDeclaration, [
    definition (node "assignment" [field "left" (name "instance_variable")]),
    definition (.node "call" ["receiver"] [
      field "method" (word "identifier" ["attr_accessor", "attr_reader", "attr_writer"]),
      field "arguments" (node "argument_list" [name "simple_symbol"])])]),
  (.variableDeclaration, [
    node "program" [definition (node "assignment" [
      field "left" (.capture .name (either [leaf "constant", leaf "identifier"]))])]]),
  comments,
  (.callSite, [
    definition (.node "call" ["receiver"] [field "method" (name "identifier")]),
    definition (node "call" [field "receiver" receiver, field "method" (name "identifier")]),
    definition (node "call" [
      field "receiver" (name "constant"), field "method" (word "identifier" ["new"])])]),
  (.importDeclaration, [
    definition (.node "call" ["receiver"] [
      field "method" (word "identifier" ["require", "require_relative", "load"]),
      field "arguments" (node "argument_list" [
        .adjacent (node "string" [path "string_content"])])])]),
  (.inheritance, [
    node "class" [field "superclass" (node "superclass" [supertype "constant"])],
    node "class" [field "superclass" (node "superclass" [
      node "scope_resolution" [field "name" (supertype "constant")]])],
    .node "call" ["receiver"] [
      field "method" (word "identifier" ["include", "extend", "prepend"]),
      field "arguments" (node "argument_list" [supertype "constant"])]])]

/-! ### Bash -/

/-- The patterns of Bash. -/
def bash : Table := [
  (.functionDefinition, [declared "function_definition" "word"]),
  (.variableDeclaration, [
    node "program" [declared "variable_assignment" "variable_name"],
    node "program" [node "declaration_command" [
      declared "variable_assignment" "variable_name"]]]),
  comments,
  (.callSite, [
    definition (node "command" [
      field "name" (node "command_name" [.textNotIn ["source", "."] (name "word")])])]),
  (.importDeclaration, [
    definition (node "command" [
      field "name" (node "command_name" [word "word" ["source", "."]]),
      field "argument" (.capture .path (either [
        leaf "word", leaf "string", leaf "raw_string"]))])])]

/-! ### Elixir

Definitions are ordinary calls there; they are told apart by the name that is called. -/

/-- The words that define a function. -/
def elixirDefinitions : List String := ["def", "defp", "defmacro", "defmacrop"]

/-- The words whose calls are no calls of functions. -/
def elixirSpecialForms : List String := [
  "def", "defp", "defmacro", "defmacrop", "defmodule", "defprotocol", "defimpl", "defstruct",
  "alias", "import", "use", "require", "if", "unless", "case", "cond", "with", "for", "quote",
  "unquote", "receive", "try"]

/-- A call of one of the given words with an argument list that has the given parts. -/
def elixirForm (words : List String) (parts : List Pattern) : Pattern :=
  node "call" [field "target" (word "identifier" words), node "arguments" parts]

/-- The patterns of Elixir. -/
def elixir : Table := [
  (.moduleDefinition, [definition (elixirForm ["defmodule"] [.adjacent (name "alias")])]),
  (.interfaceDefinition, [definition (elixirForm ["defprotocol"] [.adjacent (name "alias")])]),
  (.functionDefinition, [
    definition (elixirForm elixirDefinitions [.adjacent (either [
      node "call" [field "target" (name "identifier")], name "identifier"])]),
    definition (elixirForm elixirDefinitions [.adjacent (node "binary_operator" [
      field "left" (node "call" [field "target" (name "identifier")]),
      field "operator" (.token "when")])])]),
  (.parameter, [
    elixirForm elixirDefinitions [.adjacent (node "call" [
      field "target" (leaf "identifier"), node "arguments" [bareName "identifier"]])]]),
  (.attributeDeclaration, [elixirForm ["defstruct"] [node "list" [bareName "atom"]]]),
  comments,
  (.callSite, [
    definition (node "call" [
      field "target" (.textNotIn elixirSpecialForms (name "identifier"))]),
    definition (node "call" [field "target" (node "dot" [
      field "left" receiver, field "right" (name "identifier")])])]),
  (.importDeclaration, [
    definition (elixirForm ["alias", "import", "use", "require"] [.adjacent (path "alias")])]),
  (.inheritance, [
    node "unary_operator" [
      field "operator" (.token "@"),
      field "operand" (elixirForm ["behaviour"] [.adjacent (supertype "alias")])]])]

end CodeGraph.Queries
