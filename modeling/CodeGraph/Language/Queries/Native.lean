/-
This file holds the query tables of the languages that are compiled to machine code: C, C++,
Rust and Go. Functions that are written outside their type name it as their owner.
-/
import CodeGraph.Language.Queries.Shorthand

namespace CodeGraph.Queries

/-! ### What C and C++ share -/

/-- A child in the field of what is declared. -/
def declarator (inner : Pattern) : Pattern := field "declarator" inner

/-- A type with a name and a body of the given kind. -/
def typeWithBody (kind body : String) : Pattern :=
  definition (node kind [field "name" (name "type_identifier"), field "body" (leaf body)])

/-- The structures and unions with a name. -/
def structures : List Pattern := [
  typeWithBody "struct_specifier" "field_declaration_list",
  typeWithBody "union_specifier" "field_declaration_list"]

/-- The files that a source includes. -/
def includes : Construct × List Pattern :=
  (.importDeclaration, [
    definition (node "preproc_include" [
      field "path" (node "string_literal" [path "string_content"])]),
    definition (node "preproc_include" [field "path" (path "system_lib_string")])])

/-- The call of a member of something. -/
def memberCall : Pattern :=
  definition (node "call_expression" [field "function" (node "field_expression" [
    field "argument" receiver, field "field" (name "field_identifier")])])

/-- A call of a function by its name. -/
def plainCall : Pattern :=
  definition (node "call_expression" [field "function" (name "identifier")])

/-! ### C -/

/-- A type without a name of its own that a type definition names. -/
def typedefNamed (kind body : String) : Pattern :=
  definition (node "type_definition" [
    field "type" (.node kind ["name"] [field "body" (leaf body)]),
    declarator (name "type_identifier")])

/-- A name of the given kind, alone or declared as a pointer or an array. -/
def pointerOrArray (kind : String) : Pattern :=
  either [
    name kind,
    node "pointer_declarator" [declarator (name kind)],
    node "array_declarator" [declarator (name kind)]]

/-- A parameter of a function. -/
def cParameters : Pattern :=
  node "function_declarator" [field "parameters" (node "parameter_list" [
    definition (node "parameter_declaration" [declarator (pointerOrArray "identifier")])])]

/-- The patterns of C. -/
def c : Table := [
  (.structDefinition,
    structures ++ [typedefNamed "struct_specifier" "field_declaration_list"]),
  (.enumDefinition, [
    typeWithBody "enum_specifier" "enumerator_list",
    typedefNamed "enum_specifier" "enumerator_list"]),
  (.functionDefinition, [
    definition (node "function_definition" [
      declarator (node "function_declarator" [declarator (name "identifier")])]),
    definition (node "function_definition" [
      declarator (node "pointer_declarator" [
        declarator (node "function_declarator" [declarator (name "identifier")])])])]),
  (.parameter, [
    node "function_definition" [declarator (either [
      cParameters, node "pointer_declarator" [declarator cParameters]])]]),
  (.attributeDeclaration, [
    definition (node "field_declaration" [declarator (pointerOrArray "field_identifier")]),
    declared "enumerator" "identifier"]),
  (.variableDeclaration, [
    node "translation_unit" [definition (node "declaration" [declarator (either [
      name "identifier",
      node "init_declarator" [declarator (name "identifier")],
      node "init_declarator" [
        declarator (node "pointer_declarator" [declarator (name "identifier")])]])])]]),
  comments,
  (.callSite, [plainCall, memberCall]),
  includes]

/-! ### C++ -/

/-- A declared function with its name, plain or within a type. -/
def declaredFunction : Pattern :=
  node "function_declarator" [declarator (either [name "identifier", name "field_identifier"])]

/-- The name of a parameter, alone or declared as a pointer or a reference. -/
def cppParameterName : Pattern :=
  declarator (either [
    name "identifier",
    node "pointer_declarator" [declarator (name "identifier")],
    node "reference_declarator" [name "identifier"]])

/-- The patterns of C++. -/
def cpp : Table := [
  (.moduleDefinition, [declared "namespace_definition" "namespace_identifier"]),
  (.classDefinition, [typeWithBody "class_specifier" "field_declaration_list"]),
  (.structDefinition, structures),
  (.enumDefinition, [typeWithBody "enum_specifier" "enumerator_list"]),
  (.functionDefinition, [
    definition (node "function_definition" [declarator declaredFunction]),
    definition (node "function_definition" [declarator (either [
      node "pointer_declarator" [declarator declaredFunction],
      node "reference_declarator" [declaredFunction]])]),
    definition (node "function_definition" [declarator (node "function_declarator" [
      declarator (node "qualified_identifier" [
        field "scope" (either [
          owner "namespace_identifier",
          node "template_type" [field "name" (owner "type_identifier")]]),
        field "name" (either [name "identifier", name "destructor_name"])])])]),
    node "field_declaration_list" [definition (node "field_declaration" [
      declarator (node "function_declarator" [declarator (name "field_identifier")])])]]),
  (.parameter, [
    node "function_definition" [declarator (node "function_declarator" [
      field "parameters" (node "parameter_list" [definition (either [
        node "parameter_declaration" [cppParameterName],
        node "optional_parameter_declaration" [cppParameterName]])])])]]),
  (.attributeDeclaration, [
    definition (node "field_declaration" [declarator (either [
      name "field_identifier",
      node "pointer_declarator" [declarator (name "field_identifier")],
      node "reference_declarator" [name "field_identifier"],
      node "array_declarator" [declarator (name "field_identifier")]])]),
    declared "enumerator" "identifier"]),
  (.variableDeclaration, [
    node "translation_unit" [definition (node "declaration" [declarator (either [
      name "identifier", node "init_declarator" [declarator (name "identifier")]])])]]),
  comments,
  (.callSite, [
    plainCall,
    definition (node "call_expression" [
      field "function" (node "template_function" [field "name" (name "identifier")])]),
    memberCall,
    definition (node "call_expression" [field "function" (node "qualified_identifier" [
      field "scope" receiver, field "name" (name "identifier")])]),
    definition (node "new_expression" [field "type" (name "type_identifier")])]),
  includes,
  (.inheritance, [
    node "base_class_clause" [either [
      supertype "type_identifier",
      node "template_type" [field "name" (supertype "type_identifier")],
      node "qualified_identifier" [field "name" (supertype "type_identifier")]]]])]

/-! ### Rust -/

/-- The type that an implementation is for. -/
def implementedType : Pattern :=
  field "type" (either [
    owner "type_identifier", node "generic_type" [field "type" (owner "type_identifier")]])

/-- A parameter of a function of the given kind. -/
def rustParameter (kind : String) : Pattern :=
  node kind [field "parameters" (node "parameters" [
    definition (node "parameter" [field "pattern" (name "identifier")])])]

/-- A name with a path before it. -/
def scopedName : Pattern :=
  node "scoped_identifier" [field "path" receiver, field "name" (name "identifier")]

/-- The patterns of Rust. -/
def rust : Table := [
  (.moduleDefinition, [
    definition (node "mod_item" [
      field "name" (name "identifier"), field "body" (leaf "declaration_list")])]),
  (.structDefinition, [
    declared "struct_item" "type_identifier", declared "union_item" "type_identifier"]),
  (.enumDefinition, [declared "enum_item" "type_identifier"]),
  (.interfaceDefinition, [declared "trait_item" "type_identifier"]),
  (.functionDefinition, [
    declared "function_item" "identifier",
    declared "function_signature_item" "identifier",
    node "impl_item" [
      implementedType,
      field "body" (node "declaration_list" [declared "function_item" "identifier"])]]),
  (.parameter, [rustParameter "function_item", rustParameter "function_signature_item"]),
  (.attributeDeclaration, [
    declared "field_declaration" "field_identifier", declared "enum_variant" "identifier"]),
  (.variableDeclaration, [
    declared "const_item" "identifier", declared "static_item" "identifier"]),
  (.comment, [definition (leaf "line_comment"), definition (leaf "block_comment")]),
  (.callSite, [
    plainCall,
    definition (node "call_expression" [field "function" (node "field_expression" [
      field "value" receiver, field "field" (name "field_identifier")])]),
    definition (node "call_expression" [field "function" scopedName]),
    definition (node "call_expression" [
      field "function" (node "generic_function" [field "function" (name "identifier")])]),
    definition (node "call_expression" [
      field "function" (node "generic_function" [field "function" scopedName])])]),
  (.importDeclaration, [
    definition (node "use_declaration" [field "argument" (.capture .path .anything)]),
    definition (.node "mod_item" ["body"] [field "name" (path "identifier")])]),
  (.inheritance, [
    node "impl_item" [
      field "trait" (either [
        supertype "type_identifier",
        node "scoped_type_identifier" [field "name" (supertype "type_identifier")],
        node "generic_type" [field "type" (supertype "type_identifier")]]),
      implementedType],
    node "trait_item" [
      field "bounds" (node "trait_bounds" [supertype "type_identifier"])]])]

/-! ### Go -/

/-- A type with a name whose own type is of the given kind. -/
def goType (kind : String) : Pattern :=
  definition (node "type_spec" [
    field "name" (name "type_identifier"), field "type" (leaf kind)])

/-- The type that the receiver of a method names. -/
def goReceiver : Pattern :=
  field "receiver" (node "parameter_list" [node "parameter_declaration" [field "type" (either [
    owner "type_identifier",
    node "pointer_type" [owner "type_identifier"],
    node "generic_type" [field "type" (owner "type_identifier")],
    node "pointer_type" [node "generic_type" [field "type" (owner "type_identifier")]]])]])

/-- A parameter of a function of the given kind. -/
def goParameter (kind : String) : Pattern :=
  node kind [field "parameters" (node "parameter_list" [definition (either [
    node "parameter_declaration" [field "name" (name "identifier")],
    node "variadic_parameter_declaration" [field "name" (name "identifier")]])])]

/-- The patterns of Go. -/
def go : Table := [
  (.structDefinition, [goType "struct_type"]),
  (.interfaceDefinition, [goType "interface_type"]),
  (.functionDefinition, [
    declared "function_declaration" "identifier",
    definition (node "method_declaration" [
      goReceiver, field "name" (name "field_identifier")]),
    declared "method_elem" "field_identifier"]),
  (.parameter, [goParameter "function_declaration", goParameter "method_declaration"]),
  (.attributeDeclaration, [declared "field_declaration" "field_identifier"]),
  (.variableDeclaration, [
    node "source_file" [node "const_declaration" [declared "const_spec" "identifier"]],
    node "source_file" [node "var_declaration" [declared "var_spec" "identifier"]],
    node "source_file" [node "var_declaration" [
      node "var_spec_list" [declared "var_spec" "identifier"]]]]),
  comments,
  (.callSite, [
    plainCall,
    definition (node "call_expression" [field "function" (node "selector_expression" [
      field "operand" receiver, field "field" (name "field_identifier")])])]),
  (.importDeclaration, [
    definition (node "import_spec" [field "path" (node "interpreted_string_literal" [
      path "interpreted_string_literal_content"])]),
    definition (node "import_spec" [field "path" (node "raw_string_literal" [
      path "raw_string_literal_content"])])]),
  (.inheritance, [
    node "field_declaration_list" [.node "field_declaration" ["name"] [
      field "type" (either [
        supertype "type_identifier",
        node "qualified_type" [field "name" (supertype "type_identifier")]])]],
    node "interface_type" [node "type_elem" [supertype "type_identifier"]]])]

end CodeGraph.Queries
