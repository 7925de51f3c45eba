/-
This file holds the query tables of the languages of web pages: JavaScript, TypeScript, CSS and
HTML.
-/
import CodeGraph.Language.Queries.Shorthand

namespace CodeGraph.Queries

/-! ### What JavaScript and TypeScript share -/

/-- A parameter of a construct of the given kind. -/
def scriptParameter (kind : String) (parameter : Pattern) : Pattern :=
  node kind [field "parameters" (node "formal_parameters" [parameter])]

/-- A parameter of a function of the given kind that is the value of a variable. -/
def valueParameter (kind : String) (parameter : Pattern) : Pattern :=
  node "variable_declarator" [field "value" (scriptParameter kind parameter)]

/-- The only parameter of a function without parentheses around it. -/
def soleParameter : Pattern :=
  node "variable_declarator" [
    field "value" (node "arrow_function" [field "parameter" (bareName "identifier")])]

/-- The name of a property, public or private. -/
def propertyName : Pattern :=
  .capture .name (either [leaf "property_identifier", leaf "private_property_identifier"])

/-- A variable whose value is a function. -/
def functionVariable : Pattern :=
  definition (node "variable_declarator" [
    field "name" (name "identifier"),
    field "value" (either [leaf "arrow_function", leaf "function_expression"])])

/-- A variable with a value. -/
def valueVariable : Pattern :=
  definition (node "variable_declarator" [
    field "name" (name "identifier"), field "value" present])

/-- The variables at the top of a program. -/
def scriptVariables : Construct × List Pattern :=
  (.variableDeclaration, [
    node "program" [either [
      node "lexical_declaration" [valueVariable],
      node "variable_declaration" [valueVariable],
      node "export_statement" [
        field "declaration" (node "lexical_declaration" [valueVariable])]]]])

/-- The calls of functions, methods and constructors. -/
def scriptCalls : Construct × List Pattern :=
  (.callSite, [
    definition (node "call_expression" [field "function" (name "identifier")]),
    definition (node "call_expression" [field "function" (node "member_expression" [
      field "object" receiver, field "property" (name "property_identifier")])]),
    definition (node "new_expression" [field "constructor" (name "identifier")])])

/-- A string with the path that is imported. -/
def quotedPath : Pattern := node "string" [path "string_fragment"]

/-- The imports by statements and by calls. -/
def scriptImports : Construct × List Pattern :=
  (.importDeclaration, [
    definition (node "import_statement" [field "source" quotedPath]),
    definition (node "export_statement" [field "source" quotedPath]),
    definition (node "call_expression" [
      field "function" (word "identifier" ["require"]),
      field "arguments" (node "arguments" [.adjacent quotedPath])])])

/-! ### JavaScript -/

/-- A parameter as JavaScript writes it. -/
def untypedParameter : Pattern :=
  definition (either [
    name "identifier",
    node "assignment_pattern" [field "left" (name "identifier")],
    node "rest_pattern" [name "identifier"]])

/-- The patterns of JavaScript. -/
def javascript : Table := [
  (.classDefinition, [declared "class_declaration" "identifier"]),
  (.functionDefinition, [
    declared "function_declaration" "identifier",
    declared "generator_function_declaration" "identifier",
    definition (node "method_definition" [field "name" propertyName]),
    functionVariable]),
  (.parameter, [
    scriptParameter "function_declaration" untypedParameter,
    scriptParameter "generator_function_declaration" untypedParameter,
    scriptParameter "method_definition" untypedParameter,
    valueParameter "arrow_function" untypedParameter,
    valueParameter "function_expression" untypedParameter,
    soleParameter]),
  (.attributeDeclaration, [
    definition (node "field_definition" [field "property" propertyName]),
    definition (node "expression_statement" [node "assignment_expression" [
      field "left" (node "member_expression" [
        field "object" (leaf "this"), field "property" (name "property_identifier")])]])]),
  scriptVariables,
  comments,
  scriptCalls,
  scriptImports,
  (.inheritance, [
    node "class_declaration" [node "class_heritage" [supertype "identifier"]],
    node "class_declaration" [node "class_heritage" [
      node "member_expression" [field "property" (supertype "property_identifier")]]]])]

/-! ### TypeScript, with and without markup -/

/-- A parameter as TypeScript writes it. -/
def typedParameter : Pattern :=
  definition (either [
    node "required_parameter" [field "pattern" (name "identifier")],
    node "required_parameter" [field "pattern" (node "rest_pattern" [name "identifier"])],
    node "optional_parameter" [field "pattern" (name "identifier")]])

/-- The patterns of TypeScript. -/
def typescript : Table := [
  (.moduleDefinition, [
    declared "internal_module" "identifier", declared "module" "identifier"]),
  (.classDefinition, [
    declared "class_declaration" "type_identifier",
    declared "abstract_class_declaration" "type_identifier"]),
  (.interfaceDefinition, [declared "interface_declaration" "type_identifier"]),
  (.enumDefinition, [declared "enum_declaration" "identifier"]),
  (.functionDefinition, [
    declared "function_declaration" "identifier",
    declared "generator_function_declaration" "identifier",
    definition (node "method_definition" [field "name" propertyName]),
    declared "method_signature" "property_identifier",
    declared "abstract_method_signature" "property_identifier",
    functionVariable]),
  (.parameter, [
    scriptParameter "function_declaration" typedParameter,
    scriptParameter "generator_function_declaration" typedParameter,
    scriptParameter "method_definition" typedParameter,
    scriptParameter "method_signature" typedParameter,
    scriptParameter "abstract_method_signature" typedParameter,
    valueParameter "arrow_function" typedParameter,
    valueParameter "function_expression" typedParameter,
    soleParameter]),
  (.attributeDeclaration, [
    definition (node "public_field_definition" [field "name" propertyName]),
    declared "property_signature" "property_identifier",
    node "enum_body" [field "name" (bareName "property_identifier")],
    declared "enum_assignment" "property_identifier"]),
  scriptVariables,
  comments,
  scriptCalls,
  scriptImports,
  (.inheritance, [
    node "class_heritage" [node "extends_clause" [field "value" (supertype "identifier")]],
    node "class_heritage" [node "extends_clause" [field "value" (node "member_expression" [
      field "property" (supertype "property_identifier")])]],
    node "class_heritage" [node "implements_clause" [supertype "type_identifier"]],
    node "class_heritage" [node "implements_clause" [
      node "generic_type" [field "name" (supertype "type_identifier")]]],
    node "extends_type_clause" [field "type" (supertype "type_identifier")],
    node "extends_type_clause" [field "type" (node "generic_type" [
      field "name" (supertype "type_identifier")])]])]

/-! ### CSS and HTML

Neither declares constructs of code; only comments and what a document pulls in are of
interest. -/

/-- The patterns of CSS. -/
def css : Table := [
  comments,
  (.importDeclaration, [
    definition (node "import_statement" [path "string_value"]),
    definition (node "import_statement" [node "call_expression" [
      word "function_name" ["url"], node "arguments" [path "string_value"]]])])]

/-- An attribute with one of the given names whose value is imported. -/
def pathAttribute (names : List String) : Pattern :=
  node "attribute" [
    word "attribute_name" names, node "quoted_attribute_value" [path "attribute_value"]]

/-- The patterns of HTML. -/
def html : Table := [
  comments,
  (.importDeclaration, [
    definition (node "script_element" [node "start_tag" [pathAttribute ["src"]]]),
    definition (node "element" [node "start_tag" [
      word "tag_name" ["link"], pathAttribute ["href"]]])])]

end CodeGraph.Queries
