/-
This file holds the query tables of the languages with a managed runtime: Java and C#.
-/
import CodeGraph.Language.Queries.Shorthand

namespace CodeGraph.Queries

/-! ### Java -/

/-- A parameter of a construct of the given kind. -/
def javaParameter (kind : String) : Pattern :=
  node kind [field "parameters" (node "formal_parameters" [definition (either [
    node "formal_parameter" [field "name" (name "identifier")],
    node "spread_parameter" [
      node "variable_declarator" [field "name" (name "identifier")]]])])]

/-- A construct of the given kind that declares a variable. -/
def javaField (kind : String) : Pattern :=
  definition (node kind [
    field "declarator" (node "variable_declarator" [field "name" (name "identifier")])])

/-- A supertype with or without arguments. -/
def javaSupertype : Pattern :=
  either [supertype "type_identifier", node "generic_type" [supertype "type_identifier"]]

/-- The patterns of Java. -/
def java : Table := [
  (.classDefinition, [
    declared "class_declaration" "identifier", declared "record_declaration" "identifier"]),
  (.interfaceDefinition, [
    declared "interface_declaration" "identifier",
    declared "annotation_type_declaration" "identifier"]),
  (.enumDefinition, [declared "enum_declaration" "identifier"]),
  (.functionDefinition, [
    declared "method_declaration" "identifier",
    declared "constructor_declaration" "identifier"]),
  (.parameter, [javaParameter "method_declaration", javaParameter "constructor_declaration"]),
  (.attributeDeclaration, [
    javaField "field_declaration",
    javaField "constant_declaration",
    declared "enum_constant" "identifier"]),
  (.comment, [definition (leaf "line_comment"), definition (leaf "block_comment")]),
  (.callSite, [
    definition (.node "method_invocation" ["object"] [field "name" (name "identifier")]),
    definition (node "method_invocation" [
      field "object" receiver, field "name" (name "identifier")]),
    definition (node "object_creation_expression" [field "type" (name "type_identifier")]),
    definition (node "object_creation_expression" [
      field "type" (node "generic_type" [name "type_identifier"])])]),
  (.importDeclaration, [
    definition (node "import_declaration" [path "scoped_identifier"])]),
  (.inheritance, [
    node "superclass" [javaSupertype],
    node "super_interfaces" [node "type_list" [javaSupertype]],
    node "extends_interfaces" [node "type_list" [javaSupertype]]])]

/-! ### C# -/

/-- A parameter of a construct of the given kind. -/
def csharpParameter (kind : String) : Pattern :=
  node kind [field "parameters" (node "parameter_list" [declared "parameter" "identifier"])]

/-- A name with or without arguments. -/
def csharpName : Pattern :=
  either [name "identifier", node "generic_name" [name "identifier"]]

/-- The patterns of C#. -/
def csharp : Table := [
  (.moduleDefinition, [
    definition (node "namespace_declaration" [
      field "name" (.capture .name (either [leaf "identifier", leaf "qualified_name"]))])]),
  (.classDefinition, [
    declared "class_declaration" "identifier", declared "record_declaration" "identifier"]),
  (.structDefinition, [declared "struct_declaration" "identifier"]),
  (.interfaceDefinition, [declared "interface_declaration" "identifier"]),
  (.enumDefinition, [declared "enum_declaration" "identifier"]),
  (.functionDefinition, [
    declared "method_declaration" "identifier",
    declared "constructor_declaration" "identifier",
    declared "local_function_statement" "identifier"]),
  (.parameter, [
    csharpParameter "method_declaration",
    csharpParameter "constructor_declaration",
    csharpParameter "local_function_statement"]),
  (.attributeDeclaration, [
    definition (node "field_declaration" [node "variable_declaration" [
      node "variable_declarator" [field "name" (name "identifier")]]]),
    declared "property_declaration" "identifier",
    declared "enum_member_declaration" "identifier"]),
  comments,
  (.callSite, [
    definition (node "invocation_expression" [field "function" (name "identifier")]),
    definition (node "invocation_expression" [
      field "function" (node "generic_name" [name "identifier"])]),
    definition (node "invocation_expression" [field "function" (
      node "member_access_expression" [field "expression" receiver, field "name" csharpName])]),
    definition (node "object_creation_expression" [field "type" csharpName])]),
  (.importDeclaration, [
    definition (node "using_directive" [
      .capture .path (either [leaf "identifier", leaf "qualified_name"])])]),
  (.inheritance, [
    node "base_list" [either [
      supertype "identifier",
      node "generic_name" [supertype "identifier"],
      node "qualified_name" [field "name" (supertype "identifier")]]]])]

end CodeGraph.Queries
