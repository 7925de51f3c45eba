/-
This file defines the kinds of construct that are looked for in source code. Ten kinds become
entities of the graph; the other three are references, which the resolution turns into edges.
-/

namespace CodeGraph

/-- A kind of construct in source code, in the order of precedence between kinds. -/
inductive Construct where
  | moduleDefinition
  | classDefinition
  | structDefinition
  | interfaceDefinition
  | enumDefinition
  | functionDefinition
  | parameter
  | attributeDeclaration
  | variableDeclaration
  | comment
  | callSite
  | importDeclaration
  | inheritance
  deriving Repr, DecidableEq, Inhabited

namespace Construct

/-- Every kind, in order. -/
def all : List Construct :=
  [moduleDefinition, classDefinition, structDefinition, interfaceDefinition, enumDefinition,
    functionDefinition, parameter, attributeDeclaration, variableDeclaration, comment,
    callSite, importDeclaration, inheritance]

/-- The position of a kind in the order of precedence. -/
def rank : Construct → Nat
  | moduleDefinition => 0
  | classDefinition => 1
  | structDefinition => 2
  | interfaceDefinition => 3
  | enumDefinition => 4
  | functionDefinition => 5
  | parameter => 6
  | attributeDeclaration => 7
  | variableDeclaration => 8
  | comment => 9
  | callSite => 10
  | importDeclaration => 11
  | inheritance => 12

/-- The name of a kind. -/
def name : Construct → String
  | moduleDefinition => "ModuleDefinition"
  | classDefinition => "ClassDefinition"
  | structDefinition => "StructDefinition"
  | interfaceDefinition => "InterfaceDefinition"
  | enumDefinition => "EnumDefinition"
  | functionDefinition => "FunctionDefinition"
  | parameter => "Parameter"
  | attributeDeclaration => "AttributeDeclaration"
  | variableDeclaration => "VariableDeclaration"
  | comment => "Comment"
  | callSite => "CallSite"
  | importDeclaration => "ImportDeclaration"
  | inheritance => "Inheritance"

/-- The kind of a given name. -/
def ofName? (text : String) : Option Construct := all.find? (·.name == text)

/-- A kind that is a reference to something, not a thing of its own. -/
def isReference : Construct → Bool
  | callSite | importDeclaration | inheritance => true
  | _ => false

/-- A kind of type: its functions are methods and its attributes are fields. -/
def isType : Construct → Bool
  | classDefinition | structDefinition | interfaceDefinition | enumDefinition => true
  | _ => false

/-- A kind whose constructs can hold other constructs. -/
def isContainer : Construct → Bool
  | moduleDefinition | functionDefinition => true
  | kind => kind.isType

theorem rank_injective {left right : Construct} (same : left.rank = right.rank) :
    left = right := by
  cases left <;> cases right <;> simp_all [rank]

/-- A type can hold other constructs. -/
theorem isContainer_of_isType (kind : Construct) (isType : kind.isType) : kind.isContainer := by
  cases kind <;> first | rfl | cases isType

end Construct

end CodeGraph
