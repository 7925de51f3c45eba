/-
This file names the terms of the vocabulary that the graph is written in: the classes of
constructs, the properties between nodes, and the properties that hold data.
-/
import CodeGraph.Construct

namespace CodeGraph.Term

/-! ### Classes -/

/-- The class of a function that belongs to a type. -/
def methodDefinition : String := "MethodDefinition"

/-- The class of the function that belongs to no type. -/
def functionDefinition : String := Construct.functionDefinition.name

/-- The class of classes. -/
def classDefinition : String := Construct.classDefinition.name

/-- The content class of test sources. -/
def testCode : String := "TestCode"

/-- The class of the entities of a kind, before functions of types become methods; the
references have none. -/
def classOf? (kind : Construct) : Option String :=
  if kind.isReference then none else some kind.name

/-- Every class that an entity can have. -/
def constructClasses : List String := [
  "ModuleDefinition", "ClassDefinition", "StructDefinition", "InterfaceDefinition",
  "EnumDefinition", "FunctionDefinition", methodDefinition, "Parameter",
  "AttributeDeclaration", "VariableDeclaration", "Comment"]

/-! ### Properties between nodes -/

def declares : String := "declares"
def hasField : String := "hasField"
def hasMethod : String := "hasMethod"
def hasParameter : String := "hasParameter"
def callsFunction : String := "callsFunction"
def instantiates : String := "instantiates"
def imports : String := "imports"
def extendsType : String := "extendsType"
def testsFunction : String := "testsFunction"
def documents : String := "documents"
def isDeclaredIn : String := "isDeclaredIn"

/-- Every property that an edge of the graph can have. -/
def edgeProperties : List String := [
  declares, hasField, hasMethod, hasParameter, callsFunction, instantiates, imports,
  extendsType, testsFunction, documents, isDeclaredIn]

/-! ### Properties that hold data -/

def canonicalName : String := "canonicalName"
def simpleName : String := "simpleName"
def startLine : String := "startLine"
def endLine : String := "endLine"
def sourceSnippet : String := "sourceSnippet"
def relativePath : String := "relativePath"
def programmingLanguage : String := "programmingLanguage"
def fileSize : String := "fileSize"
def contentClass : String := "contentClass"
def parseStatus : String := "parseStatus"
def repositoryId : String := "repositoryId"
def rawReference : String := "rawReference"
def evidenceStartLine : String := "evidenceStartLine"
def evidenceEndLine : String := "evidenceEndLine"

/-- Every property that holds data of a node or an edge. -/
def dataProperties : List String := [
  canonicalName, simpleName, startLine, endLine, sourceSnippet, relativePath,
  programmingLanguage, fileSize, contentClass, parseStatus, repositoryId, rawReference,
  evidenceStartLine, evidenceEndLine]

/-- The annotation that names a node for a reader. -/
def label : String := "label"

end CodeGraph.Term
