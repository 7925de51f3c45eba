/-
This file holds the vocabulary that is used when no other is given, and a Turtle source that
declares it.
-/
import CodeGraph.Vocabulary.Turtle

namespace CodeGraph.Vocabulary.Builtin

/-- The classes of files, contents and constructs. -/
def classNames : List String := [
  "ApiSpecification", "Archive", "ArchiveFile", "AttributeDeclaration", "BinaryFile",
  "BuildFile", "BuildScript", "CCode", "CSharpCode", "Changelog", "CiConfiguration",
  "ClassDefinition", "CodeConstruct", "CodeOfConduct", "Comment", "Configuration",
  "ConfigurationFile", "ContainerDefinition", "ContentType", "ContributingGuide", "CppCode",
  "DataFile", "DataSet", "DependencyManifest", "Documentation", "DocumentationFile",
  "ElixirCode", "EnumDefinition", "FunctionDefinition", "GoCode", "Image", "ImageFile",
  "InformationCarrier", "InterfaceDefinition", "JavaCode", "JavaScriptCode", "KotlinCode",
  "License", "LicenseFile", "Markup", "Media", "MediaFile", "MethodDefinition",
  "ModuleDefinition", "Notebook", "NotebookFile", "Parameter", "PhpCode", "PythonCode",
  "Readme", "RubyCode", "RustCode", "ScalaCode", "ScriptFile", "ShellScript", "SoftwareCode",
  "SourceCodeFile", "SqlCode", "StructDefinition", "StyleSheet", "SwiftCode", "TestCode",
  "TypeScriptCode", "VariableDeclaration", "WebPageFile"]

/-- The annotations. -/
def annotationNames : List String := ["description", Term.label]

end CodeGraph.Vocabulary.Builtin

namespace CodeGraph.Vocabulary

/-- The vocabulary that is used when no other is given. -/
def builtin : Vocabulary :=
  ⟨.ofList Builtin.classNames, .ofList Term.edgeProperties, .ofList Term.dataProperties,
    .ofList Builtin.annotationNames⟩

/-- The source of the builtin vocabulary. -/
def builtinSource : String := builtin.toTurtle

end CodeGraph.Vocabulary

namespace CodeGraph.Ontology

/-- The ontology of the builtin vocabulary. -/
def builtin : Except VocabularyError Ontology := ofVocabulary Vocabulary.builtin

end CodeGraph.Ontology
