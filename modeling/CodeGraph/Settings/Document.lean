/-
This file reads settings from TOML documents and writes the document of the settings that hold
without one.
-/
import CodeGraph.Settings.Basic

namespace CodeGraph.Settings

open Toml

/-- The settings of discovery and parsing that a value holds. -/
def readExtraction (record : Value) : Option ExtractionSettings := do
  let plain : ExtractionSettings := {}
  match ← record.fields? ["workers", "max_file_size", "parse_timeout_ms", "strict_syntax",
      "follow_gitignore", "include_hidden"] with
  | [workers, maxFileSize, parseTimeout, strictSyntax, followGitignore, includeHidden] =>
    return {
      workers := ← DataFormat.optional Value.natural? plain.workers workers
      maxFileSize := ← DataFormat.optional Value.natural? plain.maxFileSize maxFileSize
      parseTimeout := ← DataFormat.optional Value.natural? plain.parseTimeout parseTimeout
      strictSyntax := ← DataFormat.optional Value.boolean? plain.strictSyntax strictSyntax
      followGitignore :=
        ← DataFormat.optional Value.boolean? plain.followGitignore followGitignore
      includeHidden := ← DataFormat.optional Value.boolean? plain.includeHidden includeHidden }
  | _ => none

/-- The path that a value holds. -/
def readPath (value : Value) : Option (Option String) := value.text?.map some

/-- The paths under the given names of a section. -/
def readPaths (names : List String) (section? : Option Value) : Option (List (Option String)) :=
  match section? with
  | none => some (names.map fun _ => none)
  | some record => do (← record.fields? names).mapM (DataFormat.optional readPath none)

/-- The settings that a value holds. -/
def ofValue (record : Value) : Option Settings := do
  match ← record.fields? ["extraction", "classification", "ontology", "output"] with
  | [extraction, classification, ontology, output] =>
    let extraction ← DataFormat.optional readExtraction {} extraction
    let classification ← readPaths ["rules_path"] classification
    let ontology ← readPaths ["cache_path", "source_path"] ontology
    let output ← readPaths ["path"] output
    match classification, ontology, output with
    | [rulesPath], [cachePath, sourcePath], [outputPath] =>
      return { extraction, rulesPath, cachePath, sourcePath, outputPath }
    | _, _, _ => none
  | _ => none

/-- The settings that a TOML document holds. -/
def ofToml (text : String) : Option Settings := (Toml.parse? text).bind ofValue

/-- A section of a document: its header and a line for each key and value. -/
def sectionText (name : String) (lines : List (String × String)) : String :=
  "[" ++ name ++ "]\n" ++ String.join (lines.map fun (key, value) => s!"{key} = {value}\n")

/-- The document of the settings that hold without one. -/
def defaultText : String :=
  let plain : ExtractionSettings := {}
  String.intercalate "\n" [
    sectionText "extraction" [
      ("workers", toString plain.workers),
      ("max_file_size", toString plain.maxFileSize),
      ("parse_timeout_ms", toString plain.parseTimeout),
      ("strict_syntax", toString plain.strictSyntax),
      ("follow_gitignore", toString plain.followGitignore),
      ("include_hidden", toString plain.includeHidden)],
    sectionText "classification" [], sectionText "ontology" [], sectionText "output" []]

end CodeGraph.Settings
