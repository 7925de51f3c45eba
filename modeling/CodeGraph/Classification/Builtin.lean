/-
This file holds the rule table that is used when no other is given. Most of its patterns ask
for one of several extensions or file names; they are put together from lists of these.
-/
import CodeGraph.Classification.RuleSet

namespace CodeGraph.RuleTable.Builtin

/-! ### Patterns -/

/-- One of several patterns. -/
def oneOf (alternatives : List String) : String :=
  "(" ++ String.intercalate "|" alternatives ++ ")"

/-- A pattern in upper and lower case alike. -/
def anyCase (pattern : String) : String := "(?i)" ++ pattern

/-- The pattern of the paths with one of the given extensions. -/
def extension (extensions : List String) : String := "\\." ++ oneOf extensions ++ "$"

/-- The pattern of the paths whose end, from a segment's start on, is one of the given. -/
def named (names : List String) : String := "(^|/)" ++ oneOf names ++ "$"

/-- The pattern of the paths below a directory with one of the given names. -/
def below (directories : List String) : String := "(^|/)" ++ oneOf directories ++ "/"

/-! ### Extensions and names that several rules share -/

/-- The extensions of documents. -/
def documentExtensions : List String :=
  ["md", "markdown", "rst", "adoc", "asciidoc", "txt", "org", "tex", "rtf", "pdf", "docx?"]

/-- The extensions of pictures. -/
def imageExtensions : List String :=
  ["png", "jpe?g", "gif", "bmp", "svg", "ico", "webp", "tiff?"]

/-- The extensions of recordings. -/
def mediaExtensions : List String :=
  ["mp3", "wav", "ogg", "flac", "mp4", "mov", "avi", "mkv", "webm"]

/-- The extensions of archives. -/
def archiveExtensions : List String :=
  ["zip", "tar", "gz", "tgz", "bz2", "xz", "7z", "rar", "jar", "war", "whl"]

/-- The extensions of shell scripts. -/
def scriptExtensions : List String := ["sh", "bash", "zsh", "fish", "ps1", "bat", "cmd"]

/-- The extensions of data that is no markup: texts, then binary formats. -/
def textDataExtensions : List String := ["json", "jsonl", "ndjson", "csv", "tsv"]

/-- The extensions of data in binary formats. -/
def binaryDataExtensions : List String :=
  ["parquet", "avro", "sqlite", "db", "h5", "hdf5", "npy", "npz", "pkl", "pickle"]

/-- The extensions of build files. -/
def buildExtensions : List String := ["mk", "cmake", "gradle", "bazel", "bzl"]

/-- The pattern of licences. -/
def license : String := anyCase "(^|/)(licen[cs]e|copying|notice)([.-][\\w.-]+)?$"

/-- The pattern of configuration files. -/
def configuration : String :=
  anyCase (oneOf [
    "\\." ++ oneOf ["ya?ml", "toml", "ini", "cfg", "conf", "properties", "env"],
    "(^|/)\\.[\\w-]+rc",
    "(^|/)\\." ++ oneOf ["gitignore", "gitattributes", "dockerignore", "editorconfig"]] ++ "$")

/-- The pattern of a document with a name of its own, with or without an extension. -/
def titled (title : String) : String := anyCase ("(^|/)" ++ title ++ "(\\.[\\w]+)?$")

/-! ### The table -/

/-- The patterns of the paths that are left out. -/
def ignorePatterns : List String := [
  "(^|/)\\.(git|hg|svn)/",
  below ["node_modules", "bower_components", "__pycache__", "\\.venv", "venv", "\\.tox",
    "\\.mypy_cache", "\\.pytest_cache", "\\.gradle", "\\.idea", "\\.vscode"],
  "(^|/)target/(debug|release)/",
  below ["dist", "_build", "\\.next", "\\.nuxt"],
  anyCase "\\.min\\.(js|css)$",
  anyCase "[.-]bundle\\.js$",
  "\\.map$",
  anyCase (extension ["pyc", "pyo", "class", "o", "obj", "a", "lib", "so", "dylib", "dll", "exe",
    "pdb"]),
  named ["package-lock\\.json", "yarn\\.lock", "pnpm-lock\\.yaml", "Cargo\\.lock",
    "poetry\\.lock", "Gemfile\\.lock", "composer\\.lock", "mix\\.lock"],
  "(^|/)\\.DS_Store$"]

/-- The rules for the kind of file. -/
def carrierRules : List Rule := [
  ⟨"LicenseFile", license⟩,
  ⟨"NotebookFile", anyCase "\\.ipynb$"⟩,
  ⟨"BuildFile", anyCase (named ["makefile", "gnumakefile", "cmakelists\\.txt", "dockerfile",
    "containerfile", "build\\.gradle(\\.kts)?", "settings\\.gradle(\\.kts)?", "pom\\.xml",
    "build\\.xml", "setup\\.py", "setup\\.cfg", "pyproject\\.toml", "cargo\\.toml",
    "package\\.json", "go\\.mod", "gemfile", "rakefile", "mix\\.exs", "build\\.sbt",
    "meson\\.build", "justfile"])⟩,
  ⟨"BuildFile",
    anyCase (oneOf ["(^|/)dockerfile\\.[\\w.-]+", "\\." ++ oneOf buildExtensions] ++ "$")⟩,
  ⟨"DocumentationFile", anyCase (extension documentExtensions)⟩,
  ⟨"DocumentationFile", anyCase (named ["readme", "changelog", "changes", "history", "authors",
    "contributing"])⟩,
  ⟨"ConfigurationFile", configuration⟩,
  ⟨"WebPageFile", anyCase (extension ["html?", "xhtml"])⟩,
  ⟨"DataFile", anyCase (extension (textDataExtensions ++ ["xml"] ++ binaryDataExtensions))⟩,
  ⟨"ImageFile", anyCase (extension imageExtensions)⟩,
  ⟨"MediaFile", anyCase (extension mediaExtensions)⟩,
  ⟨"ArchiveFile", anyCase (extension archiveExtensions)⟩,
  ⟨"BinaryFile", anyCase (extension ["bin", "wasm", "ttf", "otf", "woff2?", "eot"])⟩,
  ⟨"ScriptFile", anyCase (extension scriptExtensions)⟩,
  ⟨"SourceCodeFile", anyCase (extension ["py", "pyi", "js", "jsx", "mjs", "cjs", "ts", "tsx",
    "mts", "cts", "rs", "go", "java", "cs", "c", "h", "cc", "cpp", "cxx", "hpp", "hh", "hxx",
    "rb", "ex", "exs", "php", "kt", "kts", "scala", "swift", "sql", "css", "scss", "sass",
    "less", "vue", "svelte", "lua", "r", "jl", "hs", "ml", "clj"])⟩]

/-- The patterns of tests: by directory, and by name. -/
def testRules : List Rule := [
  ⟨"TestCode", "(^|/)(tests?|__tests__|specs?)/.*" ++ extension ["py", "js", "jsx", "mjs", "ts",
    "tsx", "rs", "go", "java", "cs", "c", "h", "cc", "cpp", "hpp", "rb", "ex", "exs", "php",
    "kt", "scala", "swift", "sh"]⟩,
  ⟨"TestCode", oneOf [
    "(^|/)test_[^/]+\\.py",
    "[^/]+_test\\." ++ oneOf ["py", "go", "rb", "exs?", "rs", "c", "cc", "cpp"],
    "[^/]+\\.(test|spec)\\." ++ oneOf ["js", "jsx", "mjs", "ts", "tsx"],
    "[^/]+(Test|Tests|Spec)\\." ++ oneOf ["java", "kt", "scala", "cs"],
    "[^/]+_spec\\.rb"] ++ "$"⟩]

/-- The rules for the languages of code. -/
def languageRules : List Rule := [
  ⟨"ShellScript", anyCase (extension scriptExtensions)⟩,
  ⟨"PythonCode", "\\.pyi?$"⟩,
  ⟨"JavaScriptCode", extension ["js", "jsx", "mjs", "cjs"]⟩,
  ⟨"TypeScriptCode", extension ["ts", "tsx", "mts", "cts"]⟩,
  ⟨"RustCode", "\\.rs$"⟩,
  ⟨"GoCode", "\\.go$"⟩,
  ⟨"JavaCode", "\\.java$"⟩,
  ⟨"CSharpCode", "\\.cs$"⟩,
  ⟨"CCode", "\\.[ch]$"⟩,
  ⟨"CppCode", extension ["cc", "cpp", "cxx", "hpp", "hh", "hxx"]⟩,
  ⟨"RubyCode", extension ["rb", "rake", "gemspec"]⟩,
  ⟨"ElixirCode", "\\.exs?$"⟩,
  ⟨"PhpCode", "\\.php$"⟩,
  ⟨"KotlinCode", "\\.kts?$"⟩,
  ⟨"ScalaCode", extension ["scala", "sc"]⟩,
  ⟨"SwiftCode", "\\.swift$"⟩,
  ⟨"SqlCode", anyCase "\\.sql$"⟩]

/-- The rules for what a file holds. -/
def contentRules : List Rule := [
  ⟨"Readme", titled "readme"⟩,
  ⟨"Changelog", titled (oneOf ["changelog", "changes", "history", "news", "releases?"])⟩,
  ⟨"License", license⟩,
  ⟨"ContributingGuide", titled "contributing"⟩,
  ⟨"CodeOfConduct", titled "code_of_conduct"⟩,
  ⟨"CiConfiguration", named ["\\.github/workflows/[^/]+\\.ya?ml", "\\.gitlab-ci\\.ya?ml",
    "\\.circleci/[^/]+", "\\.travis\\.yml", "azure-pipelines\\.ya?ml", "Jenkinsfile"]⟩,
  ⟨"ContainerDefinition", anyCase (named ["(dockerfile|containerfile)(\\.[\\w.-]+)?",
    "docker-compose(\\.[\\w-]+)?\\.ya?ml", "compose\\.ya?ml"])⟩,
  ⟨"ApiSpecification", anyCase (oneOf ["(^|/)(openapi|swagger)[\\w.-]*\\.(ya?ml|json)",
    "\\.(proto|graphql|gql)"] ++ "$")⟩,
  ⟨"DependencyManifest", anyCase (named ["requirements[\\w.-]*\\.txt", "pipfile",
    "pyproject\\.toml", "setup\\.py", "setup\\.cfg", "package\\.json", "cargo\\.toml",
    "go\\.mod", "go\\.sum", "gemfile", "pom\\.xml", "build\\.gradle(\\.kts)?", "mix\\.exs",
    "composer\\.json", "environment\\.ya?ml"])⟩,
  ⟨"BuildScript", anyCase (oneOf [
    "(^|/)" ++ oneOf ["makefile", "gnumakefile", "cmakelists\\.txt", "build\\.xml", "rakefile",
      "meson\\.build", "justfile", "build\\.sbt"],
    "\\." ++ oneOf buildExtensions] ++ "$")⟩]
  ++ testRules ++ [
  ⟨"Notebook", anyCase "\\.ipynb$"⟩,
  ⟨"Documentation", anyCase (oneOf ["\\." ++ oneOf documentExtensions,
    "(^|/)(authors|contributors)"] ++ "$")⟩,
  ⟨"Configuration", configuration⟩,
  ⟨"Markup", anyCase (extension ["html?", "xhtml", "xml"])⟩,
  ⟨"StyleSheet", anyCase (extension ["css", "scss", "sass", "less"])⟩,
  ⟨"DataSet", anyCase (extension (textDataExtensions ++ binaryDataExtensions))⟩,
  ⟨"Image", anyCase (extension imageExtensions)⟩,
  ⟨"Media", anyCase (extension mediaExtensions)⟩,
  ⟨"Archive", anyCase (extension archiveExtensions)⟩]
  ++ languageRules

end CodeGraph.RuleTable.Builtin

namespace CodeGraph.RuleTable

/-- The rule table that is used when no other is given. -/
def builtin : RuleTable :=
  ⟨Builtin.ignorePatterns, ⟨"SourceCodeFile", Builtin.carrierRules⟩,
    ⟨"SoftwareCode", Builtin.contentRules⟩⟩

end CodeGraph.RuleTable

namespace CodeGraph.RuleSet

/-- The rules of the file with the given path and text, or the builtin ones if no file is
given, compiled against an ontology. -/
def load (ontology : Ontology) (file : Option (String × Option String))
    (engine : RegularExpression.Engine := .standard) : Except RuleError (RuleSet engine) := do
  let table ← match file with
    | some (path, text) => RuleTable.ofFile path text
    | none => pure RuleTable.builtin
  compile ontology table engine

end CodeGraph.RuleSet
