/-
This file defines the programming languages, with the file extensions, the query table and the
conventions of each. A language is found by a file extension in upper or lower case.
-/
import CodeGraph.Language.Convention
import CodeGraph.Language.Queries.Scripting
import CodeGraph.Language.Queries.Web
import CodeGraph.Language.Queries.Native
import CodeGraph.Language.Queries.Managed
import CodeGraph.Path

namespace CodeGraph

/-- A language that sources are written in. -/
inductive Language where
  | python
  | javascript
  | typescript
  | tsx
  | rust
  | go
  | java
  | csharp
  | c
  | cpp
  | ruby
  | bash
  | elixir
  | css
  | html
  deriving Repr, DecidableEq

namespace Language

/-- Every language, in order. -/
def all : List Language :=
  [python, javascript, typescript, tsx, rust, go, java, csharp, c, cpp, ruby, bash, elixir, css,
    html]

/-- The position of a language in the order. -/
def rank : Language → Nat
  | python => 0
  | javascript => 1
  | typescript => 2
  | tsx => 3
  | rust => 4
  | go => 5
  | java => 6
  | csharp => 7
  | c => 8
  | cpp => 9
  | ruby => 10
  | bash => 11
  | elixir => 12
  | css => 13
  | html => 14

/-- The word that stands for a language in records. -/
def key : Language → String
  | python => "python"
  | javascript => "javascript"
  | typescript => "typescript"
  | tsx => "tsx"
  | rust => "rust"
  | go => "go"
  | java => "java"
  | csharp => "csharp"
  | c => "c"
  | cpp => "cpp"
  | ruby => "ruby"
  | bash => "bash"
  | elixir => "elixir"
  | css => "css"
  | html => "html"

/-- The language with the given key. -/
def ofKey? (text : String) : Option Language := all.find? (·.key == text)

/-- The name of a language. -/
def name : Language → String
  | python => "Python"
  | javascript => "JavaScript"
  | typescript => "TypeScript"
  | tsx => "TSX"
  | rust => "Rust"
  | go => "Go"
  | java => "Java"
  | csharp => "C#"
  | c => "C"
  | cpp => "C++"
  | ruby => "Ruby"
  | bash => "Bash"
  | elixir => "Elixir"
  | css => "CSS"
  | html => "HTML"

/-- The extensions of the files of a language. -/
def extensions : Language → List String
  | python => ["py", "pyi"]
  | javascript => ["js", "jsx", "mjs", "cjs"]
  | typescript => ["ts", "mts", "cts"]
  | tsx => ["tsx"]
  | rust => ["rs"]
  | go => ["go"]
  | java => ["java"]
  | csharp => ["cs"]
  | c => ["c", "h"]
  | cpp => ["cc", "cpp", "cxx", "hpp", "hh", "hxx"]
  | ruby => ["rb", "rake", "gemspec"]
  | bash => ["sh", "bash"]
  | elixir => ["ex", "exs"]
  | css => ["css"]
  | html => ["html", "htm"]

/-- The patterns of a language. -/
def queries : Language → Queries.Table
  | python => Queries.python
  | javascript => Queries.javascript
  | typescript | tsx => Queries.typescript
  | rust => Queries.rust
  | go => Queries.go
  | java => Queries.java
  | csharp => Queries.csharp
  | c => Queries.c
  | cpp => Queries.cpp
  | ruby => Queries.ruby
  | bash => Queries.bash
  | elixir => Queries.elixir
  | css => Queries.css
  | html => Queries.html

/-- How a language's imports lead to files. -/
def imports : Language → ImportConvention
  | python => .dotted
  | javascript => .relative ["js", "jsx", "mjs", "cjs", "ts", "tsx"] true true
  | typescript | tsx =>
    .relative ["ts", "tsx", "mts", "cts", "d.ts", "js", "jsx", "mjs"] true true
  | rust => .modulePath
  | go => .directory
  | java => .packagePath ["java"] false
  | csharp => .packagePath ["cs"] false
  | elixir => .packagePath ["ex", "exs"] true
  | ruby => .feature ["rb"]
  | bash => .relative ["sh", "bash"] false false
  | c | cpp | css | html => .relative [] false false

/-- How a language's tests are named; the first convention that fits counts. -/
def tests : Language → List TestConvention
  | python => [.startsWith "test_", .startsWith "test"]
  | rust => [.startsWith "test_", .endsWith "_test"]
  | cpp => [.startsWith "test_", .startsWith "Test"]
  | c | ruby | bash => [.startsWith "test_"]
  | javascript | typescript | tsx | java => [.startsWith "test"]
  | go | csharp => [.startsWith "Test"]
  | elixir | css | html => []

/-- The patterns that a language has for a kind of construct. -/
def patterns (language : Language) (kind : Construct) : List Pattern :=
  (language.queries.lookup kind).getD []

/-- The name of what a test of the given name tests, if a convention makes it a test. -/
def testSubject? (language : Language) (name : String) : Option String :=
  language.tests.findSome? (·.subject? name)

/-- The language with a file extension, in whatever case its ASCII letters are. -/
def ofExtension? (extension : String) : Option Language :=
  all.find? fun language =>
    language.extensions.any fun known =>
      Text.asciiLowercase known == Text.asciiLowercase extension

/-- The language of the file with the given path. -/
def ofPath? (path : String) : Option Language := (Path.extension? path).bind ofExtension?

theorem mem_all (language : Language) : language ∈ all := by cases language <;> decide

end Language

end CodeGraph
