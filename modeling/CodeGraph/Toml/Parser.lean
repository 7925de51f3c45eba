/-
This file reads TOML documents. The lines of a document are statements that build up one table.
Each table remembers how it came to be, because that decides what may be added to it later: a
header may complete a table that only other headers implied, and a dotted key may extend a
table that dotted keys made.
-/
import CodeGraph.Toml.Scalar

namespace CodeGraph.Toml

/-! ### Tables under construction -/

/-- How a table came to be. -/
inductive Origin where
  /-- The header of a table within it implied it. -/
  | implied
  /-- A dotted key made it. -/
  | dotted
  /-- A header of its own declared it. -/
  | declared
  deriving Repr, DecidableEq

/-- A value or a table under construction. -/
inductive Node where
  | value (value : Value)
  | table (origin : Origin) (members : List (String × Node))
  /-- An array of tables, the last one first. -/
  | tables (last : List (String × Node)) (earlier : List (List (String × Node)))
  deriving Inhabited

/-- The members of a table under construction, in the order of their first mention. -/
abbrev Members := List (String × Node)

mutual

/-- The finished value. -/
def Node.finish : Node → Value
  | .value value => value
  | .table _ members => .table (finishMembers members)
  | .tables last earlier => .array (finishTables earlier [.table (finishMembers last)])

/-- The finished members of a table. -/
def finishMembers : Members → List (String × Value)
  | [] => []
  | (key, node) :: rest => (key, node.finish) :: finishMembers rest

/-- The finished tables of an array in front of the given ones, from the last one on. -/
def finishTables : List Members → List Value → List Value
  | [], done => done
  | members :: earlier, done => finishTables earlier (.table (finishMembers members) :: done)

end

/-- The members with a new value for a key, at the place of the key if it is there. -/
def Members.put (key : String) (node : Node) : Members → Members
  | [] => [(key, node)]
  | (other, old) :: rest =>
    if other = key then (other, node) :: rest else (other, old) :: Members.put key node rest

/-- Changes the table at the end of a path of headers. A table that the path names for the first
time is implied; within an array of tables the path goes on in the last one. -/
def modifyAt (change : Members → Option Members) (members : Members) :
    List String → Option Members
  | [] => change members
  | key :: path =>
    match members.lookup key with
    | none => (modifyAt change [] path).map fun inner => members.put key (.table .implied inner)
    | some (.table origin inner) =>
      (modifyAt change inner path).map fun inner => members.put key (.table origin inner)
    | some (.tables last earlier) =>
      (modifyAt change last path).map fun last => members.put key (.tables last earlier)
    | some (.value _) => none

/-- Adds a value under a key of a table; none if the key is taken. -/
def addValue (key : String) (value : Value) (members : Members) : Option Members :=
  if (members.lookup key).isSome then none else some (members.put key (.value value))

/-- Adds a value under a dotted key. Only tables that dotted keys made are entered. -/
def addDotted (key : String) (value : Value) (members : Members) : List String → Option Members
  | [] => addValue key value members
  | first :: path =>
    match members.lookup first with
    | none =>
      (addDotted key value [] path).map fun inner => members.put first (.table .dotted inner)
    | some (.table .dotted inner) =>
      (addDotted key value inner path).map fun inner => members.put first (.table .dotted inner)
    | some (.table .implied inner) =>
      if path.isEmpty then none
      else (addDotted key value inner path).map fun inner =>
        members.put first (.table .implied inner)
    | some _ => none

/-- Declares the table under a key; a table that was declared or made by dotted keys is not
declared again. -/
def declareTable (key : String) (members : Members) : Option Members :=
  match members.lookup key with
  | none => some (members.put key (.table .declared []))
  | some (.table .implied inner) => some (members.put key (.table .declared inner))
  | some _ => none

/-- Adds an empty table to the array of tables under a key. -/
def declareArrayTable (key : String) (members : Members) : Option Members :=
  match members.lookup key with
  | none => some (members.put key (.tables [] []))
  | some (.tables last earlier) => some (members.put key (.tables [] (last :: earlier)))
  | some _ => none

/-! ### Keys and values -/

/-- A text without the spaces and tabs at its start. -/
def skipSpace (text : List Char) : List Char := text.dropWhile isSpace

/-- A character of a key without quotes. -/
def isBareKey (character : Char) : Bool :=
  character.isAlphanum || character == '_' || character == '-'

/-- Reads one key: a bare one, or a string on one line. -/
def readSimpleKey (text : List Char) : Option (String × List Char) :=
  match text with
  | '"' :: rest => (readBasic (rest.length + 1) rest).map fun (key, rest) => (.ofList key, rest)
  | '\'' :: rest => (readLiteral rest).map fun (key, rest) => (.ofList key, rest)
  | _ =>
    match text.span isBareKey with
    | ([], _) => none
    | (key, rest) => some (.ofList key, rest)

/-- Reads keys with dots between them: the last one and those before it. -/
def readKey (steps : Nat) (text : List Char) : Option ((List String × String) × List Char) :=
  match steps with
  | 0 => none
  | steps + 1 =>
    match readSimpleKey (skipSpace text) with
    | none => none
    | some (key, rest) =>
      match skipSpace rest with
      | '.' :: rest =>
        (readKey steps rest).map fun ((path, last), rest) => ((key :: path, last), rest)
      | rest => some (([], key), rest)

/-- The rest of a text after a comment at its start; none if the comment holds a control
character. -/
def skipComment (text : List Char) : Option (List Char) :=
  match text with
  | '#' :: rest =>
    let (comment, rest) := rest.span fun character => character != '\n' && character != '\r'
    if comment.all isPlain then some rest else none
  | _ => some text

/-- The rest of a text after spaces, newlines and comments. -/
def skipLines (steps : Nat) (text : List Char) : Option (List Char) :=
  match steps with
  | 0 => none
  | steps + 1 =>
    match skipComment (skipSpace text) with
    | none => none
    | some rest =>
      match afterNewline? rest with
      | some rest => skipLines steps rest
      | none => some rest

mutual

/-- Reads one value. -/
def readValue (steps : Nat) (text : List Char) : Option (Value × List Char) :=
  match steps with
  | 0 => none
  | steps + 1 =>
    match text with
    | '[' :: rest => (readItems steps rest).map fun (items, rest) => (.array items, rest)
    | '\x7b' :: rest =>
      match skipSpace rest with
      | '\x7d' :: rest => some (.table [], rest)
      | rest => (readMembers steps [] rest).map fun (members, rest) =>
        (.table (finishMembers members), rest)
    | first :: _ =>
      if first = '"' ∨ first = '\'' then
        (readString text).map fun (found, rest) => (.string (.ofList found), rest)
      else
        let (word, rest) := readWord text
        (valueOfWord? word).map (·, rest)
    | [] => none

/-- Reads the items of an array up to its closing bracket; a comma may follow the last one. -/
def readItems (steps : Nat) (text : List Char) : Option (List Value × List Char) :=
  match steps with
  | 0 => none
  | steps + 1 =>
    match skipLines (text.length + 1) text with
    | none => none
    | some (']' :: rest) => some ([], rest)
    | some rest =>
      match readValue steps rest with
      | none => none
      | some (item, rest) =>
        match skipLines (rest.length + 1) rest with
        | some (']' :: rest) => some ([item], rest)
        | some (',' :: rest) =>
          (readItems steps rest).map fun (items, rest) => (item :: items, rest)
        | _ => none

/-- Reads the members of an inline table up to its closing brace. -/
def readMembers (steps : Nat) (members : Members) (text : List Char) :
    Option (Members × List Char) :=
  match steps with
  | 0 => none
  | steps + 1 =>
    match readKey (text.length + 1) text with
    | some ((path, key), '=' :: rest) =>
      match readValue steps (skipSpace rest) with
      | none => none
      | some (value, rest) =>
        match addDotted key value members path with
        | none => none
        | some members =>
          match skipSpace rest with
          | '\x7d' :: rest => some (members, rest)
          | ',' :: rest => readMembers steps members rest
          | _ => none
    | _ => none

end

/-! ### Statements and documents -/

/-- A line of a document that says something. -/
inductive Statement where
  /-- The header of a table: the keys before the last one, and the last one. -/
  | table (path : List String) (key : String)
  /-- The header of a table that is added to an array. -/
  | arrayTable (path : List String) (key : String)
  /-- A value for a dotted key. -/
  | assign (path : List String) (key : String) (value : Value)

/-- Reads a statement. -/
def readStatement (text : List Char) : Option (Statement × List Char) :=
  let steps := text.length + 1
  match text with
  | '[' :: '[' :: rest =>
    match readKey steps rest with
    | some ((path, key), ']' :: ']' :: rest) => some (.arrayTable path key, rest)
    | _ => none
  | '[' :: rest =>
    match readKey steps rest with
    | some ((path, key), ']' :: rest) => some (.table path key, rest)
    | _ => none
  | _ =>
    match readKey steps text with
    | some ((path, key), '=' :: rest) =>
      (readValue (2 * steps) (skipSpace rest)).map fun (value, rest) =>
        (.assign path key value, rest)
    | _ => none

/-- A document under construction: the path of the current table, and the root. -/
structure Document where
  current : List String := []
  root : Members := []

/-- Carries out a statement. -/
def Document.apply (document : Document) : Statement → Option Document
  | .table path key =>
    (modifyAt (declareTable key) document.root path).map fun root => ⟨path ++ [key], root⟩
  | .arrayTable path key =>
    (modifyAt (declareArrayTable key) document.root path).map fun root => ⟨path ++ [key], root⟩
  | .assign path key value =>
    (modifyAt (fun members => addDotted key value members path) document.root
      document.current).map fun root => { document with root }

/-- Reads the statements of a document, each on lines of its own. -/
def readDocument (steps : Nat) (document : Document) (text : List Char) : Option Document :=
  match steps with
  | 0 => none
  | steps + 1 =>
    match skipLines (text.length + 1) text with
    | none => none
    | some [] => some document
    | some rest =>
      match readStatement rest with
      | none => none
      | some (statement, rest) =>
        match document.apply statement, skipComment (skipSpace rest) with
        | some document, some [] => some document
        | some document, some rest =>
          match afterNewline? rest with
          | some rest => readDocument steps document rest
          | none => none
        | _, _ => none

/-- Reads a text as a TOML document. A byte order mark may stand before it. -/
def parse? (text : String) : Option Value :=
  let characters := match text.toList with
    | '\ufeff' :: rest => rest
    | characters => characters
  (readDocument (characters.length + 1) {} characters).map fun document =>
    .table (finishMembers document.root)

end CodeGraph.Toml
