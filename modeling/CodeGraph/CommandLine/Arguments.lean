/-
This file reads the arguments of a command: options, which start with a hyphen, and words. An
option is written out behind two hyphens or as a letter behind one; letters may be put
together. The value of an option stands behind it, in the same argument or in the next one.
Behind two hyphens alone there are only words.
-/
import CodeGraph.Text.Decimal
import CodeGraph.Text.Split

namespace CodeGraph.CommandLine

/-- What the value of an option has to be. -/
inductive ValueKind where
  | text
  /-- A path is not empty. -/
  | path
  /-- A number of 64 bits. -/
  | number
  deriving Repr, DecidableEq

/-- The number that a value writes down. -/
def number? (value : String) : Option Nat := Text.unsigned? (Nat.pow 2 64) value.toList

/-- Whether a value is of a kind. -/
def ValueKind.accepts : ValueKind → String → Bool
  | text, _ => true
  | path, value => !value.isEmpty
  | number, value => (number? value).isSome

/-- An option that a command knows. -/
structure CommandOption where
  /-- What stands behind two hyphens. -/
  name : String
  /-- What stands behind one hyphen. -/
  letter : Option Char
  /-- What its value has to be; a switch has none. -/
  value : Option ValueKind
  deriving Repr, DecidableEq

/-- What a command takes. -/
structure CommandShape where
  options : List CommandOption
  /-- What every word has to be. -/
  words : ValueKind
  /-- The greatest number of words, if there is one. -/
  mostWords : Option Nat
  /-- Whether the first word names a command to which all that follows belongs. -/
  hasCommands : Bool
  deriving Repr, DecidableEq

/-- Why the arguments do not say what to do. -/
inductive Interruption where
  /-- The arguments ask for help. -/
  | help
  /-- The arguments ask for the version. -/
  | version
  /-- The arguments make no sense. -/
  | invalid
  deriving Repr, DecidableEq

/-- What the arguments of a command hold. -/
structure Arguments where
  /-- The options by name with their values; the value of a switch is empty. -/
  options : List (String × String)
  words : List String
  /-- The command below and its arguments. -/
  rest : List String
  deriving Repr, DecidableEq

namespace Arguments

/-- What no arguments hold. -/
def empty : Arguments := ⟨[], [], []⟩

/-- The value of an option. -/
def get? (found : Arguments) (name : String) : Option String := found.options.lookup name

/-- Notes an option with its value. No option stands twice. -/
def note (found : Arguments) (option : CommandOption) (value : String) :
    Except Interruption Arguments :=
  if option.name = "help" then .error .help
  else if option.name = "version" then .error .version
  else if (found.get? option.name).isSome || !option.value.all (·.accepts value) then
    .error .invalid
  else .ok { found with options := found.options ++ [(option.name, value)] }

/-- Notes words. -/
def noteWords (shape : CommandShape) (found : Arguments) (words : List String) :
    Except Interruption Arguments :=
  let all := found.words ++ words
  if !words.all shape.words.accepts || shape.mostWords.any (· < all.length) then .error .invalid
  else .ok { found with words := all }

/-- Reads letters behind one hyphen. If the last option still needs a value, it is the second
component. -/
def readLetters (shape : CommandShape) (found : Arguments) :
    List Char → Except Interruption (Arguments × Option CommandOption)
  | [] => .ok (found, none)
  | letter :: rest =>
    match shape.options.find? (·.letter == some letter) with
    | none => .error .invalid
    | some option =>
      if option.value.isNone then do
        let found ← found.note option ""
        readLetters shape found rest
      else match rest with
        | [] => .ok (found, some option)
        | '=' :: value => return (← found.note option (String.ofList value), none)
        | value => return (← found.note option (String.ofList value), none)

/-- Reads what stands behind two hyphens: the name of an option and maybe its value. If the
option still needs a value, it is the second component. -/
def readName (shape : CommandShape) (found : Arguments) (argument : List Char) :
    Except Interruption (Arguments × Option CommandOption) :=
  let (name, value) := argument.span (· != '=')
  match shape.options.find? (·.name == String.ofList name) with
  | none => .error .invalid
  | some option =>
    match option.value, value with
    | none, [] => return (← found.note option "", none)
    | none, _ :: _ => .error .invalid
    | some _, [] => .ok (found, some option)
    | some _, _ :: value => return (← found.note option (String.ofList value), none)

/-- Whether an argument is no word. -/
def isOption (argument : String) : Bool :=
  argument.toList.head? == some '-' && argument != "-"

/-- Reads an argument that is no word. -/
def readOption (shape : CommandShape) (found : Arguments) (argument : String) :
    Except Interruption (Arguments × Option CommandOption) :=
  match argument.toList with
  | '-' :: '-' :: name => readName shape found name
  | letters => readLetters shape found letters.tail

/-- Reads arguments. An option that still needs a value takes the next argument, unless that
starts with a hyphen. -/
def read (shape : CommandShape) (found : Arguments) (pending : Option CommandOption) :
    List String → Except Interruption Arguments
  | [] => if pending.isSome then .error .invalid else .ok found
  | argument :: rest =>
    match pending with
    | some option => do
      if isOption argument then throw .invalid
      read shape (← found.note option argument) none rest
    | none =>
      if argument = "--" then
        if shape.hasCommands && !rest.isEmpty then .error .invalid
        else found.noteWords shape rest
      else if isOption argument then do
        let (found, pending) ← readOption shape found argument
        read shape found pending rest
      else if shape.hasCommands then .ok { found with rest := argument :: rest }
      else do
        read shape (← found.noteWords shape [argument]) none rest

/-- What the arguments of a command hold. -/
def ofList (shape : CommandShape) (arguments : List String) : Except Interruption Arguments :=
  read shape empty none arguments

end Arguments

end CodeGraph.CommandLine
