/-
This file defines what a command leaves behind for whoever started it: two texts and a number
that tells whether it succeeded.
-/

namespace CodeGraph.CommandLine

/-- What a command leaves behind. -/
structure Outcome where
  /-- The text on the standard output. -/
  output : String
  /-- The text for the person who started the command. -/
  messages : String
  exitCode : Nat
  deriving Repr, DecidableEq

/-- Lines as one text. -/
def lines (texts : List String) : String := String.join (texts.map (· ++ "\n"))

namespace Outcome

/-- The outcome of a command that succeeds. -/
def success (output : List String) (messages : List String := []) : Outcome :=
  ⟨lines output, lines messages, 0⟩

/-- The outcome of a command that fails after printing some lines. -/
def failure (message : String) (output : List String := []) : Outcome :=
  ⟨lines output, lines ["error: " ++ message], 1⟩

/-- The outcome for arguments that say nothing. -/
def misuse (usage : List String) : Outcome := ⟨"", lines usage, 2⟩

end Outcome

end CodeGraph.CommandLine
