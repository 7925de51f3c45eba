/-
This file says what a command asks of the system on which it runs, and answers it for a storage:
a command can run on a storage alone, without a system around it.
-/
import CodeGraph.Run.Basic
import CodeGraph.Storage.Replacement

namespace CodeGraph.CommandLine

/-- What a command asks of the system on which it runs. Paths lead from the directory in which
the command was started. -/
structure Host (effect : Type → Type) where
  environment : Settings.Environment
  /-- The parser of source texts. -/
  parser : TreeParser
  /-- The bytes of a file, unless it cannot be read. -/
  read : String → effect (Option (List UInt8))
  /-- The bytes of the user's settings, if there are any. -/
  userSettings : effect (Option (List UInt8))
  /-- Writes a file and tells whether that succeeded. -/
  write : String → List UInt8 → effect Bool
  /-- Replaces a file in one step, with the directories around it if asked to create them, and
  tells whether that succeeded. -/
  replace : (createsParents : Bool) → String → List UInt8 → effect Bool
  /-- The repository whose root is a directory. -/
  repository : String → effect (Option Repository)

/-- The host that is a storage, for a command that was started in a directory. No user has
settings there. -/
def Host.ofStorage (environment : Settings.Environment) (parser : TreeParser)
    (directory : Location) : Host (StateM Storage) where
  environment
  parser
  read path := return (← get).read? directory path
  userSettings := return none
  write path content := modifyGet fun storage =>
    (storage.writeAt directory path content).swap
  replace createsParents path content := modifyGet fun storage =>
    (storage.replaceAt directory createsParents path content).swap
  repository path := do
    let storage ← get
    return (storage.directory? directory path).map fun root => ⟨storage, root⟩

end CodeGraph.CommandLine
