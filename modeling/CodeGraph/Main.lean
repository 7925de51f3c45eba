/-
This file is the program: it runs the command line on the file system. Parsers of source texts
are not part of it, so it tells of every file with a source language that no grammar is at
hand.
-/
import CodeGraph.CommandLine.Execution

namespace CodeGraph.CommandLine

/-- What an action gives, unless it fails. -/
def attempt? {value : Type} (action : IO value) : IO (Option value) :=
  try return some (← action) catch _ => return none

/-- Whether an action succeeds. -/
def succeeds (action : IO Unit) : IO Bool := return (← attempt? action).isSome

/-- The values of the environment variables that settings ask for. -/
def readEnvironment : IO Settings.Environment := do
  let values ← Settings.variableNames.filterMapM fun name => do
    return (← IO.getEnv name).map fun value => (name, value)
  return fun name => values.lookup name

/-- The bytes of a file, unless it cannot be read. -/
def readBytes (path : String) : IO (Option (List UInt8)) :=
  return (← attempt? (IO.FS.readBinFile path)).map fun bytes => bytes.toList

/-- The bytes of the user's settings, if there are any. -/
def readUserSettings : IO (Option (List UInt8)) := do
  let directory? ← match ← IO.getEnv "XDG_CONFIG_HOME" with
    | some directory => pure (some directory)
    | none => pure ((← IO.getEnv "HOME").map (· ++ "/.config"))
  match directory? with
  | none => return none
  | some directory => readBytes (directory ++ "/ontograph/config.toml")

/-- Writes a file. -/
def writeBytes (path : String) (content : List UInt8) : IO Unit :=
  IO.FS.writeBinFile path ⟨content.toArray⟩

/-- The path of the directory of the file with the given path. -/
def directoryOf (path : String) : String :=
  match Text.splitLast? '/' path.toList with
  | some ([], _) => "/"
  | some (directory, _) => String.ofList directory
  | none => "."

/-- Writes a file under another name and then moves it to its place. -/
def replaceBytes (createsParents : Bool) (path : String) (content : List UInt8) : IO Unit := do
  if createsParents then IO.FS.createDirAll (directoryOf path)
  let temporary := s!"{directoryOf path}/.{Path.fileName path}.{← IO.rand 0 (Nat.pow 2 62)}.tmp"
  try
    writeBytes temporary content
    IO.FS.rename temporary path
  catch error =>
    discard <| attempt? (IO.FS.removeFile temporary)
    throw error

/-- The files below a directory with their places; links are left out. -/
partial def entriesBelow (directory : String) (place : Location) :
    IO (List (Location × StoredItem)) := do
  let path : String := "/" ++ Text.join '/' place
  let names := (← attempt? (IO.FS.realPath directory >>= (·.readDir))).getD #[]
  let below ← names.toList.mapM fun entry => do
    let inner := place ++ [entry.fileName]
    let innerPath := path ++ "/" ++ entry.fileName
    match (← attempt? entry.path.symlinkMetadata).map (·.type) with
    | some .dir => entriesBelow innerPath inner
    | some .file => return [(inner, .file ((← readBytes innerPath).getD []))]
    | _ => return []
  return (place, .directory) :: below.flatten

/-- The ignore files of the directories around a place. -/
def ignoreFilesAround (place : Location) : IO (List (Location × StoredItem)) := do
  let found ← (Discovery.directoriesAround place).mapM fun directory =>
    [[".ignore"], [".gitignore"], [".git", "info", "exclude"]].filterMapM fun names => do
      let file := directory ++ names
      return (← readBytes ("/" ++ Text.join '/' file)).map fun bytes =>
        (file, StoredItem.file bytes)
  return found.flatten

/-- The repository whose root is a directory. -/
def readRepository (path : String) : IO (Option Repository) := do
  match ← attempt? (IO.FS.realPath path) with
  | none => return none
  | some root =>
    if ← root.isDir then
      let place := (Storage.pathNames root.toString).filter (· != "")
      let entries ← entriesBelow root.toString place
      return some ⟨⟨entries ++ (← ignoreFilesAround place)⟩, place⟩
    else return none

/-- The file system as the host of commands. -/
def fileSystemHost (environment : Settings.Environment) : Host IO where
  environment
  parser _ _ _ := .error (.grammar "no grammar is at hand")
  read := readBytes
  userSettings := readUserSettings
  write path content := succeeds (writeBytes path content)
  replace createsParents path content := succeeds (replaceBytes createsParents path content)
  repository := readRepository

end CodeGraph.CommandLine

open CodeGraph.CommandLine in
/-- Runs the program with the given arguments. -/
def main (arguments : List String) : IO UInt32 := do
  let outcome ← run (fileSystemHost (← readEnvironment)) arguments
  IO.print outcome.output
  IO.eprint outcome.messages
  return UInt32.ofNat outcome.exitCode
