import FieldAccess.CommandLine.Run
import FieldAccess.CommandLine.Surroundings
import FieldAccess.Instance.Listening
import FieldAccess.Text.Utf8
import Std.Async.System

/-!
# The program

Looks up what the command line can depend on, carries out the command, and puts its ending into
effect.

## Main definitions

* `Program.lookUp` – the machine as far as a command line can depend on it.
* `main` – the program.
-/

namespace FieldAccess.Program

/-- The values of variables. -/
def valuesOf (names : List String) : IO Environment :=
  names.filterMapM fun name => do
    return (← IO.getEnv name).map (name, ·)

/-- Adds what is at some names to what is known of the files. -/
def lookAt (tree : FileTree) (names : List String) : IO FileTree := do
  try
    let path ← IO.FS.realPath (FileTree.pathOf names)
    if ← path.isDir then return { tree with directories := names :: tree.directories }
    let bytes ← IO.FS.readBinFile path
    match Text.Utf8.decode (bytes.toList.map (·.toNat)) with
    | .ok text => return { tree with files := (names, some (String.ofList text)) :: tree.files }
    | .error fault =>
      let lead := (String.fromUTF8? (bytes.extract 0 fault.index)).getD ""
      return { tree with
        files := (names, none) :: tree.files
        leads := (names, lead) :: tree.leads }
  catch _ => return tree

/-- Adds what is at a path, and the directory around it. -/
def lookAround (tree : FileTree) (path : String) : IO FileTree := do
  let names := FileTree.resolve tree.directory path
  let tree ← lookAt tree names.dropLast
  if tree.files.any (·.1 = names) then return tree else lookAt tree names

/-- The directory of the user, as the accounts of the machine have it. -/
def accountHome : IO (Option String) := do
  try return (← Std.Async.System.getCurrentUser).homeDir.map (·.toString)
  catch _ => return none

/-- The machine as far as a command line can depend on it. -/
def lookUp (words : List String) : IO Machine := do
  let directory := FileTree.names (← IO.currentDir).toString
  let files ← (EnvFile.places directory).foldlM lookAt { directory, files := [] }
  let env ← valuesOf CommandLine.knownVariables
  let home ← accountHome
  let known := CommandLine.withEnvFile { files, env, accountHome := home }
  let files ← (CommandLine.mentionedPaths known words).foldlM lookAround files
  let texts := files.files.filterMap (·.2)
  return {
    files
    env := ← valuesOf (CommandLine.mentionedVariables words texts)
    accountHome := home
    hostName := ← Std.Async.System.getHostName
    isTerminal := ← (← IO.getStdout).isTty }

/-- Shows the records of the log, with the time at which they are shown. -/
def showLog (records : List CommandLine.LogRecord) : IO Unit :=
  records.forM fun record => do
    IO.println s!"{(← Instance.now).toText} {record.level.name.toUpper} {record.message}"

/-- Writes the files that are new or have changed. -/
def writeFiles (before after : FileTree) : IO Unit :=
  after.files.forM fun (names, text) =>
    match text with
    | some content =>
      if before.files.lookup names = some text then return
      else IO.FS.writeFile (FileTree.pathOf names) content
    | none => return

/-- Runs the service that a command has started. -/
def runService (manifest : Manifest) : IO UInt32 := do
  try
    Instance.serve manifest
    return 0
  catch fault =>
    let server := manifest.spec.server
    IO.eprint (CommandLine.Failure.text
      ⟨s!"Failed to bind to {server.host}:{server.port}", [toString fault]⟩)
    return 1

end FieldAccess.Program

open FieldAccess in
/-- Carries out the command that a command line gives. -/
def main (words : List String) : IO UInt32 := do
  let machine ← Program.lookUp words
  let ending ← CommandLine.run Instance.outside machine words
  Program.showLog ending.logged
  IO.print ending.output
  IO.eprint ending.errors
  Program.writeFiles machine.files ending.files
  match ending.service with
  | some manifest => Program.runService manifest
  | none => return ending.code.toUInt32
