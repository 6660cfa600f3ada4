import ModuleGraph.Command
import ModuleGraph.CommandLine.Help

/-!
# The program

The program reads into memory what a command needs, carries it out there, and writes back the
files that it changed. Directories are read when the configuration turns out to need them: a
directory that it misses is read, and the configuration is made again.

The dependencies go to the output channel and the records of the run to the error channel.
-/

namespace ModuleGraph.Program

/-- The text of what the surroundings of the program give it. -/
def textOf (given : String) : String :=
  Text.ofChars given.toList

/-- A text as it is shown outside the program. -/
def shown (text : String) : String :=
  String.ofList (Text.toChars text)

/-- What there is at a place, with all that lies below it. -/
partial def readEntry (path : String) : IO (Option Entry) := do
  let place := (← IO.currentDir) / path
  if ← place.isDir then
    let mut entries := #[]
    for item in ← place.readDir do
      if let some entry ← readEntry item.path.toString then
        entries := entries.push (textOf item.fileName, entry)
    return some (.directory entries.toList)
  else if ← place.pathExists then
    return some (.file (← IO.FS.readBinFile place))
  else return none

/-- Adds what there is at a place, and says whether there is anything. -/
def addPlace (files : FileSystem) (path : Path) : IO (Bool × FileSystem) := do
  let .ok path := files.absolute path | return (false, files)
  match ← readEntry (shown path.toText) with
  | none => return (false, files)
  | some entry =>
    let cleared := (files.remove path).toOption.getD files
    let placed := (cleared.place path entry).toOption.getD files
    return (true, { placed with workingDirectory := files.workingDirectory })

/-- Adds what there is at each of some places. -/
def addPlaces (files : FileSystem) (paths : List Path) : IO FileSystem :=
  paths.foldlM (fun files path => do return (← addPlace files path).2) files

/-- The settings files that may hold for a directory. -/
def settingsPlaces (files : FileSystem) (directory : Path) : List Path :=
  ((files.absolute directory).toOption.getD directory).selfAndParents.map fun path =>
    (path.child Config.settingsDirectory).child "config.toml"

/-- Adds the directories that the configuration misses, then the files that it names. -/
partial def complete (files : FileSystem) (overrides : Overrides) : IO FileSystem := do
  match Config.load files overrides with
  | .ok config =>
    addPlaces files
      (config.knownWarningsFile.toList ++ config.stateFile.toList ++ config.builtinsFile.toList)
  | .error (.controlMissing path) | .error (.modulepathMissing path) =>
    match ← addPlace files (.ofText path) with
    | (true, more) =>
      if more.entry? (.ofText path) matches some (.directory _) then complete more overrides
      else return more
    | (false, _) => return files
  | .error _ => return files

/-- The part of the file system that a command needs. -/
def gather (arguments : Arguments) : IO FileSystem := do
  let place := textOf (← IO.currentDir).toString
  let files : FileSystem := { workingDirectory := some (.ofText place) }
  let base := (Config.rootPath arguments.overrides.path).toOption.getD (.ofText "")
  let files ← addPlaces files (settingsPlaces files base ++ [base])
  complete files arguments.overrides

/-- Writes files, making their directories. -/
def save (changes : List (Path × ByteArray)) : IO Unit :=
  changes.forM fun (path, bytes) => do
    IO.FS.createDirAll (shown path.parent.toText)
    IO.FS.writeBinFile (shown path.toText) bytes

/-- Carries out a command and returns the exit code. -/
def carryOut (arguments : Arguments) : IO UInt32 := do
  let files ← gather arguments
  let outcome := Command.run .utf8 files arguments
  save (outcome.files.changedSince files)
  for record in Command.shownRecords arguments outcome do
    for line in record.rendered do
      IO.eprintln (shown line)
  IO.print (shown outcome.output)
  match outcome.exit with
  | .ok code => return UInt32.ofNat code
  | .error _ =>
    IO.eprintln "The run ended on data that it cannot handle."
    return 1

end ModuleGraph.Program

/-- Reads the command line and carries it out. -/
def main (line : List String) : IO UInt32 := do
  match ModuleGraph.Arguments.parse (line.map ModuleGraph.Program.textOf) with
  | .ok arguments => ModuleGraph.Program.carryOut arguments
  | .error dismissal =>
    if dismissal.output = "" then IO.eprintln (ModuleGraph.Help.usage none)
    IO.print dismissal.output
    return UInt32.ofNat dismissal.exitCode
