import ModuleGraph.Scan

/-!
# Runs that write files

A `Workspace` is a run together with the file system that it reads and writes. Its steps keep what
they changed before a failure, in the run and in the files.

`writeState` keeps a snapshot of the run, and `writeKnown` all warnings that it evaluated.
-/

namespace ModuleGraph

/-- A run and the files that it works on. -/
structure Workspace where
  /-- The run. -/
  scanner : Scanner
  /-- The files. -/
  files : FileSystem

namespace Workspace

/-- A step that may change the files. -/
abbrev Action (α : Type) := ExceptT Failure (StateM Workspace) α

/-- A step of the run, which reads the files as they are. -/
def step {α : Type} (action : FileSystem → Scanner.Action α) : Action α := do
  let workspace ← get
  let (outcome, scanner) :=
    Id.run (StateT.run (ExceptT.run (action workspace.files)) workspace.scanner)
  set { workspace with scanner }
  match outcome with
  | .ok value => return value
  | .error failure => throw failure

/-- A change of the files. -/
def change {α : Type} (action : FileSystem.Change α) : Action α := do
  let workspace ← get
  let (outcome, files) := Id.run (StateT.run (ExceptT.run action) workspace.files)
  set { workspace with files }
  match outcome with
  | .ok value => return value
  | .error failure => throw failure

/-- Adds a record to the journal of the run. -/
def log (level : Level) (message : String) : Action Unit :=
  step fun _ => Scanner.update fun context => context.log level message

/-- Writes a snapshot of the run to the configured file. -/
def writeState : Action Path := do
  let scanner := (← get).scanner
  match scanner.config.stateFile with
  | none => throw .noStateFile
  | some path =>
    change (FileSystem.makeDirectory path.parent)
    match (Snapshot.capture scanner.context scanner.modules).toText with
    | .error failure => throw failure
    | .ok text => change (FileSystem.write path text)
    log .info ("Wrote state file " ++ path.toText)
    return path

/-- Writes every warning evaluated so far to a file, by default the configured one, and counts
the lines. -/
def writeKnown (target : Option Path) : Action Nat := do
  let scanner := (← get).scanner
  match target.or scanner.config.knownWarningsFile with
  | none => throw .noKnownWarningsFile
  | some path =>
    let text := Statement.renderAll scanner.context.diagnostics.found
    change (FileSystem.write path text)
    let count := Statement.countLines text
    log .info ("Wrote " ++ toString count ++ " known warnings to " ++ path.toText)
    return count

end Workspace

end ModuleGraph
