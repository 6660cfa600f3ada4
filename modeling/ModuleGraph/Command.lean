import ModuleGraph.CommandLine
import ModuleGraph.Workspace

/-!
# Commands

`Command.run` carries out a command in a file system. A failure that can be told to the user
becomes an error in the journal and exit code 1; any other failure ends the program. A run that
surfaced warnings has exit code 2, unless warnings are tolerated.

* `resolve` scans, resolves and prints the dependencies on one line. This ends the program if the
  output channel does not take the line.
* `state` scans a control repository and writes a snapshot.
* `known-warnings` scans and resolves a control repository and writes all warnings evaluated.
-/

namespace ModuleGraph

/-- The output channel of a program. -/
structure Channel where
  /-- The channel can encode a text. -/
  takes : String → Bool

/-- A channel for UTF-8, which takes no text with half of a surrogate pair. -/
def Channel.utf8 : Channel where
  takes text := (Text.encode? text).isSome

/-- What carrying out a command leaves behind. -/
structure Outcome where
  /-- The exit code, or the failure that ended the program. -/
  exit : Except Failure Nat
  /-- What was printed. -/
  output : String := ""
  /-- The records of the run. -/
  journal : Array Record := #[]
  /-- The file system afterwards. -/
  files : FileSystem

namespace Command

/-- What a command carries out in a run: it returns the exit code and what it prints. -/
abbrev Action := Workspace.Action (Nat × String)

/-- The exit code of a run. -/
def exitStatus (warningsOk : Bool) : Workspace.Action Nat := do
  let diagnostics := (← get).scanner.context.diagnostics
  if diagnostics.warned then
    Workspace.log .warning (toString diagnostics.messages.length ++ " warning(s) encountered")
    return if warningsOk then 0 else 2
  else
    Workspace.log .success "No warnings encountered"
    return 0

/-- The records about resolved modules. -/
def logModules : Table String (List String) → Context → Context
  | [], context => context
  | (name, dependencies) :: rest, context =>
    let listed := String.intercalate " " dependencies
    logModules rest
      (context.log .info (name ++ ": " ++ if listed = "" then "(none)" else listed))

/-- A line as it is printed, if the channel takes it. -/
def printed (channel : Channel) (line : String) : Workspace.Action String :=
  if channel.takes line then return line ++ "\n" else throw .undefinedOperation

/-- Scans, resolves and prints the dependencies. -/
def resolveAction (channel : Channel) : Action := do
  let warningsOk := (← get).scanner.config.warningsOk
  let resolution ← Workspace.step Scanner.run
  Workspace.step fun _ => Scanner.update (logModules resolution.modules)
  let line ← Workspace.step fun _ => Scanner.listDependencies
  let output ← printed channel line
  let code ← exitStatus warningsOk
  return (code, output)

/-- Scans and writes a snapshot. -/
def stateAction : Action := do
  let warningsOk := (← get).scanner.config.warningsOk
  Workspace.step Scanner.prepare
  Workspace.step Scanner.scan
  let path ← Workspace.writeState
  let count := (← get).scanner.modules.length
  Workspace.log .success ("Saved " ++ toString count ++ " modules to " ++ path.toText)
  let code ← exitStatus warningsOk
  return (code, "")

/-- Scans, resolves and writes all warnings evaluated. -/
def knownWarningsAction (out : Option Path) : Action := do
  let _ ← Workspace.step Scanner.run
  let count ← Workspace.writeKnown out
  Workspace.log .success ("Recorded " ++ toString count ++ " known warnings")
  return (0, "")

/-- The records that tell a failure to the user. -/
def failureRecords (failure : Failure) (message : String) : List Record :=
  match failure with
  | .unsupportedShape _ _ _ _ excerpt =>
    ⟨.error, message⟩ ::
      if excerpt.isTruthy then [⟨.error, "Offending source:\n" ++ excerpt.display⟩] else []
  | _ => [⟨.error, message⟩]

/-- The outcome of a failure. -/
def failed (files : FileSystem) (journal : Array Record) (failure : Failure) : Outcome :=
  match failure.message? with
  | some message => { exit := .ok 1, journal := journal ++ failureRecords failure message, files }
  | none => { exit := .error failure, journal, files }

/-- Carries out an action with a configuration. -/
def perform (files : FileSystem) (config : Config) (action : Action) : Outcome :=
  let (outcome, workspace) :=
    Id.run (StateT.run (ExceptT.run action) ⟨.start config, files⟩)
  let journal := workspace.scanner.context.diagnostics.journal
  match outcome with
  | .ok (code, output) => { exit := .ok code, output, journal, files := workspace.files }
  | .error failure => failed workspace.files journal failure

/-- Carries out an action that needs a control repository. -/
def performInControlRepo (files : FileSystem) (config : Config) (name : String)
    (action : Action) : Outcome :=
  match isControlRepo files config.path with
  | .error failure => failed files #[] failure
  | .ok true => perform files config action
  | .ok false =>
    let message :=
      name ++ " is only valid for control repositories (" ++ config.path.toText ++ ")"
    { exit := .ok 1, journal := #[⟨.error, message⟩], files }

/-- Carries out a command. -/
def run (channel : Channel) (files : FileSystem) (arguments : Arguments) : Outcome :=
  match Config.load files arguments.overrides with
  | .error failure => failed files #[] failure
  | .ok config =>
    match arguments.command with
    | .resolve => perform files config (resolveAction channel)
    | .state =>
      performInControlRepo files { config with useState := false } "state" stateAction
    | .knownWarnings =>
      performInControlRepo files config "known-warnings" (knownWarningsAction arguments.out)

/-- The records that the verbosity options let through. -/
def shownRecords (arguments : Arguments) (outcome : Outcome) : List Record :=
  outcome.journal.toList.filter
    (Record.passes (Level.threshold arguments.verbose arguments.quiet))

end Command

end ModuleGraph
