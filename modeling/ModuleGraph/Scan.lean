import ModuleGraph.Builtins.Core
import ModuleGraph.Config
import ModuleGraph.KindCount
import ModuleGraph.Plugin.Files
import ModuleGraph.Reading.Tree
import ModuleGraph.Snapshot
import ModuleGraph.Warning.Statement

/-!
# Scanning an environment

A `Scanner` carries out a run: `prepare` loads builtin symbols, known warnings and a snapshot,
`scan` reads the analysed directory and the modules of the modulepath, and `resolve` resolves the
configured modules. Each is a step on the state of the scanner, which keeps what was done before
a failure.

A module that is already in the table is not scanned again, and neither is one that was not asked
for. The analysed directory keeps its references from one scan to the next.
-/

namespace ModuleGraph

/-- The state of reading one module. -/
structure ModuleScan where
  /-- The directory of the module. -/
  directory : ModuleDirectory
  /-- The references found so far. -/
  dependencies : Dependencies
  /-- The context of the run. -/
  context : Context

namespace ModuleScan

/-- A step of reading a module. -/
abbrev Action (α : Type) := ExceptT Failure (StateM ModuleScan) α

/-- The value of an outcome, or its failure. -/
def lift {α : Type} : Except Failure α → Action α
  | .ok value => return value
  | .error failure => throw failure

/-- Reads from the directory of the module. -/
def ask {α : Type} (step : DirectoryRead α) : Action α := do
  let state ← get
  let (outcome, directory, context) := state.directory.read state.context step
  set { state with directory, context }
  lift outcome

/-- Changes the context of the run. -/
def update (change : Context → Context) : Action Unit :=
  modify fun state => { state with context := change state.context }

/-- The directories of a module that hold manifests. -/
def manifestDirectories (module : Path) : List Path :=
  ["manifests", "functions", "types"].map module.child

/-- The name under which references from a file are recorded. -/
def sourceName (environment path : Path) : String :=
  (Path.between environment path).toText

/-- Reads one manifest. -/
def readManifest (files : FileSystem) (config : Config) (owner : String) (path : Path) :
    Action Unit := do
  let tree ← lift (loadTree files config.treeSuffix path)
  let state ← get
  let file : SourceFile := ⟨sourceName config.environmentPath path, tree.source⟩
  let (outcome, context, dependencies) :=
    readSource owner file tree.root (state.context, state.dependencies)
  set { state with context, dependencies }
  let _ ← lift outcome

/-- Reads the manifests among some paths in turn. A directory is none. -/
def readManifests (files : FileSystem) (config : Config) (owner : String) :
    List Path → Action Unit
  | [] => return ()
  | path :: rest => do
    if !(← lift (files.isDirectory path)) then readManifest files config owner path
    readManifests files config owner rest

/-- Reads the manifests in some directories in turn. -/
def readDirectories (files : FileSystem) (config : Config) (owner : String) :
    List Path → Action Unit
  | [] => return ()
  | base :: rest => do
    readManifests files config owner (← lift (files.matchingBelow base ".pp"))
    readDirectories files config owner rest

/-- Reads the plugin files of the module at a path. -/
def readPlugins (files : FileSystem) (config : Config) (owner : String) (path : Path) :
    Action Unit := do
  let plugins := Plugin.pluginFacts files ⟨path, some config.environmentPath⟩
  let state ← get
  let (context, dependencies) :=
    Fact.recordAll owner (state.context, state.dependencies) plugins.facts
  set { state with context, dependencies }
  let _ ← lift plugins.outcome

/-- Reports a module without metadata file. -/
def checkMetadata (files : FileSystem) (name : String) : Action Unit := do
  if ← ask (ModuleDirectory.readHasMetadata files) then return ()
  let directory := (← get).directory
  if ← ask (ModuleDirectory.readControlRepo files) then return ()
  update fun context => context.report (.missingMetadata name)
    ("Missing metadata file " ++ directory.metadataPath.toText ++ "!")

/-- Reads a module: its metadata, its manifests and its plugins. A directory that is no module is
surfaced and skipped. -/
def readModule (files : FileSystem) (config : Config) : Action (Option Module) := do
  let name ← ask (ModuleDirectory.readName files)
  let path := (← get).directory.path
  if name = "" then
    update fun context => context.warn
      (path.toText ++ " doesn't appear to be a module directory. Skipping path.")
    return none
  let version ← ask (ModuleDirectory.readVersion files)
  update fun context => context.log .info
    ("Scanning module " ++ name ++ " (" ++ path.toText ++ ") version " ++ version)
  checkMetadata files name
  readDirectories files config name (manifestDirectories path)
  readPlugins files config name path
  return some (← ask (ModuleDirectory.readModule files (← get).dependencies))

end ModuleScan

/-- A run over an environment. -/
structure Scanner where
  /-- The configuration of the run. -/
  config : Config
  /-- What the run has learnt. -/
  context : Context := {}
  /-- The modules scanned or restored. -/
  modules : Table String Module := []
  /-- The outcome of resolving. -/
  result : Option Resolution := none
  /-- The analysed directory. -/
  root : ModuleDirectory
  /-- The references found in the analysed directory. -/
  rootDependencies : Dependencies := []
  /-- The module of the analysed directory is in the table. -/
  rootListed : Bool := false
deriving Inhabited

namespace Scanner

/-- A step of a run. -/
abbrev Action (α : Type) := ExceptT Failure (StateM Scanner) α

/-- The scanner of a configuration, before any step. -/
def start (config : Config) : Scanner where
  config
  root := { path := config.path }

/-- Changes the context of the run. -/
def update (change : Context → Context) : Action Unit :=
  modify fun scanner => { scanner with context := change scanner.context }

/-- The value of an outcome, or its failure. -/
def lift {α : Type} : Except Failure α → Action α
  | .ok value => return value
  | .error failure => throw failure

/-- Reads from the analysed directory. -/
def askRoot {α : Type} (step : DirectoryRead α) : Action α := do
  let scanner ← get
  let (outcome, root, context) := scanner.root.read scanner.context step
  set { scanner with root, context }
  lift outcome

/-- The name of the module that is analysed, empty if the directory is none. -/
def rootName (files : FileSystem) : Action String :=
  askRoot (ModuleDirectory.readName files)

/-- The catalogue of builtin symbols that the configuration names. -/
def loadBuiltins (files : FileSystem) : Option Path → Except Failure Builtins
  | none => .ok Builtins.core
  | some path => do
    let text ← files.readText path
    match Json.parse (files.limits path).json text.toList with
    | .ok value => Builtins.ofJson value
    | .error fault => throw (fault.toFailure .malformedJson)

/-- Accepts the warnings in a file, and counts them. -/
def loadKnown (files : FileSystem) (path : Path) : Action Nat := do
  update fun context => context.log .info ("Loading known warnings from " ++ path.toText)
  let text ← lift (files.readText path)
  let warnings ← lift (Statement.parseAll path.toText text)
  update fun context => { context with diagnostics := context.diagnostics.addKnown warnings }
  return warnings.length

/-- Restores a snapshot, leaving out the modules that are to be scanned again. -/
def restoreState (snapshot : Snapshot) : Action Nat := do
  let scanner ← get
  let excluded :=
    if scanner.config.rescanListedModules then scanner.config.scanModules else []
  let (count, context, modules) := snapshot.restore excluded (scanner.context, scanner.modules)
  let replaced := scanner.root.name.any fun name =>
    snapshot.modules.hasKey name && name != builtinOwner && !excluded.contains name
  set { scanner with
    context
    modules
    rootListed := scanner.rootListed && !replaced }
  return count

/-- The modules to scan again on top of a snapshot where none are listed: the analysed one and, if
it is a control repository, its control modules. -/
def chooseRescan (files : FileSystem) (snapshot : Snapshot) : Action Unit := do
  let scanner ← get
  if scanner.config.scanModules.isEmpty then
    let name ← rootName files
    if name ≠ "" then
      let controlRepo ← askRoot (ModuleDirectory.readControlRepo files)
      let carried :=
        if controlRepo then
          scanner.config.controlModules.filter fun name => snapshot.modules.hasKey name
        else []
      modify fun scanner =>
        { scanner with config :=
            { scanner.config with
              scanModules := name :: carried
              rescanListedModules := true } }

/-- Loads the snapshot that the configuration asks for. -/
def prepareState (files : FileSystem) : Action Unit := do
  let scanner ← get
  if scanner.config.useState then
    match scanner.config.stateFile with
    | none => throw .noSnapshotConfigured
    | some path =>
      if ← lift (files.isFile path) then
        update fun context => context.log .info ("Loading state file " ++ path.toText)
        let snapshot ← lift (Snapshot.load files path)
        chooseRescan files snapshot
        let _ ← restoreState snapshot
      else
        update fun context => context.warn
          ("State file " ++ path.toText ++ " does not exist. Scanning all modules.")
        modify fun scanner =>
          { scanner with config := { scanner.config with useState := false } }

/-- Loads builtin symbols, known warnings and the snapshot. -/
def prepare (files : FileSystem) : Action Unit := do
  let config := (← get).config
  let catalogue ← lift (loadBuiltins files config.builtinsFile)
  update fun context =>
    let (count, context) := context.addBuiltins catalogue
    context.log .debug ("Registered " ++ toString count ++ " builtin definitions")
  match config.knownWarningsFile with
  | some path =>
    if ← lift (files.isFile path) then
      let _ ← loadKnown files path
      update fun context => context.log .info
        ("Suppressing " ++ toString context.diagnostics.known.length ++ " known warnings")
  | none => pure ()
  prepareState files

/-- Scans a directory other than the analysed one. -/
def scanDirectory (files : FileSystem) (directory : ModuleDirectory) : Action Bool := do
  let scanner ← get
  let (outcome, state) := Id.run (StateT.run (ExceptT.run
    (ModuleScan.readModule files scanner.config)) ⟨directory, [], scanner.context⟩)
  set { scanner with context := state.context }
  match ← lift outcome with
  | some module =>
    modify fun scanner =>
      { scanner with
        modules := scanner.modules.put module.name module
        rootListed := scanner.rootListed && some module.name != scanner.root.name }
    return true
  | none => return false

/-- Scans the analysed directory. The table shows its module as far as it was read. -/
def scanRoot (files : FileSystem) : Action Bool := do
  let scanner ← get
  let (outcome, state) := Id.run (StateT.run (ExceptT.run
    (ModuleScan.readModule files scanner.config))
      ⟨scanner.root, scanner.rootDependencies, scanner.context⟩)
  let refreshed :=
    if scanner.rootListed then
      scanner.modules.map fun (name, module) =>
        if some name = scanner.root.name then
          (name, { module with dependencies := state.dependencies })
        else (name, module)
    else scanner.modules
  set { scanner with
    context := state.context
    root := state.directory
    rootDependencies := state.dependencies
    modules := refreshed }
  match ← lift outcome with
  | some module =>
    modify fun scanner =>
      { scanner with
        modules := scanner.modules.put module.name module
        rootListed := true }
    return true
  | none => return false

/-- The modules that a scan is restricted to; none if every module is scanned. -/
def wantedModules (config : Config) : List String :=
  if !config.scanModules.isEmpty then config.scanModules
  else if config.restrictScan then config.modules
  else []

/-- Scans one entry of a directory of modules, unless it is no module, was not asked for, or is in
the table. -/
def scanEntry (files : FileSystem) (wanted : List String) (parent : Path) (entry : String) :
    Action Unit := do
  if ← lift (isModuleDirectory files entry parent) then
    let scanner ← get
    let (outcome, directory, context) :=
      ({ path := parent.child entry } : ModuleDirectory).read scanner.context
        (ModuleDirectory.readName files)
    set { scanner with context }
    let name ← lift outcome
    if !wanted.isEmpty && !wanted.contains name then
      return ()
    else if scanner.modules.hasKey name then
      update fun context => context.log .info
        ("Module " ++ name ++ " already processed. Skipping")
    else
      let _ ← scanDirectory files directory

/-- Scans entries of a directory of modules in turn. -/
def scanEntries (files : FileSystem) (wanted : List String) (parent : Path) :
    List String → Action Unit
  | [] => return ()
  | entry :: rest => do
    scanEntry files wanted parent entry
    scanEntries files wanted parent rest

/-- Scans directories of modules in turn. -/
def scanModulepath (files : FileSystem) (wanted : List String) : List Path → Action Unit
  | [] => return ()
  | directory :: rest => do
    update fun context => context.log .info ("Processing modulepath " ++ directory.toText)
    let entries ← lift (files.listNames directory)
    scanEntries files wanted directory entries
    scanModulepath files wanted rest

/-- Surfaces the kinds that nothing handles. -/
def summarizeKinds : Action Unit := do
  let kinds := (← get).context.unhandledKinds
  if !kinds.isEmpty then
    let summary ← lift (KindCount.summary kinds)
    update fun context => context.warn
      ("The following unknown syntax node kinds were encountered: " ++ summary)

/-- Surfaces the modules that were asked for and not scanned. -/
def checkScanned (expected : List String) : Action Unit := do
  let modules := (← get).modules
  match expected.filter fun name => !modules.hasKey name with
  | [] => return ()
  | missing =>
    update fun context => context.warn
      ("Failed to scan module(s) " ++ String.intercalate ", " missing)

/-- Scans the analysed directory and the modulepath, unless everything comes from the snapshot. -/
def scan (files : FileSystem) : Action Unit := do
  let config := (← get).config
  if config.useState && config.scanModules.isEmpty then return ()
  let wanted := wantedModules config
  update fun context => context.log .info
    (if wanted.isEmpty then "Scanning all modules"
      else "Found modules to scan " ++ String.intercalate ", " wanted)
  let name ← rootName files
  if config.modulepath.isEmpty && name == "" then
    throw (.nothingToScan config.path.toText)
  if name ≠ "" && (wanted.isEmpty || wanted.contains name) then
    let _ ← scanRoot files
  scanModulepath files wanted config.modulepath
  checkScanned (if wanted.isEmpty then config.modules else wanted)
  summarizeKinds

/-- Resolves the configured modules. -/
def resolve (files : FileSystem) : Action Resolution := do
  let scanner ← get
  if scanner.modules.isEmpty then throw .nothingScanned
  let name ← rootName files
  let scanner ← get
  let request : Request :=
    { names := scanner.config.modules
      recursive := scanner.config.recurse
      extra := scanner.config.extraDependencies
      primary := if name = "" then none else some name }
  let resolver : Resolver := { controlModules := scanner.config.controlModules }
  let (outcome, _, context) := resolver.resolve scanner.modules request scanner.context
  set { scanner with context }
  let resolution ← lift outcome
  modify fun scanner => { scanner with result := some resolution }
  update fun context => context.log .success
    ("Resolved " ++ toString resolution.dependencies.length ++ " dependencies")
  return resolution

/-- All dependencies found by the last resolving, on one line. -/
def listDependencies : Action String := do
  match (← get).result with
  | some resolution => return resolution.line
  | none => throw .notResolved

/-- Prepares, scans and resolves. -/
def run (files : FileSystem) : Action Resolution := do
  prepare files
  scan files
  resolve files

end Scanner

end ModuleGraph
