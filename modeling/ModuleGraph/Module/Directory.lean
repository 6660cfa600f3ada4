import ModuleGraph.Context
import ModuleGraph.FileSystem
import ModuleGraph.Json.Reader
import ModuleGraph.Module.Basic

/-!
# Module directories

A `ModuleDirectory` is a directory that may be a module, together with what has been read of it
so far. What was read once is kept, even if the files change afterwards.

A directory with a `Puppetfile` is a control repository and is named after itself. Another one is
named by its metadata file, without the author, or after itself if it has no metadata but a
`manifests` directory; one with neither has the empty name and is not a module.
-/

namespace ModuleGraph

/-- The directory holds the file that marks a control repository. -/
def isControlRepo (files : FileSystem) (path : Path) : Except Failure Bool :=
  files.isFile (path.child "Puppetfile")

/-- An entry of a directory of modules is a module. -/
def isModuleDirectory (files : FileSystem) (name : String) (parent : Path) :
    Except Failure Bool :=
  if ModuleName.isModuleName name then files.isDirectory (parent.join (.ofText name))
  else .ok false

/-- A directory and what was read of it. -/
structure ModuleDirectory where
  /-- The directory. -/
  path : Path
  /-- Whether it is a control repository, once that was looked up. -/
  controlRepo : Option Bool := none
  /-- Its module name, once that was found. -/
  name : Option String := none
  /-- Its metadata, once they were read. -/
  metadata : Option Metadata := none
deriving Inhabited

/-- A step that reads from a module directory: it may keep what it read, and adds to the
journal. -/
abbrev DirectoryRead (α : Type) := ExceptT Failure (StateM (ModuleDirectory × Array Record)) α

namespace ModuleDirectory

/-- The place of the metadata file. -/
def metadataPath (directory : ModuleDirectory) : Path :=
  directory.path.child "metadata.json"

/-- The value of an outcome, or its failure. -/
def lift {α : Type} : Except Failure α → DirectoryRead α
  | .ok value => return value
  | .error failure => throw failure

/-- Whether there is a metadata file. -/
def readHasMetadata (files : FileSystem) : DirectoryRead Bool := do
  lift (files.isFile (← get).1.metadataPath)

/-- Whether the directory is a control repository. -/
def readControlRepo (files : FileSystem) : DirectoryRead Bool := do
  let (directory, journal) ← get
  match directory.controlRepo with
  | some flag => return flag
  | none =>
    let flag ← lift (isControlRepo files directory.path)
    set ({ directory with controlRepo := some flag }, journal)
    return flag

/-- The contents of a metadata file. -/
def parseMetadata (files : FileSystem) (path : Path) : Except Failure Metadata := do
  let text ←
    match files.readText path with
    | .error .fileSystem => .error (.metadataUnreadable path.toText)
    | outcome => outcome
  match Json.parse (files.limits path).json text.toList with
  | .ok value => Metadata.ofJson value
  | .error fault => throw (fault.toFailure (.metadataUnreadable path.toText))

/-- Reads the metadata file anew. -/
def loadMetadata (files : FileSystem) : DirectoryRead Metadata := do
  let (directory, journal) ← get
  let path := directory.metadataPath
  set (directory, journal.push ⟨.debug, "Loading metadata from " ++ path.toText⟩)
  lift (parseMetadata files path)

/-- The metadata of the directory, or what is assumed where there are none. -/
def readMetadata (files : FileSystem) : DirectoryRead Metadata := do
  let (directory, _) ← get
  match directory.metadata with
  | some metadata => return metadata
  | none =>
    let metadata ← if ← readHasMetadata files then loadMetadata files else pure .absent
    modify fun (directory, journal) => ({ directory with metadata := some metadata }, journal)
    return metadata

/-- The module name that a directory has; empty for one that is no module. -/
def deriveName (files : FileSystem) : DirectoryRead String := do
  let controlRepo ← readControlRepo files
  let (directory, _) ← get
  let own := directory.path.name
  if controlRepo then return own
  else if ← readHasMetadata files then
    let metadata ← loadMetadata files
    match metadata.name with
    | some name => return ModuleName.withoutAuthor (if name == "" then own else name)
    | none => return ModuleName.withoutAuthor own
  else if ← lift (files.isPresent (directory.path.child "manifests")) then
    return ModuleName.withoutAuthor own
  else return ""

/-- The module name of the directory. -/
def readName (files : FileSystem) : DirectoryRead String := do
  let (directory, _) ← get
  match directory.name with
  | some name => return name
  | none =>
    let name ← deriveName files
    modify fun (directory, journal) => ({ directory with name := some name }, journal)
    return name

/-- The version of the module. -/
def readVersion (files : FileSystem) : DirectoryRead String := do
  return (← readMetadata files).version

/-- The author of the module. -/
def readAuthor (files : FileSystem) : DirectoryRead (Option String) := do
  let metadata ← readMetadata files
  return metadata.authorAt (← get).1.path.name

/-- The module of the directory, with references that were found before. -/
def readModule (files : FileSystem) (dependencies : Dependencies) : DirectoryRead Module := do
  let name ← readName files
  let (directory, _) ← get
  let controlRepo ← readControlRepo files
  let metadata ← readMetadata files
  return { name, path := directory.path, controlRepo, metadata, dependencies }

/-- Runs a reading step inside a run: the records go to the journal of the run. -/
def read {α : Type} (directory : ModuleDirectory) (context : Context) (step : DirectoryRead α) :
    Except Failure α × ModuleDirectory × Context :=
  let (outcome, directory, journal) :=
    Id.run (StateT.run (ExceptT.run step) (directory, context.diagnostics.journal))
  (outcome, directory, { context with diagnostics := { context.diagnostics with journal } })

end ModuleDirectory

end ModuleGraph
