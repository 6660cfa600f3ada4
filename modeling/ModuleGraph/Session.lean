import ModuleGraph.Module.Directory
import ModuleGraph.Reading.Tree
import ModuleGraph.Resolution
import ModuleGraph.Session.Label
import ModuleGraph.Snapshot

/-!
# Sessions

A `Session` analyses modules in memory, step by step: it holds the context of the run, a table of
modules, and a resolver that some of the steps share. Each step keeps what it changed before a
failure.

A module that was walked once is walked on even after another one took its place in the table: what
is found later still goes to the module that was there first.

A step may give any value for a module, a file or a message; the session holds its label. The mark
of a control repository may be any value as well. A snapshot takes texts only, and marks that can be
read as a flag.
-/

namespace ModuleGraph

/-- The state of a session. -/
structure Session where
  /-- What the session has learnt. -/
  context : Context := {}
  /-- The modules by the labels of their keys. -/
  modules : Table String Module := []
  /-- The modules that were not restored, by key, with the mark of a control repository that each of
  them was given. -/
  made : Table String Json := []
  /-- The keys of the modules that were walked. -/
  walked : List String := []
  /-- The modules that were walked and then replaced in the table. -/
  detached : Table String Module := []
  /-- The shared resolver, once it was used. -/
  resolver : Option Resolver := none
deriving Inhabited

namespace Session

/-- A step of a session. -/
abbrev Action (α : Type) := ExceptT Failure (StateM Session) α

/-- The value of an outcome, or its failure. -/
def lift {α : Type} : Except Failure α → Action α
  | .ok value => return value
  | .error failure => throw failure

/-- Sets the context. -/
def setContext (context : Context) : Action Unit :=
  modify fun session => { session with context }

/-- Changes the context and returns what the change yields. -/
def withContext {α : Type} (change : Context → α × Context) : Action α := do
  let (value, context) := change (← get).context
  setContext context
  return value

/-- The directory of a module whose place is not given. -/
def defaultPath (name : String) : String :=
  "modules/" ++ name

/-- The files of a session: there are none. -/
def noFiles : FileSystem := {}

/-- Looks for the metadata of a module. There are none, but not every path can be looked up. -/
def seekMetadata (module : Module) : Except Failure Unit := do
  let _ ← noFiles.isFile (ModuleDirectory.metadataPath { path := module.path })

/-- The mark of a module: the given one, or else what its directory says. A restored module has the
mark of its record. -/
def markOf (session : Session) (key : String) (module : Module) : Except Failure Json :=
  match session.made.get? key with
  | none => .ok (.bool module.controlRepo)
  | some .null => Json.bool <$> isControlRepo noFiles module.path
  | some mark => .ok mark

/-- Replaces the modules of some keys. One that was walked is kept for later walks. -/
def replaceModules (keys : List String) (modules : Table String Module) : Action Unit :=
  modify fun session =>
    let detached := (keys.filter (· ∈ session.walked)).foldl (fun table key =>
      match session.modules.get? key with
      | some module => table.putNew key module
      | none => table) session.detached
    let made := session.made.filter fun entry => entry.1 ∉ keys
    { session with modules, detached, made }

/-- Puts a module into the table and gives its text. The mark says whether it is a control
repository. -/
def addModule (key : String) (module : Module) (mark : Json) : Action String := do
  let module := { module with controlRepo := mark.isTruthy }
  replaceModules [key] ((← get).modules.put key module)
  modify fun session => { session with made := session.made.put key mark }
  lift (seekMetadata module)
  return module.display

/-- The label of a value that is a key of modules. -/
def keyOf (value : Json) : Action String := do
  if value.isKey then return Label.among (← get).modules.keys value
  else throw .undefinedOperation

/-- The module of a key. -/
def moduleAt (key : String) : Action Module := do
  match (← get).modules.get? key with
  | some module => return module
  | none => throw .undefinedOperation

/-- The module of a key, made if there is none. Only a text can name a new module. -/
def ensureModule (key : String) : Action Unit := do
  if !(← get).modules.hasKey key then
    if !Label.isText key then throw .undefinedOperation
    let _ ← addModule key { name := key, path := .ofText (defaultPath key) } (.bool false)

/-- Records that a source defines a symbol. One that is no text cannot be warned about. -/
def define (category : Category) (name source : String) (allowRepeated : Bool) : Action Bool := do
  let context := (← get).context
  if Label.isText source || allowRepeated || (context.registry.owner? category name).isNone then
    withContext fun context => context.define category name source allowRepeated
  else
    setContext (context.noteDefinition category (normalizeName name) source)
    throw .invalidData

/-- Records that a class inherits from another one. -/
def inherit (child parent : Json) : Action Unit := do
  if !child.isKey then throw .undefinedOperation
  modify fun session =>
    let inherits := session.context.inherits
    let inherits := inherits.put (Label.among inherits.keys child) (Label.ofJson parent)
    { session with context := { session.context with inherits } }

/-- Sets the references of a module in the table. -/
def setDependencies (key : String) (module : Module) (dependencies : Dependencies) : Action Unit :=
  modify fun session =>
    { session with modules := session.modules.put key { module with dependencies } }

/-- Adds a reference to a module, and lists all of them. A category that is no dependency is noticed
before a name that is no text. -/
def depend (key : String) (category : Category) (name source : Json) : Action Dependencies := do
  let module ← moduleAt key
  match name with
  | .str name =>
    let sources := (module.dependencies.find? fun entry =>
      entry.category = category ∧ entry.name = normalizeName name).map Dependency.sources
    let source := Label.among (sources.getD []) source
    let dependencies ← lift (module.dependencies.add? category name source)
    setDependencies key module dependencies
    return dependencies
  | _ =>
    if category ∈ module.dependencies.categories then throw .undefinedOperation
    else throw .badValue

/-- Gets ready to walk a module. -/
def startWalk (key : String) : Action Unit := do
  ensureModule key
  modify fun session => { session with walked := key :: session.walked }

/-- The sources of a reference after a file was walked. The file is not added to sources that hold
another label of the same value. -/
def settleSources (file : String) (sources : List String) : List String :=
  if sources.any fun other => other != file && Label.same other file then
    sources.filter (· != file)
  else sources

/-- Walks the tree of a file of a module, and returns the names left open. -/
def walk (key : String) (file : SourceFile) (root : Node) : Action (List Node) := do
  let session ← get
  let module ←
    match session.detached.get? key with
    | some module => pure module
    | none => moduleAt key
  let (outcome, context, dependencies) :=
    readSource module.name file root (session.context, module.dependencies)
  let dependencies := dependencies.map fun entry =>
    { entry with sources := settleSources file.name entry.sources }
  setContext context
  if session.detached.hasKey key then
    modify fun session =>
      { session with detached := session.detached.put key { module with dependencies } }
  else setDependencies key module dependencies
  lift outcome

/-- Nothing, if the labels are texts. -/
def requireTexts (labels : List String) : Except Failure Unit :=
  if labels.all Label.isText then .ok () else .error .invalidData

/-- The text of a snapshot of the session. -/
def snapshot : Action String := do
  let session ← get
  let modules ← session.modules.mapM fun (key, module) => do
    let mark ← lift (session.markOf key module)
    if session.made.hasKey key then lift (seekMetadata module)
    lift (requireTexts (module.dependencies.flatMap Dependency.sources))
    return (key, { module with controlRepo := ← lift mark.toFlag })
  lift (requireTexts (session.context.registry.entries.map Definition.owner))
  lift (requireTexts session.modules.keys)
  lift (requireTexts (session.context.inherits.flatMap fun (child, parent) => [child, parent]))
  lift (Snapshot.capture session.context modules).toText

/-- Restores a snapshot without some modules, and counts those restored. -/
def restore (snapshot : Snapshot) (excluded : List String) : Action Nat := do
  let session ← get
  let (count, context, modules) := snapshot.restore excluded (session.context, session.modules)
  setContext context
  replaceModules (snapshot.modules.keys.filter fun key => key ∉ builtinOwner :: excluded) modules
  return count

end Session

end ModuleGraph
