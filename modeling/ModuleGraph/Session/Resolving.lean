import ModuleGraph.Session

/-!
# Resolving labels

In a session whose labels are all texts, modules are resolved by `Resolver.resolve`. Otherwise
`Resolving.resolve` does the same for labels: those of the same value call the same module, and a
symbol that null owns counts as not owned.

Resolving fails where a value cannot take the place of a text. A list or an object cannot be a
dependency, values that cannot be compared are not put in order, and a symbol can be missing only in
files that are called by texts.
-/

namespace ModuleGraph.Session

/-- A step of a resolver, which keeps what was found before a failure. -/
abbrev Resolving (α : Type) := ExceptT Failure (StateM (Resolver × Context)) α

namespace Resolving

/-- The value of an outcome, or its failure. -/
def lift {α : Type} (outcome : Except Failure α) : Resolving α :=
  ExceptT.mk (pure outcome)

/-- Changes the context. -/
def change (step : Context → Context) : Resolving Unit :=
  modify fun (resolver, context) => (resolver, step context)

/-- The owner of a symbol that was defined and belongs to nobody. -/
def nobody : String := Label.ofJson .null

/-- Looks at a context in which only the symbols are defined that belong to somebody. -/
def onOwned {α : Type} (step : Context → α × Context) (context : Context) : α × Context :=
  let owned := context.registry.entries.filter fun entry => entry.owner ≠ nobody
  let (value, next) := step { context with registry := ⟨owned⟩ }
  (value, { next with registry := context.registry })

/-- The owner of a symbol that is referred to. -/
def lookup (category : Category) (name : String) (context : Context) : Option String × Context :=
  onOwned (fun context => context.lookup category name) context

/-- Gives inherited variables their names in the inheriting classes, and counts the new names. -/
def aliasInherited (context : Context) : Nat × Context :=
  let edges := context.inherits.map fun (child, parent) => (Label.shown child, Label.shown parent)
  let (count, next) := { context with inherits := edges }.aliasInherited
  (count, { next with inherits := context.inherits })

/-- Resolves a reference whose owner, or lack of one, is as for texts. -/
def resolveEntry (entry : Dependency) : Resolving Unit :=
  change fun context => (onOwned (fun context => context.resolveEntry entry) context).2

/-- Evaluates and surfaces a missing symbol, up to a file that is not called by a text. -/
def reportMissing (entry : Dependency) : Resolving Unit := do
  let sources := entry.sources.takeWhile Label.isText
  if sources = entry.sources then resolveEntry entry
  else
    change fun context =>
      { context with
        diagnostics :=
          (Context.evaluateMissing entry.category entry.name sources context.diagnostics).2 }
    throw .invalidData

/-- Adds the owner of a reference to those found before. -/
def addOwner (owners : List String) (entry : Dependency) : Resolving (List String) := do
  match (lookup entry.category entry.name (← get).2).1 with
  | none =>
    reportMissing entry
    return owners
  | some owner =>
    resolveEntry entry
    if (Label.toJson owner).isKey then return Label.insert owners owner
    else throw .undefinedOperation

/-- Reports an ordinary module that depends on control modules. -/
def checkControl (session : Session) (key : String) (module : Module)
    (dependencies : List String) : Resolving Unit := do
  let controlModules := (← get).1.controlModules
  if !Label.holds controlModules module.name then
    let mark ← lift (session.markOf key module)
    let offending := controlModules.filter (Label.holds dependencies)
    if !mark.isTruthy && !offending.isEmpty then
      change fun context => context.reportControl module offending

/-- The direct dependencies of the module of a key, which is called by a name. -/
def resolveDirect (session : Session) (name key : String) (module : Module) :
    Resolving (List String) := do
  change fun context => context.log .info ("Resolving module " ++ name)
  let owners ← module.dependencies.items.foldlM addOwner []
  let others := Label.erase (Label.erase owners builtinOwner) name
  let dependencies ← lift (Label.sort others)
  checkControl session key module dependencies
  change fun context =>
    context.log .debug ("Found " ++ name ++ " dependencies " ++ Label.quoted dependencies)
  return dependencies

/-- The direct dependencies of a module, from before or resolved now. -/
def resolveModule (session : Session) (name : String) : Resolving (List String) := do
  match Label.get? (← get).1.direct name with
  | some dependencies => return dependencies
  | none =>
    match session.modules.find? fun entry => Label.same name entry.1 with
    | none => throw (.unknownModule name)
    | some (key, module) =>
      let dependencies ← resolveDirect session name key module
      modify fun (resolver, context) =>
        ({ resolver with direct := Label.put resolver.direct name dependencies }, context)
      return dependencies

/-- Resolves the modules of a queue and, in recursive mode, those that they reach. A dependency
enters the queue once, and a control module never. -/
def explore (session : Session) (recursive : Bool) :
    Nat → List String → List String → Resolving Unit
  | 0, _, _ => return ()
  | _ + 1, [], _ => return ()
  | steps + 1, name :: queue, queued => do
    let dependencies ← resolveModule session name
    let controlModules := (← get).1.controlModules
    let reached :=
      if recursive then
        dependencies.filter fun d => !Label.holds queued d && !Label.holds controlModules d
      else []
    explore session recursive steps (queue ++ reached) (queued ++ reached)

/-- The modules reached from a list of modules, which are not expanded if they are control
modules. -/
def closure (resolver : Resolver) : Nat → List String → List String → List String
  | 0, seen, _ => seen
  | _ + 1, seen, [] => seen
  | steps + 1, seen, name :: pending =>
    if Label.holds seen name then closure resolver steps seen pending
    else if Label.holds resolver.controlModules name then
      closure resolver steps (seen ++ [name]) pending
    else
      closure resolver steps (seen ++ [name])
        (pending ++ (Label.get? resolver.direct name).getD [])

/-- The dependencies of one requested module. -/
def dependenciesOf (resolver : Resolver) (recursive : Bool) (root : String) :
    Except Failure (List String) :=
  let direct := (Label.get? resolver.direct root).getD []
  let reached :=
    if recursive then closure resolver (direct.length + resolver.edgeCount + 1) [] direct
    else direct
  Label.sort (Label.erase reached root)

/-- The outcome for modules that have been resolved. A primary module of an empty value leaves
nothing out. All dependencies must fit on a line, which only texts do. -/
def collect (resolver : Resolver) (request : Request) (roots : List String) :
    Except Failure Resolution := do
  let modules ← roots.foldlM (fun table root => do
    return Label.put table root (← dependenciesOf resolver request.recursive root)) []
  let all := Label.distinct (modules.flatMap Prod.snd ++ request.extra)
  let primary := (Resolver.primaryOf request).filter fun label => (Label.toJson label).isTruthy
  let others := Label.erase all builtinOwner
  let dependencies ← Label.sort (primary.elim others (Label.erase others))
  if dependencies.all Label.isText then return { modules, dependencies }
  else throw .undefinedOperation

/-- Notes that resolving begins, and names inherited variables. -/
def begin (context : Context) : Context :=
  (aliasInherited (context.log .info "Resolving dependencies")).2

/-- Resolves what is requested. -/
def resolve (session : Session) (request : Request) : Resolving Resolution := do
  change begin
  let roots := if request.names.isEmpty then session.modules.keys else request.names
  let (resolver, context) ← get
  let steps := roots.length + context.registry.size + resolver.edgeCount + 1
  explore session request.recursive steps roots roots
  lift (collect (← get).1 request roots)

/-- All labels that a resolver can meet in a session are texts, and all marks can be read. -/
def isPlain (session : Session) (resolver : Resolver) (request : Request) : Bool :=
  let context := session.context
  (session.modules.all fun (key, module) =>
    Label.isText key && (session.markOf key module).isOk &&
      module.dependencies.all fun entry => entry.sources.all Label.isText) &&
    (context.registry.entries.all fun entry => Label.isText entry.owner) &&
    (context.inherits.all fun (child, parent) => Label.isText child && Label.isText parent) &&
    (resolver.direct.all fun (key, names) => Label.isText key && names.all Label.isText) &&
    resolver.controlModules.all Label.isText && request.names.all Label.isText &&
    request.extra.all Label.isText && request.primary.all Label.isText

/-- Carries out a step of a resolver of texts. -/
def ofResolver {α : Type}
    (step : Resolver → Context → Except Failure α × Resolver × Context) : Resolving α := do
  let (resolver, context) ← get
  let (outcome, next) := step resolver context
  set next
  lift outcome

end Resolving

/-- The direct dependencies of a module. -/
def resolveModule (name : String) (session : Session) : Resolving (List String) := do
  if Resolving.isPlain session (← get).1 { names := [name] } then
    Resolving.ofResolver fun resolver => resolver.resolveModule session.modules name
  else Resolving.resolveModule session name

/-- Resolves what is requested. -/
def resolve (request : Request) (session : Session) : Resolving Resolution := do
  if Resolving.isPlain session (← get).1 request then
    Resolving.ofResolver fun resolver => resolver.resolve session.modules request
  else Resolving.resolve session request

/-- The shared resolver: a new one if control modules are given, else the one used before. -/
def shareResolver (controlModules : Option (List String)) : Action Resolver := do
  let session ← get
  let resolver : Resolver :=
    match controlModules, session.resolver with
    | some names, _ => { controlModules := names }
    | none, some resolver => resolver
    | none, none => {}
  set { session with resolver := some resolver }
  return resolver

/-- The owner of a symbol that a step refers to by any value. Only a text names the type of a
provider. -/
def lookup (category : Category) (name : Json) : Action (Option String) := do
  if category = .provider && !(name matches .str _) then
    let owner := (← get).context.registry.owner? category name.display
    if owner.isNone || owner = some Resolving.nobody then throw .undefinedOperation
    return owner
  else withContext (Resolving.lookup category name.display)

/-- Carries out a step of a resolver, and returns the resolver as it is afterwards. -/
def runResolver {α : Type} (resolver : Resolver) (step : Session → Resolving α) :
    Action (Except Failure α × Resolver) := do
  let session ← get
  let (outcome, resolver, context) :=
    Id.run (StateT.run (ExceptT.run (step session)) (resolver, session.context))
  setContext context
  return (outcome, resolver)

/-- Carries out a step of the shared resolver. -/
def withShared {α : Type} (step : Session → Resolving α) : Action α := do
  let (outcome, resolver) ← runResolver (← shareResolver none) step
  modify fun session => { session with resolver := some resolver }
  lift outcome

/-- Carries out a step of a resolver that is used once. -/
def withFresh {α : Type} (controlModules : Option (List String)) (step : Session → Resolving α) :
    Action α := do
  let controlModules := controlModules.getD defaultControlModules
  lift (← runResolver { controlModules } step).1

end ModuleGraph.Session
