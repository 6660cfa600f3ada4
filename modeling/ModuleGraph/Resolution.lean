import ModuleGraph.Context
import ModuleGraph.Module.Basic
import ModuleGraph.Text.Order
import ModuleGraph.Text.Search

/-!
# Resolving references to modules

`lookup` finds the owner of a symbol that is referred to: in its own category, or else in the
categories that can be meant instead, in a fixed order. The direct dependencies of a module are the
owners of what it refers to, other than itself and the builtin symbols. A reference that nothing
defines is surfaced, with the files in which it is not known to be missing.

`resolve` first gives inherited variables their names in the inheriting classes. It then resolves
the requested modules and, in recursive mode, all modules reached from them. A control module is
listed but nothing is reached through it. What was resolved once is kept, so the warnings about a
module are evaluated once.
-/

namespace ModuleGraph

/-- The control modules unless others are configured. -/
def defaultControlModules : List String := ["profile", "role"]

/-- The resource type in the name of a provider, before its last slash. -/
def providerType? (name : String) : Option String :=
  match name.toList.reverse.dropWhile (· != '/') with
  | _ :: c :: type => some (String.ofList (c :: type).reverse)
  | _ => none

/-- What a reference may mean besides its own category, in order: a category, and the name to look
up in it. -/
def alternatives (category : Category) (name : String) : List (Category × String) :=
  match category with
  | .dataType => [(.resourceType, name), (.definedType, name), (.typeAlias, name)]
  | .resourceType => [(.definedType, name), (.dataType, name)]
  | .function => [(.legacyFunction, name)]
  | .provider => (providerType? name).toList.map fun type => (.definedType, type)
  | _ => []

/-- The owner of a referenced symbol, with the alternative under which it was found. -/
structure Match where
  /-- The owning module. -/
  owner : String
  /-- The category and name found, where they are not those referred to. -/
  instead : Option (Category × String) := none
deriving DecidableEq, Repr, Inhabited

/-- The first alternative that has an owner. -/
def Registry.firstOwned (registry : Registry) : List (Category × String) → Option Match
  | [] => none
  | (category, name) :: rest =>
    match registry.owner? category name with
    | some owner => some ⟨owner, some (category, name)⟩
    | none => registry.firstOwned rest

/-- The owner of a referenced symbol. -/
def Registry.lookup (registry : Registry) (category : Category) (name : String) : Option Match :=
  match registry.owner? category name with
  | some owner => some ⟨owner, none⟩
  | none => registry.firstOwned (alternatives category name)

/-- Looks up a referenced symbol and notes the alternative under which it was found. -/
def Context.lookup (context : Context) (category : Category) (name : String) :
    Option String × Context :=
  match context.registry.lookup category name with
  | some ⟨owner, some (found, target)⟩ =>
    (some owner, context.log .debug ("Resolved " ++ category.label ++ " " ++ name ++ " as " ++
      found.label ++ " " ++ target))
  | some ⟨owner, none⟩ => (some owner, context)
  | none => (none, context)

namespace Context

/-- The name of a variable below a class, without the class. -/
def inheritedName? (parent variableName : String) : Option String :=
  (Text.expect? (parent ++ "::").toList variableName.toList).map String.ofList

/-- Names the variables of a parent class in a class that inherits from it, and counts the new
names. -/
def aliasVariables (child parent : String) :
    List (String × String) → Nat × Context → Nat × Context
  | [], state => state
  | (variableName, owner) :: rest, (count, context) =>
    match inheritedName? parent variableName with
    | none => aliasVariables child parent rest (count, context)
    | some name =>
      let (added, context) := context.define .classVariable (child ++ "::" ++ name) owner true
      aliasVariables child parent rest (if added then count + 1 else count, context)

/-- Names the inherited ones among the owned variables for a list of inheriting classes. -/
def aliasEdges (owned : List (String × String)) :
    Table String String → Nat × Context → Nat × Context
  | [], state => state
  | (child, parent) :: rest, state =>
    aliasEdges owned rest (aliasVariables child parent owned state)

/-- Gives every variable of a parent class, as it was before, its name in each class that inherits
from it. The owner stays the same. -/
def aliasInherited (context : Context) : Nat × Context :=
  aliasEdges (context.registry.ofCategory .classVariable) context.inherits (0, context)

/-- Evaluates a missing symbol for each file that refers to it, and lists the files in which it is
not known. -/
def evaluateMissing (category : Category) (name : String) :
    List String → Diagnostics → List String × Diagnostics
  | [], diagnostics => ([], diagnostics)
  | source :: rest, diagnostics =>
    let (known, diagnostics) := diagnostics.evaluate (.missingDefinition category name source)
    let (unknown, diagnostics) := evaluateMissing category name rest diagnostics
    (if known then unknown else source :: unknown, diagnostics)

/-- The owner of one reference. A reference without one is evaluated and surfaced. -/
def resolveEntry (context : Context) (entry : Dependency) : Option String × Context :=
  match context.lookup entry.category entry.name with
  | (some owner, context) =>
    (some owner, context.log .debug ("Found dependency " ++ owner ++ " for " ++
      entry.category.label ++ " " ++ entry.name))
  | (none, context) =>
    let (unknown, diagnostics) :=
      evaluateMissing entry.category entry.name entry.sources context.diagnostics
    let context := { context with diagnostics }
    if unknown.isEmpty then (none, context)
    else
      (none, context.warn ("Failed to find " ++ entry.category.label ++ " " ++ entry.name ++
        ". Sources " ++ String.intercalate ", " unknown))

/-- The owners of a list of references. -/
def resolveEntries : List Dependency → Context → List String × Context
  | [], context => ([], context)
  | entry :: rest, context =>
    let (owner, context) := context.resolveEntry entry
    let (owners, context) := resolveEntries rest context
    (owner.toList ++ owners, context)

/-- Reports a module that depends on control modules. -/
def reportControl (context : Context) (module : Module) (controlModules : List String) : Context :=
  let named := controlModules.map fun name => "'" ++ name ++ "'"
  context.report (.controlDependency module.name)
    ("Module " ++ module.name ++ " depends on control repo module " ++
      String.intercalate ", " named)

/-- Reports an ordinary module that depends on control modules. -/
def checkControl (context : Context) (controlModules : List String) (module : Module)
    (dependencies : List String) : Context :=
  if module.name ∈ controlModules ∨ module.controlRepo then context
  else
    match controlModules.filter fun name => name ∈ dependencies with
    | [] => context
    | offending => context.reportControl module offending

/-- The direct dependencies of a module that is known by a name. -/
def resolveDirect (context : Context) (controlModules : List String) (name : String)
    (module : Module) : List String × Context :=
  let context := context.log .info ("Resolving module " ++ name)
  let (owners, context) := resolveEntries module.dependencies.items context
  let dependencies :=
    Text.sortedSet (owners.filter fun owner => owner ≠ builtinOwner ∧ owner ≠ name)
  let context := context.checkControl controlModules module dependencies
  (dependencies, context.log .debug ("Found " ++ name ++ " dependencies " ++
    Json.quotedNames dependencies))

end Context

/-- What a resolver has found out so far. -/
structure Resolver where
  /-- The modules through which nothing is reached. -/
  controlModules : List String := defaultControlModules
  /-- The direct dependencies of the modules resolved so far. -/
  direct : Table String (List String) := []
deriving Inhabited

/-- What is to be resolved. -/
structure Request where
  /-- The modules to resolve; all of them if there are none. -/
  names : List String := []
  /-- Dependencies of dependencies count too. -/
  recursive : Bool := false
  /-- Names that are added to the result. -/
  extra : List String := []
  /-- The module that is left out of the result. -/
  primary : Option String := none
deriving Inhabited

/-- The outcome of resolving. -/
structure Resolution where
  /-- The dependencies of each requested module. -/
  modules : Table String (List String) := []
  /-- The dependencies of all requested modules together. -/
  dependencies : List String := []
deriving DecidableEq, Repr, Inhabited

/-- All dependencies on one line. -/
def Resolution.line (resolution : Resolution) : String :=
  String.intercalate " " resolution.dependencies

namespace Resolver

/-- The direct dependencies of a module, from before or resolved now. -/
def resolveModule (modules : Table String Module) (name : String) (resolver : Resolver)
    (context : Context) : Except Failure (List String) × Resolver × Context :=
  match resolver.direct.get? name with
  | some dependencies => (.ok dependencies, resolver, context)
  | none =>
    match modules.get? name with
    | none => (.error (.unknownModule name), resolver, context)
    | some module =>
      let (dependencies, context) := context.resolveDirect resolver.controlModules name module
      (.ok dependencies, { resolver with direct := resolver.direct.put name dependencies },
        context)

/-- Resolves the modules of a queue and, in recursive mode, those that they reach. A dependency
enters the queue once, and a control module never. -/
def explore (modules : Table String Module) (recursive : Bool) :
    Nat → List String → List String → Resolver → Context → Except Failure Unit × Resolver × Context
  | 0, _, _, resolver, context => (.ok (), resolver, context)
  | _ + 1, [], _, resolver, context => (.ok (), resolver, context)
  | steps + 1, name :: queue, queued, resolver, context =>
    match resolver.resolveModule modules name context with
    | (.error failure, resolver, context) => (.error failure, resolver, context)
    | (.ok dependencies, resolver, context) =>
      let reached :=
        if recursive then
          dependencies.filter fun d => d ∉ queued ∧ d ∉ resolver.controlModules
        else []
      explore modules recursive steps (queue ++ reached) (queued ++ reached) resolver context

/-- The modules reached from a list of modules, which are not expanded if they are control
modules. -/
def closure (resolver : Resolver) : Nat → List String → List String → List String
  | 0, seen, _ => seen
  | _ + 1, seen, [] => seen
  | steps + 1, seen, name :: pending =>
    if name ∈ seen then closure resolver steps seen pending
    else if name ∈ resolver.controlModules then closure resolver steps (seen ++ [name]) pending
    else
      closure resolver steps (seen ++ [name])
        (pending ++ (resolver.direct.get? name).getD [])

/-- The number of entries in all lists of direct dependencies. -/
def edgeCount (resolver : Resolver) : Nat :=
  (resolver.direct.flatMap (·.2)).length

/-- The dependencies of one requested module. -/
def dependenciesOf (resolver : Resolver) (recursive : Bool) (root : String) : List String :=
  let direct := (resolver.direct.get? root).getD []
  let reached :=
    if recursive then resolver.closure (direct.length + resolver.edgeCount + 1) [] direct
    else direct
  Text.sortedSet (reached.filter fun name => name ≠ root)

/-- The module left out of the result: the given one, or the only one requested. -/
def primaryOf (request : Request) : Option String :=
  match request.primary, request.names with
  | some name, _ => some name
  | none, [name] => some name
  | none, _ => none

/-- The outcome for modules that have been resolved. -/
def collect (resolver : Resolver) (request : Request) (roots : List String) : Resolution :=
  let modules := Table.ofEntries
    (roots.map fun root => (root, resolver.dependenciesOf request.recursive root))
  let all := modules.flatMap (·.2) ++ request.extra
  let primary := (primaryOf request).getD ""
  { modules
    dependencies := Text.sortedSet (all.filter fun name =>
      name ≠ builtinOwner ∧ (primary = "" ∨ name ≠ primary)) }

/-- Resolves what is requested. -/
def resolve (modules : Table String Module) (request : Request) (resolver : Resolver)
    (context : Context) : Except Failure Resolution × Resolver × Context :=
  let context := (context.log .info "Resolving dependencies").aliasInherited.2
  let roots := if request.names.isEmpty then modules.keys else request.names
  let steps := roots.length + context.registry.size + resolver.edgeCount + 1
  match explore modules request.recursive steps roots roots resolver context with
  | (.error failure, resolver, context) => (.error failure, resolver, context)
  | (.ok (), resolver, context) => (.ok (resolver.collect request roots), resolver, context)

end Resolver

end ModuleGraph
