import ModuleGraph.Context
import ModuleGraph.Json.Decode
import ModuleGraph.Text.LowerCase

/-!
# Builtin symbols

A `Builtins` catalogue lists the symbols that need no module. `Context.addBuiltins` defines them
all for the owner `builtin`, once in a run, and counts the definitions made. A provider that a
resource type lists twice is surfaced and defined once.
-/

namespace ModuleGraph

/-- A catalogue of builtin symbols. -/
structure Builtins where
  /-- The release that the catalogue describes. -/
  version : String := ""
  /-- The resource types with the names of their providers. -/
  resourceTypes : Table String (List String) := []
  /-- The base classes of providers. -/
  providerClasses : List String := []
  /-- The data types. -/
  dataTypes : List String := []
  /-- The type aliases. -/
  typeAliases : List String := []
  /-- The functions. -/
  functions : List String := []
  /-- The functions of the older kind. -/
  legacyFunctions : List String := []
deriving DecidableEq, Repr, Inhabited

/-- Reads a catalogue. -/
def Builtins.ofJson (value : Json) : Except Failure Builtins := do
  let members ← value.toObject
  let names := Json.toList Json.toText
  return {
    version := ← Json.field members "puppet_version" Json.toText ""
    resourceTypes := ← Json.field members "resource_types" (Json.toTable names) []
    providerClasses := ← Json.field members "provider_classes" names []
    dataTypes := ← Json.field members "data_types" names []
    typeAliases := ← Json.field members "type_aliases" names []
    functions := ← Json.field members "functions" names []
    legacyFunctions := ← Json.field members "legacy_functions" names [] }

namespace Context

/-- Defines a builtin symbol. -/
def defineBuiltin (context : Context) (category : Category) (name : String) : Context :=
  (context.define category name builtinOwner false).2

/-- Defines builtin symbols of one category. -/
def defineBuiltins (context : Context) (category : Category) (names : List String) : Context :=
  names.foldl (fun context name => context.defineBuiltin category name) context

/-- Defines the providers of a resource type that were not seen before. -/
def addProviders (type : String) :
    List String → List String × Context → List String × Context
  | [], state => state
  | provider :: rest, (seen, context) =>
    let name := type ++ "/" ++ provider
    if name ∈ seen then
      addProviders type rest (seen, context.warn ("Found duplicate provider " ++ name))
    else
      addProviders type rest (name :: seen, context.defineBuiltin .provider name)

/-- Defines resource types with their providers. -/
def addResourceTypes :
    Table String (List String) → List String × Context → List String × Context
  | [], state => state
  | (type, providers) :: rest, (seen, context) =>
    addResourceTypes rest
      (addProviders type providers (seen, context.defineBuiltin .resourceType type))

/-- Adds a catalogue unless one was added before, and counts the new definitions. -/
def addBuiltins (context : Context) (catalogue : Builtins) : Nat × Context :=
  if context.builtinsLoaded then (0, context)
  else
    let size := context.registry.size
    let context := context.log .info "Loading built-in types, providers and functions"
    let context := (addResourceTypes catalogue.resourceTypes ([], context)).2
    let context := context.defineBuiltins .provider catalogue.providerClasses
    let context := context.defineBuiltins .dataType (catalogue.dataTypes.map Text.lower)
    let context := context.defineBuiltins .legacyFunction catalogue.legacyFunctions
    let context := context.defineBuiltins .function catalogue.functions
    let context := context.defineBuiltins .typeAlias (catalogue.typeAliases.map Text.lower)
    (context.registry.size - size, { context with builtinsLoaded := true })

end Context

end ModuleGraph
