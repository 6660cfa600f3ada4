import ModuleGraph.Context
import ModuleGraph.FileSystem
import ModuleGraph.Json.Bounds
import ModuleGraph.Json.Printer
import ModuleGraph.Json.Reader
import ModuleGraph.Json.Stored
import ModuleGraph.Module.Basic

/-!
# Snapshots

A `Snapshot` keeps the registry, the modules and the inheritance of a run. `capture` takes one and
`restore` enters it into another run, so that only some modules have to be read again. Builtin
symbols are kept but never restored, and neither are the modules that are excluded, nor what they
define.
-/

namespace ModuleGraph

/-- The state of a run that can be kept. -/
structure Snapshot where
  /-- The owner of each symbol, by category and name. -/
  definitions : Table Category (Table String String) := []
  /-- The modules by name. -/
  modules : Table String ModuleRecord := []
  /-- The parent class of each class that has one. -/
  inherits : Table String String := []
deriving DecidableEq, Repr, Inhabited

namespace Snapshot

/-- Takes a snapshot. -/
def capture (context : Context) (modules : Table String Module) : Snapshot where
  definitions := Category.all.map fun category =>
    (category, context.registry.ofCategory category)
  modules := modules.map fun (key, module) => (key, module.toRecord)
  inherits := context.inherits

/-- A table of texts as JSON. -/
def textTable (table : Table String String) : Json :=
  .obj (table.map fun (key, value) => (key, .str value))

/-- A snapshot as JSON. -/
def toJson (snapshot : Snapshot) : Json :=
  .obj [
    ("definitions", .obj (snapshot.definitions.map fun (category, table) =>
      (category.label, textTable table))),
    ("modules", .obj (snapshot.modules.map fun (key, record) => (key, record.toJson))),
    ("inherits", textTable snapshot.inherits)]

/-- The text of a snapshot, if it can be stored. -/
def toText (snapshot : Snapshot) : Except Failure String := do
  return (← snapshot.toJson.stored).pretty

/-- Reads a snapshot. -/
def ofJson (value : Json) : Except Failure Snapshot := do
  let members ← value.toObject
  let texts := Json.toTable Json.toText
  return {
    definitions := ← Json.field members "definitions" (Json.toCategoryTable texts) []
    modules := ← Json.field members "modules" (Json.toTable ModuleRecord.ofJson) []
    inherits := ← Json.field members "inherits" texts [] }

/-- Reads the file of a snapshot. Of what is nested below the bounds for its depth, one level is
looked at. -/
def load (files : FileSystem) (path : Path) : Except Failure Snapshot := do
  let text ←
    match files.readText path with
    | .error .fileSystem => .error (.stateUnreadable path.toText)
    | outcome => outcome
  match Json.readDocument true (Json.depthLimit + 1) text.toList with
  | .error _ => throw (.stateInvalid path.toText)
  | .ok document =>
    match if document.isBounded then ofJson document else .error .invalidData with
    | .ok snapshot => return snapshot
    | .error _ => throw (.stateInvalid path.toText)

/-- Enters definitions of a category, apart from those of the given owners. -/
def restoreDefinitions (skipped : List String) (category : Category)
    (table : Table String String) (context : Context) : Context :=
  (table.filter fun entry => entry.2 ∉ skipped).foldl
    (fun context entry => (context.define category entry.1 entry.2 false).2) context

/-- Enters a snapshot into a run, without the builtin symbols and the excluded modules, and counts
the modules restored. -/
def restore (snapshot : Snapshot) (excluded : List String)
    (state : Context × Table String Module) : Nat × Context × Table String Module :=
  let (context, modules) := state
  let skipped := builtinOwner :: excluded
  let context := snapshot.definitions.foldl
    (fun context entry => restoreDefinitions skipped entry.1 entry.2 context) context
  let inherits := snapshot.inherits.foldl
    (fun table entry => table.putNew entry.1 entry.2) context.inherits
  let records := snapshot.modules.filter fun entry => entry.1 ∉ skipped
  let modules := records.foldl
    (fun table entry => table.put entry.1 (Module.ofRecord entry.2)) modules
  (records.length, { context with inherits }, modules)

end Snapshot

end ModuleGraph
