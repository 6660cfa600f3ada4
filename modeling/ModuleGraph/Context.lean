import ModuleGraph.Diagnostics
import ModuleGraph.Failure
import ModuleGraph.Registry

/-!
# The context of a run

A `Context` gathers what a run learns from all modules: the registry, the diagnostics, which
class inherits from which, and the kinds of syntax nodes that nothing handles. `Context.define` is
the only way in which definitions are added; a second definition of a symbol is reported.
-/

namespace ModuleGraph

/-- The shared state of a run. -/
structure Context where
  /-- The owners of all symbols. -/
  registry : Registry := {}
  /-- The warnings and messages so far. -/
  diagnostics : Diagnostics := {}
  /-- The parent class of each class that has one. -/
  inherits : Table String String := []
  /-- The node kinds met that the analysis does not know, with repetitions. -/
  unhandledKinds : List Json := []
  /-- The builtin symbols were added. -/
  builtinsLoaded : Bool := false
deriving Inhabited

namespace Context

/-- Adds a record to the journal. -/
def log (context : Context) (level : Level) (message : String) : Context :=
  { context with diagnostics := context.diagnostics.log level message }

/-- Surfaces a message. -/
def warn (context : Context) (message : String) : Context :=
  { context with diagnostics := context.diagnostics.warn message }

/-- Evaluates a warning and surfaces it unless it is known. -/
def report (context : Context) (warning : Warning) (message : String) : Context :=
  { context with diagnostics := (context.diagnostics.report warning message).2 }

/-- Notes in the journal that a module defines a symbol. -/
def noteDefinition (context : Context) (category : Category) (name source : String) : Context :=
  context.log .debug ("Adding " ++ category.label ++ " definition " ++ name ++ " from " ++ source)

/-- Records that a module defines a symbol, and says whether it became its owner. A symbol that
is already owned is reported, unless repetition is allowed. -/
def define (context : Context) (category : Category) (name source : String)
    (allowRepeated : Bool) : Bool × Context :=
  let name := normalizeName name
  let context := context.noteDefinition category name source
  match context.registry.find? category name with
  | none => (true, { context with registry := context.registry.add category name source })
  | some owner =>
    if allowRepeated then (false, context)
    else
      (false, context.report (.duplicateDefinition category name source)
        (category.label ++ " " ++ name ++ " (" ++ source ++ "): Already defined in " ++ owner))

end Context

end ModuleGraph
