import ModuleGraph.Context
import ModuleGraph.Module.Basic

/-!
# Facts about a module

Reading the files of a module yields a list of facts: definitions, references, inheritance,
warnings, and notes for the journal. `Fact.record` enters one fact into the context and into the
references of the module, and `recordAll` a list of them in order. Which facts a file yields never
depends on what has been recorded before.
-/

namespace ModuleGraph

/-- Something learnt from a file of a module. -/
inductive Fact
  /-- A note for the journal. -/
  | note (message : String)
  /-- The module defines a symbol. -/
  | define (category : Category) (name : String) (allowRepeated : Bool)
  /-- A file of the module refers to a symbol. -/
  | refer (category : Category) (name source : String)
  /-- A class inherits from another one. -/
  | inherit (child parent : String)
  /-- A node has a kind that nothing handles. -/
  | unhandled (kind : Json)
  /-- A message is to be surfaced. -/
  | warn (message : String)
  /-- A warning is to be evaluated. -/
  | report (warning : Warning) (message : String)

namespace Fact

/-- Enters a fact about the module of the given name. -/
def record (owner : String) (state : Context × Dependencies) : Fact → Context × Dependencies
  | .note message => (state.1.log .debug message, state.2)
  | .define category name allowRepeated =>
    ((state.1.define category name owner allowRepeated).2, state.2)
  | .refer category name source => (state.1, state.2.add category name source)
  | .inherit child parent =>
    ({ state.1 with inherits := state.1.inherits.put child parent }, state.2)
  | .unhandled kind =>
    ({ state.1 with unhandledKinds := state.1.unhandledKinds ++ [kind] }, state.2)
  | .warn message => (state.1.warn message, state.2)
  | .report warning message => (state.1.report warning message, state.2)

/-- Enters facts in order. -/
def recordAll (owner : String) (state : Context × Dependencies) (facts : List Fact) :
    Context × Dependencies :=
  facts.foldl (record owner) state

end Fact

end ModuleGraph
