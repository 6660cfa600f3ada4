import ModuleGraph.Journal
import ModuleGraph.Warning

/-!
# Diagnostics

The `Diagnostics` of a run hold the warnings that are known beforehand, the distinct warnings
evaluated so far, the messages that were surfaced, and the journal. A warning that is known is
evaluated but not surfaced. `warned` becomes true with the first message and stays true.
-/

namespace ModuleGraph

/-- What a run knows and has said about warnings. -/
structure Diagnostics where
  /-- The accepted warnings, each once. -/
  known : List Warning := []
  /-- The evaluated warnings, each once, in the order of their first evaluation. -/
  found : List Warning := []
  /-- A message was surfaced. -/
  warned : Bool := false
  /-- The surfaced messages. -/
  messages : List String := []
  /-- Every record of the run. -/
  journal : Array Record := #[]
deriving Inhabited

namespace Diagnostics

/-- Adds a record to the journal. -/
def log (diagnostics : Diagnostics) (level : Level) (message : String) : Diagnostics :=
  { diagnostics with journal := diagnostics.journal.push ⟨level, message⟩ }

/-- Adds a value at the end of a list that does not hold it. -/
def insertNew (warnings : List Warning) (warning : Warning) : List Warning :=
  if warning ∈ warnings then warnings else warnings ++ [warning]

/-- Inserting a warning adds it and nothing else. -/
theorem mem_insertNew {warnings : List Warning} {warning other : Warning} :
    other ∈ insertNew warnings warning ↔ other ∈ warnings ∨ other = warning := by
  unfold insertNew
  split
  · next h =>
    constructor
    · exact Or.inl
    · rintro (hmem | rfl)
      · exact hmem
      · exact h
  · simp

/-- Accepts warnings from now on. -/
def addKnown (diagnostics : Diagnostics) (warnings : List Warning) : Diagnostics :=
  { diagnostics with known := warnings.foldl insertNew diagnostics.known }

/-- Evaluates a warning: records it, and says whether it is known. -/
def evaluate (diagnostics : Diagnostics) (warning : Warning) : Bool × Diagnostics :=
  (decide (warning ∈ diagnostics.known),
    { diagnostics with found := insertNew diagnostics.found warning })

/-- Surfaces a message. -/
def warn (diagnostics : Diagnostics) (message : String) : Diagnostics :=
  { diagnostics with
    warned := true
    messages := diagnostics.messages ++ [message] }.log .warning message

/-- Evaluates a warning and surfaces it unless it is known; says whether it was surfaced. -/
def report (diagnostics : Diagnostics) (warning : Warning) (message : String) :
    Bool × Diagnostics :=
  match diagnostics.evaluate warning with
  | (true, next) => (false, next.log .debug ("Suppressed known warning " ++ warning.describe))
  | (false, next) => (true, next.warn message)

end Diagnostics

end ModuleGraph
