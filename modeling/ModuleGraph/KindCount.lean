import ModuleGraph.Json.Order

/-!
# Counting kinds

The kinds of nodes that nothing handles are counted for a summary, which lists them in order. A
kind is usually a text, but a dump may give it any value.
-/

namespace ModuleGraph.KindCount

/-- How often each kind occurs, in the order of the first occurrence. -/
def count (kinds : List Json) : List (Json × Nat) :=
  kinds.foldl (fun counts kind =>
    if counts.any fun entry => entry.1.sameValue kind then
      counts.map fun entry => if entry.1.sameValue kind then (entry.1, entry.2 + 1) else entry
    else counts ++ [(kind, 1)]) []

/-- A list of the kinds in order, each with the number of its occurrences. -/
def summary (kinds : List Json) : Except Failure String := do
  let counts ← Json.sortBy Prod.fst (count kinds)
  return String.intercalate ", " (counts.map fun (kind, number) =>
    kind.display ++ " (" ++ toString number ++ ")")

end ModuleGraph.KindCount
