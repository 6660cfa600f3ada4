import ModuleGraph.RunSort.Merge

/-!
# Sorting by runs

`sorted` puts items in order. It cuts them into runs that are in order already, a run that descends
being turned round and a short one extended by insertion, and merges neighbouring runs. Which runs
are merged when goes by their `power`: the depth at which their border would lie in a tree that
halves the row evenly.

Under an order all ways of sorting that keep equals in place give the same result. Here items may
be incomparable, and then the result depends on the comparisons made; so they are fixed.
-/

namespace ModuleGraph.RunSort

variable {α : Type} (less : α → α → Bool)

/-- Splits a row where a relation between neighbours first fails, given the item before it. -/
def splitRun (holds : α → α → Bool) (before : α) : List α → List α × List α
  | [] => ([], [])
  | item :: rest =>
    if holds before item then
      let (run, others) := splitRun holds item rest
      (item :: run, others)
    else ([], item :: rest)

/-- The run at the front of a row, in order, and what follows it. A run does not descend, or
descends all the way and is turned round. -/
def frontRun : List α → List α × List α
  | first :: second :: rest =>
    if less second first then
      let (run, others) := splitRun (fun a b => less b a) second rest
      ((first :: second :: run).reverse, others)
    else
      let (run, others) := splitRun (fun a b => !less b a) second rest
      (first :: second :: run, others)
  | items => (items, [])

/-- Puts an item where it belongs. -/
def insert (items : List α) (item : α) : List α :=
  let place := position less items.toArray item
  items.take place ++ item :: items.drop place

/-- The length below which a row is not cut into runs. -/
def shortRow : Nat := 64

/-- The least length of a run in a row of a given size: the size is halved until it is short, and
one is added if a halving left a rest. -/
def leastRun (rest : Nat) (size : Nat) : Nat :=
  if size < shortRow then size + rest else leastRun (max rest (size % 2)) (size / 2)
termination_by size
decreasing_by unfold shortRow at *; omega

/-- Extends a run to a length by the items that follow it, as far as there are any. -/
def extend (length : Nat) (run rest : List α) : List α × List α :=
  let count := length - run.length
  ((rest.take count).foldl (insert less) run, rest.drop count)

/-- Cuts a row into runs of at least a length, apart from the last one. Each step takes an item or
more. -/
def runs (length : Nat) : Nat → List α → List (List α)
  | 0, _ => []
  | _ + 1, [] => []
  | steps + 1, item :: items =>
    let (run, rest) := frontRun less (item :: items)
    let (run, rest) := extend less length run rest
    run :: runs length steps rest

/-- The power of a border: the first binary digit in which the middles of the two runs beside it
differ, each taken as a fraction of the row. The middles are given with twice the size of the row
as their measure. -/
def power (size : Nat) : Nat → Nat → Nat → Nat
  | 0, _, _ => 0
  | steps + 1, left, right =>
    if size ≤ left then power size steps (2 * (left - size)) (2 * (right - size)) + 1
    else if size ≤ right then 1
    else power size steps (2 * left) (2 * right) + 1

/-- A run that waits to be merged. -/
structure Waiting (α : Type) where
  /-- Where the run starts in the row. -/
  start : Nat
  /-- Its items. -/
  items : List α
  /-- The power of the border behind it. -/
  power : Nat := 0

/-- Merges a waiting run with the one behind it. -/
def join (wins : Nat) (first second : Waiting α) : Waiting α × Nat :=
  let (items, wins) := mergeRows less wins first.items second.items
  (⟨first.start, items, first.power⟩, wins)

/-- Merges the last of the waiting runs, given last first, as long as the border before it has a
power above the given one. -/
def settle (power : Nat) : Nat → List (Waiting α) → Nat → List (Waiting α) × Nat
  | 0, waiting, wins => (waiting, wins)
  | steps + 1, waiting, wins =>
    match waiting with
    | last :: before :: rest =>
      if power < before.power then
        let (joined, wins) := join less wins before last
        settle power steps (joined :: rest) wins
      else (waiting, wins)
    | _ => (waiting, wins)

/-- Puts a run behind those that wait. -/
def push (size : Nat) (state : List (Waiting α) × Nat) (run : List α) : List (Waiting α) × Nat :=
  match state with
  | ([], wins) => ([⟨0, run, 0⟩], wins)
  | (last :: rest, wins) =>
    let left := 2 * last.start + last.items.length
    let right := left + last.items.length + run.length
    let border := power size (size + 1) left right
    match settle less border (rest.length + 1) (last :: rest) wins with
    | (last :: rest, wins) =>
      (⟨last.start + last.items.length, run, 0⟩ :: { last with power := border } :: rest, wins)
    | ([], wins) => ([⟨0, run, 0⟩], wins)

/-- Merges all waiting runs, given last first. Of the last three the middle one is merged with the
shorter of its neighbours. -/
def collapse : Nat → List (Waiting α) → Nat → List α
  | 0, waiting, _ => (waiting.reverse.map Waiting.items).flatten
  | steps + 1, waiting, wins =>
    match waiting with
    | [] => []
    | [run] => run.items
    | last :: middle :: [] => (join less wins middle last).1.items
    | last :: middle :: before :: rest =>
      if before.items.length < last.items.length then
        let (joined, wins) := join less wins before middle
        collapse steps (last :: joined :: rest) wins
      else
        let (joined, wins) := join less wins middle last
        collapse steps (joined :: before :: rest) wins

/-- The items in order. -/
def sorted (items : List α) : List α :=
  let size := items.length
  let all := runs less (leastRun 0 size) size items
  let (waiting, wins) := all.foldl (push less size) ([], gallopLength)
  collapse less waiting.length waiting wins

end ModuleGraph.RunSort
