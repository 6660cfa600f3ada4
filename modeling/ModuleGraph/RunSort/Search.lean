/-!
# Positions in a row

Where an item belongs in a row of items is found by comparing it with some of them. `position`
halves the row. `gallopLeft` and `gallopRight` start at a given place and first widen their step
until the position lies in between; the one leaves the item before its equals, the other behind
them.

The relation `less` need not be an order. Which comparisons are made is then part of the result.
-/

namespace ModuleGraph.RunSort

variable {α : Type} (less : α → α → Bool)

/-- The first place between two others where a test fails, found by halving as if the test held up
to a place and failed from there on. -/
def halve (holds : Nat → Bool) (low high : Nat) : Nat :=
  if low < high then
    let middle := low + (high - low) / 2
    if holds middle then halve holds (middle + 1) high else halve holds low middle
  else low
termination_by high - low

/-- A step that is widened while a test holds, together with the step before it. It is not widened
beyond a bound. -/
def widen (holds : Nat → Bool) (bound last step : Nat) : Nat × Nat :=
  if step < bound then
    if holds step then widen holds bound step (2 * step + 1) else (last, step)
  else (last, bound)
termination_by bound - step

/-- The item at a place has a property. -/
def itemHolds (items : Array α) (property : α → Bool) (place : Nat) : Bool :=
  (items[place]?.map property).getD false

/-- The place behind all items that are not greater than the given one. -/
def position (items : Array α) (item : α) : Nat :=
  halve (itemHolds items fun other => !less item other) 0 items.size

/-- The place before which a test holds, near a start: to its right if the test holds there, and
else to its left. -/
def gallop (holds : Nat → Bool) (size start : Nat) : Nat :=
  if holds start then
    let (last, step) := widen (fun step => holds (start + step)) (size - start) 0 1
    halve holds (start + last + 1) (start + step)
  else
    let (last, step) := widen (fun step => !holds (start - step)) (start + 1) 0 1
    halve holds (start + 1 - step) (start - last)

/-- The place of an item in a row, before its equals. -/
def gallopLeft (item : α) (items : Array α) (start : Nat) : Nat :=
  gallop (itemHolds items fun other => less other item) items.size start

/-- The place of an item in a row, behind its equals. -/
def gallopRight (item : α) (items : Array α) (start : Nat) : Nat :=
  gallop (itemHolds items fun other => !less item other) items.size start

end ModuleGraph.RunSort
