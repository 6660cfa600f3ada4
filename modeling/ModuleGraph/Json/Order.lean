import ModuleGraph.Failure
import ModuleGraph.RunSort
import ModuleGraph.Text.Order

/-!
# Values in order

Texts have an order and so do numbers, but a text and a number do not, and neither does anything
else. The number that is not one comes neither before nor after any other. With it in between, the
order of the rest depends on how they are sorted, which is by runs.

`Json.sortBy` sorts items by a value that each of them has.
-/

namespace ModuleGraph.Json

/-- A number with the infinities. -/
inductive Magnitude
  /-- Not a number. -/
  | undefined
  /-- Beyond all finite numbers on one side. -/
  | infinite (negative : Bool)
  /-- A fraction. -/
  | finite (numerator : Int) (denominator : Nat)

/-- The size of a number; booleans count as 0 and 1. -/
def magnitude? (value : Json) : Option Magnitude :=
  match value with
  | .float .nan => some .undefined
  | .float (.infinite negative) => some (.infinite negative)
  | _ => value.fraction?.map fun (numerator, denominator) => .finite numerator denominator

/-- A number is less than another. -/
def Magnitude.isLess : Magnitude → Magnitude → Bool
  | .undefined, _ | _, .undefined => false
  | .infinite a, .infinite b => a && !b
  | .infinite negative, .finite _ _ => negative
  | .finite _ _, .infinite negative => !negative
  | .finite m d, .finite n e => m * e < n * d

/-- A value comes before another; only two texts or two numbers can. -/
def precedes (a b : Json) : Bool :=
  match a, b with
  | .str a, .str b => Text.isBefore a b
  | a, b =>
    match magnitude? a, magnitude? b with
    | some a, some b => a.isLess b
    | _, _ => false

/-- The values can be put in order: there is at most one, or all are texts, or all are numbers. -/
def areComparable (values : List Json) : Bool :=
  values.length ≤ 1 || values.all (fun value => value matches .str _) ||
    values.all fun value => (magnitude? value).isSome

/-- Items in the order of their values, if these can be put in order. -/
def sortBy {α : Type} (value : α → Json) (items : List α) : Except Failure (List α) :=
  if areComparable (items.map value) then
    .ok (RunSort.sorted (fun a b => precedes (value a) (value b)) items)
  else .error .undefinedOperation

end ModuleGraph.Json
