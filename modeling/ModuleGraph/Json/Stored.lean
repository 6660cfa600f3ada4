import ModuleGraph.Failure
import ModuleGraph.Text.CodePoint

/-!
# Values that can be stored

A value is stored as text that is made of characters. `stored` prepares it. A string that holds
half of a surrogate pair cannot be stored. In the key of a member every such half is replaced by
three replacement characters, one for each byte that a character of its size would have.
-/

namespace ModuleGraph.Json

/-- The code points of a key that stand for one of its code points when it is stored. -/
def storedPoint (point : Nat) : List Nat :=
  if Text.isHalf point then List.replicate 3 Text.replacement else [point]

/-- A key as it is stored. -/
def storedKey (key : String) : String :=
  if Text.hasHalf key then Text.ofPoints ((Text.points key).flatMap storedPoint) else key

mutual
/-- A value as it is stored. -/
def stored : Json → Except Failure Json
  | .str text => if Text.hasHalf text then .error .undefinedOperation else .ok (.str text)
  | .arr items => do return .arr (← storedItems items)
  | .obj members => do return .obj (← storedMembers members)
  | value => .ok value

/-- The items of an array as they are stored. -/
def storedItems : List Json → Except Failure (List Json)
  | [] => .ok []
  | item :: rest => do
    let item ← stored item
    return item :: (← storedItems rest)

/-- The members of an object as they are stored. -/
def storedMembers : List (String × Json) → Except Failure (List (String × Json))
  | [] => .ok []
  | (key, value) :: rest => do
    let value ← stored value
    return (storedKey key, value) :: (← storedMembers rest)
end

end ModuleGraph.Json
