import ModuleGraph.Json.Basic
import ModuleGraph.Table

/-!
# The depth of syntax trees

A tree that is described in JSON is taken only as deep as its reader can go. The depth counts
levels: every value of a field and every item of a list is on a level of its own, a list adds one,
and a node adds one for itself and one for its fields. `treeDepth` is the depth of the tree that an
object describes.

An object without a kind is a scalar, so what is nested in it adds no level.
-/

namespace ModuleGraph

mutual
/-- The levels of a value in a field or in a list. -/
def Json.valueDepth : Json → Nat
  | .obj members => if Table.hasKey members "kind" then 3 + fieldsDepthAmong members else 1
  | .arr items => 2 + itemsDepth items
  | _ => 1

/-- The levels of the deepest item. -/
def itemsDepth : List Json → Nat
  | [] => 0
  | item :: rest => max item.valueDepth (itemsDepth rest)

/-- The levels of the member `fields`, if it is there. -/
def fieldsDepthAmong : List (String × Json) → Nat
  | [] => 0
  | (key, value) :: rest => if key = "fields" then value.fieldsDepth else fieldsDepthAmong rest

/-- The levels of the deepest field. -/
def Json.fieldsDepth : Json → Nat
  | .obj members => membersDepth members
  | _ => 0

/-- The levels of the deepest value among members. -/
def membersDepth : List (String × Json) → Nat
  | [] => 0
  | (_, value) :: rest => max value.valueDepth (membersDepth rest)
end

/-- The levels of the tree that the members of an object describe. -/
def treeDepth (members : List (String × Json)) : Nat :=
  2 + fieldsDepthAmong members

end ModuleGraph
