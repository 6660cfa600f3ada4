import ModuleGraph.Syntax.Depth
import ModuleGraph.Syntax.Node
import ModuleGraph.Text.Order

/-!
# Syntax trees in JSON

An object with a `kind` describes a node: its `fields` hold the values, and its `span` the offset
and length in the source. `Node.ofJson` builds the node. A field that is an object without a kind
stays a plain scalar, whatever it holds. A tree that is too deep is refused.

A span entry is an integer, or a number, flag or text that denotes one.
-/

namespace ModuleGraph

/-- The integer that a span entry denotes. -/
def Json.toInteger : Json → Except Failure Int
  | .int value => .ok value
  | .bool value => .ok (if value then 1 else 0)
  | .float .nan => .error .badValue
  | .float value =>
    match value.truncate? with
    | some integer => .ok integer
    | none => .error .undefinedOperation
  | .str text =>
    match Text.readInt? text with
    | some integer => .ok integer
    | none => .error .badValue
  | _ => .error .undefinedOperation

/-- An entry of a span by its position; the characters of a text count as entries. -/
def Json.spanEntry (span : Json) (position : Nat) : Except Failure Json :=
  match span with
  | .arr items =>
    match items[position]? with
    | some item => .ok item
    | none => .error .undefinedOperation
  | .str text =>
    match (Text.characters text)[position]? with
    | some c => .ok (.str c)
    | none => .error .undefinedOperation
  | _ => .error .undefinedOperation

/-- The offset and length that a span gives; a span that counts as absent gives zero for both. -/
def Json.toSpan (span : Json) : Except Failure (Int × Int) :=
  if span.isTruthy then do
    let offset ← (← span.spanEntry 0).toInteger
    let length ← (← span.spanEntry 1).toInteger
    return (offset, length)
  else .ok (0, 0)

/-- A node from the members of the object that describes it, with the fields already read. -/
def assembleNode (members : List (String × Json)) (fields : List (String × Value)) :
    Except Failure Node := do
  let (offset, length) ← ((Table.get? members "span").getD .null).toSpan
  return .mk ((Table.get? members "kind").getD .null) fields offset length

mutual
/-- The value of a field. -/
def Value.ofJson : Json → Except Failure Value
  | .obj members =>
    if Table.hasKey members "kind" then do
      let fields ← fieldsAmong members
      return .node (← assembleNode members fields)
    else .ok (.scalar (.obj members))
  | .arr items => do return .list (← valuesOfItems items)
  | value => .ok (.scalar value)

/-- The values of a list. -/
def valuesOfItems : List Json → Except Failure (List Value)
  | [] => .ok []
  | item :: rest => do
    let value ← Value.ofJson item
    return value :: (← valuesOfItems rest)

/-- Reads the member `fields` of an object, if it is there. -/
def fieldsAmong : List (String × Json) → Except Failure (List (String × Value))
  | [] => .ok []
  | (key, value) :: rest =>
    if key = "fields" then fieldsOf value else fieldsAmong rest

/-- The fields of a node. -/
def fieldsOf : Json → Except Failure (List (String × Value))
  | .obj members => fieldsOfMembers members
  | value => if value.isTruthy then .error .undefinedOperation else .ok []

/-- The fields that members describe. -/
def fieldsOfMembers : List (String × Json) → Except Failure (List (String × Value))
  | [] => .ok []
  | (name, value) :: rest => do
    let value ← Value.ofJson value
    return (name, value) :: (← fieldsOfMembers rest)
end

/-- The node that an object describes. Its tree may have a number of levels. -/
def Node.ofJson (levels : Nat) : Json → Except Failure Node
  | .obj members =>
    if Table.hasKey members "kind" then do
      if levels < treeDepth members then throw .undefinedOperation
      let fields ← fieldsAmong members
      assembleNode members fields
    else .error (.nodeWithoutKind (Text.sortNames (Table.keys members)))
  | _ => .error .undefinedOperation

end ModuleGraph
