import ModuleGraph.Failure
import ModuleGraph.Text.Integer

/-!
# Syntax trees

A manifest is seen as a tree of nodes. A `Node` has a kind, named fields in the order of the
grammar, and a span of the source text. A field holds a scalar, a node, or a list of such
values. The children of a node are the nodes in its fields and in the lists of its fields; a node
inside a list of lists is not a child.

`Node.kind` is a JSON value, since a tree is analysed even if a kind is not a string.
`Value.display` and `Value.quoted` are the texts of a value in messages, and `excerpt` cuts out the
source text of a node.
-/

namespace ModuleGraph

mutual
/-- A node of a syntax tree. -/
inductive Node
  | mk (kind : Json) (fields : List (String × Value)) (offset length : Int)

/-- The value of a field. A scalar is any JSON value apart from lists and from objects that
describe nodes. -/
inductive Value
  | scalar (value : Json)
  | node (node : Node)
  | list (items : List Value)
end

instance : Inhabited Node := ⟨.mk .null [] 0 0⟩
instance : Inhabited Value := ⟨.scalar .null⟩

namespace Node

/-- The kind tag. -/
def kind : Node → Json
  | .mk kind _ _ _ => kind

/-- The fields in order. -/
def fields : Node → List (String × Value)
  | .mk _ fields _ _ => fields

/-- Where the source text of the node starts. -/
def offset : Node → Int
  | .mk _ _ offset _ => offset

/-- How many characters the source text of the node has. -/
def length : Node → Int
  | .mk _ _ _ length => length

/-- A field of the node. -/
def field? (node : Node) (name : String) : Option Value :=
  Table.get? node.fields name

/-- A field of the node, null where it is absent. -/
def field (node : Node) (name : String) : Value :=
  (node.field? name).getD (.scalar .null)

/-- The field that literals and names keep their text in. -/
def value (node : Node) : Value :=
  node.field "value"

/-- The node has the given kind. -/
def isKind (node : Node) (name : String) : Bool :=
  match node.kind with
  | .str kind => kind == name
  | _ => false

/-- The node has one of the given kinds. -/
def isOneOf (node : Node) (names : List String) : Bool :=
  names.any node.isKind

end Node

namespace Value

/-- The node that a value is. -/
def node? : Value → Option Node
  | .node tree => some tree
  | _ => none

/-- The value is a node of one of the given kinds. -/
def nodeOf? (value : Value) (names : List String) : Option Node :=
  value.node?.filter fun node => node.isOneOf names

/-- The string that a value is. -/
def string? : Value → Option String
  | .scalar (.str value) => some value
  | _ => none

/-- The value counts as present. -/
def isTruthy : Value → Bool
  | .scalar value => value.isTruthy
  | .node _ => true
  | .list items => !items.isEmpty

/-- What a loop over a value runs through: nothing for a value that counts as absent, the items of
a list, the characters of a string, the keys of an object. Other values have no items. -/
def elements : Value → Except Failure (List Value)
  | .list items => .ok items
  | .scalar (.str text) => .ok ((Text.characters text).map fun c => .scalar (.str c))
  | .scalar (.obj members) => .ok (members.map fun member => .scalar (.str member.1))
  | value => if value.isTruthy then .error .undefinedOperation else .ok []

mutual
/-- A node in a message: its kind, and its value if it has one. -/
def quotedNode : Node → String
  | .mk kind fields _ _ => "<" ++ kind.display ++ quotedValueField fields ++ ">"

/-- The value field of a node in a message, after a blank. -/
def quotedValueField : List (String × Value) → String
  | [] => ""
  | (name, value) :: rest =>
    if name = "value" then
      match value with
      | .scalar .null => ""
      | value => " " ++ quoted value
    else quotedValueField rest

/-- A value in a message, with its strings between quotation marks. -/
def quoted : Value → String
  | .scalar value => value.quoted
  | .node tree => quotedNode tree
  | .list items => "[" ++ quotedItems items ++ "]"

/-- The items of a list in a message. -/
def quotedItems : List Value → String
  | [] => ""
  | [item] => quoted item
  | item :: rest => quoted item ++ ", " ++ quotedItems rest
end

/-- A value in a message. -/
def display : Value → String
  | .scalar value => value.display
  | value => quoted value

/-- The kind of a node, or the word for the type of another value. -/
def kindName : Value → String
  | .node tree => tree.kind.display
  | .list _ => "list"
  | .scalar value => value.typeName

end Value

/-- A node in a message. -/
def Node.display (node : Node) : String :=
  Value.quotedNode node

/-- The nodes among the values of a list. -/
def Value.nodesOf (items : List Value) : List Node :=
  items.filterMap Value.node?

/-- The children that a value contributes. -/
def Value.childNodes : Value → List Node
  | .node tree => [tree]
  | .list items => nodesOf items
  | .scalar _ => []

/-- The children of a node, in order. -/
def Node.children (node : Node) : List Node :=
  node.fields.flatMap fun field => field.2.childNodes

/-- The position from the start that a signed position denotes in a text of the given length: a
negative one counts from the end, and what lies outside is clipped. -/
def clipPosition (length : Nat) (position : Int) : Nat :=
  if position < 0 then (position + length).toNat else min position.toNat length

/-- The items from one signed position up to another. -/
def sliceItems {α : Type} (items : List α) (first last : Int) : List α :=
  let start := clipPosition items.length first
  (items.take (clipPosition items.length last)).drop start

/-- The source text of a node, empty for a node without extent. -/
def excerpt (source : Json) (node : Node) : Except Failure Json :=
  if node.length ≤ 0 then .ok (.str "")
  else
    match source with
    | .str text =>
      .ok (.str (Text.ofPoints
        (sliceItems (Text.points text) node.offset (node.offset + node.length))))
    | .arr items => .ok (.arr (sliceItems items node.offset (node.offset + node.length)))
    | _ => .error .undefinedOperation

/-- The nearest of the ancestors, given nearest first, that has one of the kinds. -/
def nearestOf (ancestors : List Node) (kinds : List Json) : Option Node :=
  ancestors.find? fun node => kinds.any node.kind.sameValue

end ModuleGraph
