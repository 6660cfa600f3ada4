import ModuleGraph.Json.Basic
import ModuleGraph.Text.Quoted

/-!
# Values inside messages

`Json.display` is the text of a value in a message. A string stands for itself at the top, and
between quotation marks inside a container, as does `Json.quoted` everywhere.
-/

namespace ModuleGraph.Json

mutual
/-- A value with its strings between quotation marks. -/
def quoted : Json → String
  | .null => "None"
  | .bool value => if value then "True" else "False"
  | .int value => toString value
  | .float value => value.toText
  | .str value => Text.quoted value
  | .arr items => "[" ++ quotedItems items ++ "]"
  | .obj members => "\x7b" ++ quotedMembers members ++ "\x7d"

/-- The items of a list. -/
def quotedItems : List Json → String
  | [] => ""
  | [item] => quoted item
  | item :: rest => quoted item ++ ", " ++ quotedItems rest

/-- The members of an object. -/
def quotedMembers : List (String × Json) → String
  | [] => ""
  | [(key, value)] => Text.quoted key ++ ": " ++ quoted value
  | (key, value) :: rest =>
    Text.quoted key ++ ": " ++ quoted value ++ ", " ++ quotedMembers rest
end

/-- A value in a message. -/
def display : Json → String
  | .str value => value
  | value => quoted value

/-- A list of strings in a message. -/
def quotedNames (names : List String) : String :=
  quoted (.arr (names.map .str))

end ModuleGraph.Json
