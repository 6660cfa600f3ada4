import ModuleGraph.Json.Basic
import ModuleGraph.Text.Quoted

/-!
# Writing JSON text

`Json.render` writes a value on one line, with a blank after each comma and colon. `Json.pretty`
writes one item or member a line, indented by two blanks a level, and empty containers closed up.
Strings escape the quotation mark, the backslash and the control characters; all other
characters stand for themselves.
-/

namespace ModuleGraph.Json

/-- One character inside a string. -/
def escapeChar (c : Char) : List Char :=
  if c == '\x22' then ['\\', '\x22']
  else if c == '\\' then ['\\', '\\']
  else if c == '\n' then ['\\', 'n']
  else if c == '\r' then ['\\', 'r']
  else if c == '\t' then ['\\', 't']
  else if c == '\x08' then ['\\', 'b']
  else if c == '\x0c' then ['\\', 'f']
  else if c.toNat < 32 then '\\' :: 'u' :: Text.hexadecimal 4 c.toNat
  else [c]

/-- A string between quotation marks. -/
def renderString (text : String) : String :=
  String.ofList ('\x22' :: text.toList.flatMap escapeChar ++ ['\x22'])

/-- A floating-point number. -/
def renderFloat : Binary64 → String
  | .nan => "NaN"
  | .infinite negative => if negative then "-Infinity" else "Infinity"
  | value => value.toText

/-- A value that is not a container. -/
def renderScalar : Json → String
  | .null => "null"
  | .bool value => if value then "true" else "false"
  | .int value => toString value
  | .float value => renderFloat value
  | .str value => renderString value
  | .arr _ => "[]"
  | .obj _ => "\x7b\x7d"

mutual
/-- A value on one line. -/
def render : Json → String
  | .arr items => "[" ++ renderItems items ++ "]"
  | .obj members => "\x7b" ++ renderMembers members ++ "\x7d"
  | value => renderScalar value

/-- The items of an array on one line. -/
def renderItems : List Json → String
  | [] => ""
  | [item] => render item
  | item :: rest => render item ++ ", " ++ renderItems rest

/-- The members of an object on one line. -/
def renderMembers : List (String × Json) → String
  | [] => ""
  | [(key, value)] => renderString key ++ ": " ++ render value
  | (key, value) :: rest => renderString key ++ ": " ++ render value ++ ", " ++ renderMembers rest
end

/-- A line break followed by the indentation of a level. -/
def newline (level : Nat) : String :=
  "\n" ++ String.ofList (List.replicate (2 * level) ' ')

mutual
/-- A value over several lines, inside containers of the given depth. -/
def prettyAt (level : Nat) : Json → String
  | .arr [] => "[]"
  | .arr items => "[" ++ prettyItems (level + 1) items ++ newline level ++ "]"
  | .obj [] => "\x7b\x7d"
  | .obj members => "\x7b" ++ prettyMembers (level + 1) members ++ newline level ++ "\x7d"
  | value => renderScalar value

/-- The items of an array, one a line. -/
def prettyItems (level : Nat) : List Json → String
  | [] => ""
  | [item] => newline level ++ prettyAt level item
  | item :: rest => newline level ++ prettyAt level item ++ "," ++ prettyItems level rest

/-- The members of an object, one a line. -/
def prettyMembers (level : Nat) : List (String × Json) → String
  | [] => ""
  | [(key, value)] => newline level ++ renderString key ++ ": " ++ prettyAt level value
  | (key, value) :: rest =>
    newline level ++ renderString key ++ ": " ++ prettyAt level value ++ "," ++
      prettyMembers level rest
end

/-- A value over several lines. -/
def pretty (value : Json) : String :=
  prettyAt 0 value

end ModuleGraph.Json
