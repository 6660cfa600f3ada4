import ModuleGraph.Failure
import ModuleGraph.Text.CodePoint

/-!
# Values as collections

A loop can run over a list, over the characters of a string and over the keys of an object; other
values have no elements. `elements` lists what it runs through, and `givenElements` takes a value
that counts as absent for an empty collection.

`entries` reads a value as a table: an object is one, and so is any collection of pairs.
-/

namespace ModuleGraph.Json

/-- What a loop over a value runs through. -/
def elements : Json → Except Failure (List Json)
  | .arr items => .ok items
  | .str text => .ok ((Text.characters text).map .str)
  | .obj members => .ok (members.map fun member => .str member.1)
  | _ => .error .undefinedOperation

/-- The elements of a collection that is given, or none. -/
def givenElements (value : Json) : Except Failure (List Json) :=
  if value.isTruthy then value.elements else .ok []

/-- A value that can be a key: no list and no object. -/
def isKey : Json → Bool
  | .arr _ | .obj _ => false
  | _ => true

/-- The strings among keys; a list or an object among them is an error. -/
def keyTexts (keys : List Json) : Except Failure (List String) :=
  if keys.all isKey then
    .ok (keys.filterMap fun
      | .str text => some text
      | _ => none)
  else .error .undefinedOperation

/-- An entry of a table from a collection of a key and a value. -/
def entry (value : Json) : Except Failure (Json × Json) := do
  match ← value.elements with
  | [key, value] => if key.isKey then return (key, value) else throw .undefinedOperation
  | _ => throw .badValue

/-- The entries of a table. -/
def entries : Json → Except Failure (List (Json × Json))
  | .obj members => .ok (members.map fun (key, value) => (.str key, value))
  | value => do (← value.elements).mapM entry

/-- A table whose keys are strings; a key of another type is an error. -/
def textEntries (value : Json) : Except Failure (Table String Json) := do
  let entries ← (← value.entries).mapM fun
    | (.str key, value) => .ok (key, value)
    | _ => .error .undefinedOperation
  return Table.ofEntries entries

end ModuleGraph.Json
