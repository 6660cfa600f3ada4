import ModuleGraph.Failure

/-!
# Typed data in JSON values

Each reader of this module turns a JSON value into data of one type or fails with
`Failure.invalidData`. Strings, lists and objects are taken only as such. A flag may also be given
as the number 0 or 1, or as one of the usual words in any case.

Of a repeated key the last value counts. In a table the earlier ones must be data of the type, too.
-/

namespace ModuleGraph.Json

/-- A string. -/
def toText : Json → Except Failure String
  | .str value => .ok value
  | _ => .error .invalidData

/-- A string, or nothing. -/
def toText? : Json → Except Failure (Option String)
  | .null => .ok none
  | .str value => .ok (some value)
  | _ => .error .invalidData

/-- A list whose items are read in turn. -/
def toList {α : Type} (item : Json → Except Failure α) : Json → Except Failure (List α)
  | .arr items => items.mapM item
  | _ => .error .invalidData

/-- An object whose members are read in turn. -/
def toTable {α : Type} (value : Json → Except Failure α) :
    Json → Except Failure (Table String α)
  | .obj members => do
    let entries ← members.mapM fun (key, member) => do
      return (key, ← value member)
    return Table.ofEntries entries
  | _ => .error .invalidData

/-- An object whose keys are categories and whose members are read in turn. -/
def toCategoryTable {α : Type} (value : Json → Except Failure α) :
    Json → Except Failure (Table Category α)
  | .obj members => do
    let entries ← members.mapM fun (key, member) => do
      match Category.ofLabel? key with
      | some category => return (category, ← value member)
      | none => throw .invalidData
    return Table.ofEntries entries
  | _ => .error .invalidData

/-- An object of any members. -/
def toObject : Json → Except Failure (Table String Json)
  | .obj members => .ok (Table.ofEntries members)
  | _ => .error .invalidData

/-- The words for yes. -/
def yesWords : List String := ["1", "t", "y", "on", "yes", "true"]

/-- The words for no. -/
def noWords : List String := ["0", "f", "n", "no", "off", "false"]

/-- A flag. -/
def toFlag : Json → Except Failure Bool
  | .bool value => .ok value
  | .str value =>
    let word := String.ofList (value.toList.map Char.toLower)
    if word ∈ yesWords then .ok true
    else if word ∈ noWords then .ok false
    else .error .invalidData
  | value =>
    if value.sameValue (.int 0) then .ok false
    else if value.sameValue (.int 1) then .ok true
    else .error .invalidData

/-- The member of an object, read, or a default where there is none. -/
def field {α : Type} (members : Table String Json) (key : String)
    (read : Json → Except Failure α) (default : α) : Except Failure α :=
  match members.get? key with
  | some value => read value
  | none => .ok default

/-- The member that an object must have, read. -/
def required {α : Type} (members : Table String Json) (key : String)
    (read : Json → Except Failure α) : Except Failure α :=
  match members.get? key with
  | some value => read value
  | none => .error .invalidData

end ModuleGraph.Json
