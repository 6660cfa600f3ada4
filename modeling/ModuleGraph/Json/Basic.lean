import ModuleGraph.Binary64
import ModuleGraph.Table

/-!
# JSON values

`Json` is a value of the data format. Integers are unbounded and kept apart from floating-point
numbers, and the members of an object keep their order. `isTruthy` says which values count as
present, and `sameValue` compares values, a boolean counting as 0 or 1 and numbers by their size;
the number that is not one is only the same as itself.
-/

namespace ModuleGraph

/-- A JSON value. -/
inductive Json
  | null
  | bool (value : Bool)
  | int (value : Int)
  | float (value : Binary64)
  | str (value : String)
  | arr (items : List Json)
  | obj (members : List (String × Json))
deriving Inhabited

namespace Json

/-- The member of an object. -/
def member? : Json → String → Option Json
  | .obj members, key => Table.get? members key
  | _, _ => none

/-- Everything but null, false, zero and what is empty. -/
def isTruthy : Json → Bool
  | .null => false
  | .bool value => value
  | .int value => value != 0
  | .float value => !value.isZero
  | .str value => value != ""
  | .arr items => !items.isEmpty
  | .obj members => !members.isEmpty

/-- The word for the type of a value in messages. -/
def typeName : Json → String
  | .null => "NoneType"
  | .bool _ => "bool"
  | .int _ => "int"
  | .float _ => "float"
  | .str _ => "str"
  | .arr _ => "list"
  | .obj _ => "dict"

/-- The size of a finite number as a fraction; booleans count as 0 and 1. -/
def fraction? : Json → Option (Int × Nat)
  | .bool value => some (if value then 1 else 0, 1)
  | .int value => some (value, 1)
  | .float (.finite negative mantissa exponent) =>
    let (n, d) := Binary64.scaled mantissa 1 2 (-exponent)
    some (if negative then -(n : Int) else n, d)
  | _ => none

mutual
/-- The two values are equal: numbers by size, objects whatever the order of their members. -/
def sameValue : Json → Json → Bool
  | .null, .null => true
  | .str a, .str b => a == b
  | .arr as, .arr bs => sameItems as bs
  | .obj as, .obj bs => as.length == bs.length && sameMembers as bs
  | .float .nan, .float .nan => true
  | .float (.infinite a), .float (.infinite b) => a == b
  | a, b =>
    match a.fraction?, b.fraction? with
    | some (m, d), some (n, e) => m * e == n * d
    | _, _ => false

/-- Two lists of equal values. -/
def sameItems : List Json → List Json → Bool
  | [], [] => true
  | a :: as, b :: bs => sameValue a b && sameItems as bs
  | _, _ => false

/-- Every member has an equal one in the other object. -/
def sameMembers : List (String × Json) → List (String × Json) → Bool
  | [], _ => true
  | (key, a) :: as, bs =>
    (match Table.get? bs key with
      | some b => sameValue a b
      | none => false) && sameMembers as bs
end

end Json

end ModuleGraph
