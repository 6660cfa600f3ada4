import ModuleGraph.Json.Basic
import ModuleGraph.Text.CodePoint

/-!
# Bounds on JSON values

Some documents are read within narrower bounds than the format has: every string is made of
characters, and containers that hold something are not nested too deeply. `isBounded` says that a
value keeps to these bounds.
-/

namespace ModuleGraph.Json

/-- How deeply containers that hold something may be nested in a bounded document. The reader of
such documents sets this bound itself, whatever room a program has. -/
def depthLimit : Nat := 200

mutual
/-- The value keeps to the bounds, and its containers are nested to at most a depth. -/
def isBoundedTo (depth : Nat) : Json → Bool
  | .str text => !Text.hasHalf text
  | .arr [] | .obj [] => true
  | .arr (item :: items) =>
    match depth with
    | 0 => false
    | depth + 1 => isBoundedTo depth item && areItemsBoundedTo depth items
  | .obj ((key, value) :: members) =>
    match depth with
    | 0 => false
    | depth + 1 =>
      !Text.hasHalf key && isBoundedTo depth value && areMembersBoundedTo depth members
  | _ => true

/-- All items keep to the bounds. -/
def areItemsBoundedTo (depth : Nat) : List Json → Bool
  | [] => true
  | item :: rest => isBoundedTo depth item && areItemsBoundedTo depth rest

/-- All members keep to the bounds. -/
def areMembersBoundedTo (depth : Nat) : List (String × Json) → Bool
  | [] => true
  | (key, value) :: rest =>
    !Text.hasHalf key && isBoundedTo depth value && areMembersBoundedTo depth rest
end

/-- The value keeps to the bounds. -/
def isBounded (value : Json) : Bool :=
  value.isBoundedTo depthLimit

end ModuleGraph.Json
