import ModuleGraph.Reading.Construct

/-!
# Reading a whole tree

`Node.reading` joins what the nodes of a tree say, each before its children and the children in
order. A claim made by a node is handed down step by step until it reaches the name it is about.

`readSource` records the facts of a file and surfaces a message for each name left open.
-/

namespace ModuleGraph

/-- The claims that lead through a child, seen from there. -/
def claimsBelow (step : Step) (claims : List Claim) : List Claim :=
  claims.filterMap fun claim =>
    match claim with
    | first :: rest => if first = step then some rest else none
    | [] => none

mutual
/-- What a tree says, given the ancestors of its root, nearest first, and the claims on it. -/
def Node.reading (file : SourceFile) (ancestors : List Node) (claims : List Claim) :
    Node → Reading
  | .mk kind fields offset length =>
    let node := Node.mk kind fields offset length
    let own := node.ownReading file ancestors (claims.contains [])
    own ++ fieldsReading file (node :: ancestors) (claims ++ own.claims) fields

/-- What the children in some fields say. -/
def fieldsReading (file : SourceFile) (ancestors : List Node) (claims : List Claim) :
    List (String × Value) → Reading
  | [] => Reading.nothing
  | (name, value) :: rest =>
    fieldReading file ancestors claims name value ++ fieldsReading file ancestors claims rest

/-- What the children in one field say. -/
def fieldReading (file : SourceFile) (ancestors : List Node) (claims : List Claim)
    (name : String) : Value → Reading
  | .scalar _ => Reading.nothing
  | .node child => child.reading file ancestors (claimsBelow ⟨name, none⟩ claims)
  | .list items => itemsReading file ancestors claims name 0 items

/-- What the children in a list say, counted from the given position. -/
def itemsReading (file : SourceFile) (ancestors : List Node) (claims : List Claim)
    (name : String) (index : Nat) : List Value → Reading
  | [] => Reading.nothing
  | .node child :: rest =>
    child.reading file ancestors (claimsBelow ⟨name, some index⟩ claims) ++
      itemsReading file ancestors claims name (index + 1) rest
  | _ :: rest => itemsReading file ancestors claims name (index + 1) rest
end

/-- The message about a name whose meaning is open. -/
def unresolvedMessage (file : SourceFile) (name : Node) : String :=
  let label := if name.isKind "LiteralString" then "literal string" else "qualified name"
  "Unresolved " ++ label ++ " in " ++ file.name ++ ": '" ++ name.value.display ++ "'"

/-- Records what the tree of a file says about the module of the given name, and returns the names
left open. -/
def readSource (owner : String) (file : SourceFile) (root : Node) (state : Context × Dependencies) :
    Except Failure (List Node) × (Context × Dependencies) :=
  let reading := root.reading file [] []
  let state := Fact.recordAll owner state (.note ("Parsing " ++ file.name) :: reading.facts)
  match reading.failure with
  | some failure => (.error failure, state)
  | none =>
    let warnings := reading.pending.map fun name => Fact.warn (unresolvedMessage file name)
    (.ok reading.pending, Fact.recordAll owner state warnings)

end ModuleGraph
