import ModuleGraph.Fact
import ModuleGraph.Syntax.Node
import ModuleGraph.Text.LowerCase
import ModuleGraph.Text.Search
import ModuleGraph.Text.Word

/-!
# Readings

The `Reading` of a part of a module is what the analysis makes of it: facts in order, names whose
meaning was recognised, names left open, and possibly the failure at which reading stopped. Readings
are joined with `++`, and nothing after a failure counts. The names are those in syntax trees; what
plugin files say is a reading without any.

A node that recognises the meaning of a name somewhere below it claims that name. A `Claim` is the
way down to it, and each step of the way is a field, with a position if the field is a list.
-/

namespace ModuleGraph

/-- The way from a node to one of its children. -/
structure Step where
  /-- The field that holds the child. -/
  field : String
  /-- The position of the child, if the field is a list. -/
  index : Option Nat := none
deriving DecidableEq, Repr, Inhabited

/-- The way from a node to a name below it. -/
abbrev Claim := List Step

/-- A file that is read. -/
structure SourceFile where
  /-- The name under which references from the file are recorded. -/
  name : String
  /-- The text of the file. -/
  text : Json
deriving Inhabited

/-- What a part of a module says. -/
structure Reading where
  /-- The facts, in order. -/
  facts : List Fact := []
  /-- The names below that were recognised. -/
  claims : List Claim := []
  /-- The names whose meaning is open, in order. -/
  pending : List Node := []
  /-- Why reading stopped. -/
  failure : Option Failure := none
deriving Inhabited

namespace Reading

/-- One reading after another. -/
def andThen (first second : Reading) : Reading :=
  match first.failure with
  | some _ => first
  | none =>
    { facts := first.facts ++ second.facts
      claims := first.claims ++ second.claims
      pending := first.pending ++ second.pending
      failure := second.failure }

instance : Append Reading := ⟨andThen⟩

/-- Nothing. -/
def nothing : Reading := {}

/-- A single fact. -/
def fact (fact : Fact) : Reading := { facts := [fact] }

/-- A single claim. -/
def claim (claim : Claim) : Reading := { claims := [claim] }

/-- Facts in order. -/
def ofFacts (facts : List Fact) : Reading := { facts }

/-- A failure. -/
def fail (failure : Failure) : Reading := { failure := some failure }

/-- What is read once an outcome is known. Its failure stops reading. -/
def given {α : Type} (outcome : Except Failure α) (read : α → Reading) : Reading :=
  match outcome with
  | .ok value => read value
  | .error failure => fail failure

/-- How a reading ends: with the names left open, or with its failure. -/
def outcome (reading : Reading) : Except Failure (List Node) :=
  match reading.failure with
  | some failure => .error failure
  | none => .ok reading.pending

/-- Readings in order. -/
def join : List Reading → Reading
  | [] => nothing
  | first :: rest => first ++ join rest

/-- What is read from the elements of a value, each given with its position. -/
def each (value : Value) (read : Nat → Value → Reading) : Reading :=
  match value.elements with
  | .ok elements => join (elements.zipIdx.map fun (element, index) => read index element)
  | .error failure => fail failure

/-- The failure at a node whose form is not covered: which part of which construct, and what was
found there. -/
def unsupported (file : SourceFile) (node : Node) (construct found : String) : Reading :=
  match excerpt file.text node with
  | .ok text => fail (.unsupportedShape construct found node.kind file.name text)
  | .error failure => fail failure

/-- A definition by the module. -/
def define (category : Category) (name : String) : Reading :=
  fact (.define category name false)

/-- The note about a reference. -/
def referenceNote (file : SourceFile) (category : Category) (name : String) : Reading :=
  fact (.note ("Adding " ++ category.label ++ " dependency " ++ name ++ " from " ++ file.name))

/-- A reference from the file. -/
def refer (file : SourceFile) (category : Category) (name : String) : Reading :=
  referenceNote file category name ++ fact (.refer category name file.name)

/-- A reference to the name that a value is; only strings are names. -/
def referTo (file : SourceFile) (category : Category) (value : Value) : Reading :=
  match value.string? with
  | some name => refer file category name
  | none => referenceNote file category value.display ++ fail .undefinedOperation

end Reading

/-- The name of a symbol as it is registered: without top scope marker, in lower case. -/
def symbolName (text : String) : String :=
  Text.lower (normalizeName text)

/-- The text of a field, empty where it is absent. -/
def Node.fieldText (node : Node) (name : String) : String :=
  match node.field? name with
  | some value => value.display
  | none => ""

/-- The name that a node defines. -/
def Node.definedName (node : Node) : String :=
  symbolName (node.fieldText "name")

/-- The name that a literal or bare word stands for when it names a symbol. -/
def Node.symbol (node : Node) : String :=
  symbolName node.value.display

/-- The variable name has a namespace: a word character followed by `::`. -/
def isQualified (name : String) : Bool :=
  (Text.search (fun text =>
    match text with
    | c :: ':' :: ':' :: _ => if Text.isWord c then some () else none
    | _ => none) name.toList).isSome

end ModuleGraph
