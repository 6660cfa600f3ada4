import ModuleGraph.Category
import ModuleGraph.Table

/-!
# Warnings

A `Warning` is a problem that a run can report and that a user can accept beforehand. There are
five kinds. Each has a fixed list of attributes, of which those that hold a category are symbols
and the others strings. `Warning.build?` makes a warning of a kind from named attributes, and
`describe` is its text in one line.
-/

namespace ModuleGraph

/-- The kinds of warnings. -/
inductive WarningKind
  | duplicateDefinition
  | missingDefinition
  | typeError
  | controlDependency
  | missingMetadata
deriving DecidableEq, Repr, Inhabited

namespace WarningKind

/-- Every kind, in the order in which warnings are grouped. -/
def all : List WarningKind :=
  [.duplicateDefinition, .missingDefinition, .typeError, .controlDependency, .missingMetadata]

/-- The word that stands for a kind. -/
def label : WarningKind → String
  | .duplicateDefinition => "duplicate_definition"
  | .missingDefinition => "missing_definition"
  | .typeError => "type_error"
  | .controlDependency => "control_dependency"
  | .missingMetadata => "missing_metadata"

/-- The kind that a word stands for. -/
def ofLabel? (text : String) : Option WarningKind :=
  all.find? fun kind => kind.label == text

/-- The names of a kind's attributes, in order. -/
def attributes : WarningKind → List String
  | .duplicateDefinition | .missingDefinition => ["type", "name", "source"]
  | .typeError => ["name", "error", "source"]
  | .controlDependency | .missingMetadata => ["name"]

/-- The attribute holds a category and is written as a symbol. -/
def isSymbol : WarningKind → String → Bool
  | .duplicateDefinition, name | .missingDefinition, name => name == "type"
  | .typeError, name => name == "name"
  | .controlDependency, _ | .missingMetadata, _ => false

end WarningKind

/-- A warning with its attributes. -/
inductive Warning
  /-- A module defined a symbol that already had an owner. -/
  | duplicateDefinition (type : Category) (name source : String)
  /-- A file refers to a symbol that nothing defines. -/
  | missingDefinition (type : Category) (name source : String)
  /-- A plugin file could not be understood. -/
  | typeError (name : Category) (error source : String)
  /-- An ordinary module depends on a control module. -/
  | controlDependency (name : String)
  /-- A module has no metadata file. -/
  | missingMetadata (name : String)
deriving DecidableEq, Repr, Inhabited

namespace Warning

/-- The kind of a warning. -/
def kind : Warning → WarningKind
  | .duplicateDefinition .. => .duplicateDefinition
  | .missingDefinition .. => .missingDefinition
  | .typeError .. => .typeError
  | .controlDependency .. => .controlDependency
  | .missingMetadata .. => .missingMetadata

/-- The attributes of a warning by name, in the order of its kind. -/
def attributes : Warning → Table String String
  | .duplicateDefinition type name source | .missingDefinition type name source =>
    [("type", type.label), ("name", name), ("source", source)]
  | .typeError name error source => [("name", name.label), ("error", error), ("source", source)]
  | .controlDependency name | .missingMetadata name => [("name", name)]

/-- The warning in one line. -/
def describe (warning : Warning) : String :=
  let pairs := warning.attributes.map fun (name, value) => name ++ "=" ++ value
  warning.kind.label ++ "(" ++ String.intercalate ", " pairs ++ ")"

/-- The warning of a kind with the given attributes, if all are there and the symbols are
categories. -/
def build? (kind : WarningKind) (values : Table String String) : Option Warning := do
  match kind with
  | .duplicateDefinition =>
    return .duplicateDefinition (← (← values.get? "type") |> Category.ofLabel?)
      (← values.get? "name") (← values.get? "source")
  | .missingDefinition =>
    return .missingDefinition (← (← values.get? "type") |> Category.ofLabel?)
      (← values.get? "name") (← values.get? "source")
  | .typeError =>
    return .typeError (← (← values.get? "name") |> Category.ofLabel?)
      (← values.get? "error") (← values.get? "source")
  | .controlDependency => return .controlDependency (← values.get? "name")
  | .missingMetadata => return .missingMetadata (← values.get? "name")

end Warning

end ModuleGraph
