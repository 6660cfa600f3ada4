import ModuleGraph.Json.Decode
import ModuleGraph.Module.Name
import ModuleGraph.Path

/-!
# Modules and their references

A `Module` is a directory of code that was analysed: its name, its place, what its metadata say,
and the references found in it. A `Dependency` is a symbol that the module refers to with the
files that do so. A file that is there is not added again; a restored module keeps the files as they
were given. References come in groups by category; the categories that can be referred to come
first, and others only appear in restored modules.

`Module.toRecord` and `Module.ofRecord` convert between a module and the record of it that a
snapshot keeps.
-/

namespace ModuleGraph

/-- A symbol that a module refers to. -/
structure Dependency where
  /-- The category of the reference. -/
  category : Category
  /-- The name that is referred to. -/
  name : String
  /-- The files that refer to it. -/
  sources : List String
deriving DecidableEq, Repr, Inhabited

/-- The references of a module, in the order in which their names were met. -/
abbrev Dependencies := List Dependency

namespace Dependencies

/-- The names of variables below this are provided by the compiler. -/
def reservedNamespace : String := "settings::"

/-- The categories of the groups, in order. -/
def categories (table : Dependencies) : List Category :=
  Category.referable ++
    ((table.map (·.category)).filter fun category => category ∉ Category.referable).eraseDups

/-- The references of one category. -/
def ofCategory (table : Dependencies) (category : Category) : Dependencies :=
  table.filter fun entry => entry.category = category

/-- The references group by group. -/
def items (table : Dependencies) : List Dependency :=
  (categories table).flatMap (ofCategory table)

/-- Adds a file to the sources of a reference. -/
def insert (category : Category) (name source : String) : Dependencies → Dependencies
  | [] => [⟨category, name, [source]⟩]
  | entry :: rest =>
    if entry.category = category ∧ entry.name = name then
      (if source ∈ entry.sources then entry
        else { entry with sources := entry.sources ++ [source] }) :: rest
    else entry :: insert category name source rest

/-- Adds a reference, unless it is to a variable that the compiler provides. -/
def add (table : Dependencies) (category : Category) (name source : String) : Dependencies :=
  let name :=
    match name.toList with
    | ':' :: ':' :: rest => String.ofList rest
    | _ => name
  if category = .classVariable ∧ reservedNamespace.toList.isPrefixOf name.toList then table
  else insert category name source table

/-- Adds a reference to a table that takes its category. -/
def add? (table : Dependencies) (category : Category) (name source : String) :
    Except Failure Dependencies :=
  if category ∈ categories table then .ok (table.add category name source)
  else .error .badValue

end Dependencies

/-- What the metadata file of a module says. -/
structure Metadata where
  /-- The full name of the module. -/
  name : Option String := none
  /-- The version of the module. -/
  version : String := "0.0.1"
  /-- The author of the module. -/
  author : Option String := none
deriving DecidableEq, Repr, Inhabited

namespace Metadata

/-- What is assumed of a module without a metadata file. -/
def absent : Metadata where
  author := some "unknown"

/-- Reads the contents of a metadata file. All keys are kept in it, so they are made of
characters. -/
def ofJson (value : Json) : Except Failure Metadata := do
  let members ← value.toTable .ok
  if members.any fun member => Text.hasHalf member.1 then throw .invalidData
  let name ← Json.field members "name" Json.toText? none
  let version ← Json.field members "version" Json.toText absent.version
  let author ← Json.field members "author" Json.toText? none
  let _ ← Json.field members "dependencies" (Json.toList (Json.toTable .ok)) []
  return { name, version, author }

/-- The author of a module: the one in its full name, else the one in the name of its directory,
else the one that the metadata name. -/
def authorAt (metadata : Metadata) (directory : String) : Option String :=
  match metadata.name.bind ModuleName.splitAuthor? with
  | some (author, _) => some author
  | none =>
    match ModuleName.splitAuthor? directory with
    | some (author, _) => some author
    | none => metadata.author

end Metadata

/-- A module that was analysed. -/
structure Module where
  /-- The name that other modules know it by. -/
  name : String
  /-- Its directory. -/
  path : Path
  /-- It is a control repository. -/
  controlRepo : Bool := false
  /-- What its metadata say. -/
  metadata : Metadata := .absent
  /-- What it refers to. -/
  dependencies : Dependencies := []
deriving Inhabited

/-- A module as a snapshot keeps it. -/
structure ModuleRecord where
  /-- The name of the module. -/
  name : String
  /-- The written form of its directory. -/
  path : String
  /-- It is a control repository. -/
  controlRepo : Bool := false
  /-- Its version. -/
  version : Option String := none
  /-- Its author. -/
  author : Option String := none
  /-- What it refers to, by category and name. -/
  dependencies : Table Category (Table String (List String)) := []
deriving DecidableEq, Repr, Inhabited

namespace Module

/-- The author of a module. -/
def author (module : Module) : Option String :=
  module.metadata.authorAt module.path.name

/-- A module in a message. -/
def display (module : Module) : String :=
  module.author.getD "None" ++ "-" ++ module.name ++ " (" ++ module.path.toText ++ ")"

/-- The name and the directory of a module, as a listing of values shows them. -/
def signature (name : String) (path : Path) : String :=
  "Module(" ++ Text.quoted name ++ ", " ++ Text.quoted path.toText ++ ")"

/-- The record of a module. -/
def toRecord (module : Module) : ModuleRecord where
  name := module.name
  path := module.path.toText
  controlRepo := module.controlRepo
  version := some module.metadata.version
  author := module.author
  dependencies := module.dependencies.categories.map fun category =>
    (category, (module.dependencies.ofCategory category).map fun entry =>
      (entry.name, entry.sources))

/-- The module that a record describes. -/
def ofRecord (record : ModuleRecord) : Module where
  name := record.name
  path := Path.ofText record.path
  controlRepo := record.controlRepo
  metadata :=
    { version := match record.version with
        | some version => if version == "" then Metadata.absent.version else version
        | none => Metadata.absent.version
      author := record.author }
  dependencies := record.dependencies.flatMap fun (category, table) =>
    table.map fun (name, sources) => ⟨category, name, sources⟩

end Module

namespace ModuleRecord

/-- A text that may be missing. -/
def optionalText : Option String → Json
  | some text => .str text
  | none => .null

/-- A record as JSON. -/
def toJson (record : ModuleRecord) : Json :=
  .obj [
    ("name", .str record.name),
    ("path", .str record.path),
    ("control_repo", .bool record.controlRepo),
    ("version", optionalText record.version),
    ("author", optionalText record.author),
    ("dependencies", .obj (record.dependencies.map fun (category, table) =>
      (category.label, .obj (table.map fun (name, sources) =>
        (name, .arr (sources.map .str))))))]

/-- Reads a record. -/
def ofJson (value : Json) : Except Failure ModuleRecord := do
  let members ← value.toObject
  let sources := Json.toList Json.toText
  return {
    name := ← Json.required members "name" Json.toText
    path := ← Json.required members "path" Json.toText
    controlRepo := ← Json.field members "control_repo" Json.toFlag false
    version := ← Json.field members "version" Json.toText? none
    author := ← Json.field members "author" Json.toText? none
    dependencies := ← Json.field members "dependencies"
      (Json.toCategoryTable (Json.toTable sources)) [] }

end ModuleRecord

end ModuleGraph
