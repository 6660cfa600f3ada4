import ModuleGraph.FileSystem
import ModuleGraph.Plugin.Parent
import ModuleGraph.Reading.Basic

/-!
# The plugin files of a module

Plugins lie below `lib/puppet` of a module, and the directory of a plugin file says what it
defines:

* `parser/functions`: functions of the older kind,
* `functions`: functions, whose directories are their namespaces,
* `datatypes`: data types,
* `type`: resource types,
* `provider`: base classes of providers,
* `provider/<type>`: providers of a resource type.

`pluginFacts` reads all plugin files in this order of directories. Reading stops where a path is too
long for the file system: that of one of these directories, of an entry of `provider`, or of a
directory at any depth below `functions` or `datatypes`. What was read before counts.
-/

namespace ModuleGraph.Plugin

/-- The module whose plugins are read. -/
structure Location where
  /-- The directory of the module. -/
  module : Path
  /-- The directory from which the names of files are given, if they lie below it. -/
  relativeTo : Option Path

namespace Location

/-- The directory of the plugins. -/
def root (location : Location) : Path :=
  (location.module.child "lib").child "puppet"

/-- A directory below that of the plugins. -/
def directory (location : Location) (parts : List String) : Path :=
  parts.foldl Path.child location.root

/-- The name under which a file is recorded. -/
def sourceName (location : Location) (path : Path) : String :=
  match location.relativeTo.bind path.relativeTo? with
  | some relative => relative.toText
  | none => path.toText

end Location

/-- The ending of the names of plugin files. -/
def ending : String := ".rb"

/-- A definition in a file. -/
def defined (category : Category) (name : String) (path : Path) : List Fact :=
  [.note ("Found " ++ category.label ++ " " ++ name ++ " in " ++ path.toText),
    .define category name false]

/-- Why what was found at a path cannot be read: it cannot be looked up, or it is a directory. -/
def reason (path : Path) : String :=
  if path.isTooLong || path.parts.any Path.isLongName then "[Errno 36] File name too long: "
  else "[Errno 21] Is a directory: "

/-- The facts of a file that is read as text. One that cannot be read is surfaced. -/
def ofText (files : FileSystem) (path : Path) (facts : String → List Fact) : List Fact :=
  match files.readLossy path with
  | .ok text => facts text
  | .error _ =>
    [.warn ("Failed to load " ++ path.toText ++ ": " ++ reason path ++ Text.quoted path.toText)]

/-- A file that could not be understood. -/
def typeError (location : Location) (category : Category) (error : String) (path : Path) :
    Fact :=
  .report (.typeError category error (location.sourceName path))
    ("Found " ++ category.label ++ " error " ++ error)

/-- The name that a file must declare, from its place below a directory. -/
def expectedName (base path : Path) : String :=
  match path.relativeTo? base with
  | some relative => String.intercalate "::" relative.withoutSuffix.parts
  | none => ""

/-- Functions of the older kind are named by their call, or after their file. -/
def legacyFunctionFacts (files : FileSystem) (path : Path) : List Fact :=
  ofText files path fun text =>
    defined .legacyFunction ((legacyFunction? text).getD path.stem) path

/-- A function must be declared under the name that its file has. -/
def functionFacts (location : Location) (files : FileSystem) (base path : Path) : List Fact :=
  let expected := expectedName base path
  ofText files path fun text =>
    match function? text with
    | none => [typeError location .function (expected ++ ": no create_function call found") path]
    | some name =>
      if name = expected then defined .function name path
      else
        [typeError location .function
          (expected ++ ": declared name '" ++ name ++ "' does not match file path") path]

/-- A data type is named by its declaration. -/
def dataTypeFacts (location : Location) (files : FileSystem) (base path : Path) : List Fact :=
  ofText files path fun text =>
    match dataType? text with
    | none =>
      [typeError location .dataType
        (expectedName base path ++ ": no create_type call found") path]
    | some name => defined .dataType (Text.lower name) path

/-- A resource type is named by its declaration. -/
def resourceTypeFacts (files : FileSystem) (path : Path) : List Fact :=
  ofText files path fun text =>
    match resourceType? text with
    | none =>
      [.warn ("Failed to find type " ++ path.stem ++ " after loading file " ++ path.toText)]
    | some name => defined .resourceType name path

/-- A provider is named after its file. It refers to its resource type and to its parents. -/
def providerFacts (location : Location) (files : FileSystem) (type : String) (path : Path) :
    List Fact :=
  ofText files path fun text =>
    match provider? text with
    | none =>
      [.warn ("Failed to find provider " ++ path.stem ++ " for type " ++ type ++
        " after loading file " ++ path.toText)]
    | some _ =>
      let source := location.sourceName path
      let name := type ++ "/" ++ path.stem
      defined .provider name path ++ .refer .resourceType type source ::
        (parentReferences text).flatMap fun (category, parent) =>
          [.note ("Provider " ++ name ++ " derives from " ++ category.label ++ " " ++ parent),
            .refer category parent source]

/-- What the files directly in a directory say. -/
def inDirectory (files : FileSystem) (base : Path) (facts : Path → List Fact) : Reading :=
  .given (files.matching base ending) fun paths => .ofFacts (paths.flatMap facts)

/-- What the files at any depth below a directory say. -/
def belowDirectory (files : FileSystem) (base : Path) (facts : Path → List Fact) : Reading :=
  .given (files.matchingBelow base ending) fun paths => .ofFacts (paths.flatMap facts)

/-- What the files in the directories directly below a directory say. -/
def inSubdirectories (files : FileSystem) (base : Path) (facts : Path → Path → List Fact) :
    Reading :=
  .given (files.subdirectories base) fun directories =>
    .join (directories.map fun directory => inDirectory files directory (facts directory))

/-- What all plugin files of a module say. -/
def pluginFacts (files : FileSystem) (location : Location) : Reading :=
  .given (files.isDirectory location.root) fun present =>
    if present then
      let functions := location.directory ["functions"]
      let dataTypes := location.directory ["datatypes"]
      let providers := location.directory ["provider"]
      .join [
        inDirectory files (location.directory ["parser", "functions"]) (legacyFunctionFacts files),
        belowDirectory files functions (functionFacts location files functions),
        belowDirectory files dataTypes (dataTypeFacts location files dataTypes),
        inDirectory files (location.directory ["type"]) (resourceTypeFacts files),
        inDirectory files providers fun path => defined .provider path.stem path,
        inSubdirectories files providers fun type => providerFacts location files type.name]
    else .nothing

end ModuleGraph.Plugin
