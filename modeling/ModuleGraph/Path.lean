import ModuleGraph.Text.Order
import ModuleGraph.Text.Utf8

/-!
# Paths

A `Path` is an anchor, empty for a relative path, and a list of components. Components that are
empty or `.` are dropped when a path is read; `..` is kept.

`normal` carries out every `..` of an absolute path. `relativeTo?` removes a leading path, and
`between` gives the way from one absolute path to another, through `..` where it has to.

A file system puts bounds on paths: `hasNul` and `isNameable` tell the paths that it takes for no
path at all, and `isTooLong` and `isLongName` those that it refuses to look up.
-/

namespace ModuleGraph

/-- A location in the file system. -/
structure Path where
  /-- The anchor of an absolute path, or nothing. -/
  anchor : String
  /-- The components. -/
  parts : List String
deriving DecidableEq, Repr, Inhabited

namespace Path

/-- Reads a path. Two slashes at the front, and no more, are an anchor of their own. -/
def ofText (text : String) : Path :=
  let anchor :=
    match text.toList with
    | '/' :: '/' :: '/' :: _ => "/"
    | '/' :: '/' :: _ => "//"
    | '/' :: _ => "/"
    | _ => ""
  let parts := (text.toList.splitOn '/').map String.ofList
  ⟨anchor, parts.filter fun part => part != "" && part != "."⟩

/-- The written form of a path. -/
def toText (path : Path) : String :=
  if path.anchor == "" && path.parts.isEmpty then "."
  else path.anchor ++ String.intercalate "/" path.parts

/-- The path starts at the root. -/
def isAbsolute (path : Path) : Bool :=
  path.anchor != ""

/-- A path as seen from another one. -/
def join (base path : Path) : Path :=
  if path.isAbsolute then path else ⟨base.anchor, base.parts ++ path.parts⟩

/-- A component below a path. -/
def child (base : Path) (part : String) : Path :=
  ⟨base.anchor, base.parts ++ [part]⟩

/-- The last component. -/
def name (path : Path) : String :=
  path.parts.getLast?.getD ""

/-- The path without its last component. -/
def parent (path : Path) : Path :=
  ⟨path.anchor, path.parts.dropLast⟩

/-- A list and all lists left by removing items from its front. -/
def remainders : List String → List (List String)
  | [] => [[]]
  | part :: rest => (part :: rest) :: remainders rest

/-- The path itself and all paths above it, from the inside out. -/
def selfAndParents (path : Path) : List Path :=
  (remainders path.parts.reverse).map fun parts => ⟨path.anchor, parts.reverse⟩

/-- A name without its extension. A point at the start or the end of a name begins none. -/
def stemOf (name : String) : String :=
  let afterPoint := name.toList.reverse.takeWhile (· != '.')
  match name.toList.reverse.dropWhile (· != '.') with
  | '.' :: stem =>
    if stem.isEmpty || afterPoint.isEmpty then name else String.ofList stem.reverse
  | _ => name

/-- The last component without its extension. -/
def stem (path : Path) : String :=
  stemOf path.name

/-- A text that reads as one component and does not end in a slash. -/
def isSingleName (name : String) : Bool :=
  let read := ofText name
  !read.isAbsolute && read.parts.length == 1 && name.toList.getLast? != some '/'

/-- The path with another last component, which must read as one and is kept as it is written. -/
def withName? (path : Path) (name : String) : Option Path :=
  if path.parts.isEmpty || !isSingleName name then none
  else some ⟨path.anchor, path.parts.dropLast ++ [name]⟩

/-- The path with the extension of its last component removed. -/
def withoutSuffix (path : Path) : Path :=
  if path.parts.isEmpty then path else ⟨path.anchor, path.parts.dropLast ++ [path.stem]⟩

/-- What remains of a list after removing another one from its front. -/
def dropLeading? : List String → List String → Option (List String)
  | [], parts => some parts
  | lead :: leads, part :: parts => if lead = part then dropLeading? leads parts else none
  | _ :: _, [] => none

/-- A path below another one, seen from there. -/
def relativeTo? (path base : Path) : Option Path :=
  if path.anchor = base.anchor then
    (dropLeading? base.parts path.parts).map fun parts => ⟨"", parts⟩
  else none

/-- Components with every `..` carried out; at the root it has no effect. -/
def collapse (done : List String) : List String → List String
  | [] => done.reverse
  | part :: rest => if part = ".." then collapse done.tail rest else collapse (part :: done) rest

/-- An absolute path with every `..` carried out. It starts at the one root. -/
def normal (path : Path) : Path :=
  ⟨"/", collapse [] path.parts⟩

/-- The path holds the character NUL, which no path can. -/
def hasNul (path : Path) : Bool :=
  path.parts.any fun part => part.toList.contains '\x00'

/-- Every component can be the name of a file. -/
def isNameable (path : Path) : Bool :=
  path.parts.all Text.isFileName

/-- A name of more bytes than a file system takes. A slash and what is written behind it is not part
of the name. -/
def isLongName (name : String) : Bool :=
  255 < Text.nameSize (String.ofList (name.toList.takeWhile (· != '/')))

/-- The written form has more bytes than a file system takes. -/
def isTooLong (path : Path) : Bool :=
  4095 < Text.nameSize path.toText

/-- Removes the components that two lists have in common at the front. -/
def dropCommon : List String → List String → List String × List String
  | a :: as, b :: bs => if a = b then dropCommon as bs else (a :: as, b :: bs)
  | as, bs => (as, bs)

/-- The way from one absolute path to another. -/
def between (start path : Path) : Path :=
  let (up, down) := dropCommon start.parts path.parts
  ⟨"", up.map (fun _ => "..") ++ down⟩

/-- The order of lists of components: the first difference decides, and a list that ends there
comes first. -/
def partsPrecede : List String → List String → Bool
  | [], _ => true
  | _ :: _, [] => false
  | a :: as, b :: bs => if a = b then partsPrecede as bs else Text.atMost a b

/-- The order of paths: component by component. -/
def precedes (a b : Path) : Bool :=
  partsPrecede a.parts b.parts

end Path

end ModuleGraph
