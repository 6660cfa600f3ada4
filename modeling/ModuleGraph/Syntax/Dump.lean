import ModuleGraph.FileSystem
import ModuleGraph.Json.Reader
import ModuleGraph.Syntax.Decode

/-!
# Syntax dumps

The syntax tree of a source file is kept beside it, in a JSON file whose name is that of the
source file with a suffix. `loadTree` reads it. The dump holds the tree and the text of the
source, from which excerpts are cut.
-/

namespace ModuleGraph

/-- A source file with its syntax tree. -/
structure SourceTree where
  /-- The text of the source file, as the dump gives it. -/
  source : Json
  /-- The root of the tree. -/
  root : Node
deriving Inhabited

/-- The suffix of dumps unless another one is chosen. -/
def defaultSuffix : String := ".json"

/-- The string or list has the word `tree` in it. -/
def mentionsTree : Json → Except Failure Bool
  | .str text => .ok (Text.hasInfix "tree".toList text.toList)
  | .arr items => .ok (items.any fun item => item.sameValue (.str "tree"))
  | .obj members => .ok (Table.hasKey members "tree")
  | _ => .error .undefinedOperation

/-- The source and tree that a dump describes, where the tree may have a number of levels; the name
of the dump appears in failures. -/
def SourceTree.ofJson (levels : Nat) (dump : String) (content : Json) :
    Except Failure SourceTree := do
  if ← mentionsTree content then
    match content with
    | .obj members =>
      let root ← Node.ofJson levels ((Table.get? members "tree").getD .null)
      return { source := (Table.get? members "source").getD (.str ""), root }
    | _ => throw .undefinedOperation
  else throw (.dumpWithoutTree dump)

/-- Reads the dump of a source file. -/
def loadTree (files : FileSystem) (suffix : String) (source : Path) :
    Except Failure SourceTree := do
  match source.withName? (source.name ++ suffix) with
  | none => throw .badValue
  | some dump =>
    if ← files.isFile dump then
      let text ← files.readText dump
      let limits := files.limits dump
      match Json.parse limits.json text.toList with
      | .ok content => SourceTree.ofJson limits.tree dump.toText content
      | .error fault => throw (fault.toFailure (.dumpCorrupt dump.toText))
    else throw (.dumpMissing source.toText dump.toText)

end ModuleGraph
