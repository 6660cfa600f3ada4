import ModuleGraph.Failure
import ModuleGraph.Path
import ModuleGraph.Text.Blank
import ModuleGraph.Text.Order

/-!
# File systems

A `FileSystem` is a tree of directories and files together with a working directory, which may be
gone. Files hold bytes. `readText` decodes a file as UTF-8 with its line endings unified, and fails
on a file that is not; `readLossy` replaces whatever is no character.

A name that is too long cannot be looked up, so even the question whether there is a file can
fail. Of a path that holds the character NUL, or half of a surrogate pair that is no byte of a name,
the answer is no, and any other use fails.

`matching` and `matchingBelow` list what lies below a directory and has a name with a given ending,
in path order. They ask first whether there is a directory, and where it is listed to any depth,
every directory in it is listed in turn, which fails at a path that is too long.

What is nested in a file is read by calls within calls, for which a program has only so much room.
The `Limits` of a file are the depths that this room suffices for when the file is read.

`write` makes the directories on the way of a path one by one as it is written: `a/../b` needs a
directory `a`. Those that were made stay, even if the file cannot be written. A text that has no
bytes leaves an empty file behind.
-/

namespace ModuleGraph

/-- A file with its contents, or a directory with its entries by name. -/
inductive Entry
  | file (bytes : ByteArray)
  | directory (entries : List (String × Entry))

namespace Entry

instance : Inhabited Entry := ⟨.directory []⟩

/-- The entry that components lead to, where `up` holds the directories above, nearest first. In a
directory a name that is too long cannot be looked up. -/
def follow (up : List Entry) : Entry → List String → Except Failure (Option Entry)
  | entry, [] => .ok (some entry)
  | .file _, _ :: _ => .ok none
  | .directory entries, part :: rest =>
    if part = ".." then
      match up with
      | [] => follow [] (.directory entries) rest
      | above :: more => follow more above rest
    else if Path.isLongName part then .error .fileSystem
    else
      match Table.get? entries part with
      | some entry => follow (.directory entries :: up) entry rest
      | none => .ok none

/-- Puts an entry where components lead, making directories on the way. A file in the way, or a
file in place of a directory or the other way round, is refused. -/
def place (new : Entry) : List String → Entry → Option Entry
  | [], .file _ =>
    match new with
    | .file _ => some new
    | .directory _ => none
  | [], .directory entries =>
    match new with
    | .file _ => none
    | .directory _ => some (.directory entries)
  | _ :: _, .file _ => none
  | part :: rest, .directory entries =>
    match Table.get? entries part, rest with
    | none, [] => some (.directory (entries ++ [(part, new)]))
    | none, _ :: _ => (place new rest (.directory [])).map fun entry =>
        .directory (entries ++ [(part, entry)])
    | some old, _ => (place new rest old).map fun entry =>
        .directory (Table.put entries part entry)

/-- Removes what components lead to. -/
def erase : List String → Entry → Option Entry
  | [], _ => none
  | _ :: _, .file _ => none
  | [part], .directory entries =>
    if Table.hasKey entries part then
      some (.directory (entries.filter fun entry => entry.1 != part))
    else none
  | part :: rest, .directory entries =>
    match Table.get? entries part with
    | some old => (erase rest old).map fun entry => .directory (Table.put entries part entry)
    | none => none

mutual
/-- An entry, if it is a directory, and all directories below it, as lists of components. -/
def directories : Entry → List (List String)
  | .file _ => []
  | .directory entries => [] :: entryDirectories entries

/-- The directories among the given entries and below them. -/
def entryDirectories : List (String × Entry) → List (List String)
  | [] => []
  | (name, entry) :: rest => (directories entry).map (name :: ·) ++ entryDirectories rest
end

mutual
/-- Everything below an entry, as lists of components. -/
def descendants : Entry → List (List String)
  | .file _ => []
  | .directory entries => entryDescendants entries

/-- The given entries and everything below them. -/
def entryDescendants : List (String × Entry) → List (List String)
  | [] => []
  | (name, entry) :: rest =>
    [name] :: (descendants entry).map (name :: ·) ++ entryDescendants rest
end

end Entry

/-- How deeply what a file holds may be nested. The depths follow from the number of calls that the
surroundings of a program allow it and from those that are under way when the file is read. The
ones given here are those of a program that is allowed 100000 calls. -/
structure Limits where
  /-- The containers in JSON. -/
  json : Nat := 99985
  /-- The levels of a syntax tree. -/
  tree : Nat := 99990
  /-- The arrays in settings. -/
  settings : Nat := 49990
deriving Inhabited

/-- A tree of files and directories with a working directory, as a program finds it. -/
structure FileSystem where
  /-- The root directory. -/
  root : Entry := .directory []
  /-- The absolute path that relative paths start from, until it is removed. -/
  workingDirectory : Option Path := some ⟨"/", []⟩
  /-- The limits within which the file at a path is read. -/
  limits : Path → Limits := fun _ => {}
deriving Inhabited

namespace FileSystem

/-- A path as seen from the root directory. -/
def rooted? (files : FileSystem) (path : Path) : Option Path :=
  if path.isAbsolute then some path
  else files.workingDirectory.map fun directory => directory.join path

/-- A name or path may be handed to the file system. -/
def check (path : Path) : Except Failure Unit :=
  if !path.isNameable then .error .undefinedOperation
  else if path.hasNul then .error .badValue
  else .ok ()

/-- The absolute path without `..` that a path denotes. The components are checked in turn. -/
def absolute (files : FileSystem) (path : Path) : Except Failure Path := do
  path.parts.forM fun part => check ⟨"", [part]⟩
  match files.rooted? path with
  | some path => return path.normal
  | none => throw .fileSystem

/-- What is found at a path. -/
def lookUp (files : FileSystem) (path : Path) : Except Failure (Option Entry) := do
  check path
  if path.isTooLong then throw .fileSystem
  match files.rooted? path with
  | some path => files.root.follow [] (path.parts.map Text.storedName)
  | none => return none

/-- What is found at a path, if it can be looked up. -/
def entry? (files : FileSystem) (path : Path) : Option Entry :=
  (files.lookUp path).toOption.join

/-- What is found at a path has a property. -/
def hasEntry (files : FileSystem) (path : Path) (property : Entry → Bool) :
    Except Failure Bool :=
  if (check path).isOk then do return (← files.lookUp path).any property else .ok false

/-- There is a file at a path. -/
def isFile (files : FileSystem) (path : Path) : Except Failure Bool :=
  files.hasEntry path fun entry => entry matches .file _

/-- There is a directory at a path. -/
def isDirectory (files : FileSystem) (path : Path) : Except Failure Bool :=
  files.hasEntry path fun entry => entry matches .directory _

/-- There is something at a path. -/
def isPresent (files : FileSystem) (path : Path) : Except Failure Bool :=
  files.hasEntry path fun _ => true

/-- The bytes of a file. -/
def readBytes (files : FileSystem) (path : Path) : Except Failure ByteArray := do
  match ← files.lookUp path with
  | some (.file bytes) => return bytes
  | _ => throw .fileSystem

/-- Bytes as text with unified line endings, if they are UTF-8. -/
def decodeText (bytes : ByteArray) : Except Failure String :=
  match Text.decode? bytes with
  | some text => .ok (String.ofList (Text.unifyNewlines text.toList))
  | none => .error .undefinedOperation

/-- The text of a file. -/
def readText (files : FileSystem) (path : Path) : Except Failure String := do
  decodeText (← files.readBytes path)

/-- The text of a file in which whatever is not UTF-8 is replaced. -/
def readLossy (files : FileSystem) (path : Path) : Except Failure String := do
  let bytes := (← files.readBytes path).toList.map UInt8.toNat
  return String.ofList (Text.unifyNewlines (Text.decodeLossy bytes).toList)

/-- The names in a directory, in order. -/
def listNames (files : FileSystem) (path : Path) : Except Failure (List String) :=
  match files.entry? path with
  | some (.directory entries) => .ok (Text.sortNames (Table.keys entries))
  | _ => .error .fileSystem

/-- The paths directly below a directory, in order. -/
def children (files : FileSystem) (path : Path) : List Path :=
  match files.entry? path with
  | some (.directory entries) =>
    ((Table.keys entries).map path.child).mergeSort Path.precedes
  | _ => []

/-- A name has the given ending. -/
def hasEnding (ending name : String) : Bool :=
  ending.toList.isSuffixOf name.toList

/-- The paths of what is selected from the entry at a path. -/
def select (files : FileSystem) (path : Path) (selection : Entry → List (List String)) :
    List Path :=
  match files.entry? path with
  | some entry => (selection entry).map fun parts => ⟨path.anchor, path.parts ++ parts⟩
  | none => []

/-- The directories directly below a directory, in order; none if it is not there. -/
def subdirectories (files : FileSystem) (path : Path) : Except Failure (List Path) := do
  if ← files.isDirectory path then (files.children path).filterM files.isDirectory else return []

/-- The paths directly below a directory whose name has an ending, in order; none if it is not
there. -/
def matching (files : FileSystem) (path : Path) (ending : String) :
    Except Failure (List Path) := do
  if ← files.isDirectory path then
    return (files.children path).filter fun child => hasEnding ending child.name
  else return []

/-- The paths at any depth below a directory whose name has an ending, in order; none if it is not
there. No directory below it may have a path that is too long. -/
def matchingBelow (files : FileSystem) (path : Path) (ending : String) :
    Except Failure (List Path) := do
  if ← files.isDirectory path then
    if (files.select path Entry.directories).any Path.isTooLong then throw .fileSystem
    let found := (files.select path Entry.descendants).filter fun child =>
      hasEnding ending child.name
    return found.mergeSort Path.precedes
  else return []

/-- Puts an entry at an absolute path, making directories on the way. -/
def place (files : FileSystem) (path : Path) (entry : Entry) : Except Failure FileSystem :=
  match Entry.place entry (path.parts.map Text.storedName) files.root with
  | some root => .ok { files with root }
  | none => .error .fileSystem

/-- A change of a file system, which keeps what was done before a failure. -/
abbrev Change (α : Type) := ExceptT Failure (StateM FileSystem) α

/-- Puts an entry at a path whose directory is there. -/
def put (path : Path) (entry : Entry) : Change Unit := do
  let files ← get
  match files.lookUp path, files.absolute path >>= fun path => files.place path entry with
  | .error failure, _ | _, .error failure => throw failure
  | .ok _, .ok files => set files

/-- Makes directories in turn, unless they are there. -/
def makeEach : List Path → Change Unit
  | [] => return ()
  | path :: rest => do
    put path (.directory [])
    makeEach rest

/-- Makes a directory with all that lie on the way to it. -/
def makeDirectory (path : Path) : Change Unit := do
  check path
  if path.isTooLong then throw .fileSystem
  makeEach path.selfAndParents.reverse

/-- Puts a file at a path, making the directories on the way. -/
def writeBytes (path : Path) (bytes : ByteArray) : Change Unit := do
  makeDirectory path.parent
  put path (.file bytes)

/-- Writes a text to a file, making the directories on the way. -/
def write (path : Path) (text : String) : Change Unit := do
  match Text.encode? text with
  | some bytes => writeBytes path bytes
  | none =>
    writeBytes path .empty
    throw .undefinedOperation

/-- The files whose bytes differ from those in an earlier file system, or that were not in it. -/
def changedSince (files earlier : FileSystem) : List (Path × ByteArray) :=
  files.root.descendants.filterMap fun parts =>
    let path : Path := ⟨"/", parts⟩
    match files.entry? path, earlier.entry? path with
    | some (.file bytes), some (.file old) =>
      if bytes.data == old.data then none else some (path, bytes)
    | some (.file bytes), _ => some (path, bytes)
    | _, _ => none

/-- Removes a file, or a directory with all it holds, at an absolute path. -/
def remove (files : FileSystem) (path : Path) : Except Failure FileSystem :=
  match Entry.erase (path.parts.map Text.storedName) files.root with
  | some root =>
    let workingDirectory := files.workingDirectory.filter fun directory =>
      (Path.dropLeading? path.parts directory.parts).isNone
    .ok { files with root, workingDirectory }
  | none => .error .fileSystem

/-- Removes what there is at some absolute paths. -/
def removeEach (paths : List Path) : Change Unit := do
  for path in paths do
    match (← get).remove path with
    | .ok files => set files
    | .error failure => throw failure

/-- Removes what there is at a path. A directory that the path does not call by its name can only be
emptied. -/
def removeAt (path : Path) : Change Unit := do
  let files ← get
  match files.lookUp path, files.absolute path with
  | .ok (some _), .ok target =>
    if path.name == ".." || path.toText == "." then
      removeEach (files.children target)
      throw .fileSystem
    else removeEach [target]
  | .ok none, _ => throw .fileSystem
  | .error failure, _ | _, .error failure => throw failure

end FileSystem

end ModuleGraph
