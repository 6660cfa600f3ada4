import ModuleGraph.FileSystem

/-!
# Environment settings

A control repository may have a file `environment.conf` with one setting a line, in which `#`
starts a comment. `modulepath` reads the directories in the first setting of that name, separated
by colons. Entries that start with `$` refer to other settings and are left out.
-/

namespace ModuleGraph.Environment

/-- A line without its comment and the blanks around it. -/
def settingText (line : List Char) : List Char :=
  Text.stripChars (line.takeWhile (· != '#'))

/-- The name and the value of the setting in a line. -/
def setting? (line : List Char) : Option (List Char × List Char) :=
  let text := settingText line
  match text.dropWhile (· != '=') with
  | _ :: value => some (Text.stripChars (text.takeWhile (· != '=')), Text.stripChars value)
  | [] => none

/-- The entry names a directory. -/
def isDirectoryEntry (entry : List Char) : Bool :=
  match entry with
  | [] => false
  | c :: _ => c != '$'

/-- The directories in the value of a setting. -/
def entries (value : List Char) : List (List Char) :=
  ((value.splitOn ':').map Text.stripChars).filter isDirectoryEntry

/-- The directories in the first `modulepath` setting of some lines. -/
def modulepathIn : List (List Char) → List (List Char)
  | [] => []
  | line :: rest =>
    match setting? line with
    | some (name, value) =>
      if name = "modulepath".toList then entries value else modulepathIn rest
    | none => modulepathIn rest

/-- The directories that the text of an `environment.conf` names. -/
def modulepath (text : String) : List String :=
  (modulepathIn (Text.lines text.toList)).map String.ofList

/-- The directories that an `environment.conf` names, as they are written. -/
def readModulepath (files : FileSystem) (conf : Path) : Except Failure (List String) := do
  return modulepath (← files.readText conf)

/-- The directories that the `environment.conf` of a control repository names, as seen from
there. -/
def modulepathOf (files : FileSystem) (control : Path) : Except Failure (List Path) := do
  let conf := control.child "environment.conf"
  if ← files.isFile conf then
    (← readModulepath files conf).mapM fun entry => files.absolute (control.join (.ofText entry))
  else return []

end ModuleGraph.Environment
