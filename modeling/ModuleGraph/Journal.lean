import ModuleGraph.Text.Width

/-!
# The journal of a run

A run keeps a journal of records, each with a level. `threshold` is the least level that the
verbosity options let through, and `Record.rendered` lays a record out for the error channel. There
control codes that would move the cursor are left out, and a tab leads to the next of the columns
that are eight apart.
-/

namespace ModuleGraph

/-- How important a record is. -/
inductive Level
  | debug
  | info
  | success
  | warning
  | error
deriving DecidableEq, Repr, Inhabited

namespace Level

/-- The rank of a level; a higher one is more important. -/
def rank : Level → Nat
  | .debug => 10
  | .info => 20
  | .success => 25
  | .warning => 30
  | .error => 40

/-- The name of a level. -/
def label : Level → String
  | .debug => "DEBUG"
  | .info => "INFO"
  | .success => "SUCCESS"
  | .warning => "WARNING"
  | .error => "ERROR"

/-- The least level let through: errors only when quiet, warnings by default, progress with one
degree of verbosity and everything with two. -/
def threshold (verbose : Int) (quiet : Bool) : Level :=
  if quiet then .error
  else if 2 ≤ verbose then .debug
  else if verbose == 1 then .info
  else .warning

end Level

/-- A record of the journal. -/
structure Record where
  /-- How important it is. -/
  level : Level
  /-- What it says. -/
  message : String
deriving DecidableEq, Repr, Inhabited

namespace Record

/-- The record has at least the given level. -/
def passes (least : Level) (record : Record) : Bool :=
  least.rank ≤ record.level.rank

/-- Removes the blanks at the end of a line. -/
def trimLine (line : List Char) : String :=
  String.ofList (line.reverse.dropWhile (· == ' ')).reverse

/-- A control code that would ring the bell or move the cursor back, up or down. -/
def isCursorControl (c : Char) : Bool :=
  c == '\x07' || c == '\x08' || c == '\x0b' || c == '\x0c' || c == '\r'

/-- The distance of the columns that tabs lead to. -/
def tabSize : Nat := 8

/-- The parts of a line between its tabs, put together from a column on. A part is followed by a
blank, with which it is measured, and by further ones up to the next column that tabs lead to. -/
def expandTabs (column : Nat) : List (List Char) → List Char
  | [] => []
  | [part] => part
  | part :: rest =>
    let part := part ++ [' ']
    let reached := column + Text.columns part
    let blanks := (tabSize - reached % tabSize) % tabSize
    part ++ List.replicate blanks ' ' ++ expandTabs (reached + blanks) rest

/-- The lines of a message. -/
def messageLines (message : String) : List (List Char) :=
  ((message.toList.filter (!isCursorControl ·)).splitOn '\n').map fun line =>
    expandTabs 0 (line.splitOn '\t')

/-- The lines of a record: the level in a column of eight, then the message, whose further lines
are indented to the same column. -/
def rendered (record : Record) : List String :=
  let label := record.level.label.toList
  let head := label ++ List.replicate (8 - label.length) ' ' ++ [' ']
  match messageLines record.message with
  | [] => [trimLine head]
  | first :: rest =>
    trimLine (head ++ first) :: rest.map fun line => trimLine (List.replicate 9 ' ' ++ line)

end Record

end ModuleGraph
