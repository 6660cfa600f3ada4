import ModuleGraph.Json.Elements
import ModuleGraph.Json.Order
import ModuleGraph.Json.Printer
import ModuleGraph.Json.Reader

/-!
# Labels

Modules, files and messages are called by texts. A step of a session may give any other value in
the place of such a text, and shows it again as it was given. A label is a text that carries either:
a text is its own label, and the label of another value is its JSON between two marks that no text
holds by themselves.

`Label.ofJson` makes labels and `Label.toJson` reads them. Where labels were built into a longer
text, `Label.shown` puts the values into it as messages show them.

Labels are the same if their values are. The operations on lists and tables of labels keep the label
that was there first.
-/

namespace ModuleGraph.Label

/-- The label of a value. -/
def ofJson : Json → String
  | .str text => text
  | value => String.ofList (Text.openingMark :: value.render.toList ++ [Text.closingMark])

/-- The characters up to a closing mark, and those behind it. A mark that is part of a text does
not count. -/
def untilClosed : List Char → List Char × List Char
  | [] => ([], [])
  | [c] => if c = Text.closingMark then ([], []) else ([c], [])
  | c :: d :: rest =>
    if c = Text.closingMark then ([], d :: rest)
    else if c = Text.reserveMark then
      let (inside, after) := untilClosed rest
      (c :: d :: inside, after)
    else
      let (inside, after) := untilClosed (d :: rest)
      (c :: inside, after)

/-- What is behind a closing mark is not longer than the whole. -/
theorem length_untilClosed (chars : List Char) :
    (untilClosed chars).2.length ≤ chars.length := by
  fun_induction untilClosed chars <;> simp_all <;> omega

/-- The value of a label that is no text. -/
def value? (label : String) : Option Json :=
  match label.toList with
  | c :: rest =>
    if c = Text.openingMark then
      match untilClosed rest with
      | (inside, []) => (Json.parse inside.length inside).toOption
      | _ => none
    else none
  | [] => none

/-- The value of a label. -/
def toJson (label : String) : Json :=
  (value? label).getD (.str label)

/-- The label is a text. -/
def isText (label : String) : Bool :=
  (value? label).isNone

/-- The characters of a text with the values of its labels. -/
def shownChars : List Char → List Char
  | [] => []
  | c :: rest =>
    if c = Text.openingMark then
      let inside := (untilClosed rest).1
      let value := (Json.parse inside.length inside).toOption.getD .null
      value.display.toList ++ shownChars (untilClosed rest).2
    else if c = Text.reserveMark then
      match rest with
      | [] => [c]
      | d :: rest => c :: d :: shownChars rest
    else c :: shownChars rest
termination_by chars => chars.length
decreasing_by
  · have := length_untilClosed rest
    simp only [List.length_cons]
    omega
  · simp only [List.length_cons]
    omega
  · simp only [List.length_cons]
    omega

/-- A text with the values of the labels that were built into it. -/
def shown (text : String) : String :=
  if text.toList.contains Text.openingMark then String.ofList (shownChars text.toList) else text

/-- The labels have the same value. -/
def same (a b : String) : Bool :=
  a == b || (!isText a && !isText b && (toJson a).sameValue (toJson b))

/-- A label of the same value is in a list. -/
def holds (labels : List String) (label : String) : Bool :=
  labels.any (same label)

/-- Adds a label to a list that does not hold it. -/
def insert (labels : List String) (label : String) : List String :=
  if holds labels label then labels else labels ++ [label]

/-- The distinct ones among labels. -/
def distinct (labels : List String) : List String :=
  labels.foldl insert []

/-- Removes a label from a list. -/
def erase (labels : List String) (label : String) : List String :=
  labels.filter fun other => !same label other

/-- The label in a list that has a value, or else a new one. -/
def among (labels : List String) (value : Json) : String :=
  (labels.find? (same (ofJson value))).getD (ofJson value)

/-- The labels in the order of their values, if these can be put in order. -/
def sort (labels : List String) : Except Failure (List String) :=
  Json.sortBy toJson labels

/-- A list of labels in a message. -/
def quoted (labels : List String) : String :=
  Json.quoted (.arr (labels.map toJson))

/-- The value of a label in a table. -/
def get? {α : Type} (table : Table String α) (label : String) : Option α :=
  (table.find? fun entry => same label entry.1).map Prod.snd

/-- Sets the value of a label in a table. -/
def put {α : Type} (table : Table String α) (label : String) (value : α) : Table String α :=
  Table.put table ((table.keys.find? (same label)).getD label) value

end ModuleGraph.Label
