/-!
# Searching in texts

`expect?` removes a fixed word from the front of a text. `search` tries a recogniser at every
position of a text, from left to right, and returns what it gives at the first position where it
succeeds.
-/

namespace ModuleGraph.Text

/-- What follows a fixed word at the front of a text. -/
def expect? : List Char → List Char → Option (List Char)
  | [], text => some text
  | c :: word, d :: text => if c = d then expect? word text else none
  | _ :: _, [] => none

/-- What follows a fixed string at the front of a text. -/
def expectString? (word : String) (text : List Char) : Option (List Char) :=
  expect? word.toList text

/-- The result of a recogniser at the first position where it succeeds. -/
def search {α : Type} (recognise : List Char → Option α) : List Char → Option α
  | [] => recognise []
  | c :: rest =>
    match recognise (c :: rest) with
    | some result => some result
    | none => search recognise rest

/-- The word occurs in the text. -/
def hasInfix (word text : List Char) : Bool :=
  (search (expect? word) text).isSome

end ModuleGraph.Text
