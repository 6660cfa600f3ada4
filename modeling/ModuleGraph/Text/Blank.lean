/-!
# Blank characters and line boundaries

`isBlank` is the set of white space characters, `strip` removes them from both ends of a text,
and `lines` cuts a text at its line boundaries. A text is a list of characters here; the
functions on strings are thin wrappers.

A carriage return followed by a line feed is one boundary. A boundary at the very end opens no
further line, so the empty text has no line at all.
-/

namespace ModuleGraph.Text

/-- White space: the ASCII blanks and separators, and the space characters of Unicode. -/
def isBlank (c : Char) : Bool :=
  let point := c.toNat
  (9 ≤ point && point ≤ 13) || (28 ≤ point && point ≤ 32) || point == 0x85 || point == 0xA0 ||
  point == 0x1680 || (0x2000 ≤ point && point ≤ 0x200A) || point == 0x2028 || point == 0x2029 ||
  point == 0x202F || point == 0x205F || point == 0x3000

/-- Removes the blanks at the end of a text. -/
def stripRight (text : List Char) : List Char :=
  (text.reverse.dropWhile isBlank).reverse

/-- Removes the blanks at both ends of a text. -/
def stripChars (text : List Char) : List Char :=
  stripRight (text.dropWhile isBlank)

/-- Removes the blanks at both ends of a string. -/
def strip (text : String) : String :=
  String.ofList (stripChars text.toList)

/-- The characters that end a line. -/
def isLineBreak (c : Char) : Bool :=
  let point := c.toNat
  (10 ≤ point && point ≤ 13) || (28 ≤ point && point ≤ 30) || point == 0x85 ||
  point == 0x2028 || point == 0x2029

/-- The lines of a text, without their boundaries. -/
def lines : List Char → List (List Char)
  | [] => []
  | '\r' :: '\n' :: rest => [] :: lines rest
  | c :: rest =>
    if isLineBreak c then
      [] :: lines rest
    else
      match lines rest with
      | [] => [[c]]
      | line :: more => (c :: line) :: more

/-- Reads every line ending of a text file as a line feed. -/
def unifyNewlines : List Char → List Char
  | [] => []
  | '\r' :: '\n' :: rest => '\n' :: unifyNewlines rest
  | '\r' :: rest => '\n' :: unifyNewlines rest
  | c :: rest => c :: unifyNewlines rest

end ModuleGraph.Text
