import ModuleGraph.Text.CodePoint
import ModuleGraph.Text.Printable

/-!
# Quoted text

`quoted` writes a text between quotation marks so that it can be shown inside a message. The mark
is the apostrophe, unless the text holds an apostrophe and no double quote. The mark and the
backslash are escaped, as is every code point that is no printable character.
-/

namespace ModuleGraph.Text

/-- A number in lower case hexadecimal, padded with zeros to a width. -/
def hexadecimal (width value : Nat) : List Char :=
  let digits := Nat.toDigits 16 value
  List.replicate (width - digits.length) '0' ++ digits

/-- The escape of a code point that is no printable character. -/
def escapedPoint (point : Nat) : List Char :=
  if point < 0x100 then '\\' :: 'x' :: hexadecimal 2 point
  else if point < 0x10000 then '\\' :: 'u' :: hexadecimal 4 point
  else '\\' :: 'U' :: hexadecimal 8 point

/-- One code point between quotation marks of the given kind. -/
def quotedPoint (mark : Char) (point : Nat) : List Char :=
  let c := Char.ofNat point
  if isHalf point then escapedPoint point
  else if c == mark || c == '\\' then ['\\', c]
  else if c == '\n' then ['\\', 'n']
  else if c == '\r' then ['\\', 'r']
  else if c == '\t' then ['\\', 't']
  else if isPrintable c then [c]
  else escapedPoint point

/-- The quotation mark that suits a text. -/
def quotationMark (text : List Char) : Char :=
  if text.contains '\x27' && !text.contains '\x22' then '\x22' else '\x27'

/-- A text between quotation marks, with escapes. -/
def quoted (text : String) : String :=
  let mark := quotationMark text.toList
  String.ofList (mark :: (points text).flatMap (quotedPoint mark) ++ [mark])

end ModuleGraph.Text
