import ModuleGraph.Text.Blank

/-!
# Integers written in decimal

`readInt?` reads an integer from a text: blanks around it, an optional sign, then digits, with
single underscores allowed between two digits. Digits of every script count. An integer of more
digits than `digitLimit` is not read.
-/

namespace ModuleGraph.Text

/-- The most digits that an integer may be written with. -/
def digitLimit : Nat := 4300

/-- The zero digit of every script with decimal digits; the other nine follow it. -/
def zeroDigits : Array Nat := #[
  48, 1632, 1776, 1984, 2406, 2534, 2662, 2790, 2918, 3046, 3174, 3302, 3430, 3558, 3664, 3792,
  3872, 4160, 4240, 6112, 6160, 6470, 6608, 6784, 6800, 6992, 7088, 7232, 7248, 42528, 43216,
  43264, 43472, 43504, 43600, 44016, 65296, 66720, 68912, 69734, 69872, 69942, 70096, 70384,
  70736, 70864, 71248, 71360, 71472, 71904, 72016, 72784, 73040, 73120, 92768, 92864, 93008,
  120782, 120792, 120802, 120812, 120822, 123200, 123632, 125264, 130032]

/-- The value of a decimal digit. -/
def digitValue? (c : Char) : Option Nat :=
  let point := c.toNat
  (zeroDigits.find? fun start => start ≤ point && point ≤ start + 9).map fun start => point - start

/-- Reads digits that follow another digit, with single underscores between them. -/
def readDigitsAfter? (value : Nat) : List Char → Option Nat
  | [] => some value
  | '_' :: c :: rest => (digitValue? c).bind fun d => readDigitsAfter? (value * 10 + d) rest
  | c :: rest => (digitValue? c).bind fun d => readDigitsAfter? (value * 10 + d) rest

/-- Reads a nonempty row of digits. -/
def readDigits? : List Char → Option Nat
  | [] => none
  | c :: rest => (digitValue? c).bind fun d => readDigitsAfter? d rest

/-- The blanks that may surround an integer: all but the information separators. -/
def isNumberBlank (c : Char) : Bool :=
  isBlank c && !(28 ≤ c.toNat && c.toNat ≤ 31)

/-- Removes the blanks around an integer. -/
def stripNumber (text : List Char) : List Char :=
  ((text.dropWhile isNumberBlank).reverse.dropWhile isNumberBlank).reverse

/-- Reads an integer with blanks around it and an optional sign. -/
def readInt? (text : String) : Option Int :=
  if digitLimit < text.toList.countP fun c => (digitValue? c).isSome then none
  else
  match stripNumber text.toList with
  | '-' :: rest => (readDigits? rest).map fun n => -(n : Int)
  | '+' :: rest => (readDigits? rest).map fun n => (n : Int)
  | rest => (readDigits? rest).map fun n => (n : Int)

end ModuleGraph.Text
