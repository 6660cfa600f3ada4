import ModuleGraph.Failure
import ModuleGraph.Text.CodePoint
import ModuleGraph.Text.Integer
import ModuleGraph.Text.Search

/-!
# Reading JSON text

`Json.parse` reads a whole text as one value. Every reader takes the characters that remain and
returns a value with what remains after it. Besides the standard grammar the constants `NaN`,
`Infinity` and `-Infinity` are accepted. Control characters must be escaped in strings, nothing
may follow the value, and of a repeated key the first position and the last value are kept;
`readDocument` keeps all of its values. A text that is nested more deeply than its reader can go, or
that has an integer of too many digits, is not read. Some documents allow no more digits before the
point of other numbers either; these are read with `narrow`.

The recursion is bounded by a number of steps that grows with the text, so that it always
suffices.
-/

namespace ModuleGraph.Json

/-- Why a text is not read. -/
inductive Fault
  /-- It does not have the form of a value. -/
  | malformed
  /-- Containers are nested too deeply. -/
  | tooDeep
  /-- An integer has too many digits. -/
  | longInteger
deriving DecidableEq, Repr, Inhabited

/-- The failure that a fault leads to, where a text of another form has a failure of its own. -/
def Fault.toFailure (malformed : Failure) : Fault → Failure
  | .malformed => malformed
  | .tooDeep => .undefinedOperation
  | .longInteger => .badValue

/-- Something that was read, or a text of another form. -/
def expected {α : Type} : Option α → Except Fault α
  | some value => .ok value
  | none => .error .malformed

/-- Drops the blanks that may stand between two tokens. -/
def skipSpace (text : List Char) : List Char :=
  text.dropWhile fun c => c == ' ' || c == '\t' || c == '\n' || c == '\r'

/-- The value of a hexadecimal digit. -/
def hexDigit? (c : Char) : Option Nat :=
  if '0' ≤ c && c ≤ '9' then some (c.toNat - 48)
  else if 'a' ≤ c && c ≤ 'f' then some (c.toNat - 87)
  else if 'A' ≤ c && c ≤ 'F' then some (c.toNat - 55)
  else none

/-- Reads four hexadecimal digits. -/
def readHex4 : List Char → Option (Nat × List Char)
  | a :: b :: c :: d :: rest => do
    let a ← hexDigit? a
    let b ← hexDigit? b
    let c ← hexDigit? c
    let d ← hexDigit? d
    return (((a * 16 + b) * 16 + c) * 16 + d, rest)
  | _ => none

/-- Reads the digits of a `\u` escape, and of a second one when they form a pair: a code point. -/
def readUnicode (text : List Char) : Option (Nat × List Char) := do
  let (high, rest) ← readHex4 text
  if 0xD800 ≤ high && high < 0xDC00 then
    match rest with
    | '\\' :: 'u' :: more =>
      let (low, after) ← readHex4 more
      if 0xDC00 ≤ low && low < 0xE000 then
        return (0x10000 + (high - 0xD800) * 0x400 + (low - 0xDC00), after)
      else
        return (high, rest)
    | _ => return (high, rest)
  else
    return (high, rest)

/-- The character of a one-letter escape. -/
def simpleEscape? : Char → Option Char
  | '\x22' => some '\x22'
  | '\\' => some '\\'
  | '/' => some '/'
  | 'b' => some '\x08'
  | 'f' => some '\x0c'
  | 'n' => some '\n'
  | 'r' => some '\r'
  | 't' => some '\t'
  | _ => none

/-- Reads the rest of a string after its opening mark; `done` holds what was read, reversed. -/
def readString : Nat → List Char → List Char → Option (String × List Char)
  | 0, _, _ => none
  | steps + 1, done, text =>
    match text with
    | [] => none
    | '\x22' :: rest => some (String.ofList done.reverse, rest)
    | '\\' :: 'u' :: rest =>
      (readUnicode rest).bind fun (point, rest) =>
        readString steps ((Text.writePoint point).reverse ++ done) rest
    | '\\' :: c :: rest => (simpleEscape? c).bind fun c => readString steps (c :: done) rest
    | c :: rest => if c.toNat < 32 then none else readString steps (c :: done) rest

/-- The number that a row of ASCII digits denotes. -/
def digitsValue (digits : List Char) : Nat :=
  digits.foldl (fun value c => value * 10 + (c.toNat - 48)) 0

/-- Splits off the leading ASCII digits. -/
def takeDigits (text : List Char) : List Char × List Char :=
  (text.takeWhile Char.isDigit, text.dropWhile Char.isDigit)

/-- Reads the whole part of a number: zero, or digits that do not start with one. -/
def readWhole : List Char → Option (List Char × List Char)
  | '0' :: rest => some (['0'], rest)
  | text =>
    match takeDigits text with
    | ([], _) => none
    | (digits, rest) => some (digits, rest)

/-- Splits off a fraction, if a point and a digit follow. -/
def takeFraction : List Char → List Char × List Char
  | '.' :: rest =>
    match takeDigits rest with
    | ([], _) => ([], '.' :: rest)
    | (digits, after) => (digits, after)
  | text => ([], text)

/-- Splits off an exponent, if its mark, an optional sign and a digit follow. -/
def takeExponent (text : List Char) : Option Int × List Char :=
  match text with
  | mark :: rest =>
    if mark == 'e' || mark == 'E' then
      let (negative, digits) :=
        match rest with
        | '-' :: more => (true, more)
        | '+' :: more => (false, more)
        | _ => (false, rest)
      match takeDigits digits with
      | ([], _) => (none, text)
      | (row, after) =>
        let power : Int := digitsValue row
        (some (if negative then -power else power), after)
    else (none, text)
  | [] => (none, text)

/-- The integer that a row of digits denotes, unless there are too many of them. -/
def integerOf (negative : Bool) (digits : List Char) : Except Fault Json :=
  if Text.digitLimit < digits.length then .error .longInteger
  else
    let value : Int := digitsValue digits
    .ok (.int (if negative then -value else value))

/-- Reads a number after its sign. -/
def readNumber (narrow negative : Bool) (text : List Char) : Except Fault (Json × List Char) :=
  match readWhole text with
  | none => .error .malformed
  | some (whole, rest) =>
    let (fraction, rest) := takeFraction rest
    let (power, rest) := takeExponent rest
    if narrow && Text.digitLimit < whole.length then .error .longInteger
    else if fraction.isEmpty && power.isNone then do return (← integerOf negative whole, rest)
    else
      let digits := digitsValue (whole ++ fraction)
      .ok (.float (.ofDecimal negative digits (power.getD 0 - fraction.length)), rest)

/-- Reads a word that stands for a value. -/
def readWord (word : String) (value : Json) (text : List Char) : Except Fault (Json × List Char) :=
  match Text.expectString? word text with
  | some rest => .ok (value, rest)
  | none => .error .malformed

/-- Reads a value that is neither a string nor a container. -/
def readScalar (narrow : Bool) (text : List Char) : Except Fault (Json × List Char) :=
  match text with
  | 't' :: _ => readWord "true" (.bool true) text
  | 'f' :: _ => readWord "false" (.bool false) text
  | 'n' :: _ => readWord "null" .null text
  | 'N' :: _ => readWord "NaN" (.float .nan) text
  | 'I' :: _ => readWord "Infinity" (.float (.infinite false)) text
  | '-' :: 'I' :: rest => readWord "nfinity" (.float (.infinite true)) rest
  | '-' :: rest => readNumber narrow true rest
  | _ => readNumber narrow false text

mutual
/-- Reads a value, with no blanks before it, in which containers may be nested to a depth. -/
def readValue (narrow : Bool) : Nat → Nat → List Char → Except Fault (Json × List Char)
  | 0, _, _ => .error .malformed
  | steps + 1, depth, text =>
    match text with
    | '\x22' :: rest => do
      let (value, rest) ← expected (readString steps [] rest)
      return (.str value, rest)
    | '[' :: rest =>
      match depth with
      | 0 => .error .tooDeep
      | depth + 1 =>
        match skipSpace rest with
        | ']' :: rest => .ok (.arr [], rest)
        | rest => do
          let (items, rest) ← readItems narrow steps depth rest
          return (.arr items, rest)
    | '\x7b' :: rest =>
      match depth with
      | 0 => .error .tooDeep
      | depth + 1 =>
        match skipSpace rest with
        | '\x7d' :: rest => .ok (.obj [], rest)
        | rest => do
          let (members, rest) ← readMembers narrow steps depth rest
          return (.obj members, rest)
    | _ => readScalar narrow text

/-- Reads the items of an array up to and including its closing bracket. -/
def readItems (narrow : Bool) : Nat → Nat → List Char → Except Fault (List Json × List Char)
  | 0, _, _ => .error .malformed
  | steps + 1, depth, text => do
    let (item, rest) ← readValue narrow steps depth text
    match skipSpace rest with
    | ']' :: rest => .ok ([item], rest)
    | ',' :: rest =>
      let (items, rest) ← readItems narrow steps depth (skipSpace rest)
      .ok (item :: items, rest)
    | _ => .error .malformed

/-- Reads the members of an object up to and including its closing brace. -/
def readMembers (narrow : Bool) :
    Nat → Nat → List Char → Except Fault (List (String × Json) × List Char)
  | 0, _, _ => .error .malformed
  | steps + 1, depth, text =>
    match text with
    | '\x22' :: rest => do
      let (key, rest) ← expected (readString steps [] rest)
      match skipSpace rest with
      | ':' :: rest =>
        let (value, rest) ← readValue narrow steps depth (skipSpace rest)
        match skipSpace rest with
        | '\x7d' :: rest => .ok ([(key, value)], rest)
        | ',' :: rest =>
          let (members, rest) ← readMembers narrow steps depth (skipSpace rest)
          .ok ((key, value) :: members, rest)
        | _ => .error .malformed
      | _ => .error .malformed
    | _ => .error .malformed
end

/-- Reads a whole text as one value, in which containers may be nested to a depth. Repeated keys are
kept. -/
def readDocument (narrow : Bool) (depth : Nat) (text : List Char) : Except Fault Json := do
  let (value, rest) ← readValue narrow (2 * text.length + 2) depth (skipSpace text)
  if (skipSpace rest).isEmpty then return value else throw .malformed

mutual
/-- The value in which a repeated key has its last value only. -/
def merged : Json → Json
  | .arr items => .arr (mergedItems items)
  | .obj members => .obj (Table.ofEntries (mergedMembers members))
  | value => value

/-- Items in which repeated keys are merged. -/
def mergedItems : List Json → List Json
  | [] => []
  | item :: rest => merged item :: mergedItems rest

/-- Members in whose values repeated keys are merged. -/
def mergedMembers : List (String × Json) → List (String × Json)
  | [] => []
  | (key, value) :: rest => (key, merged value) :: mergedMembers rest
end

/-- Reads a whole text as one value without repeated keys, in which containers may be nested to a
depth. -/
def parse (depth : Nat) (text : List Char) : Except Fault Json := do
  return (← readDocument false depth text).merged

end ModuleGraph.Json
