import ModuleGraph.Text.CodePoint

/-!
# Texts as bytes

In UTF-8 a character has one to four bytes, and half of a surrogate pair has none. `encode?` gives
the bytes of a text without halves. `decode?` reads bytes that are made of characters throughout,
and `decodeLossy` puts the replacement character in place of every longest part of an encoded
character that cannot be completed.

The name of a file is a row of bytes, in UTF-8 as a rule. A byte in it that belongs to no character
is seen as a half of its own, so that every row of bytes is the name of some text; other halves do
not occur in names. `isFileName` says that a text can be a name, and `storedName` is the text that
a directory lists for it.
-/

namespace ModuleGraph.Text

/-- The bytes of a text without halves of surrogate pairs. -/
def encode? (text : String) : Option ByteArray :=
  if hasHalf text then none else some (String.ofList (toChars text)).toUTF8

/-- The text of bytes that are made of characters throughout. -/
def decode? (bytes : ByteArray) : Option String :=
  (String.fromUTF8? bytes).map fun text => ofChars text.toList

/-- The bounds of the second byte of an encoded character and the number of bytes after the
first, by its first byte. -/
def leadByte? (lead : Nat) : Option (Nat × Nat × Nat) :=
  if 0xC2 ≤ lead && lead ≤ 0xDF then some (0x80, 0xBF, 1)
  else if lead == 0xE0 then some (0xA0, 0xBF, 2)
  else if lead == 0xED then some (0x80, 0x9F, 2)
  else if 0xE1 ≤ lead && lead ≤ 0xEF then some (0x80, 0xBF, 2)
  else if lead == 0xF0 then some (0x90, 0xBF, 3)
  else if 0xF1 ≤ lead && lead ≤ 0xF3 then some (0x80, 0xBF, 3)
  else if lead == 0xF4 then some (0x80, 0x8F, 3)
  else none

/-- What some bytes stand for: a character, or a part of one that is not completed. -/
inductive Decoded
  | char (point : Nat)
  | broken (bytes : List Nat)
deriving DecidableEq, Repr, Inhabited

/-- Reads the bytes that complete a character, where `taken` holds those before, last first: the
code point so far grows by six bits a byte, and a byte outside the bounds breaks the character off
before it. -/
def completeChar (low high : Nat) (taken : List Nat) : Nat → Nat → List Nat → Decoded × List Nat
  | 0, point, bytes => (.char point, bytes)
  | _ + 1, _, [] => (.broken taken.reverse, [])
  | count + 1, point, byte :: rest =>
    if low ≤ byte && byte ≤ high then
      completeChar 0x80 0xBF (byte :: taken) count (point * 64 + byte % 64) rest
    else (.broken taken.reverse, byte :: rest)

/-- Decodes the first character of some bytes. -/
def decodeChar (lead : Nat) (rest : List Nat) : Decoded × List Nat :=
  if lead < 0x80 then (.char lead, rest)
  else
    match leadByte? lead with
    | none => (.broken [lead], rest)
    | some (low, high, count) =>
      completeChar low high [lead] count
        (lead % (if count == 1 then 32 else if count == 2 then 16 else 8)) rest

/-- Decodes at most a number of characters. -/
def decodeChars : Nat → List Nat → List Decoded
  | 0, _ => []
  | _ + 1, [] => []
  | steps + 1, lead :: rest =>
    let (decoded, rest) := decodeChar lead rest
    decoded :: decodeChars steps rest

/-- The text of bytes, in which whatever is no character is replaced. -/
def decodeLossy (bytes : List Nat) : String :=
  ofPoints ((decodeChars bytes.length bytes).map fun
    | .char point => point
    | .broken _ => replacement)

/-- The bytes of a character. -/
def pointBytes (point : Nat) : List Nat :=
  if point < 0x80 then [point]
  else if point < 0x800 then [0xC0 + point / 64, 0x80 + point % 64]
  else if point < 0x10000 then
    [0xE0 + point / 4096, 0x80 + point / 64 % 64, 0x80 + point % 64]
  else
    [0xF0 + point / 262144, 0x80 + point / 4096 % 64, 0x80 + point / 64 % 64, 0x80 + point % 64]

/-- What is added to a byte that belongs to no character to give the half that it is seen as. -/
def byteShift : Nat := 0xDC00

/-- The half that a single byte of a name is seen as. -/
def isByteHalf (point : Nat) : Bool :=
  byteShift + 0x80 ≤ point && point < byteShift + 0x100

/-- The bytes that a code point of a name stands for. -/
def nameBytes (point : Nat) : List Nat :=
  if isByteHalf point then [point - byteShift] else pointBytes point

/-- The text can be the name of a file. -/
def isFileName (text : String) : Bool :=
  (points text).all fun point => !isHalf point || isByteHalf point

/-- The number of bytes of a name. -/
def nameSize (name : String) : Nat :=
  ((points name).flatMap nameBytes).length

/-- The text that a directory lists for a name: bytes that make up a character together are
listed as the character. -/
def storedName (name : String) : String :=
  if hasHalf name then
    let bytes := (points name).flatMap nameBytes
    ofPoints ((decodeChars bytes.length bytes).flatMap fun
      | .char point => [point]
      | .broken bytes => bytes.map (byteShift + ·))
  else name

end ModuleGraph.Text
