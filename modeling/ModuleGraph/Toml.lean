import ModuleGraph.Json.Reader

/-!
# TOML settings

`Toml.parse` reads a settings file: one `key = value` a line, where a value is a string, a number,
a boolean or an array of values, and `#` starts a comment. A string has one line or, between
triple marks, several. The result is the table of settings. A file that does not have this form,
or that sets a key twice, or that holds a decimal integer of too many digits or arrays nested more
deeply than its reader can go, has no reading.
-/

namespace ModuleGraph.Toml

/-- Drops blanks and tabs at the front. -/
def skipSpace (text : List Char) : List Char :=
  text.dropWhile fun c => c == ' ' || c == '\t'

/-- A control character that may not appear in a comment or string. -/
def isIllegal (c : Char) : Bool :=
  (c.toNat < 32 && c != '\t') || c.toNat == 127

/-- Drops a comment at the front, up to the end of its line. -/
def skipComment : List Char → Option (List Char)
  | '#' :: rest =>
    let comment := rest.takeWhile (· != '\n')
    if comment.any isIllegal then none else some (rest.dropWhile (· != '\n'))
  | text => some text

/-- Drops blanks, line feeds and comments at the front. -/
def skipLines : Nat → List Char → Option (List Char)
  | 0, text => some text
  | steps + 1, text =>
    match skipSpace text with
    | '\n' :: rest => skipLines steps rest
    | '#' :: rest => (skipComment ('#' :: rest)).bind (skipLines steps)
    | rest => some rest

/-- The characters of a bare key. -/
def isKeyChar (c : Char) : Bool :=
  c.isAlphanum || c == '_' || c == '-'

/-- The character of a one-letter escape. -/
def simpleEscape? : Char → Option Char
  | 'b' => some '\x08'
  | 't' => some '\t'
  | 'n' => some '\n'
  | 'f' => some '\x0c'
  | 'r' => some '\r'
  | '\x22' => some '\x22'
  | '\\' => some '\\'
  | _ => none

/-- Reads a number of hexadecimal digits as the written form of a character. -/
def readCodePoint (count : Nat) (text : List Char) : Option (List Char × List Char) := do
  let digits := text.take count
  if digits.length < count then none
  else
    let values ← digits.mapM Json.hexDigit?
    let point := values.foldl (fun value digit => value * 16 + digit) 0
    if point.isValidChar then some (Text.writePoint point, text.drop count) else none

/-- Reads the rest of a string with escapes. -/
def readBasic : Nat → List Char → List Char → Option (String × List Char)
  | 0, _, _ => none
  | steps + 1, done, text =>
    match text with
    | [] => none
    | '\x22' :: rest => some (String.ofList done.reverse, rest)
    | '\\' :: 'u' :: rest => do
      let (written, rest) ← readCodePoint 4 rest
      readBasic steps (written.reverse ++ done) rest
    | '\\' :: 'U' :: rest => do
      let (written, rest) ← readCodePoint 8 rest
      readBasic steps (written.reverse ++ done) rest
    | '\\' :: c :: rest => do
      let c ← simpleEscape? c
      readBasic steps (c :: done) rest
    | c :: rest => if isIllegal c || c == '\\' then none else readBasic steps (c :: done) rest

/-- Reads the rest of a string without escapes. -/
def readLiteral (text : List Char) : Option (String × List Char) :=
  let content := text.takeWhile (· != '\x27')
  match text.dropWhile (· != '\x27') with
  | _ :: rest => if content.any isIllegal then none else some (String.ofList content, rest)
  | [] => none

/-- A control character that may not appear in a string of several lines. -/
def isIllegalInLines (c : Char) : Bool :=
  isIllegal c && c != '\n'

/-- Drops the line break that a backslash at the end of a line hides, with the blanks around it and
any further blank lines. -/
def skipHiddenBreak (text : List Char) : Option (List Char) :=
  match skipSpace text with
  | [] => some []
  | '\n' :: rest => some (rest.dropWhile fun c => c == ' ' || c == '\t' || c == '\n')
  | _ => none

/-- Closes a string of several lines after three marks. Up to two marks that follow still belong to
the string. -/
def closeLines (mark : Char) (done rest : List Char) : String × List Char :=
  let extra := (rest.take 2).takeWhile (· == mark)
  (String.ofList (done.reverse ++ extra), rest.drop extra.length)

/-- Reads the rest of a string with escapes that may have several lines. -/
def readBasicLines : Nat → List Char → List Char → Option (String × List Char)
  | 0, _, _ => none
  | steps + 1, done, text =>
    match text with
    | [] => none
    | '\x22' :: '\x22' :: '\x22' :: rest => some (closeLines '\x22' done rest)
    | '\\' :: 'u' :: rest => do
      let (written, rest) ← readCodePoint 4 rest
      readBasicLines steps (written.reverse ++ done) rest
    | '\\' :: 'U' :: rest => do
      let (written, rest) ← readCodePoint 8 rest
      readBasicLines steps (written.reverse ++ done) rest
    | '\\' :: c :: rest =>
      if c == ' ' || c == '\t' || c == '\n' then do
        readBasicLines steps done (← skipHiddenBreak (c :: rest))
      else do
        let c ← simpleEscape? c
        readBasicLines steps (c :: done) rest
    | c :: rest =>
      if isIllegalInLines c || c == '\\' then none else readBasicLines steps (c :: done) rest

/-- Reads the rest of a string without escapes that may have several lines. -/
def readLiteralLines (done : List Char) : List Char → Option (String × List Char)
  | [] => none
  | '\x27' :: '\x27' :: '\x27' :: rest => some (closeLines '\x27' done rest)
  | c :: rest => if isIllegalInLines c then none else readLiteralLines (c :: done) rest

/-- Drops a line feed directly at the front. -/
def skipLineFeed : List Char → List Char
  | '\n' :: rest => rest
  | text => text

/-- Reads a string. -/
def readString : List Char → Option (String × List Char)
  | '\x22' :: '\x22' :: '\x22' :: rest => readBasicLines (rest.length + 1) [] (skipLineFeed rest)
  | '\x22' :: rest => readBasic (rest.length + 1) [] rest
  | '\x27' :: '\x27' :: '\x27' :: rest => readLiteralLines [] (skipLineFeed rest)
  | '\x27' :: rest => readLiteral rest
  | _ => none

/-- Reads a key. -/
def readKey (text : List Char) : Option (String × List Char) :=
  match text with
  | '\x22' :: rest => readBasic (rest.length + 1) [] rest
  | '\x27' :: rest => readLiteral rest
  | _ =>
    match text.takeWhile isKeyChar with
    | [] => none
    | key => some (String.ofList key, text.dropWhile isKeyChar)

/-- The digits of a number whose underscores stand between two digits. -/
def plainDigits? : List Char → Option (List Char)
  | [] => none
  | [c] => if c.isDigit then some [c] else none
  | c :: '_' :: rest => if c.isDigit then (plainDigits? rest).map (c :: ·) else none
  | c :: rest => if c.isDigit then (plainDigits? rest).map (c :: ·) else none

/-- Digits without a superfluous zero at the front. -/
def wholeDigits? (text : List Char) : Option (List Char) :=
  (plainDigits? text).filter fun digits => digits.length == 1 || digits.head? != some '0'

/-- The number that a word without sign denotes. -/
def unsignedNumber (negative : Bool) (word : List Char) : Except Json.Fault Json :=
  let whole := word.takeWhile fun c => c.isDigit || c == '_'
  let rest := word.dropWhile fun c => c.isDigit || c == '_'
  match wholeDigits? whole, rest with
  | some digits, [] => Json.integerOf negative digits
  | some digits, '.' :: more => do
    let fraction ← Json.expected (plainDigits? (more.takeWhile fun c => c.isDigit || c == '_'))
    let (power, rest) := Json.takeExponent (more.dropWhile fun c => c.isDigit || c == '_')
    if rest.isEmpty then
      return .float (.ofDecimal negative (Json.digitsValue (digits ++ fraction))
        (power.getD 0 - fraction.length))
    else throw .malformed
  | some digits, _ =>
    match Json.takeExponent rest with
    | (some power, []) => .ok (.float (.ofDecimal negative (Json.digitsValue digits) power))
    | _ => .error .malformed
  | none, _ => .error .malformed

/-- The value of digits in a base, with single underscores between them. -/
def basedDigits? (base : Nat) (value : Nat) : List Char → Option Nat
  | [] => none
  | [c] => ((Json.hexDigit? c).filter (· < base)).map fun digit => value * base + digit
  | c :: '_' :: rest => do
    let digit ← (Json.hexDigit? c).filter (· < base)
    basedDigits? base (value * base + digit) rest
  | c :: rest => do
    let digit ← (Json.hexDigit? c).filter (· < base)
    basedDigits? base (value * base + digit) rest

/-- The number that a word stands for, given its sign. -/
def signedNumber (negative : Bool) (word : List Char) : Except Json.Fault Json :=
  if word = "inf".toList then .ok (.float (.infinite negative))
  else if word = "nan".toList then .ok (.float .nan)
  else unsignedNumber negative word

/-- The integer that digits in a base denote. -/
def basedNumber (base : Nat) (digits : List Char) : Except Json.Fault Json := do
  return .int (← Json.expected (basedDigits? base 0 digits))

/-- The value that a word stands for. -/
def wordValue (word : List Char) : Except Json.Fault Json :=
  if word = "true".toList then .ok (.bool true)
  else if word = "false".toList then .ok (.bool false)
  else
    match word with
    | '-' :: rest => signedNumber true rest
    | '+' :: rest => signedNumber false rest
    | '0' :: 'x' :: digits => basedNumber 16 digits
    | '0' :: 'o' :: digits => basedNumber 8 digits
    | '0' :: 'b' :: digits => basedNumber 2 digits
    | _ => signedNumber false word

/-- The characters of numbers and booleans. -/
def isWordChar (c : Char) : Bool :=
  c.isAlphanum || c == '_' || c == '-' || c == '+' || c == '.'

mutual
/-- Reads a value in which arrays may be nested to a depth. -/
def readValue : Nat → Nat → List Char → Except Json.Fault (Json × List Char)
  | 0, _, _ => .error .malformed
  | steps + 1, depth, text =>
    match text with
    | '\x22' :: _ | '\x27' :: _ => do
      let (value, rest) ← Json.expected (readString text)
      return (.str value, rest)
    | '[' :: rest =>
      match depth with
      | 0 => .error .tooDeep
      | depth + 1 => do
        match ← Json.expected (skipLines rest.length rest) with
        | ']' :: rest => return (.arr [], rest)
        | rest =>
          let (items, rest) ← readItems steps depth rest
          return (.arr items, rest)
    | _ => do
      let value ← wordValue (text.takeWhile isWordChar)
      return (value, text.dropWhile isWordChar)

/-- Reads the items of an array up to and including its closing bracket. -/
def readItems : Nat → Nat → List Char → Except Json.Fault (List Json × List Char)
  | 0, _, _ => .error .malformed
  | steps + 1, depth, text => do
    let (item, rest) ← readValue steps depth text
    match ← Json.expected (skipLines rest.length rest) with
    | ']' :: rest => return ([item], rest)
    | ',' :: rest =>
      match ← Json.expected (skipLines rest.length rest) with
      | ']' :: rest => return ([item], rest)
      | rest =>
        let (items, rest) ← readItems steps depth rest
        return (item :: items, rest)
    | _ => throw .malformed
end

/-- Reads the rest of a line: blanks and a comment. -/
def readLineEnd (text : List Char) : Option (List Char) := do
  match ← skipComment (skipSpace text) with
  | [] => some []
  | '\n' :: rest => some rest
  | _ => none

/-- Reads the settings of a text in turn. Arrays may be nested to a depth. -/
def readSettings (depth : Nat) :
    Nat → Table String Json → List Char → Except Json.Fault (Table String Json)
  | 0, settings, _ => .ok settings
  | steps + 1, settings, text => do
    match ← Json.expected (skipLines text.length text) with
    | [] => return settings
    | text =>
      let (key, rest) ← Json.expected (readKey text)
      match skipSpace rest with
      | '=' :: rest =>
        let (value, rest) ← readValue (2 * rest.length + 2) depth (skipSpace rest)
        let rest ← Json.expected (readLineEnd rest)
        if settings.hasKey key then throw .malformed
        else readSettings depth steps (settings ++ [(key, value)]) rest
      | _ => throw .malformed

/-- Reads a line feed for each carriage return that comes with one. -/
def unifyPairs : List Char → List Char
  | [] => []
  | '\r' :: '\n' :: rest => '\n' :: unifyPairs rest
  | c :: rest => c :: unifyPairs rest

/-- The settings of a text, in which arrays may be nested to a depth. -/
def parse (depth : Nat) (text : String) : Except Json.Fault (Table String Json) :=
  readSettings depth (text.length + 1) [] (unifyPairs text.toList)

end ModuleGraph.Toml
