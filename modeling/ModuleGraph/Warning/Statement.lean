import ModuleGraph.Failure
import ModuleGraph.Text.Blank

/-!
# The text form of known warnings

A known-warnings text has one statement a line; blank lines and lines starting with `#` are
skipped. A statement is the keyword of a kind followed by its attributes, separated by commas and
optionally inside parentheses:

    missing_definition type: :function, name: 'foo', source: 'manifests/init.pp'

A value is a symbol, or a string in single or double quotes in which a backslash escapes the next
character. `Statement.parseAll` reads a text and stops at the first faulty line, and
`Statement.renderAll` writes warnings grouped by kind.
-/

namespace ModuleGraph.Statement

/-- The characters of keywords and attribute names. -/
def isKeywordChar (c : Char) : Bool :=
  ('a' ≤ c && c ≤ 'z') || c == '_'

/-- The characters of a symbol. -/
def isSymbolChar (c : Char) : Bool :=
  c.isAlphanum || c == '_' || c == ':' || c == '/' || c == '.' || c == '-'

/-- Reads the rest of a string up to its closing mark, resolving the escapes. -/
def readQuoted (mark : Char) : List Char → Option (List Char × List Char)
  | [] => none
  | '\\' :: c :: rest => (readQuoted mark rest).map fun (text, after) => (c :: text, after)
  | c :: rest =>
    if c = mark then some ([], rest)
    else if c = '\\' then none
    else (readQuoted mark rest).map fun (text, after) => (c :: text, after)

/-- Reads a value: a symbol or a quoted string. -/
def readArgumentValue : List Char → Option (List Char × List Char)
  | ':' :: rest =>
    match rest.takeWhile isSymbolChar with
    | [] => none
    | symbol => some (symbol, rest.dropWhile isSymbolChar)
  | '\x27' :: rest => readQuoted '\x27' rest
  | '\x22' :: rest => readQuoted '\x22' rest
  | _ => none

/-- Reads the separator after an argument: a comma, or the end of the text. -/
def readSeparator (text : List Char) : Option (List Char) :=
  match text.dropWhile Text.isBlank with
  | [] => some []
  | ',' :: rest => some rest
  | _ => none

/-- Reads one argument with its separator: name, value and the remaining text. -/
def readArgument (text : List Char) : Option ((String × String) × List Char) :=
  let start := text.dropWhile Text.isBlank
  match start.takeWhile isKeywordChar with
  | [] => none
  | name =>
    match (start.dropWhile isKeywordChar).dropWhile Text.isBlank with
    | ':' :: rest => do
      let (value, rest) ← readArgumentValue (rest.dropWhile Text.isBlank)
      let rest ← readSeparator rest
      return ((String.ofList name, String.ofList value), rest)
    | _ => none

/-- Reads all arguments of a statement; every step takes at least one character, so as many steps
as there are characters suffice. -/
def readArguments (kind : WarningKind) :
    Nat → Table String String → List Char → Except StatementFault (Table String String)
  | _, values, [] => .ok values
  | 0, _, text => .error (.badArguments (String.ofList text))
  | steps + 1, values, text =>
    match readArgument text with
    | none => .error (.badArguments (String.ofList text))
    | some ((name, value), rest) =>
      if name ∉ kind.attributes then .error (.unknownAttribute kind name)
      else if values.hasKey name then .error (.repeatedAttribute kind name)
      else readArguments kind steps (values ++ [(name, value)]) rest

/-- Removes one pair of parentheses around a text. -/
def unwrap (text : List Char) : List Char :=
  match text with
  | '(' :: rest => if rest.getLast? = some ')' then rest.dropLast else text
  | _ => text

/-- Reads a statement from a line without surrounding blanks. -/
def parseLine (line : List Char) : Except StatementFault Warning :=
  match line.takeWhile isKeywordChar with
  | [] => .error (.noKeyword (String.ofList line))
  | keyword =>
    match WarningKind.ofLabel? (String.ofList keyword) with
    | none => .error (.unknownKind (String.ofList keyword))
    | some kind =>
      let arguments := unwrap (Text.stripChars (line.dropWhile isKeywordChar))
      match readArguments kind arguments.length [] arguments with
      | .error fault => .error fault
      | .ok values =>
        match kind.attributes.filter fun name => !values.hasKey name with
        | [] =>
          match Warning.build? kind values with
          | some warning => .ok warning
          | none => .error (.invalidAttributes kind)
        | missing => .error (.missingAttributes kind missing (String.ofList line))

/-- Reads the statements of numbered lines. -/
def parseLines (file : String) : Nat → List (List Char) → Except Failure (List Warning)
  | _, [] => .ok []
  | number, line :: rest =>
    match Text.stripChars line with
    | [] => parseLines file (number + 1) rest
    | '#' :: _ => parseLines file (number + 1) rest
    | statement =>
      match parseLine statement with
      | .error fault => .error (.badStatement file number fault)
      | .ok warning => (parseLines file (number + 1) rest).map (warning :: ·)

/-- The name of a text that comes from no file. -/
def anonymousFile : String := "<known_warnings>"

/-- Reads a known-warnings text; the name of its file appears in failures. -/
def parseAll (file : String) (text : String) : Except Failure (List Warning) :=
  parseLines file 1 (Text.lines text.toList)

/-- One character inside a quoted string. -/
def escapeQuote (c : Char) : List Char :=
  if c = '\\' || c = '\x27' then ['\\', c] else [c]

/-- A value in its text form. -/
def renderValue (symbol : Bool) (value : String) : String :=
  if symbol then ":" ++ value
  else String.ofList ('\x27' :: value.toList.flatMap escapeQuote ++ ['\x27'])

/-- The statement of a warning. -/
def render (warning : Warning) : String :=
  let kind := warning.kind
  let arguments := warning.attributes.map fun (name, value) =>
    name ++ ": " ++ renderValue (kind.isSymbol name) value
  kind.label ++ " " ++ String.intercalate ", " arguments

/-- Warnings grouped by kind, each group in the given order. -/
def grouped (warnings : List Warning) : List Warning :=
  WarningKind.all.flatMap fun kind => warnings.filter fun warning => warning.kind == kind

/-- The text of a list of warnings, one statement a line. -/
def renderAll (warnings : List Warning) : String :=
  String.join ((grouped warnings).map fun warning => render warning ++ "\n")

/-- The number of lines of a text of statements. -/
def countLines (text : String) : Nat :=
  text.toList.count '\n'

end ModuleGraph.Statement
