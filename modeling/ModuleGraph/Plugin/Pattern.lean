import ModuleGraph.Text.Blank
import ModuleGraph.Text.Search
import ModuleGraph.Text.Word

/-!
# Declarations in plugin files

Plugin files are read as text. A declaration is a call with the declared name as its first
argument: an optional parenthesis, then the name as a symbol, a string or a bare word. The
definitions below find the first such call of each kind in a text.
-/

namespace ModuleGraph.Plugin

/-- Drops the blanks at the front. -/
def skipBlanks (text : List Char) : List Char :=
  text.dropWhile Text.isBlank

/-- A quotation mark. -/
def isQuote (c : Char) : Bool :=
  c == '\x27' || c == '\x22'

/-- Drops a quotation mark at the front. -/
def skipQuote : List Char → List Char
  | c :: rest => if isQuote c then rest else c :: rest
  | [] => []

/-- Drops an opening parenthesis at the front, and the blanks around it. -/
def skipOpening (text : List Char) : List Char :=
  match skipBlanks text with
  | '(' :: rest => skipBlanks rest
  | rest => rest

/-- The longest nonempty row of characters of a class at the front. -/
def run? (member : Char → Bool) (text : List Char) : Option (List Char) :=
  match text.takeWhile member with
  | [] => none
  | row => some row

/-- The first argument of a call, as a symbol, a string or a bare word. Where no name follows a
colon, the colon itself is tried as part of the name. -/
def argument? (member : Char → Bool) (text : List Char) : Option (List Char) :=
  match skipOpening text with
  | ':' :: rest =>
    match run? member (skipQuote rest) with
    | some name => some name
    | none => run? member (':' :: rest)
  | rest => run? member (skipQuote rest)

/-- The first argument of a call, which must be a string. -/
def stringArgument? (member : Char → Bool) (text : List Char) : Option (List Char) :=
  match skipOpening text with
  | c :: rest => if isQuote c then run? member rest else none
  | [] => none

/-- The characters of a name with namespaces. -/
def isScoped (c : Char) : Bool :=
  Text.isWord c || c == ':'

/-- The name in the first call of the given function. -/
def declared? (call : String) (argument : List Char → Option (List Char)) (text : String) :
    Option String :=
  (Text.search (fun text => (Text.expectString? call text).bind argument) text.toList).map
    String.ofList

/-- The function of the older kind that a file declares. -/
def legacyFunction? (text : String) : Option String :=
  declared? "newfunction" (argument? Text.isWord) text

/-- The function that a file declares. -/
def function? (text : String) : Option String :=
  declared? "Puppet::Functions.create_function" (argument? isScoped) text

/-- The data type that a file declares. -/
def dataType? (text : String) : Option String :=
  declared? "Puppet::DataTypes.create_type" (stringArgument? isScoped) text

/-- The resource type that a file declares. -/
def resourceType? (text : String) : Option String :=
  declared? "Puppet::Type.newtype" (argument? Text.isWord) text

/-- The argument of a call whose function name ends here. -/
def argumentAfterWord? (text : List Char) : Option (List Char) :=
  match text with
  | c :: _ => if Text.isWord c then none else argument? Text.isWord text
  | [] => argument? Text.isWord []

/-- The provider that a file declares. -/
def provider? (text : String) : Option String :=
  declared? ".provide" argumentAfterWord? text

end ModuleGraph.Plugin
