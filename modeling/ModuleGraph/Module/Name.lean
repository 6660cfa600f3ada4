/-!
# Module names

A full module name has an author and a short name, divided by a hyphen or a slash, as in
`acme-ntp`. `splitAuthor?` divides such a name at the first divider. A directory is taken for a
module only if `isModuleName` accepts its name. A line feed at the very end of a name does not
count in either rule.
-/

namespace ModuleGraph.ModuleName

/-- The characters that divide author and short name. -/
def isDivider (c : Char) : Bool :=
  c == '-' || c == '/'

/-- A text of one line, without a line feed at its end. -/
def singleLine? (text : List Char) : Option (List Char) :=
  match text.dropWhile (· != '\n') with
  | [] | ['\n'] => some (text.takeWhile (· != '\n'))
  | _ => none

/-- The author and the short name of a full name; neither may be empty. -/
def splitAuthor? (name : String) : Option (String × String) :=
  let author := name.toList.takeWhile fun c => !isDivider c
  match name.toList.dropWhile fun c => !isDivider c with
  | [] => none
  | _ :: rest =>
    match singleLine? rest with
    | some (c :: short) =>
      if author.isEmpty then none else some (String.ofList author, String.ofList (c :: short))
    | _ => none

/-- The short name of a module, whether its name has an author or not. -/
def withoutAuthor (name : String) : String :=
  match splitAuthor? name with
  | some (_, short) => short
  | none => name

/-- A lower case letter followed by lower case letters, digits and underscores. -/
def isModuleName (name : String) : Bool :=
  match singleLine? name.toList with
  | some (c :: rest) =>
    c.isLower && rest.all fun c => c.isLower || c.isDigit || c == '_'
  | _ => false

end ModuleGraph.ModuleName
