import ModuleGraph.Json.Display
import ModuleGraph.Warning

/-!
# Failures

A `Failure` is the cause for which an operation ends without a result. The operations leave
behind what they had changed before. `Failure.message` is the text of the causes that a user is
told; the remaining ones say only what class of data was at fault. Where a message quotes the
words of another reader, `Failure.detail` stands in their place.
-/

namespace ModuleGraph

/-- Why a line of a known-warnings text is not a statement. -/
inductive StatementFault
  /-- The line does not start with a keyword. -/
  | noKeyword (line : String)
  /-- The keyword is not the name of a kind of warning. -/
  | unknownKind (keyword : String)
  /-- The text from here on is not an argument. -/
  | badArguments (rest : String)
  /-- The kind has no such attribute. -/
  | unknownAttribute (kind : WarningKind) (name : String)
  /-- The attribute was given before. -/
  | repeatedAttribute (kind : WarningKind) (name : String)
  /-- Some attributes were not given. -/
  | missingAttributes (kind : WarningKind) (names : List String) (line : String)
  /-- The attributes do not make a warning. -/
  | invalidAttributes (kind : WarningKind)
deriving DecidableEq, Repr

/-- Why an operation has no result. -/
inductive Failure
  /-- A syntax object has no kind. -/
  | nodeWithoutKind (keys : List String)
  /-- There is no syntax dump beside a source file. -/
  | dumpMissing (source dump : String)
  /-- A syntax dump is not JSON. -/
  | dumpCorrupt (dump : String)
  /-- A syntax dump has no tree. -/
  | dumpWithoutTree (dump : String)
  /-- A node has a form that the analysis does not cover. -/
  | unsupportedShape (construct found : String) (kind : Json) (file : String) (excerpt : Json)
  /-- A module was asked for that is not known. -/
  | unknownModule (name : String)
  /-- A known-warnings text has a faulty line. -/
  | badStatement (file : String) (line : Nat) (fault : StatementFault)
  /-- A module was made without a directory. -/
  | moduleWithoutPath
  /-- A metadata file is not JSON. -/
  | metadataUnreadable (path : String)
  /-- A state file cannot be read. -/
  | stateUnreadable (path : String)
  /-- A state file is not a snapshot. -/
  | stateInvalid (path : String)
  /-- A configuration file cannot be read. -/
  | configInvalid (path : String)
  /-- The directory to analyse is not there. -/
  | baseMissing (path : String)
  /-- The control directory is not there. -/
  | controlMissing (path : String)
  /-- The control directory is not a control repository. -/
  | notControlRepo (path : String)
  /-- A directory of the modulepath is not there. -/
  | modulepathMissing (path : String)
  /-- There is neither a modulepath nor a module. -/
  | nothingToScan (path : String)
  /-- There is no scanned module to resolve. -/
  | nothingScanned
  /-- A snapshot was asked for and none is configured. -/
  | noSnapshotConfigured
  /-- A snapshot is to be written and no file is configured. -/
  | noStateFile
  /-- Warnings are to be written and no file is configured. -/
  | noKnownWarningsFile
  /-- The result was asked for before resolving. -/
  | notResolved
  /-- Data has the wrong type or an unknown name in it. -/
  | invalidData
  /-- A text does not denote a value of its type. -/
  | badValue
  /-- A file is not JSON. -/
  | malformedJson
  /-- A file or directory cannot be opened. -/
  | fileSystem
  /-- A value has a type for which the operation is not defined. -/
  | undefinedOperation
deriving Inhabited

/-- Stands for the words of another reader. -/
def Failure.detail : String := "<detail>"

/-- The text of a fault in a statement. -/
def StatementFault.message : StatementFault → String
  | .noKeyword line => "cannot parse statement: " ++ line
  | .unknownKind keyword => "unknown warning type '" ++ keyword ++ "'"
  | .badArguments rest => "cannot parse arguments near '" ++ rest ++ "'"
  | .unknownAttribute kind name => "invalid " ++ kind.label ++ " option " ++ name
  | .repeatedAttribute kind name => kind.label ++ " option " ++ name ++ " given twice"
  | .missingAttributes kind names line =>
    kind.label ++ " missing argument(s) " ++ String.intercalate ", " names ++ ": " ++ line
  | .invalidAttributes kind => "invalid " ++ kind.label ++ " declaration: " ++ Failure.detail

/-- The text that tells a user the cause, where there is one. -/
def Failure.message? : Failure → Option String
  | .nodeWithoutKind keys => "Malformed syntax tree node (no 'kind'): " ++ Json.quotedNames keys
  | .dumpMissing source dump =>
    "No syntax tree dump for " ++ source ++ " (expected " ++ dump ++ ")"
  | .dumpCorrupt dump => "Corrupt syntax tree dump " ++ dump ++ ": " ++ detail
  | .dumpWithoutTree dump => "Syntax tree dump " ++ dump ++ " has no 'tree' entry"
  | .unsupportedShape construct found _ file _ =>
    let text := "Unknown " ++ construct ++ " " ++ found
    if file == "" then text else file ++ ": " ++ text
  | .unknownModule name => "Module " ++ name ++ " has not been scanned"
  | .badStatement file line fault => file ++ ":" ++ toString line ++ ": " ++ fault.message
  | .moduleWithoutPath => "Required parameter path missing"
  | .metadataUnreadable path => "Unable to read metadata file " ++ path ++ ": " ++ detail
  | .stateUnreadable path => "Unable to read state file " ++ path ++ ": " ++ detail
  | .stateInvalid path => "Invalid state file " ++ path ++ ": " ++ detail
  | .configInvalid path => "Invalid configuration file " ++ path ++ ": " ++ detail
  | .baseMissing path => "basedir " ++ path ++ " does not exist"
  | .controlMissing path => "controldir " ++ path ++ " does not exist"
  | .notControlRepo path =>
    "controldir " ++ path ++ " does not appear to be a control repository"
  | .modulepathMissing path => "modulepath directory " ++ path ++ " does not exist"
  | .nothingToScan path => "No modulepath found for " ++ path ++ " and it is not a module"
  | .nothingScanned =>
    "No parsed modules found! Check the modulepath or generate syntax dumps first."
  | .noSnapshotConfigured =>
    "--use-generated-state specified but no control repository found. " ++
      "Use --state-file or --controldir."
  | .noStateFile => "No state file configured"
  | .noKnownWarningsFile => "No known warnings file configured"
  | .notResolved => "No dependencies defined! Did you run resolve?"
  | .invalidData | .badValue | .malformedJson | .fileSystem | .undefinedOperation => none

/-- A computation in two steps goes through if both do. -/
theorem exceptBind_eq_ok {α β : Type} {outcome : Except Failure α} {next : α → Except Failure β}
    {result : β} :
    (outcome >>= next) = .ok result ↔ ∃ value, outcome = .ok value ∧ next value = .ok result := by
  cases outcome with
  | error failure => simp [bind, Except.bind]
  | ok value => simp [bind, Except.bind]

/-- It fails where one of them does. -/
theorem exceptBind_eq_error {α β : Type} {outcome : Except Failure α}
    {next : α → Except Failure β} {failure : Failure} :
    (outcome >>= next) = .error failure ↔
      outcome = .error failure ∨ ∃ value, outcome = .ok value ∧ next value = .error failure := by
  cases outcome with
  | error found => simp [bind, Except.bind]
  | ok value => simp [bind, Except.bind]

end ModuleGraph
