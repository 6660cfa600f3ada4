import ModuleGraph.Config
import ModuleGraph.Text.Integer

/-!
# The command line

A command line is a command with options. `Arguments.parse` reads it. An option has a short name,
a long name, or both. A long name may be shortened as long as it stays unambiguous. The value of an
option is the next argument, or is attached to it: after `=`, or directly after a short name. What
is attached in either way to a short name without a value are more short names, of which the last
one may have a value; there an `=` is part of the value. An attached `--` is no value.

A command line that cannot be read, and one that asks for help or for the version, is dismissed
without carrying out a command. An argument that belongs to no option is noticed only after all
others have been read.
-/

namespace ModuleGraph

/-- The options of all commands. -/
inductive Switch
  | help
  | version
  | basedir
  | controldir
  | modulepath
  | useEnvModulepath
  | scan
  | knownWarnings
  | stateFile
  | builtins
  | treeSuffix
  | warningsOk
  | verbose
  | quiet
  | module
  | recurse
  | restrict
  | extraDependency
  | useGeneratedState
  | rescanListedModules
  | out
deriving DecidableEq, Repr, Inhabited

namespace Switch

/-- The names of an option. -/
def names : Switch → List String
  | .help => ["-h", "--help"]
  | .version => ["--version"]
  | .basedir => ["-b", "--basedir"]
  | .controldir => ["-c", "--controldir"]
  | .modulepath => ["-p", "--modulepath"]
  | .useEnvModulepath => ["-P", "--use-env-modulepath"]
  | .scan => ["-s", "--scan"]
  | .knownWarnings => ["-k", "--known-warnings"]
  | .stateFile => ["-f", "--state-file"]
  | .builtins => ["--builtins"]
  | .treeSuffix => ["--tree-suffix"]
  | .warningsOk => ["-w", "--warnings-ok"]
  | .verbose => ["-v", "--verbose"]
  | .quiet => ["-q", "--quiet"]
  | .module => ["-m", "--module"]
  | .recurse => ["-r", "--recurse"]
  | .restrict => ["-R", "--restrict"]
  | .extraDependency => ["-x", "--extra-dependency"]
  | .useGeneratedState => ["-u", "--use-generated-state"]
  | .rescanListedModules => ["-S", "--rescan-listed-modules"]
  | .out => ["-o", "--out"]

/-- What the value of an option is called, if it has one. -/
def valueName? : Switch → Option String
  | .basedir => some "BASEDIR"
  | .controldir => some "CONTROLDIR"
  | .modulepath => some "MODULEPATH"
  | .scan => some "SCAN_MODULES"
  | .knownWarnings => some "KNOWN_WARNINGS"
  | .stateFile => some "STATE_FILE"
  | .builtins => some "BUILTINS"
  | .treeSuffix => some "TREE_SUFFIX"
  | .module => some "MODULES"
  | .extraDependency => some "EXTRA_DEPENDENCIES"
  | .out => some "OUT"
  | _ => none

/-- The option has a value. -/
def takesValue (switch : Switch) : Bool :=
  switch.valueName?.isSome

/-- The options before the command. -/
def ofProgram : List Switch := [.help, .version]

/-- The options that every command has. -/
def common : List Switch :=
  [.help, .basedir, .controldir, .modulepath, .useEnvModulepath, .scan, .knownWarnings,
    .stateFile, .builtins, .treeSuffix, .warningsOk, .verbose, .quiet]

end Switch

/-- What the program can do. -/
inductive Command
  | resolve
  | state
  | knownWarnings
deriving DecidableEq, Repr, Inhabited

namespace Command

/-- All commands. -/
def all : List Command := [.resolve, .state, .knownWarnings]

/-- The name of a command. -/
def name : Command → String
  | .resolve => "resolve"
  | .state => "state"
  | .knownWarnings => "known-warnings"

/-- The command with a name. -/
def ofName? : String → Option Command
  | "resolve" => some .resolve
  | "state" => some .state
  | "known-warnings" => some .knownWarnings
  | _ => none

/-- The options of a command. -/
def switches : Command → List Switch
  | .resolve => Switch.common ++
      [.module, .recurse, .restrict, .extraDependency, .useGeneratedState, .rescanListedModules]
  | .state => Switch.common
  | .knownWarnings => Switch.common ++ [.out]

/-- Commands are found by their names. -/
@[simp] theorem ofName?_name (command : Command) : ofName? command.name = some command := by
  cases command <;> rfl

end Command

/-- Why a command line is not carried out. -/
inductive Dismissal
  /-- It cannot be read. -/
  | misuse
  /-- It asked for help with a command, or with the program. -/
  | help (command : Option Command)
  /-- It asked for the version. -/
  | version
deriving DecidableEq, Repr, Inhabited

/-- The exit code of a command line that is not carried out. -/
def Dismissal.exitCode : Dismissal → Nat
  | .misuse => 2
  | .help _ | .version => 0

namespace CommandLine

/-- What an argument is by its form. -/
inductive Token
  /-- A value, a command or a stray word. -/
  | plain (text : String)
  /-- An option, by a short name or not, and the text attached to it. -/
  | option (switch : Switch) (short : Bool) (attached : Option (List Char))
  /-- The form of an option, but none that is known. -/
  | unknown
  /-- The mark after which everything is plain. -/
  | divider
deriving Inhabited

/-- The option with an exact name. -/
def named? (switches : List Switch) (name : String) : Option Switch :=
  switches.find? fun switch => switch.names.contains name

/-- The options with a long name that starts with a text. -/
def abbreviated (switches : List Switch) (start : List Char) : List Switch :=
  switches.flatMap fun switch =>
    (switch.names.filter fun name => start.isPrefixOf name.toList).map fun _ => switch

/-- The characters of a negative number: digits, with a fraction or not. A line break may follow. -/
def isNegativeNumber (text : List Char) : Bool :=
  let isDigit (c : Char) : Bool := (Text.digitValue? c).isSome
  match text with
  | '-' :: rest =>
    match rest.dropWhile isDigit with
    | [] => !rest.isEmpty
    | ['\n'] => rest != ['\n']
    | '.' :: fraction =>
      let after := fraction.dropWhile isDigit
      after != fraction && (after.isEmpty || after == ['\n'])
    | _ => false
  | _ => false

/-- What an argument is that has the form of an option without being its exact name. -/
def classifyOption (switches : List Switch) (text : List Char) : Except Dismissal Token :=
  let name := text.takeWhile (· != '=')
  let attached : Option (List Char) :=
    match text.dropWhile (· != '=') with
    | _ :: value => some value
    | [] => none
  let otherwise : Token :=
    if isNegativeNumber text || text.contains ' ' then .plain (String.ofList text) else .unknown
  match attached.bind fun _ => named? switches (String.ofList name) with
  | some switch => .ok (.option switch (name.length == 2) attached)
  | none =>
    match text with
    | '-' :: '-' :: _ =>
      match abbreviated switches name with
      | [] => .ok otherwise
      | [switch] => .ok (.option switch false attached)
      | _ => .error .misuse
    | '-' :: c :: value =>
      match named? switches (String.ofList ['-', c]) with
      | some switch => .ok (.option switch true (some value))
      | none => .ok otherwise
    | _ => .ok otherwise

/-- What an argument is. -/
def classify (switches : List Switch) (argument : String) : Except Dismissal Token :=
  match argument.toList with
  | '-' :: c :: rest =>
    match named? switches argument with
    | some switch => .ok (.option switch (c != '-') none)
    | none => classifyOption switches ('-' :: c :: rest)
  | _ => .ok (.plain argument)

/-- What the arguments are; behind the divider all are plain. -/
def classifyAll (switches : List Switch) : List String → Except Dismissal (List Token)
  | [] => .ok []
  | argument :: rest =>
    if argument = "--" then .ok (.divider :: rest.map .plain)
    else do
      let token ← classify switches argument
      return token :: (← classifyAll switches rest)

/-- An option that was given, with its value if it has one. -/
structure Given where
  /-- The option. -/
  switch : Switch
  /-- Its value. -/
  value : Option String := none
deriving Inhabited

/-- The value of an option as a setting. An option that was given without a value has an empty list
of values. -/
def Given.setting (option : Given) : Json :=
  match option.value with
  | some text => .str text
  | none => .arr []

/-- An option with the text attached to it as its value. -/
def withAttached (switch : Switch) (attached : List Char) : Given :=
  ⟨switch, if attached = ['-', '-'] then none else some (String.ofList attached)⟩

/-- The options in one argument: those complete in themselves, and one that still needs a value. -/
structure Group where
  /-- The complete options. -/
  given : List Given := []
  /-- The option whose value is the next argument. -/
  open? : Option Switch := none

/-- Reads short options joined after one without a value. -/
def readJoined (switches : List Switch) : List Char → Except Dismissal Group
  | [] => .ok {}
  | c :: rest =>
    match named? switches (String.ofList ['-', c]) with
    | none => .error .misuse
    | some switch =>
      if !switch.takesValue then do
        let group ← readJoined switches rest
        return { group with given := ⟨switch, none⟩ :: group.given }
      else if rest.isEmpty then .ok { open? := some switch }
      else .ok { given := [withAttached switch rest] }

/-- Reads the options in one argument. -/
def readGroup (switches : List Switch) (switch : Switch) (short : Bool) :
    Option (List Char) → Except Dismissal Group
  | none =>
    if switch.takesValue then .ok { open? := some switch }
    else .ok { given := [⟨switch, none⟩] }
  | some attached =>
    if switch.takesValue then .ok { given := [withAttached switch attached] }
    else if short && !attached.isEmpty then do
      let group ← readJoined switches attached
      return { group with given := ⟨switch, none⟩ :: group.given }
    else .error .misuse

/-- Options that ask for information, of a command or of the program, end the reading at once. -/
def checkInformation (command : Option Command) : List Given → Except Dismissal Unit
  | [] => .ok ()
  | option :: rest =>
    match option.switch with
    | .help => .error (.help command)
    | .version => .error .version
    | _ => checkInformation command rest

/-- Reads the options of a command among tokens, and says whether a token belongs to none. -/
def readOptions (command : Command) : List Token → Except Dismissal (List Given × Bool)
  | [] => .ok ([], false)
  | .plain _ :: rest | .unknown :: rest | .divider :: rest => do
    let (given, _) ← readOptions command rest
    return (given, true)
  | .option switch short attached :: rest => do
    let group ← readGroup command.switches switch short attached
    match group.open?, rest with
    | none, rest =>
      checkInformation command group.given
      let (given, stray) ← readOptions command rest
      return (group.given ++ given, stray)
    | some open?, .plain value :: rest =>
      checkInformation command group.given
      let (given, stray) ← readOptions command rest
      return (group.given ++ ⟨open?, some value⟩ :: given, stray)
    | some _, _ => .error .misuse

/-- Finds the command behind the options of the program: the command, its arguments, and whether
something before it belongs to no option. -/
def readCommand : List (Token × List String) → Except Dismissal (Command × List String × Bool)
  | [] => .error .misuse
  | (.plain name, rest) :: _ =>
    match Command.ofName? name with
    | some command => .ok (command, rest, false)
    | none => .error .misuse
  | (.unknown, _) :: more => do
    let (command, rest, _) ← readCommand more
    return (command, rest, true)
  | (.divider, _) :: _ => .error .misuse
  | (.option switch short attached, _) :: more => do
    let group ← readGroup Switch.ofProgram switch short attached
    checkInformation none group.given
    readCommand more

/-- Every argument with those that follow it. -/
def withRest : List String → List (List String)
  | [] => []
  | _ :: rest => rest :: withRest rest

end CommandLine

/-- A command with its options. -/
structure Arguments where
  /-- The command. -/
  command : Command
  /-- The options, in the order they were given. -/
  given : List CommandLine.Given := []
deriving Inhabited

namespace Arguments

/-- The values that were given to an option, in order. -/
def values (arguments : Arguments) (switch : Switch) : List Json :=
  (arguments.given.filter fun option => option.switch = switch).map CommandLine.Given.setting

/-- How many times an option was given. -/
def times (arguments : Arguments) (switch : Switch) : Nat :=
  (arguments.values switch).length

/-- The value of an option of which the last value counts. -/
def single (arguments : Arguments) (switch : Switch) : Json :=
  (arguments.values switch).getLast?.getD .null

/-- The values of an option of which all values count. -/
def all (arguments : Arguments) (switch : Switch) : Json :=
  match arguments.values switch with
  | [] => .null
  | values => .arr values

/-- The setting of an option without a value. -/
def flag (arguments : Arguments) (switch : Switch) : Json :=
  if arguments.times switch = 0 then .null else .bool true

/-- How many times more records were asked for. -/
def verbose (arguments : Arguments) : Nat :=
  arguments.times .verbose

/-- Only errors are wanted. -/
def quiet (arguments : Arguments) : Bool :=
  arguments.times .quiet != 0

/-- The file that warnings are written to. -/
def out (arguments : Arguments) : Option Path :=
  match arguments.single .out with
  | .str text => some (.ofText text)
  | _ => none

/-- When resolving, asking for a snapshot in any way restores it. -/
def asksForState (arguments : Arguments) : Bool :=
  arguments.command = .resolve &&
    (arguments.times .useGeneratedState != 0 || arguments.times .rescanListedModules != 0 ||
      arguments.single .stateFile matches .str _)

/-- What is asked for in place of the settings. -/
def overrides (arguments : Arguments) : Overrides where
  path := arguments.single .basedir
  controlDir := arguments.single .controldir
  modulepath := arguments.all .modulepath
  useEnvModulepath := arguments.flag .useEnvModulepath
  modules := arguments.all .module
  scanModules := arguments.all .scan
  restrictScan := arguments.flag .restrict
  recurse := arguments.flag .recurse
  extraDependencies := arguments.all .extraDependency
  knownWarningsFile := arguments.single .knownWarnings
  stateFile := arguments.single .stateFile
  useState := if arguments.asksForState then .bool true else .null
  rescanListedModules := arguments.flag .rescanListedModules
  builtinsFile := arguments.single .builtins
  treeSuffix := arguments.single .treeSuffix
  warningsOk := arguments.flag .warningsOk

/-- Reads a command line. -/
def parse (line : List String) : Except Dismissal Arguments := do
  let tokens ← CommandLine.classifyAll Switch.ofProgram line
  let (command, rest, strayBefore) ←
    CommandLine.readCommand (tokens.zip (CommandLine.withRest line))
  let (given, strayAfter) ←
    CommandLine.readOptions command (← CommandLine.classifyAll command.switches rest)
  if strayBefore || strayAfter then throw .misuse
  return { command, given }

end Arguments

end ModuleGraph
