import ModuleGraph.CommandLine
import ModuleGraph.Text.Fill

/-!
# Help with the command line

`Help.text` is what a user is shown who asks for help with a command or with the program: how the
command line is composed, and what each part of it is for. What a part is for stands in a column of
its own, beside the part if that is short and below it otherwise.

`Dismissal.output` is what is printed for a command line that is not carried out.
-/

namespace ModuleGraph

namespace Switch

/-- What an option is for. -/
def purpose : Switch → String
  | .help => "show this help message and exit"
  | .version => "show program's version number and exit"
  | .basedir => "Module or control repository to analyze (default: current directory)"
  | .controldir =>
    "Control repository whose environment the analyzed module is checked against"
  | .modulepath =>
    "Modulepath directory. Can be given multiple times " ++
      "(default: environment.conf or spec/fixtures/modules)"
  | .useEnvModulepath =>
    "Append the environment.conf modulepath to directories given with --modulepath"
  | .scan => "Scan only this module. Can be given multiple times (default: all modules)"
  | .knownWarnings => "Known warnings file to load"
  | .stateFile => "State file (default: <controlrepo>/.deptool/state)"
  | .builtins => "Alternative builtin catalog (JSON)"
  | .treeSuffix => "Suffix of syntax tree dumps (default: .json)"
  | .warningsOk => "Return 0 exit code even if there are warnings"
  | .verbose => "Increase log verbosity (-vv for debug)"
  | .quiet => "Only log errors"
  | .module =>
    "Resolve dependencies of this module. Can be given multiple times (default: all modules)"
  | .recurse => "Resolve dependencies transitively"
  | .restrict => "Scan only the modules given with --module"
  | .extraDependency =>
    "Add a module name to the resolved list. Can be given multiple times"
  | .useGeneratedState => "Load the state file instead of scanning every module"
  | .rescanListedModules =>
    "Load the state file but rescan modules given with --scan. Implies --use-generated-state"
  | .out => "Output file (default: the known warnings file)"

/-- The ways to write an option, each with its value. -/
def forms (switch : Switch) : List String :=
  switch.names.map fun name =>
    match switch.valueName? with
    | some value => name ++ " " ++ value
    | none => name

end Switch

/-- What a command is for. -/
def Command.purpose : Command → String
  | .resolve => "Scan modules and print resolved dependencies"
  | .state => "Scan every module and write the state file"
  | .knownWarnings => "Record every current warning as known"

namespace Help

/-- The name of the program. -/
def programName : String := "puppet-deptool"

/-- What the program prints when asked for its version. -/
def version : String := programName ++ " 0.0.1\n"

/-- How many columns a line may have. -/
def width : Nat := 78

/-- Where the column begins that says what something is for. -/
def purposeColumn : Nat := 24

/-- The names of the commands as a choice. -/
def commandChoice : String :=
  "\x7b" ++ ",".intercalate (Command.all.map Command.name) ++ "\x7d"

/-- Options that may be given, each in its first form. -/
def choices (switches : List Switch) : List String :=
  switches.map fun switch => "[" ++ switch.forms.headD "" ++ "]"

/-- How the command line of a command, or of the program, is composed. -/
def usage (command : Option Command) : String :=
  let lead := "usage: "
  let (name, parts) :=
    match command with
    | none => (programName, choices Switch.ofProgram ++ [commandChoice, "..."])
    | some command => (programName ++ " " ++ command.name, choices command.switches)
  let margin := lead.length + name.length + 1
  lead ++ Text.hanging margin (Text.fill width margin lead.length (name :: parts))

/-- A part of the command line, indented, and what it is for. -/
def entry (indent : Nat) (part purpose : String) : String :=
  let part := "".pushn ' ' indent ++ part
  let gap :=
    if part.length + 2 ≤ purposeColumn then "".pushn ' ' (purposeColumn - part.length)
    else "\n" ++ "".pushn ' ' purposeColumn
  let words := purpose.splitOn " "
  part ++ gap ++
    Text.hanging purposeColumn (Text.fill width purposeColumn purposeColumn words)

/-- What the options are for. -/
def options (switches : List Switch) : String :=
  let entries := switches.map fun switch => entry 2 (", ".intercalate switch.forms) switch.purpose
  "\n".intercalate ("options:" :: entries)

/-- What the program is for, and its commands. -/
def overview : List String :=
  let entries := Command.all.map fun command => entry 4 command.name command.purpose
  [programName ++ ": Puppet module dependency resolver",
    "\n".intercalate ("positional arguments:" :: ("  " ++ commandChoice) :: entries)]

/-- What is shown to a user who asks for help with a command, or with the program. -/
def text (command : Option Command) : String :=
  let paragraphs :=
    match command with
    | none => usage none :: overview ++ [options Switch.ofProgram]
    | some command => [usage command, options command.switches]
  "\n\n".intercalate paragraphs ++ "\n"

end Help

/-- What is printed in place of a result. -/
def Dismissal.output : Dismissal → String
  | .misuse => ""
  | .help command => Help.text command
  | .version => Help.version

end ModuleGraph
