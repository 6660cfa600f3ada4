import ModuleGraph.Environment
import ModuleGraph.Json.Decode
import ModuleGraph.Json.Elements
import ModuleGraph.Module.Directory
import ModuleGraph.Resolution
import ModuleGraph.Syntax.Dump
import ModuleGraph.Toml

/-!
# Configuration

The `Config` of a run comes from a settings file and from overrides. The settings file is
`.deptool/config.toml` in the analysed directory or the nearest one above it. Paths in it are
relative to the directory that holds `.deptool`, and paths among the overrides to the working
directory. A setting is a value of any type in both places. Where a path or a list is called for,
a value that cannot serve as one is an error at once; the types of all other values are checked
last.

Modules are searched in the given directories, else in those that the control repository names,
else in the fixtures of the analysed module.
-/

namespace ModuleGraph

/-- What a user asks for in place of the settings file. A null value asks for nothing. -/
structure Overrides where
  /-- The directory to analyse. -/
  path : Json := .null
  /-- The control repository of the environment. -/
  controlDir : Json := .null
  /-- The directories that hold modules. -/
  modulepath : Json := .null
  /-- Add the directories that the control repository names. -/
  useEnvModulepath : Json := .null
  /-- The modules to resolve. -/
  modules : Json := .null
  /-- The modules to scan. -/
  scanModules : Json := .null
  /-- Scan only the modules to resolve. -/
  restrictScan : Json := .null
  /-- Resolve dependencies of dependencies. -/
  recurse : Json := .null
  /-- Names added to the result. -/
  extraDependencies : Json := .null
  /-- The file of known warnings. -/
  knownWarningsFile : Json := .null
  /-- The file of the snapshot. -/
  stateFile : Json := .null
  /-- Restore the snapshot. -/
  useState : Json := .null
  /-- Scan the listed modules again on top of the snapshot. -/
  rescanListedModules : Json := .null
  /-- A catalogue of builtin symbols. -/
  builtinsFile : Json := .null
  /-- The suffix of syntax dumps. -/
  treeSuffix : Json := .null
  /-- Tolerate warnings. -/
  warningsOk : Json := .null
deriving Inhabited

/-- The configuration of a run. -/
structure Config where
  /-- The directory to analyse. -/
  path : Path
  /-- The control repository of the environment. -/
  controlDir : Option Path := none
  /-- The directories that hold modules. -/
  modulepath : List Path := []
  /-- The directories that the control repository names were asked for. -/
  useEnvModulepath : Bool := false
  /-- The modules to resolve. -/
  modules : List String := []
  /-- The modules to scan. -/
  scanModules : List String := []
  /-- Scan only the modules to resolve. -/
  restrictScan : Bool := false
  /-- Resolve dependencies of dependencies. -/
  recurse : Bool := false
  /-- Names added to the result. -/
  extraDependencies : List String := []
  /-- The control modules. -/
  controlModules : List String := defaultControlModules
  /-- The file of known warnings. -/
  knownWarningsFile : Option Path := none
  /-- The file of the snapshot. -/
  stateFile : Option Path := none
  /-- Restore the snapshot. -/
  useState : Bool := false
  /-- Scan the listed modules again on top of the snapshot. -/
  rescanListedModules : Bool := false
  /-- A catalogue of builtin symbols. -/
  builtinsFile : Option Path := none
  /-- The suffix of syntax dumps. -/
  treeSuffix : String := defaultSuffix
  /-- Tolerate warnings. -/
  warningsOk : Bool := false
deriving Inhabited

namespace Config

/-- The directory that the names of files are relative to. -/
def environmentPath (config : Config) : Path :=
  config.controlDir.getD config.path

/-- The directory of the settings file and of the default files. -/
def settingsDirectory : String := ".deptool"

/-- The settings that hold in a directory, and the directory they are relative to. -/
def loadSettings (files : FileSystem) : List Path →
    Except Failure (Table String Json × Option Path)
  | [] => .ok ([], none)
  | directory :: rest => do
    let path := (directory.child settingsDirectory).child "config.toml"
    if ← files.isFile path then
      match Text.decode? (← files.readBytes path) with
      | none => throw .undefinedOperation
      | some text =>
        match Toml.parse (files.limits path).settings text with
        | .ok settings => return (settings, some directory)
        | .error fault => throw (fault.toFailure (.configInvalid path.toText))
    else loadSettings files rest

/-- The path in a setting. -/
def settingPath : Json → Except Failure Path
  | .str text => .ok (.ofText text)
  | _ => .error .undefinedOperation

/-- The settings of a file together with the directory that their paths are relative to. -/
structure Settings where
  /-- The settings by name. -/
  table : Table String Json
  /-- The directory that paths are relative to. -/
  base : Path

namespace Settings

/-- A path that is overridden, or set in the file. -/
def path? (settings : Settings) (files : FileSystem) (override : Json) (key : String) :
    Except Failure (Option Path) :=
  match override, settings.table.get? key with
  | .null, none => .ok none
  | .null, some value => do
    return some (← files.absolute (settings.base.join (← settingPath value)))
  | value, _ => do return some (← files.absolute (← settingPath value))

/-- A flag that is overridden, or set in the file, or off. -/
def flag (settings : Settings) (override : Json) (key : String) : Json :=
  match override with
  | .null => .bool (((settings.table.get? key).map Json.isTruthy).getD false)
  | value => value

/-- The directories that hold modules, as far as they are given. -/
def givenModulepath (settings : Settings) (files : FileSystem) (override : Json) :
    Except Failure (List Path) :=
  if override.isTruthy then do
    (← override.elements).mapM fun item => do files.absolute (← settingPath item)
  else
    match settings.table.get? "modulepath" with
    | some value => do
      (← value.elements).mapM fun item => do
        files.absolute (settings.base.join (← settingPath item))
    | none => .ok []

/-- The list in a setting, or a default. -/
def list (settings : Settings) (key : String) (default : List String) :
    Except Failure (List Json) :=
  match settings.table.get? key with
  | some value => value.elements
  | none => .ok (default.map .str)

end Settings

/-- The directories that hold modules where none are given. -/
def discoverModulepath (files : FileSystem) (root : Path) (control : Option Path) :
    Except Failure (List Path) := do
  let control ←
    match control with
    | some path => pure (some path)
    | none => do pure (if ← isControlRepo files root then some root else none)
  let entries ←
    match control with
    | some path => Environment.modulepathOf files path
    | none => pure []
  if entries.isEmpty then
    let fixtures := ((root.child "spec").child "fixtures").child "modules"
    if ← files.isDirectory fixtures then return [← files.absolute fixtures] else return []
  else return entries

/-- The control repository: one that is chosen must be one, and else the analysed directory counts
if it is one. -/
def chooseControl (files : FileSystem) (root : Path) (chosen : Option Path) :
    Except Failure (Option Path) := do
  match chosen with
  | some path =>
    if !(← files.isDirectory path) then throw (.controlMissing path.toText)
    if !(← isControlRepo files path) then throw (.notControlRepo path.toText)
    return some path
  | none => return if ← isControlRepo files root then some root else none

/-- The directories that hold modules. -/
def chooseModulepath (files : FileSystem) (root : Path) (control : Option Path) (useEnv : Bool)
    (given : List Path) : Except Failure (List Path) := do
  if given.isEmpty then discoverModulepath files root control
  else
    match control with
    | some path =>
      if useEnv then
        return given ++ (← Environment.modulepathOf files path).filter fun entry => entry ∉ given
      else return given
    | none => return given

/-- Every directory of a modulepath must be there. -/
def checkModulepath (files : FileSystem) : List Path → Except Failure Unit
  | [] => .ok ()
  | entry :: rest => do
    if ← files.isDirectory entry then checkModulepath files rest
    else throw (.modulepathMissing entry.toText)

/-- A suffix without blanks around it and with a point at its front. -/
def validSuffix (value : Json) : Except Failure String := do
  match Text.stripChars (← value.toText).toList with
  | [] => throw .invalidData
  | '.' :: rest => return String.ofList ('.' :: rest)
  | suffix => return String.ofList ('.' :: suffix)

/-- The directory to analyse: the working directory where none is given. -/
def rootPath (override : Json) : Except Failure Path :=
  if override.isTruthy then settingPath override else .ok (.ofText "")

/-- The configuration that settings and overrides give. -/
def load (files : FileSystem) (overrides : Overrides) : Except Failure Config := do
  let root ← files.absolute (← rootPath overrides.path)
  if !(← files.isDirectory root) then throw (.baseMissing root.toText)
  let (table, base) ← loadSettings files root.selfAndParents
  let settings : Settings := { table, base := base.getD root }
  let control ←
    chooseControl files root (← settings.path? files overrides.controlDir "control_dir")
  let useEnv := settings.flag overrides.useEnvModulepath "use_env_modulepath"
  let given ← settings.givenModulepath files overrides.modulepath
  let modulepath ← chooseModulepath files root control useEnv.isTruthy given
  checkModulepath files modulepath
  let known ← settings.path? files overrides.knownWarningsFile "known_warnings_file"
  let state ← settings.path? files overrides.stateFile "state_file"
  let default (name : String) : Option Path :=
    control.map fun path => (path.child settingsDirectory).child name
  let extra ← settings.list "extra_dependencies" []
  let moreExtra ← overrides.extraDependencies.givenElements
  let modules ← overrides.modules.givenElements
  let scanModules ← overrides.scanModules.givenElements
  let controlModules ← settings.list "control_modules" defaultControlModules
  let builtinsFile ← settings.path? files overrides.builtinsFile "builtins_file"
  let suffix : Json :=
    if overrides.treeSuffix.isTruthy then overrides.treeSuffix
    else (table.get? "tree_suffix").getD (.str defaultSuffix)
  return {
    path := root
    controlDir := control
    modulepath
    useEnvModulepath := ← useEnv.toFlag
    modules := ← modules.mapM Json.toText
    scanModules := ← scanModules.mapM Json.toText
    restrictScan := ← (settings.flag overrides.restrictScan "restrict_scan").toFlag
    recurse := ← (settings.flag overrides.recurse "recurse").toFlag
    extraDependencies := ← (extra ++ moreExtra).mapM Json.toText
    controlModules := ← controlModules.mapM Json.toText
    knownWarningsFile := known.or (default "known_warnings")
    stateFile := state.or (default "state")
    useState := ← (settings.flag overrides.useState "use_state").toFlag
    rescanListedModules :=
      ← (settings.flag overrides.rescanListedModules "rescan_listed_modules").toFlag
    builtinsFile
    treeSuffix := ← validSuffix suffix
    warningsOk := ← (settings.flag overrides.warningsOk "warnings_ok").toFlag }

end Config

end ModuleGraph
