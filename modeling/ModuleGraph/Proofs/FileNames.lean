import ModuleGraph.Scan
import ModuleGraph.Proofs.PluginFacts

/-!
# Names of files

The files of a module are recorded under names that are seen from the environment. A manifest gets
the way from there, up and down, and a plugin file what remains of its path without that of the
environment, if it lies below it, and else its own path. So the two ways of naming a file agree if
and only if it lies below the environment (`Plugin.Location.sourceName_eq_iff`).

All directories of a loaded configuration start at the one root (`Config.yields_load`), and so do
the files that are found in them.
-/

namespace ModuleGraph

/-! ## Ways between paths -/

namespace Path

/-- What remains of a list was behind what was removed. -/
theorem dropLeading?_eq_some {leads parts rest : List String} :
    dropLeading? leads parts = some rest ↔ parts = leads ++ rest := by
  induction leads generalizing parts with
  | nil => simp [dropLeading?]
  | cons lead leads ih =>
      cases parts with
      | nil => simp [dropLeading?]
      | cons part parts =>
          rw [dropLeading?, List.cons_append, List.cons.injEq]
          split
          · next heq => rw [ih, and_iff_right heq.symm]
          · next hne => exact iff_of_false (by simp) fun h => hne h.1.symm

/-- The path is that of the directory or of something below it. -/
def IsBelow (path directory : Path) : Prop :=
  path.anchor = directory.anchor ∧ directory.parts <+: path.parts

instance (path directory : Path) : Decidable (path.IsBelow directory) :=
  inferInstanceAs (Decidable (_ ∧ _))

/-- What lies below a directory lies below all directories above it. -/
theorem IsBelow.trans {path between directory : Path} (h : path.IsBelow between)
    (h' : between.IsBelow directory) : path.IsBelow directory :=
  ⟨h.1.trans h'.1, h'.2.trans h.2⟩

/-- A child lies below its directory. -/
theorem isBelow_child (directory : Path) (name : String) :
    (directory.child name).IsBelow directory :=
  ⟨rfl, [name], rfl⟩

/-- What remains of a path below a directory. -/
theorem relativeTo?_of_isBelow {path directory : Path} (h : path.IsBelow directory) :
    ∃ rest, path.parts = directory.parts ++ rest ∧
      path.relativeTo? directory = some ⟨"", rest⟩ := by
  obtain ⟨hanchor, rest, hrest⟩ := h
  refine ⟨rest, hrest.symm, ?_⟩
  unfold relativeTo?
  rw [if_pos hanchor, dropLeading?_eq_some.2 hrest.symm]
  rfl

/-- Nothing remains of other paths. -/
theorem relativeTo?_of_not_isBelow {path directory : Path} (h : ¬ path.IsBelow directory) :
    path.relativeTo? directory = none := by
  unfold relativeTo?
  split
  · next hanchor =>
      rw [Option.map_eq_none_iff, Option.eq_none_iff_forall_ne_some]
      intro rest hrest
      exact h ⟨hanchor, rest, (dropLeading?_eq_some.1 hrest).symm⟩
  · rfl

/-- The way to something below a directory goes down only. -/
theorem dropCommon_append (front rest : List String) :
    dropCommon front (front ++ rest) = ([], rest) := by
  induction front with
  | nil => cases rest <;> rfl
  | cons part front ih => rw [List.cons_append, dropCommon, if_pos rfl, ih]

/-- The way to anything else goes up first. -/
theorem exists_dropCommon_cons {start parts : List String} (h : ¬ start <+: parts) :
    ∃ part up down, dropCommon start parts = (part :: up, down) := by
  induction start generalizing parts with
  | nil => exact absurd (List.nil_prefix) h
  | cons part start ih =>
      cases parts with
      | nil => exact ⟨part, start, [], rfl⟩
      | cons other parts =>
          rw [dropCommon]
          split
          · next heq => exact ih fun hprefix => h (List.cons_prefix_cons.2 ⟨heq, hprefix⟩)
          · exact ⟨part, start, other :: parts, rfl⟩

/-- An absolute path is written with its root at the front. -/
theorem head?_toText_of_root {path : Path} (h : path.anchor = "/") :
    path.toText.toList.head? = some '/' := by
  unfold toText
  rw [h]
  simp

/-- A way that goes up first is written with a point at the front. -/
theorem head?_toText_up (parts : List String) :
    (⟨"", ".." :: parts⟩ : Path).toText.toList.head? = some '.' := by
  unfold toText
  simp [String.toList_intercalate]

end Path

/-! ## Two ways of naming a file -/

namespace Plugin.Location

variable {module environment path : Path}

/-- A plugin file below the environment is named like a manifest. -/
theorem sourceName_of_isBelow (h : path.IsBelow environment) :
    sourceName ⟨module, some environment⟩ path = ModuleScan.sourceName environment path := by
  obtain ⟨rest, hparts, hrelative⟩ := Path.relativeTo?_of_isBelow h
  unfold sourceName ModuleScan.sourceName Path.between
  rw [Option.bind_some, hrelative, hparts, Path.dropCommon_append]
  rfl

/-- A plugin file anywhere else is named by its own path. -/
theorem sourceName_of_not_isBelow (h : ¬ path.IsBelow environment) :
    sourceName ⟨module, some environment⟩ path = path.toText := by
  unfold sourceName
  rw [Option.bind_some, Path.relativeTo?_of_not_isBelow h]

/-- A plugin file is named like a manifest only below the environment. -/
theorem sourceName_eq_iff (henvironment : environment.anchor = "/") (hpath : path.anchor = "/") :
    sourceName ⟨module, some environment⟩ path = ModuleScan.sourceName environment path ↔
      path.IsBelow environment := by
  refine ⟨fun hsame => by_contra fun houtside => ?_, sourceName_of_isBelow⟩
  have hprefix : ¬ environment.parts <+: path.parts := fun hprefix =>
    houtside ⟨hpath.trans henvironment.symm, hprefix⟩
  obtain ⟨part, up, down, hcommon⟩ := Path.exists_dropCommon_cons hprefix
  have hup : (ModuleScan.sourceName environment path).toList.head? = some '.' := by
    unfold ModuleScan.sourceName Path.between
    rw [hcommon]
    exact Path.head?_toText_up _
  rw [← hsame, sourceName_of_not_isBelow houtside, Path.head?_toText_of_root hpath] at hup
  exact absurd hup (by decide)

end Plugin.Location

/-! ## Files in directories -/

namespace FileSystem

variable {files : FileSystem} {directory path : Path} {ending : String}

/-- What is found directly in a directory lies below it. -/
theorem isBelow_of_mem_matching {found : List Path}
    (h : files.matching directory ending = .ok found) (hpath : path ∈ found) :
    path.IsBelow directory := by
  obtain ⟨present, _, hlist⟩ := exceptBind_eq_ok.1 h
  split at hlist
  · cases hlist
    obtain ⟨name, rfl⟩ := exists_of_mem_children (List.mem_filter.1 hpath).1
    exact Path.isBelow_child directory name
  · cases hlist
    cases hpath

/-- So does whatever is selected from it. -/
theorem isBelow_of_mem_select {selection : Entry → List (List String)}
    (h : path ∈ files.select directory selection) : path.IsBelow directory := by
  unfold select at h
  split at h
  · obtain ⟨parts, _, rfl⟩ := List.mem_map.1 h
    exact ⟨rfl, parts, rfl⟩
  · cases h

/-- So does what is found at any depth. -/
theorem isBelow_of_mem_matchingBelow {found : List Path}
    (h : files.matchingBelow directory ending = .ok found) (hpath : path ∈ found) :
    path.IsBelow directory := by
  obtain ⟨present, _, hlist⟩ := exceptBind_eq_ok.1 h
  split at hlist
  · dsimp only at hlist
    split at hlist
    · cases hlist
    · cases hlist
      exact isBelow_of_mem_select (List.mem_filter.1 (List.mem_mergeSort.1 hpath)).1
  · cases hlist
    cases hpath

end FileSystem

/-- A plugin file lies below its module. -/
theorem Plugin.Found.isBelow {files : FileSystem} {location : Plugin.Location} {path : Path}
    (h : Plugin.Found files location path) : path.IsBelow location.module := by
  obtain ⟨parts, found, hfound, hpath⟩ := h
  have hdirectory (parts : List String) (base : Path) :
      (parts.foldl Path.child base).IsBelow base := by
    induction parts generalizing base with
    | nil => exact ⟨rfl, List.prefix_rfl⟩
    | cons part parts ih => exact (ih (base.child part)).trans (Path.isBelow_child base part)
  have hroot : location.root.IsBelow location.module :=
    (Path.isBelow_child _ "puppet").trans (Path.isBelow_child _ "lib")
  have hbelow := (hdirectory parts location.root).trans hroot
  rcases hfound with hfound | hfound
  · exact (FileSystem.isBelow_of_mem_matching hfound hpath).trans hbelow
  · exact (FileSystem.isBelow_of_mem_matchingBelow hfound hpath).trans hbelow

/-! ## Results with a property -/

section Results

variable {α β : Type} {property : α → Prop} {last : β → Prop} {first : Except Failure α}
  {next : α → Except Failure β}

/-- If there is a result, then it has the property. -/
def Yields (property : α → Prop) (outcome : Except Failure α) : Prop :=
  ∀ result, outcome = .ok result → property result

/-- A value with the property is a result with the property. -/
theorem yields_pure {value : α} (h : property value) :
    Yields property (pure value : Except Failure α) := by
  rintro _ ⟨⟩
  exact h

/-- A failure is no result. -/
theorem yields_throw {failure : Failure} :
    Yields property (throw failure : Except Failure α) := by
  rintro _ ⟨⟩

/-- What comes last may rely on what comes first. -/
theorem Yields.bind (hfirst : Yields property first)
    (hnext : ∀ value, property value → Yields last (next value)) :
    Yields last (first >>= next) := by
  intro result hresult
  cases hvalue : first with
  | error failure =>
      rw [hvalue] at hresult
      cases hresult
  | ok value =>
      rw [hvalue] at hresult
      exact hnext value (hfirst value hvalue) result hresult

/-- What comes last may have the property whatever comes first. -/
theorem yields_bind (hnext : ∀ value, Yields last (next value)) : Yields last (first >>= next) :=
  Yields.bind (fun _ _ => trivial) fun value (_ : True) => hnext value

/-- Nothing comes after a failure. -/
theorem yields_throw_bind {failure : Failure} :
    Yields last ((throw failure : Except Failure α) >>= next) := by
  rintro _ ⟨⟩

/-- Each result of a list has the property. -/
theorem yields_mapM {step : β → Except Failure α} (hstep : ∀ item, Yields property (step item))
    (items : List β) : Yields (fun results => ∀ result ∈ results, property result)
      (items.mapM step) := by
  induction items with
  | nil => exact yields_pure (List.forall_mem_nil _)
  | cons item rest ih =>
      rw [List.mapM_cons]
      exact (hstep item).bind fun first hfirst => ih.bind fun others hothers =>
        yields_pure (List.forall_mem_cons.2 ⟨hfirst, hothers⟩)

end Results

/-! ## Directories of a configuration -/

/-- The path starts at the one root. -/
def Path.IsRooted (path : Path) : Prop :=
  path.anchor = "/"

/-- An absolute path starts at the one root. -/
theorem FileSystem.yields_absolute {files : FileSystem} {path : Path} :
    Yields Path.IsRooted (files.absolute path) := by
  unfold FileSystem.absolute
  refine yields_bind fun _ => ?_
  split
  · exact yields_pure rfl
  · exact yields_throw

namespace Config

variable {files : FileSystem}

/-- All directories of the configuration start at the one root. -/
structure Rooted (config : Config) : Prop where
  /-- So does the analysed directory. -/
  path : config.path.IsRooted
  /-- So does the control repository, if there is one. -/
  controlDir : ∀ control, config.controlDir = some control → control.IsRooted
  /-- So do the directories of modules. -/
  modulepath : ∀ directory ∈ config.modulepath, directory.IsRooted

/-- So does the environment. -/
theorem Rooted.environmentPath {config : Config} (h : config.Rooted) :
    config.environmentPath.IsRooted := by
  unfold Config.environmentPath
  cases hcontrol : config.controlDir with
  | none => exact h.path
  | some control => exact h.controlDir control hcontrol

/-- The modulepath of a control repository. -/
theorem yields_modulepathOf {control : Path} :
    Yields (∀ entry ∈ ·, entry.IsRooted) (Environment.modulepathOf files control) := by
  unfold Environment.modulepathOf
  refine yields_bind fun _ => ?_
  split
  · exact yields_bind fun _ => yields_mapM (fun _ => FileSystem.yields_absolute) _
  · exact yields_pure (List.forall_mem_nil _)

/-- A path in a setting. -/
theorem yields_path? {settings : Settings} {override : Json} {key : String} :
    Yields (fun chosen => ∀ path, chosen = some path → path.IsRooted)
      (settings.path? files override key) := by
  have hsome (path : Path) : Yields (fun chosen => ∀ path, chosen = some path → path.IsRooted)
      (do return some (← files.absolute path)) := by
    refine FileSystem.yields_absolute.bind fun found hfound => yields_pure ?_
    rintro _ ⟨⟩
    exact hfound
  unfold Settings.path?
  split
  · exact yields_pure fun _ h => by cases h
  · exact yields_bind fun _ => hsome _
  · exact yields_bind fun _ => hsome _

/-- The modulepath that is given. -/
theorem yields_givenModulepath {settings : Settings} {override : Json} :
    Yields (∀ entry ∈ ·, entry.IsRooted) (settings.givenModulepath files override) := by
  unfold Settings.givenModulepath
  split
  · exact yields_bind fun _ =>
      yields_mapM (fun _ => yields_bind fun _ => FileSystem.yields_absolute) _
  · split
    · exact yields_bind fun _ =>
        yields_mapM (fun _ => yields_bind fun _ => FileSystem.yields_absolute) _
    · exact yields_pure (List.forall_mem_nil _)

/-- The modulepath that is found where none is given. -/
theorem yields_discoverModulepath {root : Path} {control : Option Path} :
    Yields (∀ entry ∈ ·, entry.IsRooted) (discoverModulepath files root control) := by
  unfold discoverModulepath
  have hfixtures (entries : List Path) (hentries : ∀ entry ∈ entries, entry.IsRooted)
      (fixtures : Path) : Yields (∀ entry ∈ ·, entry.IsRooted)
        (if entries.isEmpty then do
          if ← files.isDirectory fixtures then return [← files.absolute fixtures] else return []
        else return entries) := by
    split
    · refine yields_bind fun present => ?_
      split
      · exact FileSystem.yields_absolute.bind fun path hpath =>
          yields_pure (List.forall_mem_singleton.2 hpath)
      · exact yields_pure (List.forall_mem_nil _)
    · exact yields_pure hentries
  have hnone : Yields (∀ entry ∈ ·, entry.IsRooted) (pure [] : Except Failure (List Path)) :=
    yields_pure (List.forall_mem_nil _)
  dsimp only
  split
  all_goals repeat refine yields_bind fun control => ?_
  all_goals split
  · exact yields_modulepathOf.bind fun entries hentries => hfixtures entries hentries _
  · exact hnone.bind fun entries hentries => hfixtures entries hentries _
  · exact yields_modulepathOf.bind fun entries hentries => hfixtures entries hentries _
  · exact hnone.bind fun entries hentries => hfixtures entries hentries _

/-- The modulepath that is chosen. -/
theorem yields_chooseModulepath {root : Path} {control : Option Path} {useEnv : Bool}
    {given : List Path} (hgiven : ∀ entry ∈ given, entry.IsRooted) :
    Yields (∀ entry ∈ ·, entry.IsRooted) (chooseModulepath files root control useEnv given) := by
  unfold chooseModulepath
  split
  · exact yields_discoverModulepath
  · split
    · split
      · refine yields_modulepathOf.bind fun found hfound => yields_pure ?_
        exact List.forall_mem_append.2 ⟨hgiven, fun entry hentry =>
          hfound entry (List.mem_filter.1 hentry).1⟩
      · exact yields_pure hgiven
    · exact yields_pure hgiven

/-- The control repository that is chosen. -/
theorem yields_chooseControl {root : Path} {chosen : Option Path} (hroot : root.IsRooted)
    (hchosen : ∀ path, chosen = some path → path.IsRooted) :
    Yields (fun control => ∀ path, control = some path → path.IsRooted)
      (chooseControl files root chosen) := by
  unfold chooseControl
  split
  · next path =>
      refine yields_bind fun present => ?_
      dsimp only
      split
      · exact yields_throw_bind
      · refine yields_bind fun controlRepo => ?_
        split
        · exact yields_throw_bind
        · exact yields_pure hchosen
  · refine yields_bind fun controlRepo => yields_pure fun path hpath => ?_
    split at hpath
    · cases hpath
      exact hroot
    · cases hpath

/-- A configuration that is loaded has absolute paths. -/
theorem yields_load {overrides : Overrides} : Yields Rooted (load files overrides) := by
  unfold load
  refine yields_bind fun _ => FileSystem.yields_absolute.bind fun root hroot =>
    yields_bind fun present => ?_
  dsimp only
  split
  · exact yields_throw_bind
  · refine yields_bind fun (table, base) => ?_
    dsimp only
    refine yields_path?.bind fun chosen hchosen =>
      (yields_chooseControl hroot hchosen).bind fun control hcontrol =>
      yields_givenModulepath.bind fun given hgiven =>
      (yields_chooseModulepath hgiven).bind fun modulepath hmodulepath => ?_
    iterate 20 refine yields_bind fun _ => ?_
    exact yields_pure ⟨hroot, hcontrol, hmodulepath⟩

end Config

end ModuleGraph
