import ModuleGraph.Proofs.Endings
import ModuleGraph.Proofs.FileNames
import ModuleGraph.Proofs.Meetings

/-!
# The names that a scan records

A scan records the names of files as sources of references and in errors (`Scanner.Records`). Every
step that reads from a module keeps to names that were recorded before, the names of manifests and
those of plugin files (`keeps_scan`).

So a recorded name is the way from the environment to the file, unless it is that of a plugin file
outside of the environment: such a file is recorded under its own path
(`scan_names_files_from_environment`).
-/

namespace ModuleGraph

/-! ## Steps that keep a property -/

section Keeping

variable {σ α β : Type} {kept : σ → Prop} {step : ExceptT Failure (StateM σ) α}
  {next : α → ExceptT Failure (StateM σ) β}

/-- However the step ends, it keeps a property of the state. -/
def Keeps (kept : σ → Prop) (step : ExceptT Failure (StateM σ) α) : Prop :=
  ∀ state, kept state → kept (runFrom step state).2

/-- One step after another keeps a property, if the second does where the first leads. -/
theorem kept_bind {state : σ} (hstep : kept (runFrom step state).2)
    (hnext : ∀ value between, runFrom step state = (.ok value, between) → kept between →
      kept (runFrom (next value) between).2) : kept (runFrom (step >>= next) state).2 := by
  rw [runFrom_bind]
  cases hrun : runFrom step state with
  | mk outcome between =>
      rw [hrun] at hstep
      cases outcome with
      | ok value => exact hnext value between hrun hstep
      | error failure => exact hstep

/-- One step after another keeps what both keep. -/
theorem Keeps.bind (hstep : Keeps kept step) (hnext : ∀ value, Keeps kept (next value)) :
    Keeps kept (step >>= next) :=
  fun state hstate => kept_bind (hstep state hstate) fun value between _ => hnext value between

/-- A value keeps everything. -/
theorem keeps_pure {value : α} : Keeps kept (pure value) :=
  fun _ h => h

/-- A failure keeps everything. -/
theorem keeps_throw {failure : Failure} :
    Keeps kept (throw failure : ExceptT Failure (StateM σ) α) :=
  fun _ h => h

/-- The state is looked at. -/
theorem keeps_get {next : σ → ExceptT Failure (StateM σ) β}
    (hnext : ∀ state, kept state → Keeps kept (next state)) : Keeps kept (get >>= next) :=
  fun state hstate => hnext state hstate state hstate

/-- The state is looked at, where it is known. -/
theorem kept_get {state : σ} {next : σ → ExceptT Failure (StateM σ) β}
    (hnext : kept (runFrom (next state) state).2) : kept (runFrom (get >>= next) state).2 :=
  hnext

/-- The state is replaced. -/
theorem keeps_set {state : σ} (h : kept state) :
    Keeps kept (set state : ExceptT Failure (StateM σ) PUnit) :=
  fun _ _ => h

/-- The state is changed. -/
theorem keeps_modify {change : σ → σ} (h : ∀ state, kept state → kept (change state)) :
    Keeps kept (modify change : ExceptT Failure (StateM σ) PUnit) :=
  h

/-- An outcome is taken over. -/
theorem keeps_outcome {outcome : Except Failure α}
    (hstep : ∀ state, runFrom step state = (outcome, state)) : Keeps kept step := by
  intro state hstate
  rw [hstep]
  exact hstate

/-- An outcome is taken over, and what comes next may rely on it. -/
theorem keeps_outcome_bind {outcome : Except Failure α}
    (hstep : ∀ state, runFrom step state = (outcome, state))
    (hnext : ∀ value, outcome = .ok value → Keeps kept (next value)) : Keeps kept (step >>= next) :=
  fun state hstate => kept_bind (keeps_outcome hstep state hstate) fun value between hrun =>
    hnext value (congrArg Prod.fst ((hstep state).symm.trans hrun)) between

end Keeping

/-! ## Names that are recorded -/

/-- All sources of references have allowed names. -/
def Dependencies.NamesOnly (allowed : String → Prop) (table : Dependencies) : Prop :=
  ∀ entry ∈ table, ∀ source ∈ entry.sources, allowed source

/-- All errors are in files with allowed names. -/
def Context.NamesOnly (allowed : String → Prop) (context : Context) : Prop :=
  ∀ category error source, .typeError category error source ∈ context.diagnostics.found →
    allowed source

/-- The fact names files with allowed names only. -/
def Fact.NamesOnly (allowed : String → Prop) : Fact → Prop
  | .refer _ _ source => allowed source
  | .report (.typeError _ _ source) _ => allowed source
  | _ => True

/-- What is known of a module that is read names files with allowed names only. -/
structure NamesOnly (allowed : String → Prop) (state : Context × Dependencies) : Prop where
  /-- So do the errors. -/
  errors : state.1.NamesOnly allowed
  /-- So do the references. -/
  references : state.2.NamesOnly allowed

section Facts

variable {allowed : String → Prop} {context : Context} {state : Context × Dependencies}

/-- A file joins the sources of a reference, or is the only source of a new one. -/
theorem Dependencies.NamesOnly.insert {table : Dependencies} (h : table.NamesOnly allowed)
    {source : String} (hsource : allowed source) (category : Category) (name : String) :
    (table.insert category name source).NamesOnly allowed := by
  induction table with
  | nil => exact List.forall_mem_singleton.2 (List.forall_mem_singleton.2 hsource)
  | cons entry rest ih =>
      obtain ⟨hentry, hrest⟩ := List.forall_mem_cons.1 h
      rw [Dependencies.insert]
      split
      · refine List.forall_mem_cons.2 ⟨?_, hrest⟩
        split
        · exact hentry
        · exact List.forall_mem_append.2 ⟨hentry, List.forall_mem_singleton.2 hsource⟩
      · exact List.forall_mem_cons.2 ⟨hentry, ih hrest⟩

/-- Adding an entry from an allowed file. -/
theorem Dependencies.NamesOnly.add {table : Dependencies} (h : table.NamesOnly allowed)
    {source : String} (hsource : allowed source) (category : Category) (name : String) :
    (table.add category name source).NamesOnly allowed := by
  rw [Dependencies.add_eq]
  split
  · exact h
  · exact h.insert hsource category _

/-- A warning is evaluated. -/
theorem Context.NamesOnly.report (h : context.NamesOnly allowed) {warning : Warning}
    (hwarning : ∀ category error source, warning = .typeError category error source →
      allowed source) (message : String) : (context.report warning message).NamesOnly allowed := by
  have hfound : (context.report warning message).diagnostics.found =
      Diagnostics.insertNew context.diagnostics.found warning := by
    unfold Context.report Diagnostics.report
    split
    all_goals
      next heq =>
        obtain ⟨_, rfl⟩ := Prod.mk.inj heq
        rfl
  intro category error source hmem
  rw [hfound] at hmem
  rcases Diagnostics.mem_insertNew.1 hmem with hold | hnew
  · exact h category error source hold
  · exact hwarning category error source hnew.symm

/-- A symbol is defined. If that is reported, then not as an error in a file. -/
theorem Context.NamesOnly.define (h : context.NamesOnly allowed) (category : Category)
    (name source : String) (allowRepeated : Bool) :
    (context.define category name source allowRepeated).2.NamesOnly allowed := by
  unfold Context.define
  dsimp only
  split
  · exact h
  · split
    · exact h
    · have hnoted : NamesOnly allowed
          (context.noteDefinition category (normalizeName name) source) := h
      exact hnoted.report (fun _ _ _ hwarning => by cases hwarning) _

/-- A fact is recorded. -/
theorem NamesOnly.record (h : NamesOnly allowed state) {fact : Fact}
    (hfact : fact.NamesOnly allowed) (owner : String) :
    NamesOnly allowed (Fact.record owner state fact) := by
  cases fact with
  | define category name allowRepeated =>
      exact ⟨h.errors.define category name owner allowRepeated, h.references⟩
  | refer category name source => exact ⟨h.errors, h.references.add hfact category name⟩
  | report warning message =>
      refine ⟨h.errors.report (fun category error source hwarning => ?_) message, h.references⟩
      rw [hwarning] at hfact
      exact hfact
  | note | inherit | unhandled | warn => exact ⟨h.errors, h.references⟩

/-- Facts are recorded in turn. -/
theorem NamesOnly.recordAll (h : NamesOnly allowed state) {facts : List Fact}
    (hfacts : ∀ fact ∈ facts, fact.NamesOnly allowed) (owner : String) :
    NamesOnly allowed (Fact.recordAll owner state facts) := by
  induction facts generalizing state with
  | nil => exact h
  | cons fact rest ih =>
      obtain ⟨hfact, hrest⟩ := List.forall_mem_cons.1 hfacts
      exact ih (h.record hfact owner) hrest

/-- A file is read, whether or not reading it fails. -/
theorem NamesOnly.readSource (h : NamesOnly allowed state) {file : SourceFile}
    (hfile : allowed file.name) (owner : String) (root : Node) :
    NamesOnly allowed (readSource owner file root state).2 := by
  have hfacts : ∀ fact ∈ .note ("Parsing " ++ file.name) :: (root.reading file [] []).facts,
      fact.NamesOnly allowed := by
    refine List.forall_mem_cons.2 ⟨trivial, Node.within_reading_from (fun fact hminor => ?_)
      (fun _ _ _ => trivial) (fun _ _ => trivial) root⟩
    cases fact with
    | refer category name source =>
        obtain rfl : source = file.name := eq_of_beq hminor
        exact hfile
    | report => cases hminor
    | note | define | inherit | unhandled | warn => trivial
  unfold ModuleGraph.readSource
  dsimp only
  split
  · exact h.recordAll hfacts owner
  · refine (h.recordAll hfacts owner).recordAll (fun fact hfact => ?_) owner
    obtain ⟨_, _, rfl⟩ := List.mem_map.1 hfact
    trivial

end Facts

/-! ## Names of files in a run -/

/-- The table names the file as a source of a reference. -/
def Dependencies.Names (table : Dependencies) (source : String) : Prop :=
  ∃ entry ∈ table, source ∈ entry.sources

/-- The snapshot names the file as a source of a reference. -/
def Snapshot.Names (snapshot : Snapshot) (source : String) : Prop :=
  ∃ entry ∈ snapshot.modules, (Module.ofRecord entry.2).dependencies.Names source

/-- The scanner has recorded the name of a file. -/
inductive Scanner.Names (scanner : Scanner) (source : String) : Prop
  /-- As a source of a reference of a module. -/
  | reference {entry : String × Module} (hentry : entry ∈ scanner.modules)
    (hsource : entry.2.dependencies.Names source)
  /-- As a source of a reference of the analysed directory. -/
  | rootReference (hsource : scanner.rootDependencies.Names source)
  /-- In an error. -/
  | error {category : Category} {error : String}
    (hfound : .typeError category error source ∈ scanner.context.diagnostics.found)

section Names

variable (files : FileSystem) (config : Config)

/-- The name of a file of a run: one from its snapshot, that of a manifest, or that of a plugin file
of a directory that it may scan. -/
inductive IsSourceName : String → Prop
  | restored {path : Path} {snapshot : Snapshot} {source : String}
    (hpath : config.stateFile = some path) (hload : Snapshot.load files path = .ok snapshot)
    (hsource : snapshot.Names source) : IsSourceName source
  | manifest {path : Path} (h : IsManifest files config path) :
    IsSourceName (ModuleScan.sourceName config.environmentPath path)
  | plugin {directory path : Path} (hdirectory : Analysed files config directory)
    (hpath : Plugin.Found files ⟨directory, some config.environmentPath⟩ path) :
    IsSourceName (Plugin.Location.sourceName ⟨directory, some config.environmentPath⟩ path)

/-- A plugin file of a directory that a run may scan. -/
def IsPluginFile (path : Path) : Prop :=
  ∃ directory, Analysed files config directory ∧
    Plugin.Found files ⟨directory, some config.environmentPath⟩ path

end Names

/-! ## Reading a module -/

namespace ModuleScan

variable {files : FileSystem} {config running : Config} {allowed : String → Prop} {α : Type}

/-- What is known of the module names files with allowed names only. -/
def NamesOnly (allowed : String → Prop) (state : ModuleScan) : Prop :=
  ModuleGraph.NamesOnly allowed (state.context, state.dependencies)

/-- Reading from the directory goes to the journal. -/
theorem keeps_ask (step : DirectoryRead α) : Keeps (NamesOnly allowed) (ask step) := by
  intro state h
  have hrun : runFrom (ask step) state =
      ((state.directory.read state.context step).1,
        { state with
          directory := (state.directory.read state.context step).2.1
          context := (state.directory.read state.context step).2.2 }) := runFrom_lift _ _
  rw [hrun]
  exact ⟨h.errors, h.references⟩

/-- The context is changed. -/
theorem keeps_update {change : Context → Context}
    (hchange : ∀ context, context.NamesOnly allowed → (change context).NamesOnly allowed) :
    Keeps (NamesOnly allowed) (update change) :=
  keeps_modify fun _ h => ⟨hchange _ h.errors, h.references⟩

/-- Looking for metadata. -/
theorem keeps_checkMetadata (name : String) :
    Keeps (NamesOnly allowed) (checkMetadata files name) := by
  refine (keeps_ask _).bind fun present => ?_
  split
  · exact keeps_pure
  · refine keeps_get fun state _ => (keeps_ask _).bind fun controlRepo => ?_
    split
    · exact keeps_pure
    · exact keeps_update fun context h => h.report (fun _ _ _ hwarning => by cases hwarning) _

section Files

variable (henvironment : running.environmentPath = config.environmentPath)
include henvironment

/-- Reading a manifest. -/
theorem keeps_readManifest {path : Path} (hpath : IsManifest files config path) (owner : String) :
    Keeps (NamesOnly (IsSourceName files config)) (readManifest files running owner path) := by
  refine Keeps.bind (keeps_outcome (runFrom_lift _)) fun tree => keeps_get fun state h => ?_
  let file : SourceFile := ⟨sourceName running.environmentPath path, tree.source⟩
  have hfile : IsSourceName files config file.name := by
    show IsSourceName files config (sourceName running.environmentPath path)
    rw [henvironment]
    exact .manifest hpath
  have hread := ModuleGraph.NamesOnly.readSource h hfile owner tree.root
  exact (keeps_set ⟨hread.errors, hread.references⟩).bind fun _ =>
    (keeps_outcome (runFrom_lift _)).bind fun _ => keeps_pure

/-- Reading the manifests among some paths in turn. -/
theorem keeps_readManifests {paths : List Path}
    (hpaths : ∀ path ∈ paths, IsCandidate files config path) (owner : String) :
    Keeps (NamesOnly (IsSourceName files config)) (readManifests files running owner paths) := by
  induction paths with
  | nil => exact keeps_pure
  | cons path rest ih =>
      obtain ⟨hpath, hrest⟩ := List.forall_mem_cons.1 hpaths
      refine keeps_outcome_bind (runFrom_lift _) fun present hpresent => ?_
      cases present with
      | true => exact ih hrest
      | false =>
          exact (keeps_readManifest henvironment ⟨hpath, hpresent⟩ owner).bind fun _ => ih hrest

/-- Reading the manifests in some directories in turn. -/
theorem keeps_readDirectories {directory : Path} (hdirectory : Analysed files config directory)
    {bases : List Path} (hbases : ∀ base ∈ bases, base ∈ manifestDirectories directory)
    (owner : String) :
    Keeps (NamesOnly (IsSourceName files config)) (readDirectories files running owner bases) := by
  induction bases with
  | nil => exact keeps_pure
  | cons base rest ih =>
      obtain ⟨hbase, hrest⟩ := List.forall_mem_cons.1 hbases
      refine keeps_outcome_bind (runFrom_lift _) fun found hfound => ?_
      have hcandidates : ∀ path ∈ found, IsCandidate files config path := fun path hpath =>
        ⟨directory, base, found, hdirectory, hbase, hfound, hpath⟩
      exact (keeps_readManifests henvironment hcandidates owner).bind fun _ => ih hrest

/-- Reading the plugin files. -/
theorem keeps_readPlugins {directory : Path} (hdirectory : Analysed files config directory)
    (owner : String) :
    Keeps (NamesOnly (IsSourceName files config))
      (readPlugins files running owner directory) := by
  unfold readPlugins
  rw [henvironment]
  have hnamed : (Plugin.pluginFacts files ⟨directory, some config.environmentPath⟩).Within
      (Fact.NamesOnly (IsSourceName files config)) :=
    Plugin.within_pluginFacts (fun _ => trivial) (fun _ => trivial) (fun _ _ => trivial)
      (fun _ _ _ hfound => .plugin hdirectory hfound)
      (fun _ _ _ _ hfound => .plugin hdirectory hfound)
  refine keeps_get fun state h => ?_
  have hrecorded := ModuleGraph.NamesOnly.recordAll h hnamed owner
  exact (keeps_set ⟨hrecorded.errors, hrecorded.references⟩).bind fun _ =>
    (keeps_outcome (runFrom_lift _)).bind fun _ => keeps_pure

/-- Reading a module. -/
theorem names_readModule (state : ModuleScan)
    (hdirectory : Analysed files config state.directory.path)
    (h : state.NamesOnly (IsSourceName files config)) :
    (runFrom (readModule files running) state).2.NamesOnly (IsSourceName files config) := by
  refine kept_bind (keeps_ask _ state h) fun name named hname hnamed => ?_
  have hpath := (quiet_ask ModuleDirectory.steady_readName hname).path
  refine kept_get ?_
  rw [← hpath] at hdirectory
  dsimp only
  refine (?_ : Keeps (NamesOnly (IsSourceName files config)) _) named hnamed
  split
  · exact Keeps.bind (keeps_update fun _ h => h) fun _ => keeps_pure
  · refine (keeps_ask _).bind fun version => ?_
    refine Keeps.bind (keeps_update fun _ h => h) fun _ =>
      (keeps_checkMetadata name).bind fun _ => ?_
    refine (keeps_readDirectories henvironment hdirectory (fun _ hbase => hbase) name).bind
      fun _ => (keeps_readPlugins henvironment hdirectory name).bind fun _ => ?_
    exact keeps_get fun state _ => (keeps_ask _).bind fun _ => keeps_pure

end Files

/-- A module that is read has the references that were found. -/
theorem dependencies_readModule {state state' : ModuleScan} {module : Module}
    (h : runFrom (readModule files running) state = (.ok (some module), state')) :
    module.dependencies = state'.dependencies := by
  obtain ⟨_, _, _, _, _, _, _, hdependencies⟩ := readModule_cases h
  exact hdependencies.symm

end ModuleScan

/-! ## Preparing and scanning -/

/-- Restoring a snapshot reports no error in a file. -/
theorem Context.NamesOnly.restore {allowed : String → Prop} {context : Context}
    (h : context.NamesOnly allowed) (snapshot : Snapshot) (excluded : List String)
    (modules : Table String Module) :
    (snapshot.restore excluded (context, modules)).2.1.NamesOnly allowed := by
  refine List.foldlRecOn (motive := NamesOnly allowed) snapshot.definitions _ h
    fun between hbetween entry _ => ?_
  exact List.foldlRecOn (motive := NamesOnly allowed) _ _ hbetween
    fun earlier hearlier symbol _ => hearlier.define entry.1 symbol.1 symbol.2 false

namespace Scanner

variable {files : FileSystem} {config : Config} {α : Type}

/-- What a run has recorded names its files only. -/
structure NamesOnly (files : FileSystem) (config : Config) (scanner : Scanner) : Prop where
  /-- The environment stays in its place. -/
  environmentPath : scanner.config.environmentPath = config.environmentPath
  /-- So does the snapshot. -/
  stateFile : scanner.config.stateFile = config.stateFile
  /-- The errors are in files of the run. -/
  errors : scanner.context.NamesOnly (IsSourceName files config)
  /-- The references of the analysed directory are from files of the run. -/
  rootReferences : scanner.rootDependencies.NamesOnly (IsSourceName files config)
  /-- So are those of the modules. -/
  references : ∀ entry ∈ scanner.modules, entry.2.dependencies.NamesOnly (IsSourceName files config)

/-- A name that is recorded is that of a file of the run. -/
theorem NamesOnly.isSourceName {scanner : Scanner} (h : scanner.NamesOnly files config)
    {source : String} (hsource : scanner.Names source) : IsSourceName files config source := by
  cases hsource with
  | reference hentry hmem =>
      obtain ⟨reference, hreference, hmem⟩ := hmem
      exact h.references _ hentry reference hreference source hmem
  | rootReference hmem =>
      obtain ⟨reference, hreference, hmem⟩ := hmem
      exact h.rootReferences reference hreference source hmem
  | error hfound => exact h.errors _ _ source hfound

/-- The context is changed. -/
theorem keeps_update {change : Context → Context}
    (hchange : ∀ context, context.NamesOnly (IsSourceName files config) →
      (change context).NamesOnly (IsSourceName files config)) :
    Keeps (NamesOnly files config) (update change) :=
  keeps_modify fun _ h => ⟨h.environmentPath, h.stateFile, hchange _ h.errors, h.rootReferences,
    h.references⟩

/-- Reading from the analysed directory goes to the journal. -/
theorem keeps_askRoot (step : DirectoryRead α) :
    Keeps (NamesOnly files config) (askRoot step) := by
  intro scanner h
  rw [runFrom_askRoot]
  exact ⟨h.environmentPath, h.stateFile, h.errors, h.rootReferences, h.references⟩

/-- Accepting known warnings. -/
theorem keeps_loadKnown (path : Path) :
    Keeps (NamesOnly files config) (loadKnown files path) := by
  refine Keeps.bind (keeps_update fun _ h => h) fun _ => ?_
  refine Keeps.bind (keeps_outcome (runFrom_lift _)) fun text => ?_
  refine Keeps.bind (keeps_outcome (runFrom_lift _)) fun warnings => ?_
  exact Keeps.bind (keeps_update fun _ h => h) fun _ => keeps_pure

/-- Restoring a snapshot of the run. -/
theorem keeps_restoreState {snapshot : Snapshot}
    (hsnapshot : ∀ source, snapshot.Names source → IsSourceName files config source) :
    Keeps (NamesOnly files config) (restoreState snapshot) := by
  refine keeps_get fun scanner h => ?_
  have herrors (excluded : List String) := h.errors.restore snapshot excluded scanner.modules
  refine Keeps.bind (keeps_set ⟨h.environmentPath, h.stateFile, herrors _, h.rootReferences, ?_⟩)
    fun _ => keeps_pure
  refine Table.forall_foldl_put
    (p := fun module : Module => module.dependencies.NamesOnly (IsSourceName files config))
    h.references fun entry hentry reference hreference source hsource => hsnapshot source ?_
  exact ⟨entry, (List.mem_filter.1 hentry).1, reference, hreference, hsource⟩

/-- Choosing what is scanned again. -/
theorem keeps_chooseRescan (snapshot : Snapshot) :
    Keeps (NamesOnly files config) (chooseRescan files snapshot) := by
  refine keeps_get fun scanner _ => ?_
  split
  · refine (keeps_askRoot _).bind fun name => ?_
    split
    · exact (keeps_askRoot _).bind fun controlRepo => keeps_modify fun _ h =>
        ⟨h.environmentPath, h.stateFile, h.errors, h.rootReferences, h.references⟩
    · exact keeps_pure
  · exact keeps_pure

/-- Loading the snapshot. -/
theorem keeps_prepareState : Keeps (NamesOnly files config) (prepareState files) := by
  refine keeps_get fun scanner h => ?_
  split
  · split
    · exact keeps_throw
    · next path hpath =>
        rw [h.stateFile] at hpath
        refine Keeps.bind (keeps_outcome (runFrom_lift _)) fun present => ?_
        split
        · refine Keeps.bind (keeps_update fun _ h => h) fun _ => ?_
          refine keeps_outcome_bind (runFrom_lift _) fun snapshot hload => ?_
          exact (keeps_chooseRescan snapshot).bind fun _ =>
            (keeps_restoreState fun _ hsource => .restored hpath hload hsource).bind fun _ =>
              keeps_pure
        · exact Keeps.bind (keeps_update fun _ h => h) fun _ => keeps_modify fun _ h =>
            ⟨h.environmentPath, h.stateFile, h.errors, h.rootReferences, h.references⟩
  · exact keeps_pure

/-- Preparing a run. -/
theorem keeps_prepare : Keeps (NamesOnly files config) (prepare files) := by
  refine keeps_get fun scanner _ => ?_
  refine Keeps.bind (keeps_outcome (runFrom_lift _)) fun catalogue => ?_
  refine Keeps.bind (keeps_update fun context h => ?_) fun _ => ?_
  · have hkept : Context.KeptByBuiltins (Context.NamesOnly (IsSourceName files config)) :=
      { log := fun h _ _ => h
        warn := fun h _ => h
        define := fun h _ _ => h.define _ _ _ _
        loaded := fun h => h }
    exact hkept.addBuiltins h catalogue
  · split
    · refine Keeps.bind (keeps_outcome (runFrom_lift _)) fun present => ?_
      split
      · exact (keeps_loadKnown _).bind fun _ =>
          Keeps.bind (keeps_update fun _ h => h) fun _ => keeps_prepareState
      · exact keeps_prepareState
    · exact keeps_prepareState

/-- A module that was read is put into the table. -/
theorem NamesOnly.put {scanner : Scanner} (h : scanner.NamesOnly files config) {module : Module}
    (hmodule : module.dependencies.NamesOnly (IsSourceName files config)) (rootListed : Bool) :
    NamesOnly files config
      { scanner with modules := scanner.modules.put module.name module, rootListed } :=
  ⟨h.environmentPath, h.stateFile, h.errors, h.rootReferences, Table.forall_put
    (p := fun module : Module => module.dependencies.NamesOnly (IsSourceName files config))
    h.references module.name hmodule⟩

/-- Scanning another directory. -/
theorem keeps_scanDirectory {directory : ModuleDirectory}
    (hdirectory : Analysed files config directory.path) :
    Keeps (NamesOnly files config) (scanDirectory files directory) := by
  refine keeps_get fun scanner h => ?_
  have hread := ModuleScan.names_readModule h.environmentPath ⟨directory, [], scanner.context⟩
    hdirectory ⟨h.errors, List.forall_mem_nil _⟩
  cases hrun : runFrom (ModuleScan.readModule files scanner.config)
      ⟨directory, [], scanner.context⟩ with
  | mk outcome state =>
      rw [hrun] at hread
      unfold runFrom at hrun
      rw [hrun]
      refine Keeps.bind (keeps_set ⟨h.environmentPath, h.stateFile, hread.errors,
        h.rootReferences, h.references⟩) fun _ => ?_
      refine keeps_outcome_bind (runFrom_lift _) fun found hfound => ?_
      cases hfound
      split
      · exact Keeps.bind (keeps_modify fun _ h =>
          h.put (ModuleScan.dependencies_readModule hrun ▸ hread.references) _) fun _ => keeps_pure
      · exact keeps_pure

/-- Scanning the analysed directory. -/
theorem names_scanRoot {scanner : Scanner} (h : scanner.NamesOnly files config)
    (hroot : scanner.root.path = config.path) :
    (runFrom (scanRoot files) scanner).2.NamesOnly files config := by
  have hread := ModuleScan.names_readModule h.environmentPath
    ⟨scanner.root, scanner.rootDependencies, scanner.context⟩ (hroot ▸ .root)
    ⟨h.errors, h.rootReferences⟩
  refine kept_get ?_
  cases hrun : runFrom (ModuleScan.readModule files scanner.config)
      ⟨scanner.root, scanner.rootDependencies, scanner.context⟩ with
  | mk outcome state =>
      rw [hrun] at hread
      unfold runFrom at hrun
      dsimp only
      rw [hrun]
      dsimp only
      refine (?_ : Keeps (NamesOnly files config) _) scanner h
      refine Keeps.bind (keeps_set ⟨h.environmentPath, h.stateFile, hread.errors,
        hread.references, ?_⟩) fun _ => ?_
      · split
        · refine List.forall_mem_map.2 fun entry hentry => ?_
          split
          · exact hread.references
          · exact h.references entry hentry
        · exact h.references
      · refine keeps_outcome_bind (runFrom_lift _) fun found hfound => ?_
        cases hfound
        split
        · exact Keeps.bind (keeps_modify fun _ h =>
            h.put (ModuleScan.dependencies_readModule hrun ▸ hread.references) _) fun _ =>
              keeps_pure
        · exact keeps_pure

/-- The name of the analysed directory is read where the directory is. -/
theorem rootName_path {scanner scanner' : Scanner} {name : String}
    (h : runFrom (rootName files) scanner = (.ok name, scanner')) :
    scanner'.root.path = scanner.root.path := by
  unfold rootName at h
  rw [runFrom_askRoot] at h
  obtain ⟨hname, rfl⟩ := Prod.mk.inj h
  obtain ⟨⟨journal, hrun⟩, _⟩ := ModuleDirectory.read_eq
    (Prod.ext hname rfl : _ = (Except.ok name, _, _))
  exact (ModuleDirectory.readName_eq_ok hrun).1

/-- Scanning an entry of a directory of modules. -/
theorem keeps_scanEntry {parent : Path} {names : List String} {entry : String}
    (hparent : parent ∈ config.modulepath) (hnames : files.listNames parent = .ok names)
    (hentry : entry ∈ names) (wanted : List String) :
    Keeps (NamesOnly files config) (scanEntry files wanted parent entry) := by
  refine Keeps.bind (keeps_outcome (runFrom_lift _)) fun present => ?_
  split
  · refine keeps_get fun scanner h => ?_
    cases hread : ({ path := parent.child entry } : ModuleDirectory).read scanner.context
        (ModuleDirectory.readName files) with
    | mk outcome after =>
        obtain ⟨directory, context⟩ := after
        have hcontext : context.NamesOnly (IsSourceName files config) := by
          unfold ModuleDirectory.read at hread
          obtain ⟨_, hafter⟩ := Prod.mk.inj hread
          obtain ⟨_, rfl⟩ := Prod.mk.inj hafter
          exact h.errors
        refine Keeps.bind (keeps_set ⟨h.environmentPath, h.stateFile, hcontext, h.rootReferences,
          h.references⟩) fun _ => ?_
        refine keeps_outcome_bind (runFrom_lift _) fun name hname => ?_
        split
        · exact keeps_pure
        · split
          · exact keeps_update fun _ h => h
          · cases hname
            obtain ⟨⟨_, hrun⟩, _⟩ := ModuleDirectory.read_eq hread
            have hpath := (ModuleDirectory.readName_eq_ok hrun).1
            have hplace : Analysed files config directory.path :=
              hpath ▸ .entry hparent hnames hentry
            exact (keeps_scanDirectory hplace).bind fun _ => keeps_pure
  · exact keeps_pure

/-- Scanning entries in turn. -/
theorem keeps_scanEntries {parent : Path} {names entries : List String}
    (hparent : parent ∈ config.modulepath) (hnames : files.listNames parent = .ok names)
    (hentries : ∀ entry ∈ entries, entry ∈ names) (wanted : List String) :
    Keeps (NamesOnly files config) (scanEntries files wanted parent entries) := by
  induction entries with
  | nil => exact keeps_pure
  | cons entry rest ih =>
      obtain ⟨hentry, hrest⟩ := List.forall_mem_cons.1 hentries
      exact (keeps_scanEntry hparent hnames hentry wanted).bind fun _ => ih hrest

/-- Scanning directories of modules in turn. -/
theorem keeps_scanModulepath {parents : List Path}
    (hparents : ∀ parent ∈ parents, parent ∈ config.modulepath) (wanted : List String) :
    Keeps (NamesOnly files config) (scanModulepath files wanted parents) := by
  induction parents with
  | nil => exact keeps_pure
  | cons parent rest ih =>
      obtain ⟨hparent, hrest⟩ := List.forall_mem_cons.1 hparents
      refine Keeps.bind (keeps_update fun _ h => h) fun _ => ?_
      refine keeps_outcome_bind (runFrom_lift _) fun names hnames => ?_
      exact (keeps_scanEntries hparent hnames (fun _ h => h) wanted).bind fun _ => ih hrest

/-- Surfacing the kinds. -/
theorem keeps_summarizeKinds : Keeps (NamesOnly files config) summarizeKinds := by
  refine keeps_get fun scanner _ => ?_
  dsimp only
  split
  · exact Keeps.bind (keeps_outcome (runFrom_lift _)) fun _ => keeps_update fun _ h => h
  · exact keeps_pure

/-- Surfacing the modules that were not scanned. -/
theorem keeps_checkScanned (expected : List String) :
    Keeps (NamesOnly files config) (checkScanned expected) := by
  refine keeps_get fun scanner _ => ?_
  dsimp only
  split
  · exact keeps_pure
  · exact keeps_update fun _ h => h

/-- Scanning, from where the directories are those of the configuration. -/
theorem names_scan {scanner : Scanner} (h : scanner.NamesOnly files config)
    (hroot : scanner.root.path = config.path)
    (hmodulepath : scanner.config.modulepath = config.modulepath) :
    (runFrom (scan files) scanner).2.NamesOnly files config := by
  refine kept_get ?_
  dsimp only
  rw [hmodulepath]
  split
  · exact h
  · refine kept_bind ((?_ : Keeps (NamesOnly files config) _) scanner h)
      fun _ noted hnoted hnotedNames => ?_
    · exact keeps_update fun _ h => h
    cases hnoted
    refine kept_bind (keeps_askRoot _ _ hnotedNames) fun name named hname hnamed => ?_
    have hplace : named.root.path = config.path := (rootName_path hname).trans hroot
    have hrest : Keeps (NamesOnly files config)
        (do
          scanModulepath files (wantedModules scanner.config) config.modulepath
          checkScanned (if (wantedModules scanner.config).isEmpty then scanner.config.modules
            else wantedModules scanner.config)
          summarizeKinds) :=
      (keeps_scanModulepath (fun _ h => h) _).bind fun _ =>
        (keeps_checkScanned _).bind fun _ => keeps_summarizeKinds
    split
    · exact hnamed
    · split
      · exact kept_bind (names_scanRoot hnamed hplace) fun _ between _ hbetween =>
          hrest between hbetween
      · exact hrest named hnamed

/-- A run that is prepared and then scans names its files only. -/
theorem names_prepare_scan :
    (runFrom (do prepare files; scan files) (.start config)).2.NamesOnly files config := by
  have hstart : (start config).NamesOnly files config :=
    ⟨rfl, rfl, fun _ _ _ h => (List.not_mem_nil h).elim, List.forall_mem_nil _,
      List.forall_mem_nil _⟩
  refine kept_bind (keeps_prepare _ hstart) fun _ prepared hprepared hnames => ?_
  have hbegun : (start config).Underway files config := Command.underway_start
  have hunderway := (triple_prepare.ends hprepared hbegun).1 () rfl
  exact names_scan hnames hunderway.root hunderway.modulepath

end Scanner

/-! ## Names seen from the environment -/

section Environment

variable {files : FileSystem} {config : Config} {overrides : Overrides}

/-- The directories that a run may scan start at the one root. -/
theorem Analysed.isRooted {directory : Path} (h : Analysed files config directory)
    (hconfig : config.Rooted) : directory.IsRooted := by
  cases h with
  | root => exact hconfig.path
  | @entry parent _ _ hparent => exact hconfig.modulepath parent hparent

/-- Manifests and plugin files are named the same way below the environment only. Everywhere else, a
plugin file is named by its own path from the root. A run that is prepared and then scans, however
it ends, records names from its snapshot, the ways from the environment to manifests and to plugin
files below it, and the paths from the root of the plugin files that are not below it. -/
theorem names_seen_from_environment (hload : Config.load files overrides = .ok config) :
    (∀ directory path, Analysed files config directory → path.IsBelow directory →
      (Plugin.Location.sourceName ⟨directory, some config.environmentPath⟩ path =
          ModuleScan.sourceName config.environmentPath path ↔
        path.IsBelow config.environmentPath) ∧
      (¬ path.IsBelow config.environmentPath →
        Plugin.Location.sourceName ⟨directory, some config.environmentPath⟩ path = path.toText ∧
          path.toText.toList.head? = some '/')) ∧
    ∀ source, (runFrom (do Scanner.prepare files; Scanner.scan files) (.start config)).2.Names
        source →
      (∃ path snapshot, config.stateFile = some path ∧ Snapshot.load files path = .ok snapshot ∧
        snapshot.Names source) ∨
      (∃ path, (IsManifest files config path ∨
          IsPluginFile files config path ∧ path.IsBelow config.environmentPath) ∧
        source = ModuleScan.sourceName config.environmentPath path) ∨
      ∃ path, IsPluginFile files config path ∧ ¬ path.IsBelow config.environmentPath ∧
        source = path.toText ∧ source.toList.head? = some '/' := by
  have hrooted : config.Rooted := Config.yields_load config hload
  have hroot (directory path : Path) (hdirectory : Analysed files config directory)
      (hpath : path.IsBelow directory) : path.anchor = "/" :=
    hpath.1.trans (hdirectory.isRooted hrooted)
  refine ⟨fun directory path hdirectory hpath => ⟨?_, fun houtside => ⟨?_, ?_⟩⟩,
    fun source hsource => ?_⟩
  · exact Plugin.Location.sourceName_eq_iff hrooted.environmentPath
      (hroot directory path hdirectory hpath)
  · exact Plugin.Location.sourceName_of_not_isBelow houtside
  · exact Path.head?_toText_of_root (hroot directory path hdirectory hpath)
  · have hnames : Scanner.NamesOnly files config _ := Scanner.names_prepare_scan
    cases hnames.isSourceName hsource with
    | restored hpath hsnapshot hmem => exact .inl ⟨_, _, hpath, hsnapshot, hmem⟩
    | @manifest path hpath => exact .inr (.inl ⟨path, .inl hpath, rfl⟩)
    | @plugin directory path hdirectory hpath =>
        have hplugin : IsPluginFile files config path := ⟨directory, hdirectory, hpath⟩
        by_cases hbelow : path.IsBelow config.environmentPath
        · exact .inr (.inl ⟨path, .inr ⟨hplugin, hbelow⟩,
            Plugin.Location.sourceName_of_isBelow hbelow⟩)
        · refine .inr (.inr ⟨path, hplugin, hbelow, ?_⟩)
          rw [Plugin.Location.sourceName_of_not_isBelow hbelow]
          exact ⟨rfl, Path.head?_toText_of_root (hroot directory path hdirectory hpath.isBelow)⟩

end Environment

/-- A module beside a control repository, with a file of a function that declares none and with a
provider. -/
def besideFiles : FileSystem where
  root := .directory [
    ("builtins", .file "\x7b\x7d".toUTF8),
    ("c", .directory [("Puppetfile", .file .empty)]),
    ("app", .directory [
      ("manifests", .directory []),
      ("lib", .directory [
        ("puppet", .directory [
          ("functions", .directory [("f.rb", .file .empty)]),
          ("provider", .directory [
            ("package", .directory [
              ("pip.rb", .file "Puppet::Type.type(:package).provide(:pip) do".toUTF8)])])])])])]

/-- The module is analysed in the environment of the control repository. -/
def besideOverrides : Overrides where
  path := .str "app"
  controlDir := .str "c"
  builtinsFile := .str "builtins"

/-- The configuration that is loaded. -/
def besideConfig : Config where
  path := ⟨"/", ["app"]⟩
  controlDir := some ⟨"/", ["c"]⟩
  knownWarningsFile := some ⟨"/", ["c", ".deptool", "known_warnings"]⟩
  stateFile := some ⟨"/", ["c", ".deptool", "state"]⟩
  builtinsFile := some ⟨"/", ["builtins"]⟩

/-- The run records the paths of both files from the root, in an error and as the source of a
reference, and not the ways to them from the control repository. -/
theorem beside_recorded_from_root :
    Config.load besideFiles besideOverrides = .ok besideConfig ∧
      (∀ path : Path, path.IsBelow besideConfig.path →
        Plugin.Location.sourceName ⟨besideConfig.path, some besideConfig.environmentPath⟩ path ≠
          ModuleScan.sourceName besideConfig.environmentPath path) ∧
      .typeError .function "f: no create_function call found" "/app/lib/puppet/functions/f.rb" ∈
        (runFrom (do Scanner.prepare besideFiles; Scanner.scan besideFiles)
          (.start besideConfig)).2.context.diagnostics.found ∧
      (runFrom (do Scanner.prepare besideFiles; Scanner.scan besideFiles)
          (.start besideConfig)).2.rootDependencies =
        [⟨.resourceType, "package", ["/app/lib/puppet/provider/package/pip.rb"]⟩] := by
  have hload : Config.load besideFiles besideOverrides = .ok besideConfig := rfl
  refine ⟨hload, fun path hpath hsame => ?_, by decide +kernel⟩
  have hbelow := (((names_seen_from_environment hload).1 _ path .root hpath).1).1 hsame
  -- A path cannot be below both directories.
  have hparts : ["c"] = ["app"] := List.IsPrefix.eq_of_length
    (List.prefix_of_prefix_length_le hbelow.2 hpath.2 (by decide)) rfl
  exact absurd hparts (by decide)

end ModuleGraph
