import ModuleGraph.Scan
import ModuleGraph.Proofs.Readings
import ModuleGraph.Proofs.Sources

/-!
# Scanning a directory

The scanner reads a module from its directory, step by step. `scanDirectory_scans_source` says that
a directory that is scanned to its end is scanned like a `ModuleSource`: its manifests are those
that are loaded from the directory, and its plugins say what the plugin files do. Apart from the
diagnostics the run then knows the same.

Most steps are `Quiet`: they read from the directory and add to the diagnostics, but learn nothing
about symbols, inheritance or references.
-/

namespace ModuleGraph

/-! ## Steps that can fail -/

section Steps

variable {ε σ α β : Type}

/-- Runs a step that can fail from a state. -/
def runFrom (step : ExceptT ε (StateM σ) α) (state : σ) : Except ε α × σ :=
  Id.run (StateT.run (ExceptT.run step) state)

/-- Runs one step after another. -/
theorem runFrom_bind {step : ExceptT ε (StateM σ) α} {next : α → ExceptT ε (StateM σ) β}
    {state : σ} :
    runFrom (step >>= next) state =
      (match runFrom step state with
        | (.ok value, between) => runFrom (next value) between
        | (.error failure, between) => (.error failure, between)) := by
  unfold runFrom
  rw [ExceptT.run_bind, StateT.run_bind]
  cases StateT.run (ExceptT.run step) state with
  | mk outcome between => cases outcome <;> rfl

/-- However two steps end, one after the other leads along a relation if each of them does. -/
theorem leads_bind (along : σ → σ → Prop)
    (htrans : ∀ {first second third}, along first second → along second third →
      along first third)
    {step : ExceptT ε (StateM σ) α} {next : α → ExceptT ε (StateM σ) β} {state : σ}
    (hstep : along state (runFrom step state).2)
    (hnext : ∀ value between, runFrom step state = (.ok value, between) →
      along between (runFrom (next value) between).2) :
    along state (runFrom (step >>= next) state).2 := by
  rw [runFrom_bind]
  cases hrun : runFrom step state with
  | mk outcome between =>
      rw [hrun] at hstep
      cases outcome with
      | ok value => exact htrans hstep (hnext value between hrun)
      | error failure => exact hstep

/-- One step after another gives a result if both do. -/
theorem runFrom_bind_eq_ok {step : ExceptT ε (StateM σ) α} {next : α → ExceptT ε (StateM σ) β}
    {state state' : σ} {result : β} :
    runFrom (step >>= next) state = (.ok result, state') ↔
      ∃ value between, runFrom step state = (.ok value, between) ∧
        runFrom (next value) between = (.ok result, state') := by
  rw [runFrom_bind]
  cases runFrom step state with
  | mk outcome between => cases outcome <;> simp

end Steps

/-! ## Reading from a directory -/

namespace ModuleDirectory

variable {α β : Type} {files : FileSystem}

/-- A step that keeps the place of a directory, and its name once that was found. -/
def Steady (step : DirectoryRead α) : Prop :=
  ∀ directory journal value directory' journal',
    runFrom step (directory, journal) = (.ok value, directory', journal') →
      directory'.path = directory.path ∧
        ∀ name, directory.name = some name → directory'.name = some name

/-- Returning a value changes nothing. -/
theorem steady_pure (value : α) : Steady (pure value) := by
  intro directory journal _ directory' journal' h
  cases h
  exact ⟨rfl, fun _ hname => hname⟩

/-- One steady step after another. -/
theorem Steady.bind {step : DirectoryRead α} {next : α → DirectoryRead β} (hstep : Steady step)
    (hnext : ∀ value, Steady (next value)) : Steady (step >>= next) := by
  intro directory journal result directory' journal' h
  obtain ⟨value, ⟨between, entries⟩, hfirst, hsecond⟩ := runFrom_bind_eq_ok.1 h
  obtain ⟨hpath, hname⟩ := hstep _ _ _ _ _ hfirst
  obtain ⟨hpath', hname'⟩ := hnext value _ _ _ _ _ hsecond
  exact ⟨hpath'.trans hpath, fun name h => hname' name (hname name h)⟩

/-- Looking at the directory changes nothing. -/
theorem Steady.get {next : ModuleDirectory × Array Record → DirectoryRead β}
    (hnext : ∀ state, Steady (next state)) : Steady (MonadState.get >>= next) := by
  refine Steady.bind ?_ hnext
  intro directory journal _ directory' journal' h
  cases h
  exact ⟨rfl, fun _ hname => hname⟩

/-- An outcome changes nothing. -/
theorem runFrom_lift (outcome : Except Failure α) (state : ModuleDirectory × Array Record) :
    runFrom (lift outcome) state = (outcome, state) := by
  cases outcome <;> rfl

/-- An outcome is steady. -/
theorem steady_lift (outcome : Except Failure α) : Steady (lift outcome) := by
  intro directory journal value directory' journal' h
  rw [runFrom_lift] at h
  obtain ⟨_, hstate⟩ := Prod.mk.inj h
  cases hstate
  exact ⟨rfl, fun _ hname => hname⟩

/-- Looking for the metadata file changes nothing. -/
theorem steady_readHasMetadata : Steady (readHasMetadata files) :=
  Steady.get fun _ => steady_lift _

/-- Whether the directory is a control repository is kept beside its name. -/
theorem steady_readControlRepo : Steady (readControlRepo files) := by
  intro directory journal value directory' journal' h
  obtain ⟨_, _, hget, hrest⟩ := runFrom_bind_eq_ok.1 h
  cases hget
  dsimp only at hrest
  split at hrest
  · cases hrest
    exact ⟨rfl, fun _ hname => hname⟩
  · obtain ⟨flag, _, hlift, hset⟩ := runFrom_bind_eq_ok.1 hrest
    rw [runFrom_lift] at hlift
    obtain ⟨_, rfl⟩ := Prod.mk.inj hlift
    cases hset
    exact ⟨rfl, fun _ hname => hname⟩

/-- Reading the metadata file anew adds to the journal only. -/
theorem steady_loadMetadata : Steady (loadMetadata files) := by
  intro directory journal value directory' journal' h
  obtain ⟨_, _, hget, hrest⟩ := runFrom_bind_eq_ok.1 h
  cases hget
  obtain ⟨_, _, hset, hlift⟩ := runFrom_bind_eq_ok.1 hrest
  cases hset
  rw [runFrom_lift] at hlift
  obtain ⟨_, hstate⟩ := Prod.mk.inj hlift
  cases hstate
  exact ⟨rfl, fun _ hname => hname⟩

/-- A change of the directory that keeps its place and name. -/
theorem steady_modify (change : ModuleDirectory × Array Record → ModuleDirectory × Array Record)
    (hpath : ∀ state, (change state).1.path = state.1.path)
    (hname : ∀ state, (change state).1.name = state.1.name) :
    Steady (modify change : DirectoryRead PUnit) := by
  intro directory journal _ directory' journal' h
  have hstate : change (directory, journal) = (directory', journal') := (Prod.mk.inj h).2
  refine ⟨?_, fun name h => ?_⟩
  · rw [← hpath (directory, journal), hstate]
  · rw [← hname (directory, journal), hstate] at h
    exact h

/-- The metadata are kept beside the name. -/
theorem steady_readMetadata : Steady (readMetadata files) := by
  refine Steady.get fun state => ?_
  dsimp only
  split
  · exact steady_pure _
  · refine Steady.bind steady_readHasMetadata fun hasMetadata => ?_
    have hkeep {step : DirectoryRead Metadata} (hstep : Steady step) := hstep.bind fun metadata =>
      (steady_modify (fun state => ({ state.1 with metadata := some metadata }, state.2))
        (fun _ => rfl) fun _ => rfl).bind fun _ => steady_pure metadata
    split
    · exact hkeep steady_loadMetadata
    · exact hkeep (steady_pure _)

/-- Reading the version keeps place and name. -/
theorem steady_readVersion : Steady (readVersion files) :=
  steady_readMetadata.bind fun _ => steady_pure _

/-- Finding the name of a directory keeps its place. -/
theorem steady_deriveName : Steady (deriveName files) := by
  refine steady_readControlRepo.bind fun controlRepo => Steady.get fun state => ?_
  dsimp only
  split
  · exact steady_pure _
  · refine steady_readHasMetadata.bind fun hasMetadata => ?_
    split
    · refine steady_loadMetadata.bind fun metadata => ?_
      split
      · exact steady_pure _
      · exact steady_pure _
    · refine (steady_lift _).bind fun present => ?_
      split
      · exact steady_pure _
      · exact steady_pure _

/-- A name that was read is kept. -/
theorem readName_eq_ok {directory directory' : ModuleDirectory} {journal journal' : Array Record}
    {name : String}
    (h : runFrom (readName files) (directory, journal) = (.ok name, directory', journal')) :
    directory'.path = directory.path ∧ directory'.name = some name ∧
      ∀ known, directory.name = some known → name = known := by
  obtain ⟨_, _, hget, hrest⟩ := runFrom_bind_eq_ok.1 h
  cases hget
  dsimp only at hrest
  split at hrest
  · next known hknown =>
      cases hrest
      exact ⟨rfl, hknown, fun other hother => Option.some.inj (hknown.symm.trans hother)⟩
  · next hnone =>
      obtain ⟨found, ⟨between, entries⟩, hderive, hkeep⟩ := runFrom_bind_eq_ok.1 hrest
      cases hkeep
      refine ⟨(steady_deriveName _ _ _ _ _ hderive).1, rfl, fun known hknown => ?_⟩
      rw [hnone] at hknown
      cases hknown

/-- Reading the name of a directory keeps its place, and a name that was read before. -/
theorem steady_readName : Steady (readName files) := by
  intro directory journal name directory' journal' h
  obtain ⟨hpath, hname, hknown⟩ := readName_eq_ok h
  refine ⟨hpath, fun known h => ?_⟩
  rw [hname, hknown known h]

/-- The module of a directory has the name that was read before. -/
theorem readModule_eq_ok {directory directory' : ModuleDirectory} {journal journal' : Array Record}
    {dependencies : Dependencies} {module : Module} {name : String}
    (hname : directory.name = some name)
    (h : runFrom (readModule files dependencies) (directory, journal) =
      (.ok module, directory', journal')) :
    module.name = name ∧ module.dependencies = dependencies := by
  obtain ⟨found, ⟨between, entries⟩, hread, hrest⟩ := runFrom_bind_eq_ok.1 h
  obtain ⟨_, _, hknown⟩ := readName_eq_ok hread
  obtain ⟨_, _, _, hrest⟩ := runFrom_bind_eq_ok.1 hrest
  obtain ⟨_, _, _, hrest⟩ := runFrom_bind_eq_ok.1 hrest
  obtain ⟨_, _, _, hrest⟩ := runFrom_bind_eq_ok.1 hrest
  cases hrest
  exact ⟨hknown name hname, rfl⟩

end ModuleDirectory

/-! ## Reading a module -/

/-- Two contexts know the same symbols and the same inheritance. -/
structure Context.Alike (first second : Context) : Prop where
  /-- The symbols are the same. -/
  registry : first.registry = second.registry
  /-- The inheritance is the same. -/
  inherits : first.inherits = second.inherits

/-- Recording a fact does not depend on the diagnostics. -/
theorem Context.Alike.record {first second : Context × Dependencies} (h : first.1.Alike second.1)
    (owner : String) (fact : Fact) :
    (Fact.record owner first fact).1.Alike (Fact.record owner second fact).1 := by
  refine ⟨?_, ?_⟩
  · cases fact with
    | define category name allowRepeated =>
        simp only [Fact.record, Context.define_registry, h.registry]
    | note | refer | inherit | unhandled | warn | report => exact h.registry
  · rw [Fact.record_inherits, Fact.record_inherits, h.inherits]

/-- Neither does recording facts. -/
theorem Context.Alike.recordAll {first second : Context × Dependencies}
    (h : first.1.Alike second.1) (owner : String) (facts : List Fact) :
    (Fact.recordAll owner first facts).1.Alike (Fact.recordAll owner second facts).1 := by
  induction facts generalizing first second with
  | nil => exact h
  | cons fact rest ih => exact ih (h.record owner fact)

/-- Reading from a directory inside a run goes to the journal of the run. -/
theorem ModuleDirectory.read_eq {α : Type} {directory directory' : ModuleDirectory}
    {context context' : Context} {step : DirectoryRead α} {outcome : Except Failure α}
    (h : directory.read context step = (outcome, directory', context')) :
    (∃ journal, runFrom step (directory, context.diagnostics.journal) =
      (outcome, directory', journal)) ∧ context'.Alike context := by
  unfold ModuleDirectory.read at h
  cases hrun : runFrom step (directory, context.diagnostics.journal) with
  | mk outcome' after =>
      obtain ⟨directory'', journal⟩ := after
      unfold runFrom at hrun
      rw [hrun] at h
      cases h
      exact ⟨⟨journal, rfl⟩, rfl, rfl⟩

namespace ModuleScan

variable {α β : Type} {files : FileSystem} {config : Config} {state state' : ModuleScan}

/-- Nothing was learnt between two states but what goes to the diagnostics. -/
structure Quiet (before after : ModuleScan) : Prop where
  /-- The place of the directory is the same. -/
  path : after.directory.path = before.directory.path
  /-- The name of the directory is kept. -/
  name : ∀ name, before.directory.name = some name → after.directory.name = some name
  /-- The references are the same. -/
  dependencies : after.dependencies = before.dependencies
  /-- The contexts know the same. -/
  context : after.context.Alike before.context

/-- Two quiet stretches in a row. -/
theorem Quiet.trans {before between after : ModuleScan} (h : Quiet before between)
    (h' : Quiet between after) : Quiet before after where
  path := h'.path.trans h.path
  name := fun name hname => h'.name name (h.name name hname)
  dependencies := h'.dependencies.trans h.dependencies
  context := ⟨h'.context.registry.trans h.context.registry,
    h'.context.inherits.trans h.context.inherits⟩

/-- An outcome changes nothing. -/
theorem runFrom_lift (outcome : Except Failure α) (state : ModuleScan) :
    runFrom (lift outcome) state = (outcome, state) := by
  cases outcome <;> rfl

/-- Reading from the directory gives what the step reads, and goes to the journal otherwise. -/
theorem ask_eq_ok {step : DirectoryRead α} {value : α}
    (h : runFrom (ask step) state = (.ok value, state')) :
    ∃ journal, runFrom step (state.directory, state.context.diagnostics.journal) =
        (.ok value, state'.directory, journal) ∧
      state'.dependencies = state.dependencies ∧ state'.context.Alike state.context := by
  obtain ⟨_, _, hget, hrest⟩ := runFrom_bind_eq_ok.1 h
  cases hget
  cases hread : state.directory.read state.context step with
  | mk outcome after =>
      obtain ⟨directory, context⟩ := after
      rw [hread] at hrest
      obtain ⟨_, _, hset, hlift⟩ := runFrom_bind_eq_ok.1 hrest
      cases hset
      rw [runFrom_lift] at hlift
      obtain ⟨rfl, rfl⟩ := Prod.mk.inj hlift
      obtain ⟨⟨journal, hstep⟩, halike⟩ := ModuleDirectory.read_eq hread
      exact ⟨journal, hstep, rfl, halike⟩

/-- A step that keeps place and name is quiet. -/
theorem quiet_ask {step : DirectoryRead α} (hstep : ModuleDirectory.Steady step) {value : α}
    (h : runFrom (ask step) state = (.ok value, state')) : Quiet state state' := by
  obtain ⟨journal, hrun, hdependencies, halike⟩ := ask_eq_ok h
  obtain ⟨hpath, hname⟩ := hstep _ _ _ _ _ hrun
  exact ⟨hpath, hname, hdependencies, halike⟩

/-- A change of the diagnostics is quiet. -/
theorem quiet_update {change : Context → Context}
    (h : runFrom (update change) state = (.ok (), state'))
    (hchange : ∀ context, (change context).Alike context) : Quiet state state' := by
  cases h
  exact ⟨rfl, fun _ hname => hname, rfl, hchange _⟩

/-- Looking for metadata is quiet. -/
theorem quiet_checkMetadata {name : String}
    (h : runFrom (checkMetadata files name) state = (.ok (), state')) : Quiet state state' := by
  obtain ⟨hasMetadata, _, hmetadata, hrest⟩ := runFrom_bind_eq_ok.1 h
  have hquiet := quiet_ask ModuleDirectory.steady_readHasMetadata hmetadata
  split at hrest
  · cases hrest
    exact hquiet
  · obtain ⟨_, _, hget, hrest⟩ := runFrom_bind_eq_ok.1 hrest
    cases hget
    obtain ⟨controlRepo, _, hrepo, hrest⟩ := runFrom_bind_eq_ok.1 hrest
    have hquiet' := hquiet.trans (quiet_ask ModuleDirectory.steady_readControlRepo hrepo)
    split at hrest
    · cases hrest
      exact hquiet'
    · exact hquiet'.trans (quiet_update hrest fun _ => ⟨rfl, rfl⟩)

/-- A manifest as it is loaded: the file and its syntax tree. -/
def loadManifest (files : FileSystem) (config : Config) (path : Path) :
    Except Failure (SourceFile × Node) := do
  let tree ← loadTree files config.treeSuffix path
  return (⟨sourceName config.environmentPath path, tree.source⟩, tree.root)

/-- Reading a manifest loads it and records what it says. -/
theorem readManifest_eq_ok {owner : String} {path : Path}
    (h : runFrom (readManifest files config owner path) state = (.ok (), state')) :
    ∃ file root names, loadManifest files config path = .ok (file, root) ∧
      readSource owner file root (state.context, state.dependencies) =
        (.ok names, state'.context, state'.dependencies) ∧
      state'.directory = state.directory := by
  obtain ⟨tree, _, hload, hrest⟩ := runFrom_bind_eq_ok.1 h
  rw [runFrom_lift] at hload
  obtain ⟨htree, rfl⟩ := Prod.mk.inj hload
  obtain ⟨_, _, hget, hrest⟩ := runFrom_bind_eq_ok.1 hrest
  cases hget
  refine ⟨⟨sourceName config.environmentPath path, tree.source⟩, tree.root, ?_⟩
  cases hread : readSource owner ⟨sourceName config.environmentPath path, tree.source⟩ tree.root
      (state.context, state.dependencies) with
  | mk outcome after =>
      obtain ⟨context, dependencies⟩ := after
      dsimp only at hrest
      rw [hread] at hrest
      obtain ⟨_, _, hset, hrest⟩ := runFrom_bind_eq_ok.1 hrest
      cases hset
      obtain ⟨names, _, hlift, hrest⟩ := runFrom_bind_eq_ok.1 hrest
      rw [runFrom_lift] at hlift
      obtain ⟨rfl, rfl⟩ := Prod.mk.inj hlift
      cases hrest
      refine ⟨names, ?_, rfl, rfl⟩
      unfold loadManifest
      rw [htree]
      rfl

/-- The manifests among some paths as they are loaded, in order. A directory is none. -/
def loadManifests (files : FileSystem) (config : Config) :
    List Path → Except Failure (List (SourceFile × Node))
  | [] => return []
  | path :: rest => do
    if ← files.isDirectory path then loadManifests files config rest
    else return (← loadManifest files config path) :: (← loadManifests files config rest)

/-- The manifests in some directories as they are loaded, in order. -/
def loadDirectories (files : FileSystem) (config : Config) :
    List Path → Except Failure (List (SourceFile × Node))
  | [] => return []
  | base :: rest => do
    let manifests ← loadManifests files config (← files.matchingBelow base ".pp")
    return manifests ++ (← loadDirectories files config rest)

/-- Reading manifests loads all of them and records what they say. -/
theorem readManifests_eq_ok {owner : String} {paths : List Path}
    (h : runFrom (readManifests files config owner paths) state = (.ok (), state')) :
    ∃ manifests, loadManifests files config paths = .ok manifests ∧
      ModuleSource.readManifests owner manifests (state.context, state.dependencies) =
        .ok (state'.context, state'.dependencies) ∧
      state'.directory = state.directory := by
  induction paths generalizing state with
  | nil =>
      cases h
      exact ⟨[], rfl, rfl, rfl⟩
  | cons path rest ih =>
      obtain ⟨present, _, hask, hrest⟩ := runFrom_bind_eq_ok.1 h
      rw [runFrom_lift] at hask
      obtain ⟨hpresent, rfl⟩ := Prod.mk.inj hask
      cases present with
      | true =>
          obtain ⟨manifests, hloaded, hread⟩ := ih hrest
          refine ⟨manifests, ?_, hread⟩
          rw [loadManifests, hpresent]
          exact hloaded
      | false =>
          obtain ⟨_, between, hfirst, hrest⟩ := runFrom_bind_eq_ok.1 hrest
          obtain ⟨file, root, names, hload, hread, hdirectory⟩ := readManifest_eq_ok hfirst
          obtain ⟨manifests, hloaded, hscanned, hkept⟩ := ih hrest
          refine ⟨(file, root) :: manifests, ?_, ?_, hkept.trans hdirectory⟩
          · rw [loadManifests, hpresent, hload, hloaded]
            rfl
          · unfold ModuleSource.readManifests
            rw [hread]
            exact hscanned

/-- Reading the manifests in directories loads all of them and records what they say. -/
theorem readDirectories_eq_ok {owner : String} {bases : List Path}
    (h : runFrom (readDirectories files config owner bases) state = (.ok (), state')) :
    ∃ manifests, loadDirectories files config bases = .ok manifests ∧
      ModuleSource.readManifests owner manifests (state.context, state.dependencies) =
        .ok (state'.context, state'.dependencies) ∧
      state'.directory = state.directory := by
  induction bases generalizing state with
  | nil =>
      cases h
      exact ⟨[], rfl, rfl, rfl⟩
  | cons base rest ih =>
      obtain ⟨found, _, hlist, hrest⟩ := runFrom_bind_eq_ok.1 h
      rw [runFrom_lift] at hlist
      obtain ⟨hfound, rfl⟩ := Prod.mk.inj hlist
      obtain ⟨_, between, hfirst, hrest⟩ := runFrom_bind_eq_ok.1 hrest
      obtain ⟨first, hload, hread, hdirectory⟩ := readManifests_eq_ok hfirst
      obtain ⟨others, hloaded, hscanned, hkept⟩ := ih hrest
      refine ⟨first ++ others, ?_, ?_, hkept.trans hdirectory⟩
      · rw [loadDirectories, hfound]
        show loadManifests files config found >>= _ = _
        rw [hload, hloaded]
        rfl
      · rw [ModuleSource.readManifests_append hread]
        exact hscanned

/-- Plugins that are read to their end say what they do, and nothing is in the way. -/
theorem readPlugins_eq_ok {owner : String} {path : Path}
    (h : runFrom (readPlugins files config owner path) state = (.ok (), state')) :
    let plugins := Plugin.pluginFacts files ⟨path, some config.environmentPath⟩
    plugins.failure = none ∧
      (state'.context, state'.dependencies) =
        Fact.recordAll owner (state.context, state.dependencies) plugins.facts ∧
      state'.directory = state.directory := by
  intro plugins
  obtain ⟨_, _, hget, hrest⟩ := runFrom_bind_eq_ok.1 h
  cases hget
  obtain ⟨_, _, hset, hrest⟩ := runFrom_bind_eq_ok.1 hrest
  cases hset
  obtain ⟨_, _, hend, hreturn⟩ := runFrom_bind_eq_ok.1 hrest
  cases hreturn
  rw [runFrom_lift] at hend
  obtain ⟨houtcome, rfl⟩ := Prod.mk.inj hend
  exact ⟨(Reading.outcome_eq_ok.1 houtcome).1, rfl, rfl⟩

/-- Reading a module to its end: quiet steps up to the manifests, the manifests, the plugins, and
the module under the name that was read first. -/
theorem readModule_cases {module : Module}
    (h : runFrom (readModule files config) state = (.ok (some module), state')) :
    let plugins := Plugin.pluginFacts files
      ⟨state.directory.path, some config.environmentPath⟩
    ∃ ready read, Quiet state ready ∧
      runFrom (readDirectories files config module.name
        (manifestDirectories state.directory.path)) ready = (.ok (), read) ∧
      plugins.failure = none ∧
      state'.context.Alike
        (Fact.recordAll module.name (read.context, read.dependencies) plugins.facts).1 ∧
      module.dependencies =
        (Fact.recordAll module.name (read.context, read.dependencies) plugins.facts).2 ∧
      state'.dependencies = module.dependencies := by
  intro plugins
  unfold readModule at h
  obtain ⟨name, named, hname, hrest⟩ := runFrom_bind_eq_ok.1 h
  have hquiet := quiet_ask ModuleDirectory.steady_readName hname
  obtain ⟨_, hnamed, _, _⟩ := ask_eq_ok hname
  obtain ⟨_, hknown, _⟩ := ModuleDirectory.readName_eq_ok hnamed
  obtain ⟨_, _, hget, hrest⟩ := runFrom_bind_eq_ok.1 hrest
  cases hget
  dsimp only at hrest
  split at hrest
  · obtain ⟨_, _, _, hskipped⟩ := runFrom_bind_eq_ok.1 hrest
    cases hskipped
  · obtain ⟨version, versioned, hversion, hrest⟩ := runFrom_bind_eq_ok.1 hrest
    obtain ⟨_, noted, hnote, hrest⟩ := runFrom_bind_eq_ok.1 hrest
    obtain ⟨_, ready, hcheck, hrest⟩ := runFrom_bind_eq_ok.1 hrest
    obtain ⟨_, read, hmanifests, hrest⟩ := runFrom_bind_eq_ok.1 hrest
    obtain ⟨_, recorded, hplugins, hrest⟩ := runFrom_bind_eq_ok.1 hrest
    obtain ⟨_, _, hget, hrest⟩ := runFrom_bind_eq_ok.1 hrest
    obtain ⟨_, _, hmodule, hreturn⟩ := runFrom_bind_eq_ok.1 hrest
    cases hget
    cases hreturn
    have hready := (quiet_ask ModuleDirectory.steady_readVersion hversion).trans
      ((quiet_update hnote fun _ => ⟨rfl, rfl⟩).trans (quiet_checkMetadata hcheck))
    obtain ⟨_, _, _, hread⟩ := readDirectories_eq_ok hmanifests
    obtain ⟨hended, hrecorded, hstayed⟩ := readPlugins_eq_ok hplugins
    obtain ⟨_, hrun, hkept, halike⟩ := ask_eq_ok hmodule
    have hdirectory := hstayed.trans hread
    obtain ⟨rfl, hdependencies⟩ := ModuleDirectory.readModule_eq_ok
      (hdirectory ▸ hready.name name hknown) hrun
    rw [hquiet.path] at hended hrecorded hmanifests
    have hcontext : recorded.context = _ := congrArg Prod.fst hrecorded
    have hreferences : recorded.dependencies = _ := congrArg Prod.snd hrecorded
    exact ⟨ready, read, hquiet.trans hready, hmanifests, hended, hcontext ▸ halike,
      hdependencies.trans hreferences, hkept.trans hdependencies.symm⟩

/-- A module that is read to its end says what its source says. -/
theorem readModule_scans_source {module : Module} (hstart : state.dependencies = [])
    (h : runFrom (readModule files config) state = (.ok (some module), state')) :
    ∃ source : ModuleSource,
      loadDirectories files config (manifestDirectories state.directory.path) =
        .ok source.manifests ∧
      (let plugins := Plugin.pluginFacts files
        ⟨state.directory.path, some config.environmentPath⟩
      plugins.failure = none ∧ plugins.facts = source.plugins) ∧
      source.name = module.name ∧ source.Readable ∧ source.scanned = module ∧
      state'.context.Alike (Fact.recordAll source.name (state.context, []) source.facts).1 := by
  obtain ⟨ready, read, hquiet, hmanifests, hplugins, halike, hdependencies, _⟩ :=
    readModule_cases h
  obtain ⟨loaded, hloaded, hscanned, _⟩ := readDirectories_eq_ok hmanifests
  obtain ⟨hreadable, hrecorded⟩ := ModuleSource.readManifests_eq_ok_iff.1 hscanned
  let plugins := Plugin.pluginFacts files
    ⟨state.directory.path, some config.environmentPath⟩
  let source : ModuleSource := { module, manifests := loaded, plugins := plugins.facts }
  have hfacts : Fact.recordAll module.name (read.context, read.dependencies) plugins.facts =
      Fact.recordAll module.name (ready.context, []) source.facts := by
    rw [← hrecorded, hquiet.dependencies, hstart]
    exact List.foldl_append.symm
  rw [hfacts] at halike hdependencies
  refine ⟨source, hloaded, ⟨hplugins, rfl⟩, rfl, hreadable, ?_, ?_⟩
  · unfold ModuleSource.scanned
    rw [Fact.recordAll_references source.name module.name {} ready.context, ← hdependencies]
  · have hafter : (Fact.recordAll source.name (ready.context, []) source.facts).1.Alike
        (Fact.recordAll source.name (state.context, []) source.facts).1 :=
      Context.Alike.recordAll hquiet.context source.name source.facts
    exact ⟨halike.registry.trans hafter.registry, halike.inherits.trans hafter.inherits⟩

end ModuleScan

/-- A directory that is scanned to its end is scanned like the source that is loaded from it: the
run knows the same afterwards, and the same module is in the table. -/
theorem Scanner.scanDirectory_scans_source {files : FileSystem} {directory : ModuleDirectory}
    {scanner scanner' : Scanner}
    (h : runFrom (scanDirectory files directory) scanner = (.ok true, scanner')) :
    ∃ source : ModuleSource,
      ModuleScan.loadDirectories files scanner.config
        (ModuleScan.manifestDirectories directory.path) = .ok source.manifests ∧
      (let plugins := Plugin.pluginFacts files
        ⟨directory.path, some scanner.config.environmentPath⟩
      plugins.failure = none ∧ plugins.facts = source.plugins) ∧
      ∃ context, source.scan (scanner.context, scanner.modules) = .ok (context, scanner'.modules) ∧
        scanner'.context.Alike context := by
  obtain ⟨_, _, hget, hrest⟩ := runFrom_bind_eq_ok.1 h
  cases hget
  cases hread : runFrom (ModuleScan.readModule files scanner.config)
      ⟨directory, [], scanner.context⟩ with
  | mk outcome state =>
      unfold runFrom at hread
      rw [hread] at hrest
      obtain ⟨_, _, hset, hrest⟩ := runFrom_bind_eq_ok.1 hrest
      cases hset
      obtain ⟨found, _, hlift, hrest⟩ := runFrom_bind_eq_ok.1 hrest
      have houtcome : runFrom (lift outcome) { scanner with context := state.context } =
          (outcome, { scanner with context := state.context }) := by
        cases outcome <;> rfl
      rw [houtcome] at hlift
      obtain ⟨rfl, rfl⟩ := Prod.mk.inj hlift
      cases found with
      | none => cases hrest
      | some module =>
          cases hrest
          obtain ⟨source, hmanifests, hplugins, hname, hreadable, hscanned, halike⟩ :=
            ModuleScan.readModule_scans_source rfl hread
          refine ⟨source, hmanifests, hplugins, _,
            ModuleSource.scan_eq_ok_iff.2 ⟨hreadable, Prod.ext rfl ?_⟩, halike⟩
          show scanner.modules.put source.name source.scanned =
            scanner.modules.put module.name module
          rw [hname, hscanned]

end ModuleGraph
