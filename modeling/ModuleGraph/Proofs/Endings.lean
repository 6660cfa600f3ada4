import ModuleGraph.Command
import ModuleGraph.Proofs.Containment

/-!
# How a command ends

Every command ends with the exit code 0, 1 or 2, or with a failure that the user is not told. The
steps of a run, one after the other, fail untold only for a `Cause` in the files; a command can
besides fail to write or to print what it found out (`Command.Cause`).

`contained_iff_contents_answered` puts this together with what is known about single files: for
every content, each of the five readers has an answer exactly if the content has the shape that it
takes. The files in `malformedFiles_escape` have other shapes.
-/

namespace ModuleGraph

/-! ## Contexts -/

section Contexts

variable {files : FileSystem} {config : Config}

/-- Adding a catalogue leaves the kinds that nothing handles. -/
theorem Context.addBuiltins_unhandledKinds (context : Context) (catalogue : Builtins) :
    (context.addBuiltins catalogue).2.unhandledKinds = context.unhandledKinds := by
  have hkept : KeptByBuiltins fun after => after.unhandledKinds = context.unhandledKinds :=
    { log := fun h _ _ => h
      warn := fun h _ => h
      define := fun h _ _ => (define_unhandledKinds _ _ _ _ _).trans h
      loaded := fun h => h }
  exact hkept.addBuiltins rfl catalogue

/-- Restoring the symbols of one category leaves them, too. -/
theorem Snapshot.restoreDefinitions_unhandledKinds (skipped : List String) (category : Category)
    (table : Table String String) (context : Context) :
    (restoreDefinitions skipped category table context).unhandledKinds =
      context.unhandledKinds := by
  unfold restoreDefinitions
  induction table.filter fun entry => entry.2 ∉ skipped generalizing context with
  | nil => rfl
  | cons entry rest ih => rw [List.foldl_cons, ih, Context.define_unhandledKinds]

/-- And so does restoring a snapshot. -/
theorem Snapshot.restore_unhandledKinds (snapshot : Snapshot) (excluded : List String)
    (state : Context × Table String Module) :
    (snapshot.restore excluded state).2.1.unhandledKinds = state.1.unhandledKinds := by
  have hdefinitions (definitions : Table Category (Table String String)) (context : Context) :
      (definitions.foldl (fun context entry =>
        restoreDefinitions (builtinOwner :: excluded) entry.1 entry.2 context)
          context).unhandledKinds = context.unhandledKinds := by
    induction definitions generalizing context with
    | nil => rfl
    | cons entry rest ih => rw [List.foldl_cons, ih, restoreDefinitions_unhandledKinds]
  exact hdefinitions snapshot.definitions state.1

end Contexts

/-! ## Counting kinds -/

/-- Only kinds are counted. -/
theorem KindCount.mem_count {kinds : List Json} {entry : Json × Nat} (h : entry ∈ count kinds) :
    entry.1 ∈ kinds := by
  have hfold (rest : List Json) (hrest : ∀ kind ∈ rest, kind ∈ kinds) (counts : List (Json × Nat))
      (hcounts : ∀ entry ∈ counts, entry.1 ∈ kinds) :
      ∀ entry ∈ rest.foldl (fun counts kind =>
        if counts.any fun entry => entry.1.sameValue kind then
          counts.map fun entry => if entry.1.sameValue kind then (entry.1, entry.2 + 1) else entry
        else counts ++ [(kind, 1)]) counts, entry.1 ∈ kinds := by
    induction rest generalizing counts with
    | nil => exact hcounts
    | cons kind rest ih =>
        obtain ⟨hkind, hrest⟩ := List.forall_mem_cons.1 hrest
        refine ih hrest _ fun entry hentry => ?_
        dsimp only at hentry
        split at hentry
        · obtain ⟨old, hold, rfl⟩ := List.mem_map.1 hentry
          split <;> exact hcounts old hold
        · rcases List.mem_append.1 hentry with hold | hnew
          · exact hcounts entry hold
          · rw [List.mem_singleton.1 hnew]
            exact hkind
  exact hfold kinds (fun _ h => h) [] (fun _ h => by cases h) entry h

/-- Kinds that cannot be summarized are not all texts. -/
theorem KindCount.exists_not_isText {kinds : List Json} {failure : Failure}
    (h : summary kinds = .error failure) : ∃ kind ∈ kinds, ¬ kind.IsText := by
  by_contra hall
  push Not at hall
  have hcomparable : Json.areComparable ((count kinds).map Prod.fst) = true := by
    simp only [Json.areComparable, Bool.or_eq_true]
    refine .inl (.inr (List.all_eq_true.2 fun kind hkind => ?_))
    obtain ⟨entry, hentry, rfl⟩ := List.mem_map.1 hkind
    have htext := hall entry.1 (mem_count hentry)
    cases hvalue : entry.1 with
    | str => rfl
    | null | bool | int | float | arr | obj =>
        rw [hvalue] at htext
        cases htext
  unfold summary Json.sortBy at h
  rw [if_pos hcomparable] at h
  cases h

/-! ## The steps of a run -/

namespace Scanner

variable {files : FileSystem} {config : Config} {α : Type}

/-- A run is under way. -/
structure Underway (files : FileSystem) (config : Config) (scanner : Scanner) : Prop where
  /-- What is to be scanned again may have been chosen, and the snapshot given up. -/
  settings : scanner.config = { config with
    scanModules := scanner.config.scanModules
    rescanListedModules := scanner.config.rescanListedModules
    useState := scanner.config.useState }
  /-- The snapshot is used if that was asked for. -/
  useState : scanner.config.useState = true → config.useState = true
  /-- The analysed directory stays the same. -/
  root : scanner.root.path = config.path
  /-- The kinds that nothing handles come from manifests. -/
  kinds : KindsKnown files config scanner.context

/-- The snapshot stays in its place. -/
theorem Underway.stateFile {scanner : Scanner} (h : Underway files config scanner) :
    scanner.config.stateFile = config.stateFile := by
  rw [h.settings]

/-- So do the known warnings. -/
theorem Underway.knownWarningsFile {scanner : Scanner} (h : Underway files config scanner) :
    scanner.config.knownWarningsFile = config.knownWarningsFile := by
  rw [h.settings]

/-- So does the catalogue. -/
theorem Underway.builtinsFile {scanner : Scanner} (h : Underway files config scanner) :
    scanner.config.builtinsFile = config.builtinsFile := by
  rw [h.settings]

/-- So do the syntax dumps. -/
theorem Underway.treeSuffix {scanner : Scanner} (h : Underway files config scanner) :
    scanner.config.treeSuffix = config.treeSuffix := by
  rw [h.settings]

/-- So do the modules. -/
theorem Underway.modulepath {scanner : Scanner} (h : Underway files config scanner) :
    scanner.config.modulepath = config.modulepath := by
  rw [h.settings]

/-- Changing the context apart from the kinds. -/
theorem triple_update {change : Context → Context} {cause : Failure → Prop}
    (hchange : ∀ context, (change context).unhandledKinds = context.unhandledKinds) :
    Triple (Underway files config) (update change) (fun _ => Underway files config) cause := by
  refine triple_modify fun scanner h =>
    ⟨h.settings, h.useState, h.root, fun kind hkind => h.kinds kind ?_⟩
  rw [← hchange]
  exact hkind

/-- Reading from the analysed directory. -/
theorem triple_askRoot {step : DirectoryRead α} {cause : Failure → Prop}
    (h : Triple (ModuleDirectory.ReadsAt config.path) step
      (fun _ => ModuleDirectory.ReadsAt config.path) cause) :
    Triple (Underway files config) (askRoot step) (fun _ => Underway files config) cause := by
  intro scanner hscanner
  rw [runFrom_askRoot]
  unfold ModuleDirectory.read
  cases hsplit : Id.run (StateT.run (ExceptT.run step)
      (scanner.root, scanner.context.diagnostics.journal)) with
  | mk outcome after =>
      obtain ⟨hok, hfail⟩ := h.ends hsplit hscanner.root
      cases outcome with
      | ok value => exact ⟨hscanner.settings, hscanner.useState, hok value rfl, hscanner.kinds⟩
      | error failure => exact hfail failure rfl

/-- Reading the name of the analysed directory. -/
theorem triple_rootName : Triple (Underway files config) (rootName files)
    (fun _ => Underway files config) (Explained files config) :=
  triple_askRoot (ModuleDirectory.triple_readName .root)

/-- The catalogue is loaded, or it is explained why not. -/
theorem explained_loadBuiltins {failure : Failure}
    (h : loadBuiltins files config.builtinsFile = .error failure) :
    Explained files config failure := by
  cases hpath : config.builtinsFile with
  | none =>
      rw [hpath] at h
      cases h
  | some path =>
      rw [hpath] at h
      cases hread : files.readBytes path with
      | ok bytes =>
          exact .of_not_contained (contained_loadBuiltins_iff hread) h (.catalogue hpath hread)
      | error found =>
          simp only [loadBuiltins, FileSystem.readText, hread] at h
          cases h
          exact .inr (.noCatalogue hpath hread)

/-- Accepting the known warnings. -/
theorem triple_loadKnown {path : Path} (hpath : config.knownWarningsFile = some path)
    (hfile : files.isFile path = .ok true) :
    Triple (Underway files config) (loadKnown files path) (fun _ => Underway files config)
      (Explained files config) := by
  obtain ⟨bytes, hbytes⟩ := FileSystem.exists_readBytes hfile
  refine Triple.bind (triple_update fun _ => rfl) fun _ => ?_
  refine Triple.bind (triple_outcome (runFrom_lift _) fun failure hfailure => ?_) fun text => ?_
  · rw [readText_of_readBytes hbytes] at hfailure
    obtain ⟨-, _, hdecode⟩ | ⟨hinvalid, -⟩ := decodeText_cases bytes
    · rw [hdecode] at hfailure
      cases hfailure
    · exact .inr (.known hpath hbytes hinvalid)
  · refine Triple.bind (triple_outcome (runFrom_lift _) fun failure hfailure =>
      .inl (Statement.contained_parseLines _ _ _ failure hfailure)) fun warnings => ?_
    exact Triple.bind (triple_update fun _ => rfl) fun _ => triple_pure

/-- Restoring a snapshot. -/
theorem triple_restoreState (snapshot : Snapshot) :
    Triple (Underway files config) (restoreState snapshot) (fun _ => Underway files config)
      (Explained files config) := by
  refine triple_get fun scanner h => ?_
  have hkinds (excluded : List String) := Snapshot.restore_unhandledKinds snapshot excluded
    (scanner.context, scanner.modules)
  exact Triple.bind (triple_set ⟨h.settings, h.useState, h.root, fun kind hkind =>
    h.kinds kind ((congrArg (kind ∈ ·) (hkinds _)).mp hkind)⟩) fun _ => triple_pure

/-- Choosing what is scanned again. -/
theorem triple_chooseRescan (snapshot : Snapshot) :
    Triple (Underway files config) (chooseRescan files snapshot) (fun _ => Underway files config)
      (Explained files config) := by
  refine triple_get fun scanner _ => ?_
  split
  · refine Triple.bind triple_rootName fun name => ?_
    split
    · refine Triple.bind (triple_askRoot (ModuleDirectory.triple_readControlRepo .root))
        fun controlRepo => triple_modify fun scanner h => ⟨?_, h.useState, h.root, h.kinds⟩
      dsimp only
      rw [h.settings]
    · exact triple_pure
  · exact triple_pure

/-- Loading the snapshot. -/
theorem triple_prepareState :
    Triple (Underway files config) (prepareState files) (fun _ => Underway files config)
      (Explained files config) := by
  refine triple_get fun scanner h => ?_
  split
  · next hused =>
      rw [h.stateFile]
      split
      · exact triple_throw (.inl rfl)
      · next path hpath =>
          refine Triple.bind (triple_noted (runFrom_lift _) fun failure hfailure =>
            explained_hasEntry (.snapshot hpath) hfailure) fun present =>
              Triple.assuming fun hpresent => ?_
          split
          · next htrue =>
              obtain ⟨bytes, hbytes⟩ := FileSystem.exists_readBytes (htrue ▸ hpresent)
              refine Triple.bind (triple_update fun _ => rfl) fun _ => ?_
              refine Triple.bind (triple_outcome (runFrom_lift _) fun failure hfailure =>
                .of_not_contained (contained_load_iff hbytes) hfailure
                  (.snapshot (h.useState hused) hpath hbytes)) fun snapshot => ?_
              refine Triple.bind (triple_chooseRescan snapshot) fun _ => ?_
              exact Triple.bind (triple_restoreState snapshot) fun _ => triple_pure
          · refine Triple.bind (triple_update fun _ => rfl) fun _ => triple_modify fun scanner h =>
              ⟨?_, (fun hused => by cases hused), h.root, h.kinds⟩
            exact congrArg (fun config : Config => { config with useState := false }) h.settings
  · exact triple_pure

/-- Preparing a run. -/
theorem triple_prepare :
    Triple (Underway files config) (prepare files) (fun _ => Underway files config)
      (Explained files config) := by
  refine triple_get fun scanner h => ?_
  dsimp only
  rw [h.builtinsFile, h.knownWarningsFile]
  refine Triple.bind (triple_outcome (runFrom_lift _) fun failure hfailure =>
    explained_loadBuiltins hfailure) fun catalogue => ?_
  refine Triple.bind (triple_update fun context =>
    Context.addBuiltins_unhandledKinds context catalogue) fun _ => ?_
  split
  · next path hpath =>
      refine Triple.bind (triple_noted (runFrom_lift _) fun failure hfailure =>
        explained_hasEntry (.known hpath) hfailure) fun present =>
          Triple.assuming fun hpresent => ?_
      split
      · next htrue =>
          refine Triple.bind (triple_loadKnown hpath (htrue ▸ hpresent)) fun _ => ?_
          exact Triple.bind (triple_update fun _ => rfl) fun _ => triple_prepareState
      · exact triple_prepareState
  · exact triple_prepareState

/-- Scanning another directory. -/
theorem triple_scanDirectory {directory : ModuleDirectory}
    (h : Analysed files config directory.path) :
    Triple (Underway files config) (scanDirectory files directory) (fun _ => Underway files config)
      (Explained files config) := by
  refine triple_get fun scanner hscanner => ?_
  cases hsplit : Id.run (StateT.run (ExceptT.run (ModuleScan.readModule files scanner.config))
      ⟨directory, [], scanner.context⟩) with
  | mk outcome state =>
      obtain ⟨hok, hfail⟩ := (ModuleScan.triple_readModule hscanner.treeSuffix h).ends hsplit
        ⟨rfl, hscanner.kinds⟩
      refine triple_keep (fun _ => Underway files config) (runFrom_lift outcome)
        (fun found hfound => ?_) hfail fun found => ?_
      · have hread := hok found hfound
        exact ⟨hscanner.settings, hscanner.useState, hscanner.root, hread.kinds⟩
      · split
        · exact Triple.bind (triple_modify fun scanner h =>
            ⟨h.settings, h.useState, h.root, h.kinds⟩) fun _ => triple_pure
        · exact triple_pure

/-- Scanning the analysed directory. -/
theorem triple_scanRoot :
    Triple (Underway files config) (scanRoot files) (fun _ => Underway files config)
      (Explained files config) := by
  refine triple_get fun scanner hscanner => ?_
  cases hsplit : Id.run (StateT.run (ExceptT.run (ModuleScan.readModule files scanner.config))
      ⟨scanner.root, scanner.rootDependencies, scanner.context⟩) with
  | mk outcome state =>
      obtain ⟨hok, hfail⟩ := (ModuleScan.triple_readModule hscanner.treeSuffix .root).ends hsplit
        ⟨hscanner.root, hscanner.kinds⟩
      refine triple_keep (fun _ => Underway files config) (runFrom_lift outcome)
        (fun found hfound => ?_) hfail fun found => ?_
      · have hread := hok found hfound
        exact ⟨hscanner.settings, hscanner.useState, hread.path, hread.kinds⟩
      · split
        · exact Triple.bind (triple_modify fun scanner h =>
            ⟨h.settings, h.useState, h.root, h.kinds⟩) fun _ => triple_pure
        · exact triple_pure

/-- Scanning an entry of a directory of modules. -/
theorem triple_scanEntry {parent : Path} {names : List String} {entry : String}
    (hparent : parent ∈ config.modulepath) (hnames : files.listNames parent = .ok names)
    (hentry : entry ∈ names) (wanted : List String) :
    Triple (Underway files config) (scanEntry files wanted parent entry)
      (fun _ => Underway files config) (Explained files config) := by
  refine Triple.bind (triple_outcome (runFrom_lift _) fun failure hfailure => ?_) fun present => ?_
  · unfold isModuleDirectory at hfailure
    split at hfailure
    · exact explained_hasEntry (.entry hparent hnames hentry) hfailure
    · cases hfailure
  split
  · refine triple_get fun scanner hscanner => ?_
    have hplace : Analysed files config (parent.child entry) := .entry hparent hnames hentry
    unfold ModuleDirectory.read
    cases hsplit : Id.run (StateT.run (ExceptT.run (ModuleDirectory.readName files))
        ({ path := parent.child entry }, scanner.context.diagnostics.journal)) with
    | mk outcome state =>
        obtain ⟨hok, hfail⟩ := (ModuleDirectory.triple_readName hplace).ends hsplit rfl
        refine triple_keep (fun _ scanner => Underway files config scanner ∧
            state.1.path = parent.child entry) (runFrom_lift outcome)
          (fun name hname => ⟨?_, hok name hname⟩) hfail fun name => Triple.assuming fun hpath => ?_
        · exact ⟨hscanner.settings, hscanner.useState, hscanner.root, hscanner.kinds⟩
        · split
          · exact triple_pure
          · split
            · exact triple_update fun _ => rfl
            · exact Triple.bind (triple_scanDirectory (hpath ▸ hplace)) fun _ => triple_pure
  · exact triple_pure

/-- Scanning entries in turn. -/
theorem triple_scanEntries {parent : Path} {names entries : List String}
    (hparent : parent ∈ config.modulepath) (hnames : files.listNames parent = .ok names)
    (hentries : ∀ entry ∈ entries, entry ∈ names) (wanted : List String) :
    Triple (Underway files config) (scanEntries files wanted parent entries)
      (fun _ => Underway files config) (Explained files config) := by
  induction entries with
  | nil => exact triple_pure
  | cons entry rest ih =>
      obtain ⟨hentry, hrest⟩ := List.forall_mem_cons.1 hentries
      exact Triple.bind (triple_scanEntry hparent hnames hentry wanted) fun _ => ih hrest

/-- Scanning directories of modules in turn. -/
theorem triple_scanModulepath {parents : List Path} (hparents : ∀ parent ∈ parents,
    parent ∈ config.modulepath) (wanted : List String) :
    Triple (Underway files config) (scanModulepath files wanted parents)
      (fun _ => Underway files config) (Explained files config) := by
  induction parents with
  | nil => exact triple_pure
  | cons parent rest ih =>
      obtain ⟨hparent, hrest⟩ := List.forall_mem_cons.1 hparents
      refine Triple.bind (triple_update fun _ => rfl) fun _ => ?_
      refine Triple.bind (triple_noted (runFrom_lift _) fun failure hfailure =>
        .inr (.listing hparent hfailure)) fun names => Triple.assuming fun hnames => ?_
      exact Triple.bind (triple_scanEntries hparent hnames (fun _ h => h) wanted) fun _ => ih hrest

/-- Surfacing the kinds. -/
theorem triple_summarizeKinds :
    Triple (Underway files config) summarizeKinds (fun _ => Underway files config)
      (Explained files config) := by
  refine triple_get fun scanner h => ?_
  dsimp only
  split
  · refine Triple.bind (triple_outcome (runFrom_lift _) fun failure hfailure => ?_) fun summary =>
      triple_update fun _ => rfl
    obtain ⟨kind, hkind, htext⟩ := KindCount.exists_not_isText hfailure
    obtain ⟨tree, node, htree, hnode, rfl⟩ := h.kinds kind hkind
    exact .inr (.kind htree hnode htext)
  · exact triple_pure

/-- Surfacing the modules that were not scanned. -/
theorem triple_checkScanned (expected : List String) :
    Triple (Underway files config) (checkScanned expected) (fun _ => Underway files config)
      (Explained files config) := by
  refine triple_get fun scanner _ => ?_
  dsimp only
  split
  · exact triple_pure
  · exact triple_update fun _ => rfl

/-- Scanning. -/
theorem triple_scan :
    Triple (Underway files config) (scan files) (fun _ => Underway files config)
      (Explained files config) := by
  refine triple_get fun scanner h => ?_
  dsimp only
  rw [h.modulepath]
  split
  · exact triple_pure
  · refine Triple.bind (triple_update fun _ => rfl) fun _ => ?_
    refine Triple.bind triple_rootName fun name => ?_
    have hrest : Triple (Underway files config)
        (do
          scanModulepath files (wantedModules scanner.config) config.modulepath
          checkScanned (if (wantedModules scanner.config).isEmpty then scanner.config.modules
            else wantedModules scanner.config)
          summarizeKinds)
        (fun _ => Underway files config) (Explained files config) :=
      Triple.bind (triple_scanModulepath (fun _ h => h) _) fun _ =>
        Triple.bind (triple_checkScanned _) fun _ => triple_summarizeKinds
    split
    · exact triple_throw_bind (.inl rfl)
    · split
      · exact Triple.bind triple_scanRoot fun _ => hrest
      · exact hrest

/-- Exploring stops only at a module that is not known. -/
theorem told_explore {modules : Table String Module} {recursive : Bool} {steps : Nat}
    {queue queued : List String} {resolver : Resolver} {context : Context} {failure : Failure}
    (h : (Resolver.explore modules recursive steps queue queued resolver context).1 =
      .error failure) : failure.IsTold := by
  induction steps generalizing queue queued resolver context with
  | zero => cases h
  | succ steps ih =>
      cases queue with
      | nil => cases h
      | cons name rest =>
          unfold Resolver.explore at h
          split at h
          · next found _ _ hmodule =>
              cases h
              unfold Resolver.resolveModule at hmodule
              split at hmodule
              · cases hmodule
              · split at hmodule
                · cases hmodule
                  rfl
                · cases hmodule
          · exact ih h

/-- Resolving does so, too. -/
theorem told_resolve {modules : Table String Module} {request : Request} {resolver : Resolver}
    {context : Context} {failure : Failure}
    (h : (resolver.resolve modules request context).1 = .error failure) : failure.IsTold := by
  unfold Resolver.resolve at h
  dsimp only at h
  split at h
  · next hexplore =>
      cases h
      exact told_explore (congrArg Prod.fst hexplore)
  · cases h

/-- Resolving the configured modules. -/
theorem triple_resolve :
    Triple (Underway files config) (resolve files)
      (fun resolution scanner => scanner.result = some resolution) (Explained files config) := by
  refine triple_get fun scanner _ => ?_
  split
  · exact triple_throw_bind (.inl rfl)
  · refine Triple.bind triple_rootName fun name => triple_get fun scanner h => ?_
    refine triple_keep (fun _ _ => True) (runFrom_lift _) (fun _ _ => trivial)
      (fun failure hfailure => .inl (told_resolve hfailure)) fun resolution => ?_
    exact fun _ _ => rfl

/-- A whole run. -/
theorem triple_run :
    Triple (Underway files config) (run files)
      (fun resolution scanner => scanner.result = some resolution) (Explained files config) :=
  Triple.bind triple_prepare fun _ => Triple.bind triple_scan fun _ => triple_resolve

/-- Listing the dependencies of a run that was resolved. -/
theorem triple_listDependencies (resolution : Resolution) {cause : Failure → Prop} :
    Triple (fun scanner => scanner.result = some resolution) listDependencies
      (fun line _ => line = resolution.line) cause := by
  refine triple_get fun scanner h => ?_
  rw [h]
  exact fun _ _ => rfl

end Scanner

/-! ## Commands -/

namespace Workspace

variable {files : FileSystem} {α : Type}

/-- What a step of the run comes to, and what it leaves behind. -/
theorem runFrom_step (action : FileSystem → Scanner.Action α) (workspace : Workspace) :
    runFrom (step action) workspace =
      ((runFrom (action workspace.files) workspace.scanner).1,
        { workspace with scanner := (runFrom (action workspace.files) workspace.scanner).2 }) := by
  have hget : runFrom (get : Action Workspace) workspace = (.ok workspace, workspace) := rfl
  unfold step
  rw [runFrom_bind, hget]
  dsimp only
  cases hrun : runFrom (action workspace.files) workspace.scanner with
  | mk outcome scanner =>
      unfold runFrom at hrun
      rw [hrun]
      cases outcome with
      | ok value => rfl
      | error failure => rfl

/-- A step of the run leaves the files. -/
theorem triple_step {action : FileSystem → Scanner.Action α} {before : Scanner → Prop}
    {after : α → Scanner → Prop} {cause : Failure → Prop}
    (h : Triple before (action files) after cause) :
    Triple (fun workspace => before workspace.scanner ∧ workspace.files = files) (step action)
      (fun value workspace => after value workspace.scanner ∧ workspace.files = files) cause := by
  rintro workspace ⟨hscanner, rfl⟩
  rw [runFrom_step]
  cases hsplit : runFrom (action workspace.files) workspace.scanner with
  | mk outcome after =>
      obtain ⟨hok, hfail⟩ := h.ends hsplit hscanner
      cases outcome with
      | ok value => exact ⟨hok value rfl, rfl⟩
      | error failure => exact hfail failure rfl

/-- A change of the context does not fail, and keeps what does not depend on the scanner. -/
theorem triple_update {change : Context → Context} {before : Workspace → Prop}
    {cause : Failure → Prop}
    (h : ∀ workspace scanner, before workspace → before { workspace with scanner }) :
    Triple before (step fun _ => Scanner.update change) (fun _ => before) cause :=
  fun workspace hworkspace => h workspace _ hworkspace

end Workspace

namespace Command

variable {α : Type} {channel : Channel} {files : FileSystem} {config : Config}
  {cause : Failure → Prop}

/-- A run ends with one of three codes. -/
theorem triple_exitStatus (warningsOk : Bool) :
    Triple (fun _ => True) (exitStatus warningsOk) (fun code _ => code ≤ 2) cause := by
  refine triple_get fun workspace _ => ?_
  dsimp only
  split
  · refine Triple.bind (Workspace.triple_update fun _ _ h => h) fun _ => ?_
    cases warningsOk
    · exact fun _ _ => Nat.le_refl 2
    · exact fun _ _ => Nat.zero_le 2
  · exact Triple.bind (Workspace.triple_update fun _ _ h => h) fun _ _ _ => Nat.zero_le 2

/-- Why a command ends without telling: the run over the files has a cause, or what it found out
cannot be written or printed. -/
inductive Cause (channel : Channel) (files : FileSystem) (arguments : Arguments) (config : Config)
    (failure : Failure) : Prop
  /-- Something in the files. -/
  | files (h : ModuleGraph.Cause files config failure)
  /-- The snapshot cannot be written. -/
  | saving {workspace : Workspace} (hcommand : arguments.command = .state)
    (hgathered : runFrom (do Workspace.step Scanner.prepare; Workspace.step Scanner.scan)
      ⟨.start config, files⟩ = (.ok (), workspace))
    (hsave : (runFrom Workspace.writeState workspace).1 = .error failure)
  /-- The warnings cannot be written. -/
  | recording {workspace : Workspace} {resolution : Resolution}
    (hcommand : arguments.command = .knownWarnings)
    (hresolved : runFrom (Workspace.step Scanner.run) ⟨.start config, files⟩ =
      (.ok resolution, workspace))
    (hrecord : (runFrom (Workspace.writeKnown arguments.out) workspace).1 = .error failure)
  /-- The output channel does not take the dependencies. -/
  | printing {workspace : Workspace} {resolution : Resolution}
    (hcommand : arguments.command = .resolve)
    (hresolved : runFrom (Workspace.step Scanner.run) ⟨.start config, files⟩ =
      (.ok resolution, workspace))
    (hprint : channel.takes resolution.line = false) (hfailure : failure = .undefinedOperation)

/-- The user is told, or there is a cause. -/
def Explained (channel : Channel) (files : FileSystem) (arguments : Arguments) (config : Config)
    (failure : Failure) : Prop :=
  failure.IsTold ∨ Cause channel files arguments config failure

/-- What a run over files explains is explained. -/
theorem Explained.of_files {arguments : Arguments} {failure : Failure}
    (h : ModuleGraph.Explained files config failure) :
    Explained channel files arguments config failure :=
  h.imp_right .files

variable {arguments : Arguments}

/-- The first state of a run. -/
theorem underway_start : (Scanner.start config).Underway files config :=
  ⟨rfl, id, rfl, fun _ h => by cases h⟩

/-- A step of a run over the files is a step of a command. -/
theorem triple_step {action : FileSystem → Scanner.Action α} {before : Scanner → Prop}
    {after : α → Scanner → Prop}
    (h : Triple before (action files) after (ModuleGraph.Explained files config)) :
    Triple (fun workspace => before workspace.scanner ∧ workspace.files = files)
      (Workspace.step action)
      (fun value workspace => after value workspace.scanner ∧ workspace.files = files)
      (Explained channel files arguments config) :=
  (Workspace.triple_step h).explain fun _ => .of_files

/-- Printing a line. -/
theorem triple_printed {before : Workspace → Prop} {line : String}
    (h : channel.takes line = false → cause .undefinedOperation) :
    Triple before (printed channel line) (fun _ => before) cause := by
  unfold printed
  split
  · exact triple_pure
  · next hrefused => exact triple_throw (h (Bool.eq_false_of_not_eq_true hrefused))

/-- Resolving and printing. -/
theorem triple_resolveAction (hcommand : arguments.command = .resolve) :
    Triple (· = ⟨.start config, files⟩) (resolveAction channel) (fun result _ => result.1 ≤ 2)
      (Explained channel files arguments config) := by
  refine triple_get fun workspace _ => ?_
  have hrun : Triple _ _ _ (Explained channel files arguments config) :=
    triple_step Scanner.triple_run
  refine Triple.bind (hrun.traced ⟨underway_start, rfl⟩) fun resolution => ?_
  -- The records about the modules leave the resolution, and that the run came to it is noted.
  let logged (workspace : Workspace) : Prop :=
    (workspace.scanner.result = some resolution ∧ workspace.files = files) ∧
      ∃ resolved, runFrom (Workspace.step Scanner.run) ⟨.start config, files⟩ =
        (.ok resolution, resolved)
  refine Triple.bind (?_ : Triple _ _ (fun _ => logged) _) fun _ =>
    Triple.assuming fun ⟨resolved, hresolved⟩ => ?_
  · exact fun workspace h => ⟨h.1, workspace, h.2⟩
  have hlist : Triple _ (Workspace.step fun _ => Scanner.listDependencies) _
      (Explained channel files arguments config) :=
    triple_step (Scanner.triple_listDependencies resolution)
  refine Triple.bind hlist fun line => ?_
  refine (Triple.assuming fun hline => ?_).strengthen fun _ h => ⟨h.2, h.1⟩
  refine Triple.bind (triple_printed fun hrefused =>
    .inr (.printing hcommand hresolved (hline ▸ hrefused) rfl)) fun output => ?_
  exact Triple.bind ((triple_exitStatus _).strengthen fun _ _ => trivial) fun _ _ hcode => hcode

/-- Saving a snapshot. -/
theorem triple_stateAction (hcommand : arguments.command = .state) :
    Triple (· = ⟨.start config, files⟩) stateAction (fun result _ => result.1 ≤ 2)
      (Explained channel files arguments config) := by
  refine triple_get fun workspace _ => ?_
  have hgather : Triple _ _ _ (Explained channel files arguments config) :=
    Triple.bind (triple_step Scanner.triple_prepare) fun _ => triple_step Scanner.triple_scan
  rw [← bind_assoc]
  refine Triple.bind (hgather.traced ⟨underway_start, rfl⟩) fun _ => ?_
  refine Triple.bind (triple_of_failures fun workspace hgathered failure hsave =>
    .inr (.saving hcommand hgathered.2 hsave)) fun path => triple_get fun workspace _ => ?_
  refine Triple.bind (Workspace.triple_update fun _ _ h => h) fun _ => ?_
  exact Triple.bind (triple_exitStatus _) fun _ _ hcode => hcode

/-- Recording warnings. -/
theorem triple_knownWarningsAction (hcommand : arguments.command = .knownWarnings) :
    Triple (· = ⟨.start config, files⟩) (knownWarningsAction arguments.out)
      (fun result _ => result.1 ≤ 2) (Explained channel files arguments config) := by
  have hrun : Triple _ _ _ (Explained channel files arguments config) :=
    triple_step Scanner.triple_run
  refine Triple.bind (hrun.traced ⟨underway_start, rfl⟩) fun resolution => ?_
  refine Triple.bind (triple_of_failures fun workspace hresolved failure hrecord =>
    .inr (.recording hcommand hresolved.2 hrecord)) fun count => ?_
  exact Triple.bind (Workspace.triple_update fun _ _ h => h) fun _ _ _ => Nat.zero_le 2

/-- The run has one of three exit codes, or it ends for a cause that the user is not told. -/
def Ends (outcome : Outcome) (cause : Failure → Prop) : Prop :=
  match outcome.exit with
  | .ok code => code ≤ 2
  | .error failure => ¬ failure.IsTold ∧ cause failure

/-- The causes may be more. -/
theorem Ends.mono {outcome : Outcome} {other : Failure → Prop} (h : Ends outcome cause)
    (hother : ∀ failure, cause failure → other failure) : Ends outcome other := by
  unfold Ends at h ⊢
  split at h
  · exact h
  · exact ⟨h.1, hother _ h.2⟩

/-- A failure that is told gives an exit code. -/
theorem ends_failed {journal : Array Record} {failure : Failure}
    (h : failure.IsTold ∨ cause failure) : Ends (failed files journal failure) cause := by
  unfold Ends failed
  cases hmessage : failure.message? with
  | some message => exact Nat.le_succ 1
  | none =>
      have huntold : ¬ failure.IsTold := by simp [Failure.IsTold, hmessage]
      exact ⟨huntold, h.resolve_left huntold⟩

/-- An action that is explained ends as it should. -/
theorem ends_perform {action : Action} (h : Triple (· = ⟨.start config, files⟩) action
    (fun result _ => result.1 ≤ 2) fun failure => failure.IsTold ∨ cause failure) :
    Ends (perform files config action) cause := by
  have hrun := h ⟨.start config, files⟩ rfl
  unfold runFrom at hrun
  unfold perform
  cases hsplit : Id.run (StateT.run (ExceptT.run action) ⟨.start config, files⟩) with
  | mk outcome workspace =>
      rw [hsplit] at hrun
      cases outcome with
      | ok result => exact hrun
      | error failure => exact ends_failed hrun

/-- The configuration with which a command runs: saving a snapshot does not use an older one. -/
def effective (arguments : Arguments) (config : Config) : Config :=
  match arguments.command with
  | .state => { config with useState := false }
  | .resolve | .knownWarnings => config

/-- A command in a control repository ends as it should if the action does. -/
theorem ends_performInControlRepo {loaded : Config} {name : String} {action : Action}
    (hpath : loaded.path = config.path) (h : Ends (perform files loaded action)
      (Cause channel files arguments config)) :
    Ends (performInControlRepo files loaded name action)
      (Cause channel files arguments config) := by
  unfold performInControlRepo
  split
  · next failure hrepo =>
      rw [hpath] at hrepo
      exact ends_failed (Explained.of_files (explained_hasEntry (.marker .root (by simp)) hrepo))
  · exact h
  · exact Nat.le_succ 1

/-- Once there is a configuration, a command ends with an exit code, or for a cause. -/
theorem ends_run {loaded : Config} (hload : Config.load files arguments.overrides = .ok loaded) :
    Ends (run channel files arguments)
      (Cause channel files arguments (effective arguments loaded)) := by
  unfold run effective
  rw [hload]
  cases hcommand : arguments.command with
  | resolve => exact ends_perform (triple_resolveAction hcommand)
  | state => exact ends_performInControlRepo rfl (ends_perform (triple_stateAction hcommand))
  | knownWarnings =>
      exact ends_performInControlRepo rfl (ends_perform (triple_knownWarningsAction hcommand))

end Command

/-- Malformed files are contained exactly as far as their contents have the shape that their reader
answers. For every content of the metadata of a module, of a syntax dump, of a snapshot, of known
warnings and of a catalogue, reading it gives a result or a failure that the user is told if and
only if the content is UTF-8 and, where it is to be JSON, has that shape and is not nested beyond
what the limits for the file are, whatever these are; the name of a control repository does not
depend on its metadata. Every command ends with one of three exit codes, or else with a failure that
the user is not told; then the configuration could not be loaded, or there is a cause. -/
theorem contained_iff_contents_answered (files : FileSystem) :
    (∀ directory bytes, files.readBytes (directory.child "metadata.json") = .ok bytes →
      ∀ journal,
        let depth := (files.limits (directory.child "metadata.json")).json
        (Contained (runFrom (ModuleDirectory.readMetadata files)
            ({ path := directory }, journal)).1 ↔ HasJson depth True Json.IsMetadata bytes) ∧
        ∀ controlRepo, isControlRepo files directory = .ok controlRepo →
          (Contained (runFrom (ModuleDirectory.readName files)
              ({ path := directory }, journal)).1 ↔
            controlRepo = true ∨ HasJson depth True Json.IsMetadata bytes)) ∧
    (∀ suffix source dump bytes, source.withName? (source.name ++ suffix) = some dump →
      files.readBytes dump = .ok bytes →
        (Contained (loadTree files suffix source) ↔
          HasJson (files.limits dump).json True (Json.AnswersAsDump (files.limits dump).tree)
            bytes)) ∧
    (∀ path bytes, files.readBytes path = .ok bytes →
      (Contained (Snapshot.load files path) ↔ bytes.IsValidUTF8) ∧
      (∀ scanner, Contained (runFrom (Scanner.loadKnown files path) scanner).1 ↔
        bytes.IsValidUTF8) ∧
      (Contained (Scanner.loadBuiltins files (some path)) ↔
        HasJson (files.limits path).json False Json.IsCatalogue bytes)) ∧
    ∀ channel arguments, Command.Ends (Command.run channel files arguments) fun failure =>
      Config.load files arguments.overrides = .error failure ∨
        ∃ config, Config.load files arguments.overrides = .ok config ∧
          Command.Cause channel files arguments (Command.effective arguments config) failure := by
  refine ⟨fun directory bytes hread journal => ⟨?_, fun controlRepo hrepo => ?_⟩,
    fun suffix source dump bytes hname hread => contained_loadTree_iff hname hread,
    fun path bytes hread => ⟨contained_load_iff hread, contained_loadKnown_iff hread,
      contained_loadBuiltins_iff hread⟩, fun channel arguments => ?_⟩
  · exact ModuleDirectory.contained_readMetadata_iff hread journal
  · exact ModuleDirectory.contained_readName_iff hread hrepo journal
  · cases hload : Config.load files arguments.overrides with
    | error failure =>
        unfold Command.run
        rw [hload]
        exact Command.ends_failed (.inr (.inl rfl))
    | ok config =>
        exact (Command.ends_run hload).mono fun failure hcause => .inr ⟨config, rfl, hcause⟩

/-- A module whose metadata are a list, with a number in place of a syntax dump, beside a file of
one byte that is no text. -/
def malformedFiles : FileSystem where
  root := .directory [
    ("m", .directory [
      ("metadata.json", .file ⟨#[0x5b, 0x5d]⟩),
      ("init.pp.json", .file ⟨#[0x33]⟩)]),
    ("state", .file ⟨#[0xff]⟩)]

/-- None of the readers contains what is in these files. -/
theorem malformedFiles_escape :
    ¬ Contained (runFrom (ModuleDirectory.readMetadata malformedFiles)
        ({ path := ⟨"/", ["m"]⟩ }, #[])).1 ∧
      ¬ Contained (runFrom (ModuleDirectory.readName malformedFiles)
        ({ path := ⟨"/", ["m"]⟩ }, #[])).1 ∧
      ¬ Contained (loadTree malformedFiles ".json" ⟨"/", ["m", "init.pp"]⟩) ∧
      ¬ Contained (Snapshot.load malformedFiles ⟨"/", ["state"]⟩) ∧
      ¬ Contained (runFrom (Scanner.loadKnown malformedFiles ⟨"/", ["state"]⟩)
        (.start { path := ⟨"/", ["m"]⟩ })).1 ∧
      ¬ Contained (Scanner.loadBuiltins malformedFiles (some ⟨"/", ["state"]⟩)) := by
  obtain ⟨hmetadata, hdump, hothers, -⟩ := contained_iff_contents_answered malformedFiles
  have hmodule := hmetadata ⟨"/", ["m"]⟩ ⟨#[0x5b, 0x5d]⟩ rfl #[]
  have hstate := hothers ⟨"/", ["state"]⟩ ⟨#[0xff]⟩ rfl
  have hlist (depth : Nat) : ¬ HasJson depth True Json.IsMetadata ⟨#[0x5b, 0x5d]⟩ := by
    rintro ⟨text, htext, hshape⟩
    cases htext
    cases depth <;> exact hshape
  have hnumber (depth levels : Nat) :
      ¬ HasJson depth True (Json.AnswersAsDump levels) ⟨#[0x33]⟩ := by
    rintro ⟨text, htext, hshape⟩
    cases htext
    exact hshape
  have hbytes : ¬ (ByteArray.mk #[0xff]).IsValidUTF8 := by decide
  refine ⟨?_, ?_, ?_, ?_, ?_, ?_⟩
  · rw [hmodule.1]
    exact hlist _
  · rw [hmodule.2 false rfl]
    simpa using hlist _
  · rw [hdump ".json" ⟨"/", ["m", "init.pp"]⟩ ⟨"/", ["m", "init.pp.json"]⟩ ⟨#[0x33]⟩ (by decide)
      rfl]
    exact hnumber _ _
  · rw [hstate.1]
    exact hbytes
  · rw [hstate.2.1]
    exact hbytes
  · rw [hstate.2.2]
    rintro ⟨text, htext, -⟩
    cases htext

end ModuleGraph
