import ModuleGraph.Proofs.Scanning

/-!
# Modules that are scanned on top of themselves

A module that is in the table, because it was restored or scanned before, is not to be scanned
again. `scanOnce` is the scan with this as a check: before each module it looks at the table, and
stops with a given failure if the module is there. If the scan never visits a listed module, the
check makes no difference, whatever the failure is.

`scan_visits_listed_iff` says exactly when it does make one. In the directories of the modulepath
the scan has the check itself (`scanModulepathWith_refusing`), but not for the analysed directory:
if that module is in the snapshot and among the modules to scan, and those are not to be scanned
again, then it is restored first and scanned on top of that.
-/

namespace ModuleGraph

section Steps

variable {ε σ α β : Type}

/-- Steps that do the same from every state are the same. -/
theorem eq_of_runFrom {first second : ExceptT ε (StateM σ) α}
    (h : ∀ state, runFrom first state = runFrom second state) : first = second :=
  funext h

/-- What follows a step needs to be the same only where the step leads. -/
theorem runFrom_bind_congr {step : ExceptT ε (StateM σ) α}
    {first second : α → ExceptT ε (StateM σ) β} {state : σ}
    (h : ∀ value between, runFrom step state = (.ok value, between) →
      runFrom (first value) between = runFrom (second value) between) :
    runFrom (step >>= first) state = runFrom (step >>= second) state := by
  rw [runFrom_bind, runFrom_bind]
  cases hrun : runFrom step state with
  | mk outcome between =>
      cases outcome with
      | ok value => exact h value between hrun
      | error failure => rfl

/-- An outcome with a value is that value. -/
theorem ok_of_toOption {outcome : Except ε α} {value : α} (h : outcome.toOption = some value) :
    outcome = .ok value := by
  cases outcome with
  | ok found => exact congrArg Except.ok (Option.some.inj h)
  | error failure => cases h

end Steps

/-! ## The name of a directory -/

namespace ModuleDirectory

variable {α β : Type} {files : FileSystem}

/-- What the step reads does not depend on the journal. -/
def Unheard (step : DirectoryRead α) : Prop :=
  ∀ directory journal journal', ∃ outcome directory' after after',
    runFrom step (directory, journal) = (outcome, directory', after) ∧
      runFrom step (directory, journal') = (outcome, directory', after')

/-- A value does not depend on the journal. -/
theorem unheard_pure (value : α) : Unheard (pure value) :=
  fun directory journal journal' => ⟨.ok value, directory, journal, journal', rfl, rfl⟩

/-- An outcome that is given does not depend on the journal. -/
theorem unheard_lift (outcome : Except Failure α) : Unheard (lift outcome) := by
  intro directory journal journal'
  exact ⟨outcome, directory, journal, journal', runFrom_lift _ _, runFrom_lift _ _⟩

/-- One step after another. -/
theorem Unheard.bind {step : DirectoryRead α} {next : α → DirectoryRead β} (hstep : Unheard step)
    (hnext : ∀ value, Unheard (next value)) : Unheard (step >>= next) := by
  intro directory journal journal'
  obtain ⟨outcome, directory', after, after', hfirst, hsecond⟩ :=
    hstep directory journal journal'
  simp only [runFrom_bind, hfirst, hsecond]
  cases outcome with
  | ok value => exact hnext value directory' after after'
  | error failure => exact ⟨.error failure, directory', after, after', rfl, rfl⟩

/-- Looking at the directory, and going on alike from it. -/
theorem unheard_get {next : ModuleDirectory × Array Record → DirectoryRead β}
    (h : ∀ directory journal journal', ∃ outcome directory' after after',
      runFrom (next (directory, journal)) (directory, journal) = (outcome, directory', after) ∧
        runFrom (next (directory, journal')) (directory, journal') =
          (outcome, directory', after')) : Unheard (MonadState.get >>= next) :=
  h

/-- Whether there is a metadata file does not depend on the journal. -/
theorem unheard_readHasMetadata : Unheard (readHasMetadata files) :=
  unheard_get fun directory journal journal' => unheard_lift _ directory journal journal'

/-- Reading the metadata file anew only writes to the journal. -/
theorem unheard_loadMetadata : Unheard (loadMetadata files) :=
  unheard_get fun directory _ _ =>
    unheard_lift (parseMetadata files directory.metadataPath) directory _ _

/-- Whether the directory is a control repository is kept, and the journal stays. -/
theorem unheard_readControlRepo : Unheard (readControlRepo files) := by
  refine unheard_get fun directory journal journal' => ?_
  dsimp only
  cases directory.controlRepo with
  | some flag => exact unheard_pure flag directory journal journal'
  | none =>
      dsimp only
      simp only [runFrom_bind, runFrom_lift]
      cases isControlRepo files directory.path with
      | ok flag => exact ⟨_, _, journal, journal', rfl, rfl⟩
      | error failure => exact ⟨_, _, journal, journal', rfl, rfl⟩

/-- The name that is derived for a directory does not depend on the journal. -/
theorem unheard_deriveName : Unheard (deriveName files) := by
  refine unheard_readControlRepo.bind fun controlRepo => unheard_get fun directory _ _ => ?_
  dsimp only
  split
  · exact unheard_pure _ directory _ _
  · refine unheard_readHasMetadata.bind (fun hasMetadata => ?_) directory _ _
    split
    · refine unheard_loadMetadata.bind fun metadata => ?_
      split <;> exact unheard_pure _
    · refine (unheard_lift _).bind fun present => ?_
      split <;> exact unheard_pure _

/-- The name of a directory does not depend on the journal. -/
theorem unheard_readName : Unheard (readName files) := by
  refine unheard_get fun directory journal journal' => ?_
  dsimp only
  cases directory.name with
  | some name => exact unheard_pure name directory journal journal'
  | none =>
      refine unheard_deriveName.bind (fun name => ?_) directory journal journal'
      intro directory journal journal'
      exact ⟨_, _, journal, journal', rfl, rfl⟩

/-- The name that is read from a directory. -/
def nameIn (files : FileSystem) (directory : ModuleDirectory) : Except Failure String :=
  (runFrom (readName files) (directory, #[])).1

/-- In a run, the same name is read. -/
theorem read_readName_fst (directory : ModuleDirectory) (context : Context) :
    (directory.read context (readName files)).1 = directory.nameIn files := by
  have hunheard : Unheard (readName files) := unheard_readName
  obtain ⟨outcome, directory', after, after', hfirst, hsecond⟩ :=
    hunheard directory context.diagnostics.journal #[]
  have hread : (directory.read context (readName files)).1 =
      (runFrom (readName files) (directory, context.diagnostics.journal)).1 := rfl
  rw [hread, hfirst, nameIn, hsecond]

/-- A name that was found is read again. -/
theorem nameIn_of_name {directory : ModuleDirectory} {name : String}
    (h : directory.name = some name) : directory.nameIn files = .ok name := by
  obtain ⟨path, controlRepo, _, metadata⟩ := directory
  cases h
  rfl

end ModuleDirectory

/-- The modules after a snapshot was restored into an empty table: those of the snapshot that are
not left out. -/
theorem Snapshot.hasKey_restore (snapshot : Snapshot) (excluded : List String) (context : Context)
    (name : String) :
    (snapshot.restore excluded (context, [])).2.2.hasKey name = true ↔
      snapshot.modules.hasKey name = true ∧ name ≠ builtinOwner ∧ name ∉ excluded := by
  let records := snapshot.modules.filter fun entry => entry.1 ∉ builtinOwner :: excluded
  let restored : Table String Module :=
    records.map fun entry => (entry.1, Module.ofRecord entry.2)
  have htable : (snapshot.restore excluded (context, [])).2.2 =
      restored.foldl (fun table entry => Table.put table entry.1 entry.2) [] := by
    rw [List.foldl_map]
    rfl
  have hlast : (snapshot.restore excluded (context, [])).2.2.get? name =
      Table.get? restored.reverse name := by
    rw [htable, Table.get?_foldl_put]
    exact Option.or_none
  rw [Table.hasKey, hlast, Table.get?_isSome_iff, Table.hasKey_iff_mem_keys]
  simp [Table.keys, restored, records, and_assoc]

/-! ## Visits -/

namespace Scanner

/-- A step that scans a directory, which is refused if the module of the directory is in the
table. -/
def refuseListed (failure : Failure) (files : FileSystem) (directory : ModuleDirectory)
    (step : Action Bool) : Action Bool := do
  let scanner ← get
  match directory.nameIn files with
  | .ok name => if scanner.modules.hasKey name then throw failure else step
  | .error _ => step

/-- Scans one entry of a directory of modules like `scanEntry`, with the given step for a module. -/
def scanEntryWith (visit : ModuleDirectory → Action Bool) (files : FileSystem)
    (wanted : List String) (parent : Path) (entry : String) : Action Unit := do
  if ← lift (isModuleDirectory files entry parent) then
    let scanner ← get
    let (outcome, directory, context) :=
      ({ path := parent.child entry } : ModuleDirectory).read scanner.context
        (ModuleDirectory.readName files)
    set { scanner with context }
    let name ← lift outcome
    if !wanted.isEmpty && !wanted.contains name then
      return ()
    else if scanner.modules.hasKey name then
      update fun context => context.log .info
        ("Module " ++ name ++ " already processed. Skipping")
    else
      let _ ← visit directory

/-- Scans entries of a directory of modules in turn. -/
def scanEntriesWith (visit : ModuleDirectory → Action Bool) (files : FileSystem)
    (wanted : List String) (parent : Path) : List String → Action Unit
  | [] => return ()
  | entry :: rest => do
    scanEntryWith visit files wanted parent entry
    scanEntriesWith visit files wanted parent rest

/-- Scans directories of modules in turn. -/
def scanModulepathWith (visit : ModuleDirectory → Action Bool) (files : FileSystem)
    (wanted : List String) : List Path → Action Unit
  | [] => return ()
  | directory :: rest => do
    update fun context => context.log .info ("Processing modulepath " ++ directory.toText)
    let entries ← lift (files.listNames directory)
    scanEntriesWith visit files wanted directory entries
    scanModulepathWith visit files wanted rest

/-- Scans like `scan`, with the given steps for the analysed directory and for the modulepath. -/
def scanWith (visitRoot : Action Bool) (visit : ModuleDirectory → Action Bool)
    (files : FileSystem) : Action Unit := do
  let config := (← get).config
  if config.useState && config.scanModules.isEmpty then return ()
  let wanted := wantedModules config
  update fun context => context.log .info
    (if wanted.isEmpty then "Scanning all modules"
      else "Found modules to scan " ++ String.intercalate ", " wanted)
  let name ← rootName files
  if config.modulepath.isEmpty && name == "" then
    throw (.nothingToScan config.path.toText)
  if name ≠ "" && (wanted.isEmpty || wanted.contains name) then
    let _ ← visitRoot
  scanModulepathWith visit files wanted config.modulepath
  checkScanned (if wanted.isEmpty then config.modules else wanted)
  summarizeKinds

/-- The scan in which no module may be visited that is in the table. -/
def scanOnce (failure : Failure) (files : FileSystem) : Action Unit :=
  scanWith
    (do
      let scanner ← get
      refuseListed failure files scanner.root (scanRoot files))
    (fun directory => refuseListed failure files directory (scanDirectory files directory))
    files

variable {files : FileSystem} {visit : ModuleDirectory → Action Bool} {wanted : List String}

/-- Entries are scanned in turn, one as the other. -/
theorem scanEntriesWith_scanDirectory (wanted : List String) (parent : Path)
    (entries : List String) :
    scanEntriesWith (scanDirectory files) files wanted parent entries =
      scanEntries files wanted parent entries := by
  induction entries with
  | nil => rfl
  | cons entry rest ih =>
      unfold scanEntriesWith scanEntries
      rw [ih]
      rfl

/-- The directories of a modulepath are scanned in turn, one as the other. -/
theorem scanModulepathWith_scanDirectory (wanted : List String) (directories : List Path) :
    scanModulepathWith (scanDirectory files) files wanted directories =
      scanModulepath files wanted directories := by
  induction directories with
  | nil => rfl
  | cons directory rest ih =>
      unfold scanModulepathWith scanModulepath
      rw [ih]
      simp only [scanEntriesWith_scanDirectory]

/-- With the steps of the scanner this is the scan. -/
theorem scanWith_scanRoot (files : FileSystem) :
    scanWith (scanRoot files) (scanDirectory files) files = scan files := by
  unfold scanWith scan
  simp only [scanModulepathWith_scanDirectory]

/-- An outcome changes nothing. -/
theorem runFrom_lift {α : Type} (outcome : Except Failure α) (scanner : Scanner) :
    runFrom (lift outcome) scanner = (outcome, scanner) := by
  cases outcome <;> rfl

/-- A visit to a module that is not in the table is not refused. -/
theorem runFrom_refuseListed {failure : Failure} {directory : ModuleDirectory} {step : Action Bool}
    {scanner : Scanner} {name : String} (hname : directory.nameIn files = .ok name) :
    runFrom (refuseListed failure files directory step) scanner =
      if scanner.modules.hasKey name = true then (.error failure, scanner)
      else runFrom step scanner := by
  have hrun : runFrom (refuseListed failure files directory step) scanner =
      runFrom (match directory.nameIn files with
        | .ok name => if scanner.modules.hasKey name then throw failure else step
        | .error _ => step : Action Bool) scanner := rfl
  rw [hrun, hname]
  dsimp only
  split <;> rfl

/-- In a directory of modules, the check makes no difference: the scan looks at the table itself. -/
theorem scanEntryWith_refusing (failure : Failure) (visit : ModuleDirectory → Action Bool)
    (files : FileSystem) (wanted : List String) (parent : Path) (entry : String) :
    scanEntryWith (fun directory => refuseListed failure files directory (visit directory)) files
        wanted parent entry =
      scanEntryWith visit files wanted parent entry := by
  refine eq_of_runFrom fun scanner => ?_
  unfold scanEntryWith
  refine runFrom_bind_congr fun present between hpresent => ?_
  split
  · refine runFrom_bind_congr fun _ looked hget => ?_
    cases hget
    dsimp only
    cases hread : ({ path := parent.child entry } : ModuleDirectory).read between.context
        (ModuleDirectory.readName files) with
    | mk outcome rest =>
        obtain ⟨directory, context⟩ := rest
        refine runFrom_bind_congr fun _ noted hset => ?_
        cases hset
        refine runFrom_bind_congr fun name named hlift => ?_
        split
        · rfl
        · split
          · rfl
          · next hnew =>
              rw [runFrom_lift] at hlift
              obtain ⟨rfl, rfl⟩ := Prod.mk.inj hlift
              obtain ⟨⟨journal, hrun⟩, _⟩ := ModuleDirectory.read_eq hread
              obtain ⟨_, hkept, _⟩ := ModuleDirectory.readName_eq_ok hrun
              rw [runFrom_bind, runFrom_refuseListed (ModuleDirectory.nameIn_of_name hkept),
                if_neg hnew, ← runFrom_bind]
  · rfl

/-- Nor does it in several of them. -/
theorem scanModulepathWith_refusing (failure : Failure) (visit : ModuleDirectory → Action Bool)
    (files : FileSystem) (wanted : List String) (directories : List Path) :
    scanModulepathWith (fun directory => refuseListed failure files directory (visit directory))
        files wanted directories =
      scanModulepathWith visit files wanted directories := by
  have hentries (parent : Path) (entries : List String) :
      scanEntriesWith (fun directory => refuseListed failure files directory (visit directory))
          files wanted parent entries =
        scanEntriesWith visit files wanted parent entries := by
    induction entries with
    | nil => rfl
    | cons entry rest ih =>
        unfold scanEntriesWith
        rw [scanEntryWith_refusing, ih]
  induction directories with
  | nil => rfl
  | cons directory rest ih =>
      unfold scanModulepathWith
      simp only [hentries, ih]

/-- So the check is one of the analysed directory. -/
theorem scanOnce_eq (failure : Failure) (files : FileSystem) :
    scanOnce failure files =
      scanWith
        (do
          let scanner ← get
          refuseListed failure files scanner.root (scanRoot files))
        (scanDirectory files) files := by
  unfold scanOnce scanWith
  simp only [scanModulepathWith_refusing]

/-- The scan gets to the analysed directory, and finds the module of the name there. -/
structure VisitsRoot (files : FileSystem) (scanner : Scanner) (name : String) : Prop where
  /-- Something is to be scanned. -/
  scans : (scanner.config.useState && scanner.config.scanModules.isEmpty) = false
  /-- The analysed directory is the one of a module. -/
  named : scanner.root.nameIn files = .ok name
  /-- Its name is not empty. -/
  ne_empty : name ≠ ""
  /-- The module is wanted. -/
  wanted : wantedModules scanner.config = [] ∨ name ∈ wantedModules scanner.config

/-- What reading from the analysed directory comes to, and what it leaves behind. -/
theorem runFrom_askRoot {α : Type} (step : DirectoryRead α) (scanner : Scanner) :
    runFrom (askRoot step) scanner =
      ((scanner.root.read scanner.context step).1,
        { scanner with
          root := (scanner.root.read scanner.context step).2.1
          context := (scanner.root.read scanner.context step).2.2 }) := by
  have hrun : runFrom (askRoot step) scanner =
      runFrom (lift (scanner.root.read scanner.context step).1)
        { scanner with
          root := (scanner.root.read scanner.context step).2.1
          context := (scanner.root.read scanner.context step).2.2 } := rfl
  rw [hrun, runFrom_lift]

/-- The name of the analysed directory is read and kept, and nothing else changes but the
diagnostics. -/
theorem rootName_eq_ok {scanner scanner' : Scanner} {name : String}
    (h : runFrom (rootName files) scanner = (.ok name, scanner')) :
    scanner.root.nameIn files = .ok name ∧ scanner'.root.name = some name ∧
      scanner'.modules = scanner.modules ∧ scanner'.config = scanner.config := by
  unfold rootName at h
  rw [runFrom_askRoot] at h
  obtain ⟨hname, rfl⟩ := Prod.mk.inj h
  refine ⟨?_, ?_, rfl, rfl⟩
  · rw [← ModuleDirectory.read_readName_fst, hname]
  · obtain ⟨⟨journal, hrun⟩, _⟩ := ModuleDirectory.read_eq
      (Prod.ext hname rfl : _ = (Except.ok name, _, _))
    exact (ModuleDirectory.readName_eq_ok hrun).2.1

/-- A name that can be read from the analysed directory is read. -/
theorem exists_rootName {scanner : Scanner} {name : String}
    (h : scanner.root.nameIn files = .ok name) :
    ∃ scanner', runFrom (rootName files) scanner = (.ok name, scanner') := by
  refine ⟨_, (runFrom_askRoot _ _).trans (Prod.ext ?_ rfl)⟩
  exact (ModuleDirectory.read_readName_fst _ _).trans h

/-- A scan that does not get to the analysed directory does not depend on what it would do there. -/
theorem runFrom_scanWith_of_not {scanner : Scanner}
    (h : ∀ name, ¬ VisitsRoot files scanner name) (first second : Action Bool) :
    runFrom (scanWith first visit files) scanner =
      runFrom (scanWith second visit files) scanner := by
  unfold scanWith
  refine runFrom_bind_congr fun _ looked hget => ?_
  cases hget
  dsimp only
  split
  · rfl
  · next hscans =>
      refine runFrom_bind_congr fun _ noted hnote => ?_
      cases hnote
      refine runFrom_bind_congr fun name named hname => ?_
      split
      · rfl
      · split
        · next hwanted =>
            simp only [Bool.and_eq_true, Bool.or_eq_true, decide_eq_true_eq, List.isEmpty_iff,
              List.contains_iff_mem] at hwanted
            refine absurd ⟨?_, (rootName_eq_ok hname).1, hwanted.1, hwanted.2⟩ (h name)
            exact Bool.eq_false_iff.2 hscans
        · rfl

/-- A scan that gets to the analysed directory visits it when the table is still as it was. -/
theorem VisitsRoot.exists_runFrom {scanner : Scanner} {name : String}
    (h : VisitsRoot files scanner name) (visit : ModuleDirectory → Action Bool) :
    ∃ (ready : Scanner) (rest : Bool → Action Unit),
      ready.modules = scanner.modules ∧ ready.root.name = some name ∧
      ∀ visitRoot, runFrom (scanWith visitRoot visit files) scanner =
        runFrom (visitRoot >>= rest) ready := by
  let wanted := wantedModules scanner.config
  let note (context : Context) : Context := context.log .info
    (if wanted.isEmpty then "Scanning all modules"
      else "Found modules to scan " ++ String.intercalate ", " wanted)
  let noted : Scanner := { scanner with context := note scanner.context }
  obtain ⟨ready, hname⟩ : ∃ ready, runFrom (rootName files) noted = (.ok name, ready) :=
    exists_rootName h.named
  obtain ⟨_, hkept, hmodules, _⟩ := rootName_eq_ok hname
  let rest : Action Unit := do
    scanModulepathWith visit files wanted scanner.config.modulepath
    checkScanned (if wanted.isEmpty then scanner.config.modules else wanted)
    summarizeKinds
  refine ⟨ready, fun _ => rest, hmodules, hkept, fun visitRoot => ?_⟩
  have hscans : ¬(scanner.config.useState && scanner.config.scanModules.isEmpty) = true := by
    rw [h.scans]
    exact Bool.false_ne_true
  have hfound : ¬(scanner.config.modulepath.isEmpty && name == "") = true := by
    simp [h.ne_empty]
  have hwanted : (decide (name ≠ "") && (wanted.isEmpty || wanted.contains name)) = true := by
    simpa [h.ne_empty] using h.wanted
  -- Up to the visit, the steps come to what was assumed.
  unfold scanWith
  have hget : runFrom (get : Action Scanner) scanner = (.ok scanner, scanner) := rfl
  have hnote : runFrom (update note) scanner = (.ok (), noted) := rfl
  rw [runFrom_bind, hget]
  dsimp only
  rw [if_neg hscans, runFrom_bind, hnote]
  dsimp only
  rw [runFrom_bind, hname]
  dsimp only
  rw [if_neg hfound, if_pos hwanted]

/-- The analysed directory, once its name is known, is refused if the table has it. -/
theorem runFrom_refuseRoot {failure : Failure} {step : Action Bool} {scanner : Scanner}
    {name : String} (h : scanner.root.name = some name) :
    runFrom (do
        let scanner ← get
        refuseListed failure files scanner.root step : Action Bool) scanner =
      if scanner.modules.hasKey name = true then (.error failure, scanner)
      else runFrom step scanner :=
  runFrom_refuseListed (ModuleDirectory.nameIn_of_name h)

/-- The check makes no difference if the analysed module is not in the table. -/
theorem runFrom_scanOnce {failure : Failure} {scanner : Scanner}
    (h : ∀ name, VisitsRoot files scanner name → scanner.modules.hasKey name = false) :
    runFrom (scanOnce failure files) scanner = runFrom (scan files) scanner := by
  rw [scanOnce_eq, ← scanWith_scanRoot]
  by_cases hvisits : ∃ name, VisitsRoot files scanner name
  · obtain ⟨name, hvisits⟩ := hvisits
    obtain ⟨ready, rest, hmodules, hkept, hrun⟩ := hvisits.exists_runFrom (scanDirectory files)
    rw [hrun, hrun, runFrom_bind, runFrom_refuseRoot hkept, hmodules, h name hvisits,
      if_neg Bool.false_ne_true, ← runFrom_bind]
  · exact runFrom_scanWith_of_not (not_exists.1 hvisits) _ _

/-- The check stops the scan if the analysed module is in the table. -/
theorem VisitsRoot.scanOnce_fails {scanner : Scanner} {name : String}
    (h : VisitsRoot files scanner name) (hlisted : scanner.modules.hasKey name = true)
    (failure : Failure) : (runFrom (scanOnce failure files) scanner).1 = .error failure := by
  obtain ⟨ready, rest, hmodules, hkept, hrun⟩ := h.exists_runFrom (scanDirectory files)
  rw [scanOnce_eq, hrun, runFrom_bind, runFrom_refuseRoot hkept, hmodules, if_pos hlisted]

/-! ## What is there after preparing -/

/-- Two states with the same configuration, table and analysed directory. -/
structure SameTask (before after : Scanner) : Prop where
  /-- The configuration is the same. -/
  config : after.config = before.config
  /-- The table is the same. -/
  modules : after.modules = before.modules
  /-- The analysed directory is the same. -/
  root : after.root = before.root

variable {scanner scanner' : Scanner}

/-- A task that stays the same twice stays the same. -/
theorem SameTask.trans {between : Scanner} (h : SameTask scanner between)
    (h' : SameTask between scanner') : SameTask scanner scanner' :=
  ⟨h'.config.trans h.config, h'.modules.trans h.modules, h'.root.trans h.root⟩

/-- A change of the context leaves the task as it is. -/
theorem sameTask_update {change : Context → Context}
    (h : runFrom (update change) scanner = (.ok (), scanner')) : SameTask scanner scanner' := by
  cases h
  exact ⟨rfl, rfl, rfl⟩

/-- An outcome that is given changes nothing. -/
theorem lift_eq_ok {α : Type} {outcome : Except Failure α} {value : α}
    (h : runFrom (lift outcome) scanner = (.ok value, scanner')) :
    outcome = .ok value ∧ scanner' = scanner := by
  rw [runFrom_lift] at h
  obtain ⟨houtcome, hsame⟩ := Prod.mk.inj h
  exact ⟨houtcome, hsame.symm⟩

/-- Known warnings change the context and nothing else. -/
theorem sameTask_loadKnown {path : Path} {count : Nat}
    (h : runFrom (loadKnown files path) scanner = (.ok count, scanner')) :
    SameTask scanner scanner' := by
  obtain ⟨_, noted, hnote, hrest⟩ := runFrom_bind_eq_ok.1 h
  obtain ⟨text, _, htext, hrest⟩ := runFrom_bind_eq_ok.1 hrest
  obtain ⟨warnings, _, hwarnings, hrest⟩ := runFrom_bind_eq_ok.1 hrest
  obtain ⟨_, _, haccept, hreturn⟩ := runFrom_bind_eq_ok.1 hrest
  obtain ⟨_, rfl⟩ := lift_eq_ok htext
  obtain ⟨_, rfl⟩ := lift_eq_ok hwarnings
  cases hreturn
  exact (sameTask_update hnote).trans (sameTask_update haccept)

/-- Before the snapshot, preparing changes nothing but the context. -/
theorem prepare_eq_ok (h : runFrom (prepare files) scanner = (.ok (), scanner')) :
    ∃ ready, SameTask scanner ready ∧
      runFrom (prepareState files) ready = (.ok (), scanner') := by
  obtain ⟨_, _, hget, hrest⟩ := runFrom_bind_eq_ok.1 h
  cases hget
  obtain ⟨catalogue, _, hcatalogue, hrest⟩ := runFrom_bind_eq_ok.1 hrest
  obtain ⟨_, rfl⟩ := lift_eq_ok hcatalogue
  obtain ⟨_, seeded, hseed, hrest⟩ := runFrom_bind_eq_ok.1 hrest
  have hseeded := sameTask_update hseed
  dsimp only at hrest
  split at hrest
  · obtain ⟨present, checked, hpresent, hchecked⟩ := runFrom_bind_eq_ok.1 hrest
    obtain ⟨_, rfl⟩ := lift_eq_ok hpresent
    split at hchecked
    · obtain ⟨_, known, hknown, hrest⟩ := runFrom_bind_eq_ok.1 hchecked
      obtain ⟨_, noted, hnote, hrest⟩ := runFrom_bind_eq_ok.1 hrest
      exact ⟨noted, hseeded.trans ((sameTask_loadKnown hknown).trans (sameTask_update hnote)),
        hrest⟩
    · exact ⟨_, hseeded, hchecked⟩
  · exact ⟨_, hseeded, hrest⟩

/-- The modules that the configuration leaves out of a snapshot. -/
def excludedModules (config : Config) : List String :=
  if config.rescanListedModules then config.scanModules else []

/-- What restoring a snapshot into an empty table leaves behind. -/
theorem restoreState_eq_ok {snapshot : Snapshot} {count : Nat} (hempty : scanner.modules = [])
    (h : runFrom (restoreState snapshot) scanner = (.ok count, scanner')) :
    scanner'.config = scanner.config ∧ scanner'.root = scanner.root ∧
      ∀ name, scanner'.modules.hasKey name = true ↔
        snapshot.modules.hasKey name = true ∧ name ≠ builtinOwner ∧
          name ∉ excludedModules scanner.config := by
  cases h
  refine ⟨rfl, rfl, fun name => ?_⟩
  rw [← Snapshot.hasKey_restore snapshot _ scanner.context, ← hempty]
  rfl

/-- Choosing what to scan again: a list that is there stays as it is. Otherwise the analysed module
is listed, and left out of the snapshot, or there is none and nothing changes. -/
theorem chooseRescan_eq_ok {snapshot : Snapshot}
    (h : runFrom (chooseRescan files snapshot) scanner = (.ok (), scanner')) :
    scanner'.modules = scanner.modules ∧ scanner'.config.useState = scanner.config.useState ∧
      (scanner.config.scanModules ≠ [] ∧ scanner' = scanner ∨
        scanner.config.scanModules = [] ∧ scanner'.config.scanModules = [] ∨
        ∃ name, scanner'.root.name = some name ∧ scanner.config.scanModules = [] ∧
          scanner'.config.rescanListedModules = true ∧ name ∈ scanner'.config.scanModules) := by
  obtain ⟨_, _, hget, hrest⟩ := runFrom_bind_eq_ok.1 h
  cases hget
  split at hrest
  · next hnone =>
      have hnone := List.isEmpty_iff.1 hnone
      obtain ⟨name, named, hname, hrest⟩ := runFrom_bind_eq_ok.1 hrest
      obtain ⟨_, hkept, hmodules, hconfig⟩ := rootName_eq_ok hname
      split at hrest
      · obtain ⟨controlRepo, asked, hasked, hrest⟩ := runFrom_bind_eq_ok.1 hrest
        rw [runFrom_askRoot] at hasked
        obtain ⟨hanswer, rfl⟩ := Prod.mk.inj hasked
        obtain ⟨⟨journal, hrun⟩, _⟩ := ModuleDirectory.read_eq
          (Prod.ext hanswer rfl : _ = (Except.ok controlRepo, _, _))
        have hsteady := (ModuleDirectory.steady_readControlRepo _ _ _ _ _ hrun).2 name hkept
        have huse : named.config.useState = scanner.config.useState := by rw [hconfig]
        cases hrest
        exact ⟨hmodules, huse, .inr (.inr ⟨name, hsteady, hnone, rfl, List.mem_cons_self⟩)⟩
      · cases hrest
        rw [hconfig]
        exact ⟨hmodules, rfl, .inr (.inl ⟨hnone, hnone⟩)⟩
  · next hsome =>
      cases hrest
      exact ⟨rfl, rfl, .inl ⟨fun hnil => hsome (List.isEmpty_iff.2 hnil), rfl⟩⟩

/-- The snapshot that the configuration asks for. -/
structure LoadsSnapshot (files : FileSystem) (config : Config) (snapshot : Snapshot) : Prop where
  /-- A snapshot is asked for. -/
  used : config.useState = true
  /-- It is read from the file of the configuration. -/
  loaded : ∃ path, config.stateFile = some path ∧ files.isFile path = .ok true ∧
    Snapshot.load files path = .ok snapshot

/-- There is one such snapshot. -/
theorem LoadsSnapshot.unique {config : Config} {snapshot other : Snapshot}
    (h : LoadsSnapshot files config snapshot) (h' : LoadsSnapshot files config other) :
    other = snapshot := by
  obtain ⟨path, hpath, _, hload⟩ := h.loaded
  obtain ⟨path', hpath', _, hload'⟩ := h'.loaded
  rw [hpath] at hpath'
  cases hpath'
  rw [hload] at hload'
  cases hload'
  rfl

/-- Preparing loads the snapshot, decides what to scan again and restores the rest, or there is no
snapshot to load and the table stays as it is. -/
theorem prepareState_eq_ok (h : runFrom (prepareState files) scanner = (.ok (), scanner')) :
    scanner'.modules = scanner.modules ∧
        (∀ snapshot, ¬ LoadsSnapshot files scanner.config snapshot) ∨
      ∃ snapshot noted chosen count, LoadsSnapshot files scanner.config snapshot ∧
        SameTask scanner noted ∧
        runFrom (chooseRescan files snapshot) noted = (.ok (), chosen) ∧
        runFrom (restoreState snapshot) chosen = (.ok count, scanner') := by
  obtain ⟨_, _, hget, hrest⟩ := runFrom_bind_eq_ok.1 h
  cases hget
  split at hrest
  · next hused =>
      dsimp only at hrest
      split at hrest
      · cases hrest
      · next path hpath =>
          obtain ⟨present, checked, hpresent, hchecked⟩ := runFrom_bind_eq_ok.1 hrest
          obtain ⟨hfile, rfl⟩ := lift_eq_ok hpresent
          split at hchecked
          · next htrue =>
              obtain ⟨_, noted, hnote, hrest⟩ := runFrom_bind_eq_ok.1 hchecked
              obtain ⟨snapshot, loaded, hload, hloaded⟩ := runFrom_bind_eq_ok.1 hrest
              obtain ⟨hsnapshot, rfl⟩ := lift_eq_ok hload
              obtain ⟨_, chosen, hchoose, hchosen⟩ := runFrom_bind_eq_ok.1 hloaded
              obtain ⟨count, restored, hrestore, hreturn⟩ := runFrom_bind_eq_ok.1 hchosen
              cases hreturn
              exact .inr ⟨snapshot, loaded, chosen, count,
                ⟨hused, path, hpath, htrue ▸ hfile, hsnapshot⟩, sameTask_update hnote, hchoose,
                hrestore⟩
          · next hfalse =>
              obtain ⟨_, noted, hnote, hdrop⟩ := runFrom_bind_eq_ok.1 hchecked
              cases hnote
              cases hdrop
              refine .inl ⟨rfl, fun snapshot hloads => ?_⟩
              obtain ⟨path', hpath', hfile', _⟩ := hloads.loaded
              rw [hpath] at hpath'
              cases hpath'
              rw [hfile] at hfile'
              exact hfalse (Except.ok.inj hfile')
  · next hunused =>
      cases hrest
      exact .inl ⟨rfl, fun snapshot hloads => hunused hloads.used⟩

/-- The analysed module comes back from the snapshot, although it is listed to be scanned. -/
structure RootRestored (files : FileSystem) (config : Config) (snapshot : Snapshot)
    (name : String) : Prop where
  /-- The snapshot is loaded. -/
  loads : LoadsSnapshot files config snapshot
  /-- The analysed directory is the one of the module. -/
  named : (start config).root.nameIn files = .ok name
  /-- Its name is not empty. -/
  ne_empty : name ≠ ""
  /-- The module is listed to be scanned. -/
  listed : name ∈ config.scanModules
  /-- The modules that are listed are not left out of the snapshot. -/
  kept : config.rescanListedModules = false
  /-- The module is in the snapshot, and can be restored. -/
  restored : snapshot.modules.hasKey name = true ∧ name ≠ builtinOwner

/-- Where modules are listed, these are wanted. -/
theorem wantedModules_of_ne_nil {config : Config} (h : config.scanModules ≠ []) :
    wantedModules config = config.scanModules :=
  if_pos (by simpa using h)

/-- Where modules are listed, no other one is visited. -/
theorem VisitsRoot.listed {name : String} (h : VisitsRoot files scanner name)
    (hsome : scanner.config.scanModules ≠ []) : name ∈ scanner.config.scanModules := by
  have hwanted := h.wanted
  rw [wantedModules_of_ne_nil hsome] at hwanted
  exact hwanted.resolve_left hsome

/-- After preparing, the scan gets to a module of the table in just this case. -/
theorem visits_listed_iff {config : Config} {prepared : Scanner}
    (h : runFrom (prepare files) (start config) = (.ok (), prepared)) {name : String} :
    VisitsRoot files prepared name ∧ prepared.modules.hasKey name = true ↔
      ∃ snapshot, RootRestored files config snapshot name := by
  obtain ⟨ready, hready, hstate⟩ := prepare_eq_ok h
  have hconfig : ready.config = config := hready.config
  obtain ⟨hmodules, hnone⟩ | ⟨snapshot, noted, chosen, count, hloads, hnoted, hchoose, hrestore⟩ :=
    prepareState_eq_ok hstate
  · -- Without a snapshot the table is empty.
    rw [hmodules, hready.modules]
    constructor
    · rintro ⟨_, hlisted⟩
      cases hlisted
    · rintro ⟨snapshot, hrestored⟩
      exact absurd (hconfig ▸ hrestored.loads) (hnone snapshot)
  · rw [hconfig] at hloads
    obtain ⟨hmodules, hused, hchosen⟩ := chooseRescan_eq_ok hchoose
    have hcopied : noted.config = config := hnoted.config.trans hconfig
    have hempty : chosen.modules = [] := by
      rw [hmodules, hnoted.modules, hready.modules]
      rfl
    obtain ⟨hkept, hroot, hkeys⟩ := restoreState_eq_ok hempty hrestore
    rw [hkeys, ← hkept]
    rw [hcopied] at hchosen hused
    rw [← hkept] at hused
    obtain ⟨hsome, rfl⟩ | ⟨hnil, hstill⟩ | ⟨found, hfound, hnil, hagain, hlisted⟩ := hchosen
    · -- The list of the configuration stays, and whether it is left out of the snapshot.
      have hsame : prepared.config = config := hkept.trans hcopied
      have hplace : prepared.root = (start config).root :=
        hroot.trans (hnoted.root.trans hready.root)
      constructor
      · rintro ⟨hvisits, hsnapshot, hbuiltin, hexcluded⟩
        have hlisted := hvisits.listed (hsame ▸ hsome)
        rw [hsame] at hlisted hexcluded
        refine ⟨snapshot, hloads, hplace ▸ hvisits.named, hvisits.ne_empty, hlisted, ?_,
          hsnapshot, hbuiltin⟩
        by_contra hrescan
        rw [excludedModules, if_pos (Bool.not_eq_false _ ▸ hrescan)] at hexcluded
        exact hexcluded hlisted
      · rintro ⟨other, hrestored⟩
        cases hloads.unique hrestored.loads
        refine ⟨⟨?_, hplace ▸ hrestored.named, hrestored.ne_empty, ?_⟩, hrestored.restored.1,
          hrestored.restored.2, ?_⟩
        · rw [hsame]
          simp [hsome]
        · rw [hsame, wantedModules_of_ne_nil hsome]
          exact .inr hrestored.listed
        · rw [hsame, excludedModules, hrestored.kept]
          exact List.not_mem_nil
    · -- There is no analysed module, and nothing is scanned.
      constructor
      · rintro ⟨hvisits, _⟩
        have hscans := hvisits.scans
        rw [hused, hloads.used, hkept, hstill] at hscans
        cases hscans
      · rintro ⟨_, hrestored⟩
        exact absurd hnil (List.ne_nil_of_mem hrestored.listed)
    · -- The analysed module was listed, and left out of the snapshot.
      constructor
      · rintro ⟨hvisits, _, _, hexcluded⟩
        have hname := hvisits.named
        rw [hroot, ModuleDirectory.nameIn_of_name hfound] at hname
        cases hname
        rw [hkept, excludedModules, if_pos hagain] at hexcluded
        exact absurd hlisted hexcluded
      · rintro ⟨_, hrestored⟩
        exact absurd hnil (List.ne_nil_of_mem hrestored.listed)

/-- Preparing and then scanning visits no module that is in the table, unless the analysed module
is listed to be scanned and comes back from the snapshot. -/
theorem scan_visits_listed_iff (files : FileSystem) (config : Config) :
    (∀ failure, runFrom (do prepare files; scanOnce failure files) (start config) =
        runFrom (do prepare files; scan files) (start config)) ↔
      ¬ ∃ snapshot name, (runFrom (prepare files) (start config)).1 = .ok () ∧
        RootRestored files config snapshot name := by
  simp only [runFrom_bind]
  cases hrun : runFrom (prepare files) (start config) with
  | mk outcome prepared =>
      cases outcome with
      | error failure => simp
      | ok =>
          dsimp only
          constructor
          · rintro hsame ⟨snapshot, name, _, hrestored⟩
            -- The scan ends in one way, but with the check it ends in two.
            obtain ⟨hvisits, hlisted⟩ := (visits_listed_iff hrun).2 ⟨snapshot, hrestored⟩
            have hfirst := hvisits.scanOnce_fails hlisted .fileSystem
            have hsecond := hvisits.scanOnce_fails hlisted .invalidData
            rw [hsame] at hfirst hsecond
            rw [hfirst] at hsecond
            cases hsecond
          · intro hnone failure
            refine runFrom_scanOnce fun name hvisits => ?_
            by_contra hlisted
            obtain ⟨snapshot, hrestored⟩ :=
              (visits_listed_iff hrun).1 ⟨hvisits, eq_true_of_ne_false hlisted⟩
            exact hnone ⟨snapshot, name, rfl, hrestored⟩

/-- A module with a provider, and the file of a snapshot that holds both. -/
def providerFiles : FileSystem where
  root := .directory [
    ("builtins", .file "\x7b\x7d".toUTF8),
    ("state", .file
      ("\x7b\"definitions\":\x7b\"provider\":\x7b\"app\":\"app\"\x7d\x7d," ++
        "\"modules\":\x7b\"app\":\x7b\"name\":\"app\",\"path\":\"app\"\x7d\x7d\x7d").toUTF8),
    ("app", .directory [
      ("Puppetfile", .file .empty),
      ("lib", .directory [
        ("puppet", .directory [("provider", .directory [("app.rb", .file .empty)])])])])]

/-- The module is scanned on top of the snapshot. -/
def providerConfig : Config where
  path := .ofText "app"
  scanModules := ["app"]
  stateFile := some (.ofText "state")
  useState := true
  builtinsFile := some (.ofText "builtins")

/-- The module is restored and then visited, and finds its own provider already defined. -/
theorem restored_provider_defined_again :
    (¬ ∀ failure,
      runFrom (do prepare providerFiles; scanOnce failure providerFiles) (start providerConfig) =
        runFrom (do prepare providerFiles; scan providerFiles) (start providerConfig)) ∧
      .duplicateDefinition .provider "app" "app" ∈
        (runFrom (do prepare providerFiles; scan providerFiles)
          (start providerConfig)).2.context.diagnostics.found := by
  have hrun : (Snapshot.load providerFiles (.ofText "state")).toOption.any
        (·.modules.hasKey "app") = true ∧
      (runFrom (prepare providerFiles) (start providerConfig)).1.toOption = some () ∧
      (providerFiles.isFile (.ofText "state")).toOption = some true ∧
      ((start providerConfig).root.nameIn providerFiles).toOption = some "app" ∧
      .duplicateDefinition .provider "app" "app" ∈
        (runFrom (do prepare providerFiles; scan providerFiles)
          (start providerConfig)).2.context.diagnostics.found := by
    decide +kernel
  obtain ⟨hload, hprepared, hfile, hname, hfound⟩ := hrun
  obtain ⟨snapshot, hsnapshot, hkey⟩ := (Option.any_eq_true ..).1 hload
  refine ⟨fun hsame => (scan_visits_listed_iff providerFiles providerConfig).1 hsame
    ⟨snapshot, "app", ok_of_toOption hprepared, ?_⟩, hfound⟩
  exact ⟨⟨rfl, _, rfl, ok_of_toOption hfile, ok_of_toOption hsnapshot⟩, ok_of_toOption hname,
    by decide, List.mem_cons_self, rfl, hkey, by decide⟩

end Scanner

end ModuleGraph
