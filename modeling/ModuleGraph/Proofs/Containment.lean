import ModuleGraph.Proofs.Contents
import ModuleGraph.Proofs.FirstDefinition
import ModuleGraph.Proofs.Revisits
import ModuleGraph.Proofs.Walking

/-!
# Why reading a module fails

A failure in a run should be one that the user is told. This module says what else it can be due to:
`Cause` lists what in the files ends a run untold, and each step that reads from a directory or from
a module fails for such a cause only.

The argument is by triples: `Triple before step after cause` says where a step leads and for what
causes it fails, and triples are put together like the steps. While a module is read, the place of
its directory stays the same, and every kind that nothing handles is that of a node in a manifest
(`ModuleScan.Underway`). These two facts let a cause name the file that is at fault.
-/

namespace ModuleGraph

/-! ## Steps with a property before and after -/

section Triples

variable {σ α β : Type} {before : σ → Prop} {after : α → σ → Prop} {cause : Failure → Prop}
  {step : ExceptT Failure (StateM σ) α}

/-- From a state with a property a step leads to a value and a state with another property, or it
fails for a cause. -/
def Triple (before : σ → Prop) (step : ExceptT Failure (StateM σ) α) (after : α → σ → Prop)
    (cause : Failure → Prop) : Prop :=
  ∀ state, before state →
    match runFrom step state with
    | (.ok value, state') => after value state'
    | (.error failure, _) => cause failure

/-- What comes after may be weakened. -/
theorem Triple.weaken {weaker : α → σ → Prop} (h : Triple before step after cause)
    (hweaker : ∀ value state, after value state → weaker value state) :
    Triple before step weaker cause := by
  intro state hstate
  have hrun := h state hstate
  split at hrun
  · exact hweaker _ _ hrun
  · exact hrun

/-- The causes may be more. -/
theorem Triple.explain {other : Failure → Prop} (h : Triple before step after cause)
    (hother : ∀ failure, cause failure → other failure) : Triple before step after other := by
  intro state hstate
  have hrun := h state hstate
  split at hrun
  · exact hrun
  · exact hother _ hrun

/-- What comes before may be strengthened. -/
theorem Triple.strengthen {stronger : σ → Prop} (h : Triple before step after cause)
    (hstronger : ∀ state, stronger state → before state) : Triple stronger step after cause :=
  fun state hstate => h state (hstronger state hstate)

/-- From one state, the step leads to the state in which it really ends. -/
theorem Triple.traced {start : σ} (h : Triple before step after cause) (hstart : before start) :
    Triple (· = start) step (fun value state => after value state ∧
      runFrom step start = (.ok value, state)) cause := by
  rintro _ rfl
  have hrun := h _ hstart
  split at hrun
  · next hsplit => exact ⟨hrun, hsplit⟩
  · exact hrun

/-- What a run of the step comes to. -/
theorem Triple.ends {state state' : σ} {outcome : Except Failure α}
    (h : Triple before step after cause) (hrun : runFrom step state = (outcome, state'))
    (hstate : before state) :
    (∀ value, outcome = .ok value → after value state') ∧
      ∀ failure, outcome = .error failure → cause failure := by
  have hends := h state hstate
  rw [hrun] at hends
  constructor
  · rintro value rfl
    exact hends
  · rintro failure rfl
    exact hends

/-- A fact that is known before the step may be used. -/
theorem Triple.assuming {fact : Prop} (h : fact → Triple before step after cause) :
    Triple (fun state => before state ∧ fact) step after cause :=
  fun state hstate => h hstate.2 state hstate.1

/-- One step comes after another. -/
theorem Triple.bind {next : α → ExceptT Failure (StateM σ) β} {last : β → σ → Prop}
    (hstep : Triple before step after cause)
    (hnext : ∀ value, Triple (after value) (next value) last cause) :
    Triple before (step >>= next) last cause := by
  intro state hstate
  have hrun := hstep state hstate
  rw [runFrom_bind]
  cases hsplit : runFrom step state with
  | mk outcome between =>
      rw [hsplit] at hrun
      cases outcome with
      | ok value => exact hnext value between hrun
      | error failure => exact hrun

/-- A value is returned. -/
theorem triple_pure {value : α} : Triple before (pure value) (fun _ => before) cause :=
  fun _ h => h

/-- A step fails. -/
theorem triple_throw {failure : Failure} (h : cause failure) :
    Triple before (throw failure : ExceptT Failure (StateM σ) α) after cause :=
  fun _ _ => h

/-- Nothing comes after a step that fails. -/
theorem triple_throw_bind {failure : Failure} {next : α → ExceptT Failure (StateM σ) β}
    {last : β → σ → Prop} (h : cause failure) :
    Triple before ((throw failure : ExceptT Failure (StateM σ) α) >>= next) last cause :=
  fun _ _ => h

/-- The state is looked at. -/
theorem triple_get {next : σ → ExceptT Failure (StateM σ) β} {last : β → σ → Prop}
    (hnext : ∀ state, before state → Triple before (next state) last cause) :
    Triple before (get >>= next) last cause :=
  fun state hstate => hnext state hstate state hstate

/-- The state is replaced. -/
theorem triple_set {state : σ} {kept : σ → Prop} (h : kept state) :
    Triple before (set state : ExceptT Failure (StateM σ) PUnit) (fun _ => kept) cause :=
  fun _ _ => h

/-- The state is changed, and keeps its property. -/
theorem triple_modify {change : σ → σ} (h : ∀ state, before state → before (change state)) :
    Triple before (modify change : ExceptT Failure (StateM σ) PUnit) (fun _ => before) cause :=
  h

/-- Nothing is said of where a step leads, only for what causes it fails. -/
theorem triple_of_failures (h : ∀ state, before state → ∀ failure,
    (runFrom step state).1 = .error failure → cause failure) :
    Triple before step (fun _ _ => True) cause := by
  intro state hstate
  split
  · trivial
  · next failure _ hrun => exact h state hstate failure (congrArg Prod.fst hrun)

/-- An outcome is taken over and noted. -/
theorem triple_noted {outcome : Except Failure α}
    (hstep : ∀ state, runFrom step state = (outcome, state))
    (hfail : ∀ failure, outcome = .error failure → cause failure) :
    Triple before step (fun value state => before state ∧ outcome = .ok value) cause := by
  intro state hstate
  rw [hstep]
  cases houtcome : outcome with
  | ok value => exact ⟨hstate, rfl⟩
  | error failure => exact hfail failure houtcome

/-- An outcome is taken over. -/
theorem triple_outcome {outcome : Except Failure α}
    (hstep : ∀ state, runFrom step state = (outcome, state))
    (hfail : ∀ failure, outcome = .error failure → cause failure) :
    Triple before step (fun _ => before) cause :=
  (triple_noted hstep hfail).weaken fun _ _ h => h.1

/-- A state is kept whatever the outcome is, and then the outcome is taken over. -/
theorem triple_keep {outcome : Except Failure α} {state : σ}
    {next : α → ExceptT Failure (StateM σ) β} {last : β → σ → Prop} (after : α → σ → Prop)
    (hstep : ∀ state, runFrom step state = (outcome, state))
    (hok : ∀ value, outcome = .ok value → after value state)
    (hfail : ∀ failure, outcome = .error failure → cause failure)
    (hnext : ∀ value, Triple (after value) (next value) last cause) :
    Triple before (set state >>= fun _ => step >>= next) last cause := by
  have hkept : Triple (· = state) step after cause := by
    refine (triple_noted hstep hfail).weaken fun value kept h => ?_
    rw [h.1]
    exact hok value h.2
  have hset : Triple before (set state) (fun _ => (· = state)) cause := triple_set rfl
  exact Triple.bind hset fun _ => Triple.bind hkept hnext

end Triples

/-! ## Causes -/

section Causes

variable (files : FileSystem) (config : Config)

/-- A directory that a run may scan: the analysed one, or an entry of the modulepath. -/
inductive Analysed : Path → Prop
  /-- The analysed directory. -/
  | root : Analysed config.path
  /-- An entry of a directory of modules. -/
  | entry {parent : Path} {names : List String} {name : String}
    (hparent : parent ∈ config.modulepath) (hnames : files.listNames parent = .ok names)
    (hname : name ∈ names) : Analysed (parent.child name)

/-- What is found in one of the directories that hold the manifests of such a directory. -/
def IsCandidate (source : Path) : Prop :=
  ∃ directory base found, Analysed files config directory ∧
    base ∈ ModuleScan.manifestDirectories directory ∧
    files.matchingBelow base ".pp" = .ok found ∧ source ∈ found

/-- A manifest of a directory that a run may scan. -/
def IsManifest (source : Path) : Prop :=
  IsCandidate files config source ∧ files.isDirectory source = .ok false

/-- The syntax tree of such a manifest. -/
def IsManifestTree (tree : SourceTree) : Prop :=
  ∃ source, IsManifest files config source ∧ loadTree files config.treeSuffix source = .ok tree

/-- The place of a syntax dump of such a manifest. -/
def IsDumpPlace (dump : Path) : Prop :=
  ∃ source, IsManifest files config source ∧
    source.withName? (source.name ++ config.treeSuffix) = some dump

/-- A directory in which a run may search at any depth. -/
inductive IsSearched : Path → Prop
  /-- A directory that holds manifests. -/
  | manifests {directory base : Path} (h : Analysed files config directory)
    (hbase : base ∈ ModuleScan.manifestDirectories directory) : IsSearched base
  /-- The directory of the functions or of the data types of the plugins. -/
  | plugins {directory : Path} {part : String} (h : Analysed files config directory)
    (hpart : part ∈ ["functions", "datatypes"]) :
    IsSearched (((directory.child "lib").child "puppet").child part)

/-- A path that a run may ask about. -/
inductive IsAskedAbout : Path → Prop
  /-- The file of known warnings. -/
  | known {path : Path} (h : config.knownWarningsFile = some path) : IsAskedAbout path
  /-- The file of the snapshot. -/
  | snapshot {path : Path} (h : config.stateFile = some path) : IsAskedAbout path
  /-- A file or directory by which a module is recognised. -/
  | marker {directory : Path} {name : String} (h : Analysed files config directory)
    (hname : name ∈ ["Puppetfile", "metadata.json", "manifests"]) :
    IsAskedAbout (directory.child name)
  /-- An entry of a directory of modules. -/
  | entry {parent : Path} {names : List String} {name : String}
    (hparent : parent ∈ config.modulepath) (hnames : files.listNames parent = .ok names)
    (hname : name ∈ names) : IsAskedAbout (parent.join (.ofText name))
  /-- The syntax dump of a manifest. -/
  | dump {path : Path} (h : IsDumpPlace files config path) : IsAskedAbout path
  /-- A directory that is searched. -/
  | searched {base : Path} (h : IsSearched files config base) : IsAskedAbout base
  /-- What may be a manifest. -/
  | candidate {source : Path} (h : IsCandidate files config source) : IsAskedAbout source
  /-- The directory of the plugins, or one that holds plugin files. -/
  | plugins {directory : Path} (parts : List String) (h : Analysed files config directory)
    (hparts : parts ∈ [[], ["parser", "functions"], ["type"], ["provider"]]) :
    IsAskedAbout (parts.foldl Path.child ((directory.child "lib").child "puppet"))
  /-- An entry of the directory of the providers. -/
  | provider {directory path : Path} (h : Analysed files config directory)
    (hpath : path ∈ files.children (((directory.child "lib").child "puppet").child "provider")) :
    IsAskedAbout path

/-- Why a run over files fails without telling. -/
inductive Cause (failure : Failure) : Prop
  /-- The metadata of a module are JSON of another shape, or cannot be read as text. -/
  | metadata {directory : Path} {bytes : ByteArray} (hdirectory : Analysed files config directory)
    (hread : files.readBytes (directory.child "metadata.json") = .ok bytes)
    (hcontent : ¬ HasJson (files.limits (directory.child "metadata.json")).json True
      Json.IsMetadata bytes)
  /-- The syntax dump of a manifest is JSON of another shape, or cannot be read as text. -/
  | dump {path : Path} {bytes : ByteArray} (hpath : IsDumpPlace files config path)
    (hread : files.readBytes path = .ok bytes)
    (hcontent : ¬ HasJson (files.limits path).json True
      (Json.AnswersAsDump (files.limits path).tree) bytes)
  /-- The snapshot that is asked for cannot be read as text. -/
  | snapshot {path : Path} {bytes : ByteArray} (hused : config.useState = true)
    (hpath : config.stateFile = some path) (hread : files.readBytes path = .ok bytes)
    (hcontent : ¬ bytes.IsValidUTF8)
  /-- The known warnings cannot be read as text. -/
  | known {path : Path} {bytes : ByteArray} (hpath : config.knownWarningsFile = some path)
    (hread : files.readBytes path = .ok bytes) (hcontent : ¬ bytes.IsValidUTF8)
  /-- The catalogue is not JSON of its shape. -/
  | catalogue {path : Path} {bytes : ByteArray} (hpath : config.builtinsFile = some path)
    (hread : files.readBytes path = .ok bytes)
    (hcontent : ¬ HasJson (files.limits path).json False Json.IsCatalogue bytes)
  /-- There is no catalogue. -/
  | noCatalogue {path : Path} (hpath : config.builtinsFile = some path)
    (hread : files.readBytes path = .error failure)
  /-- The tree of a manifest cannot be read to its end. -/
  | tree {tree : SourceTree} {file : String} (htree : IsManifestTree files config tree)
    (hreading : (tree.root.reading ⟨file, tree.source⟩ [] []).failure = some failure)
  /-- The tree of a manifest has a node whose kind is no text. -/
  | kind {tree : SourceTree} {node : Node} (htree : IsManifestTree files config tree)
    (hnode : node ∈ tree.root.preorder) (hkind : ¬ node.kind.IsText)
  /-- A manifest cannot have a syntax dump. -/
  | dumpName {source : Path} (hsource : IsManifest files config source)
    (hname : source.withName? (source.name ++ config.treeSuffix) = none)
  /-- A path cannot be looked up. -/
  | lookUp {path : Path} (hpath : IsAskedAbout files config path)
    (hlook : files.lookUp path = .error failure)
  /-- A directory that is searched holds one at some depth whose path is too long. -/
  | depth {base path : Path} (hbase : IsSearched files config base)
    (hpath : path ∈ files.select base Entry.directories) (hlong : path.isTooLong = true)
    (hfailure : failure = .fileSystem)
  /-- A directory of modules cannot be listed. -/
  | listing {parent : Path} (hparent : parent ∈ config.modulepath)
    (hlist : files.listNames parent = .error failure)

/-- The user is told, or there is a cause. -/
def Explained (failure : Failure) : Prop :=
  failure.IsTold ∨ Cause files config failure

end Causes

section Readers

variable {files : FileSystem} {config : Config} {failure : Failure} {directory path : Path}

/-- Where the content of a file is not to blame, reading it does not fail untold. -/
theorem Explained.of_not_contained {α : Type} {outcome : Except Failure α} {content : Prop}
    (hcontained : Contained outcome ↔ content) (hfailure : outcome = .error failure)
    (hcause : ¬ content → Cause files config failure) : Explained files config failure := by
  by_cases htold : failure.IsTold
  · exact .inl htold
  · refine .inr (hcause fun hcontent => htold ?_)
    exact hcontained.2 hcontent failure hfailure

/-- If it cannot be said whether there is something at a path, then the path cannot be looked up. -/
theorem FileSystem.lookUp_of_hasEntry {property : Entry → Bool}
    (h : files.hasEntry path property = .error failure) : files.lookUp path = .error failure := by
  unfold FileSystem.hasEntry at h
  split at h
  · cases hlook : files.lookUp path with
    | error found =>
        rw [hlook] at h
        cases h
        rfl
    | ok entry =>
        rw [hlook] at h
        cases h
  · cases h

/-- A question about a path that a run may ask about. -/
theorem explained_hasEntry {property : Entry → Bool} (hpath : IsAskedAbout files config path)
    (h : files.hasEntry path property = .error failure) : Explained files config failure :=
  .inr (.lookUp hpath (FileSystem.lookUp_of_hasEntry h))

/-- Where there is a file, its content can be read. -/
theorem FileSystem.exists_readBytes (h : files.isFile path = .ok true) :
    ∃ bytes, files.readBytes path = .ok bytes := by
  unfold FileSystem.isFile FileSystem.hasEntry at h
  split at h
  · unfold FileSystem.readBytes
    cases hlook : files.lookUp path with
    | error found =>
        rw [hlook] at h
        cases h
    | ok entry =>
        rw [hlook] at h
        match entry, h with
        | some (.file bytes), _ => exact ⟨bytes, rfl⟩
  · cases h

end Readers

/-! ## Reading from a directory -/

namespace ModuleDirectory

variable {files : FileSystem} {config : Config} {directory : Path} {α : Type}

/-- The state is that of reading from the directory. -/
def ReadsAt (directory : Path) (state : ModuleDirectory × Array Record) : Prop :=
  state.1.path = directory

/-- Looking for the metadata file. -/
theorem triple_readHasMetadata (h : Analysed files config directory) :
    Triple (ReadsAt directory) (readHasMetadata files)
      (fun present state => ReadsAt directory state ∧
        (present = true → files.isFile (directory.child "metadata.json") = .ok true))
      (Explained files config) := by
  refine triple_get fun state hstate => ?_
  have hplace : state.1.metadataPath = directory.child "metadata.json" :=
    congrArg (Path.child · "metadata.json") hstate
  rw [hplace]
  refine (triple_noted (runFrom_lift _) fun failure hfailure =>
    explained_hasEntry (.marker h (by simp)) hfailure).weaken ?_
  rintro present state ⟨hstate, hpresent⟩
  refine ⟨hstate, ?_⟩
  rintro rfl
  exact hpresent

/-- Finding out whether it is a control repository. -/
theorem triple_readControlRepo (h : Analysed files config directory) :
    Triple (ReadsAt directory) (readControlRepo files) (fun _ => ReadsAt directory)
      (Explained files config) := by
  refine triple_get fun state hstate => ?_
  dsimp only
  split
  · exact triple_pure
  · have hrepo (failure : Failure) (hfailure : isControlRepo files state.1.path = .error failure) :
        Explained files config failure := by
      rw [hstate] at hfailure
      exact explained_hasEntry (.marker h (by simp)) hfailure
    refine Triple.bind (triple_outcome (runFrom_lift _) hrepo) fun flag => ?_
    exact Triple.bind (triple_set hstate) fun _ => triple_pure

/-- Reading the metadata file anew, where there is one. -/
theorem triple_loadMetadata (h : Analysed files config directory)
    (hfile : files.isFile (directory.child "metadata.json") = .ok true) :
    Triple (ReadsAt directory) (loadMetadata files) (fun _ => ReadsAt directory)
      (Explained files config) := by
  obtain ⟨bytes, hbytes⟩ := FileSystem.exists_readBytes hfile
  refine triple_get fun state hstate => ?_
  have hplace : state.1.metadataPath = directory.child "metadata.json" :=
    congrArg (Path.child · "metadata.json") hstate
  dsimp only
  rw [hplace]
  refine Triple.bind (triple_set hstate) fun _ =>
    triple_outcome (runFrom_lift _) fun failure hfailure => ?_
  exact .of_not_contained (contained_parseMetadata_iff hbytes) hfailure (.metadata h hbytes)

/-- Reading the metadata. -/
theorem triple_readMetadata (h : Analysed files config directory) :
    Triple (ReadsAt directory) (readMetadata files) (fun _ => ReadsAt directory)
      (Explained files config) := by
  refine triple_get fun state hstate => ?_
  dsimp only
  have hkeep (metadata : Metadata) : Triple (ReadsAt directory) (keepMetadata metadata)
      (fun _ => ReadsAt directory) (Explained files config) :=
    Triple.bind (triple_modify fun _ h => h) fun _ => triple_pure
  split
  · exact triple_pure
  · refine Triple.bind (triple_readHasMetadata h) fun present => Triple.assuming fun hpresent => ?_
    split
    · next htrue => exact Triple.bind (triple_loadMetadata h (hpresent htrue)) hkeep
    · exact Triple.bind (triple_pure) hkeep

/-- Finding the name. -/
theorem triple_deriveName (h : Analysed files config directory) :
    Triple (ReadsAt directory) (deriveName files) (fun _ => ReadsAt directory)
      (Explained files config) := by
  refine Triple.bind (triple_readControlRepo h) fun controlRepo => triple_get fun state hstate => ?_
  dsimp only
  split
  · exact triple_pure
  · refine Triple.bind (triple_readHasMetadata h) fun present => Triple.assuming fun hpresent => ?_
    split
    · next htrue =>
        refine Triple.bind (triple_loadMetadata h (hpresent htrue)) fun metadata => ?_
        split
        · exact triple_pure
        · exact triple_pure
    · rw [hstate]
      refine Triple.bind (triple_outcome (runFrom_lift _) fun failure hfailure =>
        explained_hasEntry (.marker h (by simp)) hfailure) fun present => ?_
      split
      · exact triple_pure
      · exact triple_pure

/-- Reading the name. -/
theorem triple_readName (h : Analysed files config directory) :
    Triple (ReadsAt directory) (readName files) (fun _ => ReadsAt directory)
      (Explained files config) := by
  refine triple_get fun state _ => ?_
  dsimp only
  split
  · exact triple_pure
  · exact Triple.bind (triple_deriveName h) fun name =>
      Triple.bind (triple_modify fun _ h => h) fun _ => triple_pure

/-- Reading the version. -/
theorem triple_readVersion (h : Analysed files config directory) :
    Triple (ReadsAt directory) (readVersion files) (fun _ => ReadsAt directory)
      (Explained files config) :=
  Triple.bind (triple_readMetadata h) fun _ => triple_pure

/-- Putting the module together. -/
theorem triple_readModule (h : Analysed files config directory) (dependencies : Dependencies) :
    Triple (ReadsAt directory) (readModule files dependencies) (fun _ => ReadsAt directory)
      (Explained files config) :=
  Triple.bind (triple_readName h) fun _ => triple_get fun _ _ =>
    Triple.bind (triple_readControlRepo h) fun _ =>
      Triple.bind (triple_readMetadata h) fun _ => triple_pure

end ModuleDirectory

/-! ## Reading a module -/

section Modules

variable {files : FileSystem} {config : Config} {failure : Failure}

/-- The dump of a manifest is loaded, or it is explained why not. -/
theorem explained_loadTree {source : Path} (hsource : IsManifest files config source)
    (h : loadTree files config.treeSuffix source = .error failure) :
    Explained files config failure := by
  cases hname : source.withName? (source.name ++ config.treeSuffix) with
  | none => exact .inr (.dumpName hsource hname)
  | some dump =>
      have hplace : IsDumpPlace files config dump := ⟨source, hsource, hname⟩
      cases hfile : files.isFile dump with
      | error found =>
          simp only [loadTree, hname, hfile] at h
          cases h
          exact explained_hasEntry (.dump hplace) hfile
      | ok present =>
          cases present with
          | false =>
              simp only [loadTree, hname, hfile] at h
              cases h
              exact .inl rfl
          | true =>
              obtain ⟨bytes, hbytes⟩ := FileSystem.exists_readBytes hfile
              exact .of_not_contained (contained_loadTree_iff hname hbytes) h (.dump hplace hbytes)

/-- Searching a directory succeeds, or it is explained why not. -/
theorem explained_matchingBelow {base : Path} {ending : String}
    (hbase : IsSearched files config base)
    (h : files.matchingBelow base ending = .error failure) : Explained files config failure := by
  rcases exceptBind_eq_error.1 h with hlook | ⟨present, _, hrest⟩
  · exact explained_hasEntry (.searched hbase) hlook
  · split at hrest
    · dsimp only at hrest
      split at hrest
      · next hany =>
          cases hrest
          obtain ⟨path, hpath, hlong⟩ := List.any_eq_true.1 hany
          exact .inr (.depth hbase hpath hlong rfl)
      · cases hrest
    · cases hrest

namespace Reading

variable {cause : Failure → Prop}

/-- If reading stops, then for a cause. -/
def StopsFor (cause : Failure → Prop) (reading : Reading) : Prop :=
  ∀ failure, reading.failure = some failure → cause failure

/-- Facts do not stop reading. -/
theorem stopsFor_ofFacts {facts : List Fact} : (ofFacts facts).StopsFor cause := by
  intro failure h
  cases h

/-- An outcome stops reading, or what is read after it. -/
theorem stopsFor_given {α : Type} {outcome : Except Failure α} {read : α → Reading}
    (hfail : ∀ failure, outcome = .error failure → cause failure)
    (hread : ∀ value, outcome = .ok value → (read value).StopsFor cause) :
    (given outcome read).StopsFor cause := by
  cases outcome with
  | ok value => exact hread value rfl
  | error found =>
      rintro failure ⟨⟩
      exact hfail found rfl

/-- Readings in order stop where one of them does. -/
theorem stopsFor_join {readings : List Reading}
    (h : ∀ reading ∈ readings, reading.StopsFor cause) : (join readings).StopsFor cause := by
  induction readings with
  | nil => exact stopsFor_ofFacts
  | cons reading rest ih =>
      obtain ⟨hreading, hrest⟩ := List.forall_mem_cons.1 h
      cases hfailure : reading.failure with
      | none =>
          intro failure hstop
          refine ih hrest failure ?_
          rw [← hstop, join, failure_append hfailure]
      | some found =>
          rw [join, append_of_failure hfailure]
          exact hreading

end Reading

namespace Plugin

variable {directory : Path} {relativeTo : Option Path} {facts : Path → List Fact}

/-- Reading the plugin files in a directory stops if it cannot be looked up. -/
theorem stopsFor_inDirectory {base : Path} (hbase : IsAskedAbout files config base) :
    (inDirectory files base facts).StopsFor (Explained files config) := by
  refine Reading.stopsFor_given (fun failure h => ?_) fun _ _ => Reading.stopsFor_ofFacts
  rcases exceptBind_eq_error.1 h with hlook | ⟨present, _, hrest⟩
  · exact explained_hasEntry hbase hlook
  · split at hrest <;> cases hrest

/-- Reading those at any depth stops if it cannot be searched. -/
theorem stopsFor_belowDirectory {base : Path} (hbase : IsSearched files config base) :
    (belowDirectory files base facts).StopsFor (Explained files config) :=
  Reading.stopsFor_given (fun _ h => explained_matchingBelow hbase h) fun _ _ =>
    Reading.stopsFor_ofFacts

/-- Reading those in the directories of providers stops if one of them cannot be looked up. -/
theorem stopsFor_inSubdirectories {facts : Path → Path → List Fact}
    (hdirectory : Analysed files config directory) :
    (inSubdirectories files (((directory.child "lib").child "puppet").child "provider")
      facts).StopsFor (Explained files config) := by
  have hproviders : IsAskedAbout files config
      (((directory.child "lib").child "puppet").child "provider") :=
    .plugins ["provider"] hdirectory (by simp)
  refine Reading.stopsFor_given (fun failure h => ?_) fun directories h =>
    Reading.stopsFor_join fun reading hreading => ?_
  · rcases exceptBind_eq_error.1 h with hlook | ⟨present, _, hrest⟩
    · exact explained_hasEntry hproviders hlook
    · split at hrest
      · obtain ⟨path, hpath, hcheck⟩ := exists_of_filterM_eq_error hrest
        exact explained_hasEntry (.provider hdirectory hpath) hcheck
      · cases hrest
  · obtain ⟨type, htype, rfl⟩ := List.mem_map.1 hreading
    exact stopsFor_inDirectory
      (.provider hdirectory (FileSystem.mem_children_of_mem_subdirectories h htype))

/-- The plugins of a module are read, or it is explained why not. -/
theorem stopsFor_pluginFacts (hdirectory : Analysed files config directory) :
    (pluginFacts files ⟨directory, relativeTo⟩).StopsFor (Explained files config) := by
  refine Reading.stopsFor_given (fun failure h => ?_) fun present _ => ?_
  · exact explained_hasEntry (.plugins [] hdirectory (by simp)) h
  · split
    · refine Reading.stopsFor_join ?_
      simp only [List.forall_mem_cons]
      refine ⟨?_, ?_, ?_, ?_, ?_, stopsFor_inSubdirectories hdirectory, List.forall_mem_nil _⟩
      · exact stopsFor_inDirectory (.plugins ["parser", "functions"] hdirectory (by simp))
      · exact stopsFor_belowDirectory (.plugins hdirectory (by simp))
      · exact stopsFor_belowDirectory (.plugins hdirectory (by simp))
      · exact stopsFor_inDirectory (.plugins ["type"] hdirectory (by simp))
      · exact stopsFor_inDirectory (.plugins ["provider"] hdirectory (by simp))
    · exact Reading.stopsFor_ofFacts

end Plugin

/-- Every kind that nothing handles is that of a node of a manifest. -/
def KindsKnown (files : FileSystem) (config : Config) (context : Context) : Prop :=
  ∀ kind ∈ context.unhandledKinds,
    ∃ tree node, IsManifestTree files config tree ∧ node ∈ tree.root.preorder ∧ node.kind = kind

/-- The kind that nothing handles is that of the node. -/
theorem Node.kind_of_unhandledKind? {node : Node} {kind : Json}
    (h : node.unhandledKind? = some kind) : node.kind = kind := by
  unfold Node.unhandledKind? at h
  split at h
  · next text htext =>
      split at h
      · cases h
      · rw [htext]
        exact Option.some.inj h
  · exact Option.some.inj h

/-- A tree that is read to its end adds the kinds of its nodes. -/
theorem KindsKnown.readSource {owner : String} {file : SourceFile} {tree : SourceTree}
    {state state' : Context × Dependencies} {names : List Node}
    (h : KindsKnown files config state.1) (htree : IsManifestTree files config tree)
    (hread : readSource owner file tree.root state = (.ok names, state')) :
    KindsKnown files config state'.1 := by
  intro kind hkind
  rw [(readSource_refines_places hread).2.2.2, List.mem_append] at hkind
  rcases hkind with hold | hnew
  · exact h kind hold
  · obtain ⟨node, hnode, hunhandled⟩ := List.mem_filterMap.1 hnew
    exact ⟨tree, node, htree, hnode, Node.kind_of_unhandledKind? hunhandled⟩

/-- A tree that cannot be read to its end explains the failure. -/
theorem explained_readSource {owner : String} {file : String} {tree : SourceTree}
    {state state' : Context × Dependencies} (htree : IsManifestTree files config tree)
    (hread : readSource owner ⟨file, tree.source⟩ tree.root state = (.error failure, state')) :
    Explained files config failure := by
  unfold readSource at hread
  dsimp only at hread
  split at hread
  · next found hfound =>
      cases hread
      exact .inr (.tree htree hfound)
  · cases hread

/-- What plugins say is not about kinds. -/
theorem KindsKnown.recordPlugins {owner : String} {state : Context × Dependencies}
    (h : KindsKnown files config state.1) (location : Plugin.Location) :
    KindsKnown files config
      (Fact.recordAll owner state (Plugin.pluginFacts files location).facts).1 := by
  have hnone : (Plugin.pluginFacts files location).facts.filterMap Fact.unhandled? = [] := by
    rw [List.filterMap_eq_nil_iff]
    intro fact hfact
    have hsaid := Plugin.said_pluginFacts files location fact hfact
    cases fact with
    | unhandled => cases hsaid
    | note | define | refer | inherit | warn | report => rfl
  intro kind hkind
  rw [Fact.recordAll_unhandledKinds, hnone, List.append_nil] at hkind
  exact h kind hkind

end Modules

namespace ModuleScan

variable {files : FileSystem} {config running : Config} {directory : Path} {α : Type}

/-- A module is being read from the directory. -/
structure Underway (files : FileSystem) (config : Config) (directory : Path) (state : ModuleScan) :
    Prop where
  /-- The directory stays the same. -/
  path : state.directory.path = directory
  /-- The kinds that nothing handles come from manifests. -/
  kinds : KindsKnown files config state.context

/-- Reading from the directory. -/
theorem triple_ask {step : DirectoryRead α} {cause : Failure → Prop}
    (h : Triple (ModuleDirectory.ReadsAt directory) step
      (fun _ => ModuleDirectory.ReadsAt directory) cause) :
    Triple (Underway files config directory) (ask step)
      (fun _ => Underway files config directory) cause := by
  intro state hstate
  have hrun : runFrom (ask step) state =
      ((state.directory.read state.context step).1,
        { state with
          directory := (state.directory.read state.context step).2.1
          context := (state.directory.read state.context step).2.2 }) := runFrom_lift _ _
  rw [hrun]
  unfold ModuleDirectory.read
  cases hsplit : Id.run (StateT.run (ExceptT.run step)
      (state.directory, state.context.diagnostics.journal)) with
  | mk outcome after =>
      obtain ⟨hok, hfail⟩ := h.ends hsplit hstate.path
      cases outcome with
      | ok value => exact ⟨hok value rfl, hstate.kinds⟩
      | error failure => exact hfail failure rfl

/-- Changing the context apart from the kinds. -/
theorem triple_update {change : Context → Context} {cause : Failure → Prop}
    (hchange : ∀ context, (change context).unhandledKinds = context.unhandledKinds) :
    Triple (Underway files config directory) (update change)
      (fun _ => Underway files config directory) cause := by
  refine triple_modify fun state hstate => ⟨hstate.path, fun kind hkind => hstate.kinds kind ?_⟩
  rw [← hchange]
  exact hkind

/-- Reading a manifest. -/
theorem triple_readManifest (hsuffix : running.treeSuffix = config.treeSuffix) {source : Path}
    (hsource : IsManifest files config source) (owner : String) :
    Triple (Underway files config directory) (readManifest files running owner source)
      (fun _ => Underway files config directory) (Explained files config) := by
  unfold readManifest
  rw [hsuffix]
  refine Triple.bind (triple_noted (runFrom_lift _) fun failure hfailure =>
    explained_loadTree hsource hfailure) fun tree => Triple.assuming fun hloaded =>
      triple_get fun state hstate => ?_
  have htree : IsManifestTree files config tree := ⟨source, hsource, hloaded⟩
  dsimp only
  cases hread : readSource owner ⟨sourceName running.environmentPath source, tree.source⟩ tree.root
      (state.context, state.dependencies) with
  | mk outcome after =>
      refine triple_keep (fun _ => Underway files config directory) (runFrom_lift outcome)
        (fun names hnames => ?_) (fun failure hfailure => ?_) fun names => triple_pure
      · cases hnames
        exact ⟨hstate.path, KindsKnown.readSource hstate.kinds htree hread⟩
      · cases hfailure
        exact explained_readSource htree hread

/-- Reading the manifests among some paths in turn. -/
theorem triple_readManifests (hsuffix : running.treeSuffix = config.treeSuffix) (owner : String)
    {sources : List Path} (hsources : ∀ source ∈ sources, IsCandidate files config source) :
    Triple (Underway files config directory) (readManifests files running owner sources)
      (fun _ => Underway files config directory) (Explained files config) := by
  induction sources with
  | nil => exact triple_pure
  | cons source rest ih =>
      obtain ⟨hsource, hrest⟩ := List.forall_mem_cons.1 hsources
      refine Triple.bind (triple_noted (runFrom_lift _) fun failure hfailure =>
        explained_hasEntry (.candidate hsource) hfailure) fun present =>
          Triple.assuming fun hpresent => ?_
      cases present with
      | true => exact ih hrest
      | false =>
          exact Triple.bind (triple_readManifest hsuffix ⟨hsource, hpresent⟩ owner) fun _ =>
            ih hrest

/-- Reading the manifests in some directories in turn. -/
theorem triple_readDirectories (hsuffix : running.treeSuffix = config.treeSuffix) (owner : String)
    (hdirectory : Analysed files config directory) {bases : List Path}
    (hbases : ∀ base ∈ bases, base ∈ manifestDirectories directory) :
    Triple (Underway files config directory) (readDirectories files running owner bases)
      (fun _ => Underway files config directory) (Explained files config) := by
  induction bases with
  | nil => exact triple_pure
  | cons base rest ih =>
      obtain ⟨hbase, hrest⟩ := List.forall_mem_cons.1 hbases
      refine Triple.bind (triple_noted (runFrom_lift _) fun failure hfailure =>
        explained_matchingBelow (.manifests hdirectory hbase) hfailure) fun found =>
          Triple.assuming fun hfound => ?_
      refine Triple.bind (triple_readManifests hsuffix owner fun source hsource =>
        ⟨directory, base, found, hdirectory, hbase, hfound, hsource⟩) fun _ => ih hrest

/-- Reading the plugin files. -/
theorem triple_readPlugins (hdirectory : Analysed files config directory) (owner : String) :
    Triple (Underway files config directory) (readPlugins files running owner directory)
      (fun _ => Underway files config directory) (Explained files config) := by
  refine triple_get fun state hstate => ?_
  refine Triple.bind (triple_set ⟨hstate.path, KindsKnown.recordPlugins hstate.kinds _⟩) fun _ =>
    Triple.bind (triple_outcome (runFrom_lift _) fun failure hfailure => ?_) fun _ => triple_pure
  exact Plugin.stopsFor_pluginFacts hdirectory failure (Reading.outcome_eq_error.1 hfailure)

/-- Looking for metadata. -/
theorem triple_checkMetadata (h : Analysed files config directory) (name : String) :
    Triple (Underway files config directory) (checkMetadata files name)
      (fun _ => Underway files config directory) (Explained files config) := by
  have hmetadata := (ModuleDirectory.triple_readHasMetadata h).weaken fun _ _ hafter => hafter.1
  refine Triple.bind (triple_ask hmetadata) fun present => ?_
  split
  · exact triple_pure
  · refine triple_get fun _ _ =>
      Triple.bind (triple_ask (ModuleDirectory.triple_readControlRepo h)) fun controlRepo => ?_
    split
    · exact triple_pure
    · exact triple_update fun _ => rfl

/-- Reading a module. -/
theorem triple_readModule (hsuffix : running.treeSuffix = config.treeSuffix)
    (h : Analysed files config directory) :
    Triple (Underway files config directory) (readModule files running)
      (fun _ => Underway files config directory) (Explained files config) := by
  refine Triple.bind (triple_ask (ModuleDirectory.triple_readName h)) fun name =>
    triple_get fun state hstate => ?_
  dsimp only
  rw [hstate.path]
  split
  · exact Triple.bind (triple_update fun _ => rfl) fun _ => triple_pure
  · refine Triple.bind (triple_ask (ModuleDirectory.triple_readVersion h)) fun version => ?_
    refine Triple.bind (triple_update fun _ => rfl) fun _ => ?_
    refine Triple.bind (triple_checkMetadata h name) fun _ => ?_
    refine Triple.bind (triple_readDirectories hsuffix name h fun _ hbase => hbase) fun _ => ?_
    refine Triple.bind (triple_readPlugins h name) fun _ => ?_
    exact triple_get fun state _ =>
      Triple.bind (triple_ask (ModuleDirectory.triple_readModule h state.dependencies)) fun _ =>
        triple_pure

end ModuleScan

end ModuleGraph
