import ModuleGraph.Proofs.Gathering
import ModuleGraph.Proofs.Likeness

/-!
# Every reference is accounted for

Resolving a module works through its references, and each of them comes to something: the owner of
what it means is listed, or the reference is recorded as missing in each of its files and surfaced
with those in which this is not known. `Accounted` says so of a whole module, and
`gathered_references_accounted` that it holds for every module of a run that gathers references. An
empty list of files would make a missing reference vanish; there is none in such a run.

`hears_resolveDirect` says what the diagnostics hear while a module is resolved.
-/

namespace ModuleGraph

/-! ## What resolving a module says -/

/-- What is said about the references that nothing defines. -/
def Registry.missingSayings (registry : Registry) (entries : List Dependency) : List Saying :=
  entries.flatMap fun entry =>
    if registry.lookup entry.category entry.name = none then
      [.missing entry.category entry.name entry.sources]
    else []

/-- What is said about an ordinary module that depends on control modules. -/
def Module.controlSayings (module : Module) (control dependencies : List String) : List Saying :=
  if module.name ∈ control ∨ module.controlRepo then []
  else
    match control.filter fun name => name ∈ dependencies with
    | [] => []
    | offending =>
      [.report (.controlDependency module.name)
        ("Module " ++ module.name ++ " depends on control repo module " ++
          String.intercalate ", " (offending.map fun name => "'" ++ name ++ "'"))]

namespace Context

/-- Resolving references says which of them nothing defines. -/
theorem hears_resolveEntries (entries : List Dependency) (context : Context) :
    context.diagnostics.Hears (context.registry.missingSayings entries)
      (resolveEntries entries context).2.diagnostics := by
  induction entries generalizing context with
  | nil => exact Diagnostics.hears_nil _
  | cons entry rest ih =>
      have hentry : context.diagnostics.Hears
          (if context.registry.lookup entry.category entry.name = none then
            [.missing entry.category entry.name entry.sources] else [])
          (context.resolveEntry entry).2.diagnostics := by
        cases hlookup : context.registry.lookup entry.category entry.name with
        | none => exact hears_resolveEntry hlookup
        | some found => exact hears_resolveEntry_of_some hlookup
      have hrest := ih (context.resolveEntry entry).2
      rw [resolveEntry_registry] at hrest
      exact hentry.append hrest

/-- Looking for control modules says which ones an ordinary module depends on. -/
theorem hears_checkControl (context : Context) (control : List String) (module : Module)
    (dependencies : List String) :
    context.diagnostics.Hears (module.controlSayings control dependencies)
      (context.checkControl control module dependencies).diagnostics := by
  unfold checkControl Module.controlSayings
  split
  · exact Diagnostics.hears_nil _
  · cases control.filter fun name => name ∈ dependencies with
    | nil => exact Diagnostics.hears_nil _
    | cons first rest => exact Diagnostics.hears_report _ _ _

/-- Resolving a module says which of its references nothing defines, and then which control modules
it depends on. -/
theorem hears_resolveDirect (context : Context) (control : List String) (name : String)
    (module : Module) :
    context.diagnostics.Hears
      (context.registry.missingSayings module.dependencies.items ++
        module.controlSayings control (context.registry.directDependencies name module))
      (context.resolveDirect control name module).2.diagnostics := by
  have hvalue := context.resolveDirect_fst control name module
  simp only [resolveDirect] at hvalue ⊢
  rw [hvalue]
  have hstart := context.diagnostics.hears_log .info ("Resolving module " ++ name)
  have hentries := hears_resolveEntries module.dependencies.items
    (context.log .info ("Resolving module " ++ name))
  have hcontrol := hears_checkControl (resolveEntries module.dependencies.items
    (context.log .info ("Resolving module " ++ name))).2 control module
    (context.registry.directDependencies name module)
  have hall := ((hstart.append hentries).append hcontrol).append (Diagnostics.hears_log _ .debug
    ("Found " ++ name ++ " dependencies " ++
      Json.quotedNames (context.registry.directDependencies name module)))
  rw [List.append_nil] at hall
  exact hall

end Context

/-! ## What becomes of references -/

/-- The message about a reference, if nothing defines it and it is not known to be missing in some
file: it names the files in which this is not known, in their order. -/
def Registry.missingMessages (registry : Registry) (known : List Warning) (entry : Dependency) :
    List String :=
  if registry.lookup entry.category entry.name = none ∧
      ∃ source ∈ entry.sources, .missingDefinition entry.category entry.name source ∉ known then
    [Saying.missingMessage entry.category entry.name
      (entry.sources.filter fun source =>
        .missingDefinition entry.category entry.name source ∉ known)]
  else []

namespace Registry

/-- What surfaces of the sayings about references. -/
theorem flatMap_messages_missingSayings (registry : Registry) (known : List Warning)
    (entries : List Dependency) :
    (registry.missingSayings entries).flatMap (Saying.messages known) =
      entries.flatMap (registry.missingMessages known) := by
  rw [missingSayings, List.flatMap_assoc]
  refine List.flatMap_congr fun entry _ => ?_
  by_cases hlookup : registry.lookup entry.category entry.name = none
  · simp only [missingMessages, hlookup, if_true, true_and, List.flatMap_singleton,
      Saying.messages]
    cases hunknown : Saying.unknownSources known entry.category entry.name entry.sources with
    | nil =>
        have hknown : ¬ ∃ source ∈ entry.sources,
            .missingDefinition entry.category entry.name source ∉ known := by
          intro hgiven
          obtain ⟨source, hsource, hnew⟩ := hgiven
          exact hnew (Saying.unknownSources_eq_nil.1 hunknown source hsource)
        rw [if_neg hknown]
    | cons source rest =>
        have hsource : source ∈ Saying.unknownSources known entry.category entry.name
            entry.sources := by
          rw [hunknown]
          exact List.mem_cons_self
        obtain ⟨hmem, hnew⟩ := List.mem_filter.1 hsource
        rw [if_pos ⟨source, hmem, of_decide_eq_true hnew⟩]
        exact congrArg (fun unknown => [Saying.missingMessage entry.category entry.name unknown])
          hunknown.symm
  · simp [missingMessages, hlookup]

/-- The warnings in the sayings about references. -/
theorem mem_warnings_missingSayings {registry : Registry} {entries : List Dependency}
    {warning : Warning} :
    warning ∈ (registry.missingSayings entries).flatMap Saying.warnings ↔
      ∃ entry ∈ entries, registry.lookup entry.category entry.name = none ∧
        ∃ source ∈ entry.sources,
          .missingDefinition entry.category entry.name source = warning := by
  rw [missingSayings, List.flatMap_assoc, List.mem_flatMap]
  refine exists_congr fun entry => and_congr_right fun _ => ?_
  by_cases hlookup : registry.lookup entry.category entry.name = none
  · simp [hlookup, Saying.warnings]
  · simp [hlookup]

end Registry

/-- The references of a module are accounted for when it was resolved under a name: by the names
that were listed, and by what the diagnostics have heard. -/
structure Accounted (registry : Registry) (control : List String) (name : String) (module : Module)
    (names : List String) (before after : Diagnostics) : Prop where
  /-- The owner of a reference that something defines is listed, unless it is the module itself or
  the symbol is a builtin one. -/
  owner_listed : ∀ entry ∈ module.dependencies, ∀ found,
    registry.lookup entry.category entry.name = some found →
      found.owner ∈ names ∨ found.owner = name ∨ found.owner = builtinOwner
  /-- Nothing is listed but the owners of references. -/
  listed_owner : ∀ owner ∈ names, ∃ entry ∈ module.dependencies, ∃ found,
    registry.lookup entry.category entry.name = some found ∧ found.owner = owner
  /-- A reference that nothing defines is recorded for each of its files. Nothing else is recorded
  but that the module depends on control modules. -/
  mem_found_iff : ∀ warning, warning ∈ after.found ↔ warning ∈ before.found ∨
    (∃ entry ∈ module.dependencies, registry.lookup entry.category entry.name = none ∧
      ∃ source ∈ entry.sources, .missingDefinition entry.category entry.name source = warning) ∨
    warning ∈ (module.controlSayings control names).flatMap Saying.warnings
  /-- A message surfaces about each reference that nothing defines and that is not known to be
  missing in some file. Nothing else surfaces but that the module depends on control modules. -/
  messages_eq : after.messages = before.messages ++
    module.dependencies.items.flatMap (registry.missingMessages before.known) ++
    (module.controlSayings control names).flatMap (Saying.messages before.known)

/-- Resolving a module accounts for its references. -/
theorem Context.accounted_resolveDirect (context : Context) (control : List String)
    (name : String) (module : Module) :
    Accounted context.registry control name module
      (context.registry.directDependencies name module) context.diagnostics
      (context.resolveDirect control name module).2.diagnostics := by
  have hheard := context.hears_resolveDirect control name module
  have hmem (owner : String) : owner ∈ context.registry.directDependencies name module ↔
      DependsOn context.registry [(name, module)] name owner :=
    Registry.mem_directDependencies (if_pos rfl)
  refine ⟨?_, ?_, ?_, ?_⟩
  · intro entry hentry found hfound
    by_cases hself : found.owner = name
    · exact Or.inr (Or.inl hself)
    · by_cases hbuiltin : found.owner = builtinOwner
      · exact Or.inr (Or.inr hbuiltin)
      · exact Or.inl ((hmem found.owner).2
          ⟨hbuiltin, hself, module, if_pos rfl, entry, hentry, found, hfound, rfl⟩)
  · intro owner howner
    obtain ⟨_, _, kept, hkept, entry, hentry, found, hfound⟩ := (hmem owner).1 howner
    obtain rfl : module = kept := Option.some.inj ((if_pos rfl).symm.trans hkept)
    exact ⟨entry, hentry, found, hfound⟩
  · intro warning
    rw [hheard.found, Diagnostics.mem_foldl_insertNew, List.flatMap_append, List.mem_append,
      Registry.mem_warnings_missingSayings]
    simp only [Dependencies.mem_items]
  · rw [hheard.messages, List.flatMap_append, Registry.flatMap_messages_missingSayings,
      List.append_assoc]

/-- No reference is dropped. In a run that gathers references from files, plugin files and snapshots
of such runs, every reference of a module has files, none of them twice, and is to no variable that
the compiler provides. A resolver that starts from nothing resolves the module, whatever the context
is, and accounts for all its references. -/
theorem gathered_references_accounted {state : RunState} (h : Gathered state) {name : String}
    {module : Module} (hmodule : state.modules.get? name = some module) (control : List String)
    (context : Context) :
    module.dependencies.Sourced ∧
    ∃ names resolver after,
      Resolver.resolveModule state.modules name { controlModules := control } context =
        (.ok names, resolver, after) ∧
      Accounted context.registry control name module names context.diagnostics
        after.diagnostics := by
  refine ⟨h.sourced _ (Table.mem_of_get? hmodule), context.registry.directDependencies name module,
    { controlModules := control
      direct := [(name, context.registry.directDependencies name module)] },
    (context.resolveDirect control name module).2, ?_,
    context.accounted_resolveDirect control name module⟩
  have hvalue := context.resolveDirect_fst control name module
  simp only [Resolver.resolveModule, Table.get?, hmodule]
  rw [hvalue]
  rfl

/-- Operations that gather references of one module: to a class, to another class twice from one
file and once from a second one, and to a variable that the compiler provides. -/
def smallGathering : List Operation :=
  [.addModule "app" { name := "app", path := ⟨"", ["app"]⟩ },
    .onModule "app" (.refer .hostClass "::base" "init.pp"),
    .onModule "app" (.refer .hostClass "lost" "init.pp"),
    .onModule "app" (.refer .hostClass "lost" "db.pp"),
    .onModule "app" (.refer .hostClass "lost" "init.pp"),
    .onModule "app" (.refer .classVariable "::settings::confdir" "init.pp")]

/-- The state into which a snapshot of the small run is restored. -/
def smallRestored : RunState :=
  let captured := (runAll smallGathering {}).2
  ((Operation.restore (.capture captured.context captured.modules) []).apply {}).2

/-- In the restored module, the owner of the class that is there is listed, and the message about
the missing one leaves out the file in which this is known. -/
theorem smallRestored_accounted :
    let module : Module :=
      { name := "app"
        path := ⟨"", ["app"]⟩
        dependencies := [⟨.hostClass, "base", ["init.pp"]⟩,
          ⟨.hostClass, "lost", ["init.pp", "db.pp"]⟩] }
    let context : Context :=
      { registry := registryOfClasses ["base"]
        diagnostics := { known := [.missingDefinition .hostClass "lost" "init.pp"] } }
    Gathered smallRestored ∧ smallRestored.modules.get? "app" = some module ∧
    module.dependencies.Sourced ∧
    ∃ resolver after,
      Resolver.resolveModule smallRestored.modules "app" {} context =
        (.ok ["base"], resolver, after) ∧
      (∀ source ∈ ["init.pp", "db.pp"],
        .missingDefinition .hostClass "lost" source ∈ after.diagnostics.found) ∧
      after.diagnostics.messages = ["Failed to find class lost. Sources db.pp"] := by
  intro module context
  have hgathered : Gathered smallRestored := by
    have hcaptured : Gathered (runAll smallGathering {}).2 :=
      (Gathered.start {} {}).runAll (by decide)
    exact (Gathered.start {} {}).restore hcaptured []
  have hmodule : smallRestored.modules.get? "app" = some module := by cbv
  obtain ⟨hsourced, names, resolver, after, hresolve, haccounted⟩ :=
    gathered_references_accounted hgathered hmodule defaultControlModules context
  obtain rfl : names = ["base"] := by
    have hnames : (Resolver.resolveModule smallRestored.modules "app" {} context).1 =
        .ok ["base"] := by cbv
    exact Except.ok.inj ((congrArg Prod.fst hresolve).symm.trans hnames)
  refine ⟨hgathered, hmodule, hsourced, resolver, after, hresolve, fun source hsource => ?_,
    haccounted.messages_eq.trans ?_⟩
  · have hlost : ⟨.hostClass, "lost", ["init.pp", "db.pp"]⟩ ∈ module.dependencies :=
      List.mem_cons_of_mem _ List.mem_cons_self
    have hmissing : context.registry.lookup .hostClass "lost" = none := by cbv
    exact (haccounted.mem_found_iff _).2
      (Or.inr (Or.inl ⟨_, hlost, hmissing, source, hsource, rfl⟩))
  · decide

end ModuleGraph
