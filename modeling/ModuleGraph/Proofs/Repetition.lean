import ModuleGraph.Proofs.Likeness
import ModuleGraph.Proofs.Rescanning

/-!
# Scanning unchanged modules again

A `Repetition` is a run that restores a snapshot without some modules and scans these again,
although nothing has changed. Several modules may define the same symbol. The first of them in the
original order owns it, but after the restore the excluded modules come last.

`find?_result` says that the same owner wins all the same: a symbol of an excluded owner is not
restored for any other module. `inherits_result` and `get?_result` say that classes and modules come
back as they were, and `repetition_invisible` that nobody can tell the difference.
-/

namespace ModuleGraph

/-! ## Restoring without a word -/

namespace Context

/-- New symbols with different names are defined without a word. -/
theorem hears_defineAll (category : Category) {entries : List (String × String)}
    {context : Context} (hdistinct : (entries.map fun entry => normalizeName entry.1).Nodup)
    (hnew : ∀ entry ∈ entries, context.registry.find? category (normalizeName entry.1) = none) :
    context.diagnostics.Hears [] (entries.foldl
      (fun context entry => (context.define category entry.1 entry.2 false).2)
      context).diagnostics := by
  induction entries generalizing context with
  | nil => exact context.diagnostics.hears_nil
  | cons entry rest ih =>
      obtain ⟨hentry, hrest⟩ := List.nodup_cons.1 hdistinct
      obtain ⟨hfirst, hothers⟩ := List.forall_mem_cons.1 hnew
      have hdefine := context.hears_define category entry.1 entry.2 false
      rw [Registry.definitionSayings_new hfirst] at hdefine
      refine hdefine.append (ih hrest fun other hother => ?_)
      have hne : ¬(category = category ∧ normalizeName entry.1 = normalizeName other.1) :=
        fun hsame => hentry (List.mem_map.2 ⟨other, hother, hsame.2.symm⟩)
      rw [define_registry, Registry.find?_addNew, hothers other hother, if_neg hne]
      rfl

end Context

/-- A registry without repetitions lists no name of a category twice. -/
theorem Registry.Distinct.distinct_ofCategory {registry : Registry} (h : registry.Distinct)
    (category : Category) : Table.Distinct (registry.ofCategory category) := by
  unfold Table.Distinct Table.keys Registry.ofCategory
  rw [List.map_map, List.Nodup, List.pairwise_map]
  refine (List.Pairwise.filter _ h).imp_of_mem fun hfirst hsecond hapart hname => ?_
  have hcategory := of_decide_eq_true (List.mem_filter.1 hfirst).2
  have hcategory' := of_decide_eq_true (List.mem_filter.1 hsecond).2
  exact hapart ⟨hcategory.trans hcategory'.symm, hname⟩

namespace Snapshot

/-- New symbols of some categories are restored without a word. -/
theorem hears_restoreCategories {skipped : List String}
    {tables : Category → Table String String} {categories : List Category} {context : Context}
    (hcategories : categories.Nodup)
    (hdistinct : ∀ category ∈ categories, (restorable skipped (tables category)).Distinct)
    (hnew : ∀ category ∈ categories, ∀ entry ∈ restorable skipped (tables category),
      context.registry.find? category entry.1 = none) :
    context.diagnostics.Hears []
      (restoreCategories skipped tables categories context).diagnostics := by
  induction categories generalizing context with
  | nil => exact context.diagnostics.hears_nil
  | cons category rest ih =>
      obtain ⟨hcategory, hrest⟩ := List.nodup_cons.1 hcategories
      obtain ⟨hnames, hothers⟩ := List.forall_mem_cons.1 hdistinct
      obtain ⟨hfirst, hlater⟩ := List.forall_mem_cons.1 hnew
      have hheard : context.diagnostics.Hears []
          (restoreDefinitions skipped category (tables category) context).diagnostics := by
        refine Context.hears_defineAll category ?_ fun entry hentry => ?_
        · simpa [Table.Distinct, Table.keys, restorable, List.map_map, Function.comp_def]
            using hnames
        · exact hfirst _ (List.mem_map_of_mem hentry)
      refine hheard.append (ih hrest hothers fun other hother entry hentry => ?_)
      have hne : category ≠ other := fun heq => hcategory (heq ▸ hother)
      rw [restoreDefinitions_registry, Registry.find?_addAll, if_neg hne, Option.or_none,
        hlater other hother entry hentry]

/-- The symbols of a registry that are restored have different names, if it lists none twice and
has plain names. -/
theorem distinct_restorable {registry : Registry} (h : registry.Distinct)
    (hplain : registry.Plain) (skipped : List String) (category : Category) :
    (restorable skipped (registry.ofCategory category)).Distinct := by
  have hkeys : Table.keys (restorable skipped (registry.ofCategory category)) =
      ((registry.ofCategory category).filter fun entry => entry.2 ∉ skipped).map Prod.fst := by
    unfold Table.keys restorable
    rw [List.map_map]
    refine List.map_congr_left fun entry hentry => ?_
    have hlisted := Registry.mem_ofCategory.1 (List.mem_filter.1 hentry).1
    exact normalizeName_eq_self (hplain _ hlisted)
  unfold Table.Distinct
  rw [hkeys]
  exact (h.distinct_ofCategory category).sublist (List.filter_sublist.map _)

/-- A snapshot is restored without a word if none of its symbols that come back is there. -/
theorem hears_restore {context start : Context} (h : context.registry.Distinct)
    (hplain : context.registry.Plain) {excluded : List String}
    (hnew : ∀ category name owner, context.registry.find? category name = some owner →
      owner ∉ builtinOwner :: excluded → start.registry.find? category name = none)
    (modules table : Table String Module) :
    start.diagnostics.Hears []
      ((capture context modules).restore excluded (start, table)).2.1.diagnostics := by
  have hdistinct (category : Category) :=
    distinct_restorable h hplain (builtinOwner :: excluded) category
  have hheard : start.diagnostics.Hears [] (restoreCategories (builtinOwner :: excluded)
      context.registry.ofCategory Category.all start).diagnostics := by
    refine hears_restoreCategories (by decide) (fun category _ => hdistinct category) ?_
    intro category _ entry hentry
    have hvalue := (hdistinct category).mem_iff_get?.1 hentry
    rw [get?_restorable h hplain, Option.filter_eq_some_iff] at hvalue
    exact hnew category entry.1 entry.2 hvalue.1 (of_decide_eq_true hvalue.2)
  exact hheard

end Snapshot

/-! ## Naming inherited variables again -/

namespace Context

/-- Registries with the same owners give a class the same variables to inherit. -/
theorem get?_aliasesOfEdge_of_owners {registry registry' : Registry} (h : registry.Distinct)
    (h' : registry'.Distinct)
    (howners : ∀ category name, registry.find? category name = registry'.find? category name)
    (child parent name : String) :
    Table.get? (aliasesOfEdge (registry.ofCategory .classVariable) child parent) name =
      Table.get? (aliasesOfEdge (registry'.ofCategory .classVariable) child parent) name := by
  ext owner
  rw [Table.get?_eq_some_iff_mem fun _ _ => owner_unique_of_mem_aliasesOfEdge h,
    Table.get?_eq_some_iff_mem fun _ _ => owner_unique_of_mem_aliasesOfEdge h']
  simp only [mem_aliasesOfEdge, Registry.mem_ofCategory, h.mem_entries_iff h' howners]

/-- Registries with the same owners name inherited variables alike, if classes inherit in the same
order. -/
theorem get?_aliasesOf_of_owners {registry registry' : Registry} (h : registry.Distinct)
    (h' : registry'.Distinct)
    (howners : ∀ category name, registry.find? category name = registry'.find? category name)
    (edges : Table String String) (name : String) :
    Table.get? (aliasesOf (registry.ofCategory .classVariable) edges) name =
      Table.get? (aliasesOf (registry'.ofCategory .classVariable) edges) name := by
  induction edges with
  | nil => rfl
  | cons edge rest ih =>
      simp only [aliasesOf, List.flatMap_cons] at ih ⊢
      rw [Table.get?_append, Table.get?_append, ih,
        get?_aliasesOfEdge_of_owners h h' howners edge.1 edge.2 name]

end Context

/-! ## Scanning what was scanned before -/

/-- Facts about classes that inherit already keep the order of these classes. -/
theorem Fact.keys_recordAll_inherits (owner : String) (state : Context × Dependencies)
    {facts : List Fact} (h : ∀ edge ∈ facts.filterMap edge?, edge.1 ∈ state.1.inherits.keys) :
    (recordAll owner state facts).1.inherits.keys = state.1.inherits.keys := by
  induction facts generalizing state with
  | nil => rfl
  | cons fact rest ih =>
      have hfact : (record owner state fact).1.inherits.keys = state.1.inherits.keys := by
        rw [record_inherits]
        cases hedge : fact.edge? with
        | none => rfl
        | some edge =>
            have hmem : edge ∈ (fact :: rest).filterMap edge? :=
              List.mem_filterMap.2 ⟨fact, List.mem_cons_self, hedge⟩
            exact (Table.keys_put ..).trans (if_pos (h edge hmem))
      have hrest : ∀ edge ∈ rest.filterMap edge?,
          edge.1 ∈ (record owner state fact).1.inherits.keys := by
        intro edge hmem
        obtain ⟨other, hother, hedge⟩ := List.mem_filterMap.1 hmem
        rw [hfact]
        exact h edge (List.mem_filterMap.2 ⟨other, List.mem_cons_of_mem _ hother, hedge⟩)
      exact (ih _ hrest).trans hfact

namespace ModuleSource

/-- Scanning classes that inherit already keeps the order of these classes. -/
theorem keys_enterAll_inherits {sources : List ModuleSource}
    {state : Context × Table String Module}
    (h : ∀ source ∈ sources, ∀ edge ∈ source.edges, edge.1 ∈ state.1.inherits.keys) :
    (sources.foldl enter state).1.inherits.keys = state.1.inherits.keys := by
  induction sources generalizing state with
  | nil => rfl
  | cons source rest ih =>
      obtain ⟨hsource, hrest⟩ := List.forall_mem_cons.1 h
      have hfirst : (enter state source).1.inherits.keys = state.1.inherits.keys :=
        Fact.keys_recordAll_inherits source.name (state.1, []) hsource
      refine (ih fun other hother edge hedge => ?_).trans hfirst
      rw [hfirst]
      exact hrest other hother edge hedge

/-- Who owns a symbol is the same if the excluded modules come after the others, as long as the
symbols of excluded owners are left to them. -/
theorem findSome?_ownerOf_split {sources : List ModuleSource}
    (h : ∀ source ∈ sources, source.name ≠ builtinOwner) (excluded : List String)
    (category : Category) (name : String) :
    ((sources.findSome? (ownerOf category name)).filter fun owner =>
        owner ∉ builtinOwner :: excluded).or
      ((sources.filter fun source => source.name ∈ excluded).findSome? (ownerOf category name)) =
    sources.findSome? (ownerOf category name) := by
  induction sources with
  | nil => rfl
  | cons source rest ih =>
      obtain ⟨hsource, hrest⟩ := List.forall_mem_cons.1 h
      by_cases hsymbol : (category, name) ∈ source.symbols
      · -- The module owns the symbol, whether its owner comes back or is found again.
        have howner : source.ownerOf category name = some source.name := if_pos hsymbol
        by_cases hexcluded : source.name ∈ excluded
        · simp [howner, hexcluded, Option.filter]
        · simp [howner, hexcluded, hsource]
      · have howner : source.ownerOf category name = none := if_neg hsymbol
        have hfilter : ((source :: rest).filter fun source => source.name ∈ excluded).findSome?
            (ownerOf category name) =
              (rest.filter fun source => source.name ∈ excluded).findSome?
                (ownerOf category name) := by
          rw [List.filter_cons]
          split
          · rw [List.findSome?_cons, howner]
          · rfl
        rw [hfilter, List.findSome?_cons, howner]
        exact ih hrest

end ModuleSource

/-- Resolving cannot tell a module from what its record describes. -/
theorem Module.alike_ofRecord_toRecord (module : Module) :
    module.Alike (ofRecord module.toRecord) where
  name := rfl
  controlRepo := rfl
  items := by rw [dependencies_ofRecord_toRecord, Dependencies.items_items]

/-! ## The run -/

/-- A run that restores a snapshot without some modules and scans these again, unchanged. -/
structure Repetition where
  /-- The builtin symbols, which are the same in both runs. -/
  catalogue : Builtins
  /-- The modules, in the order in which they were scanned. -/
  sources : List ModuleSource
  /-- The names of the modules that are scanned again. -/
  excluded : List String
  /-- What the scan found. -/
  before : Context × Table String Module
  /-- No two modules have the same name or say from which class the same class inherits. -/
  distinct : SourcesDistinct sources
  /-- The modules could be scanned. -/
  scan : scanSources sources (Context.seeded catalogue, []) = .ok before
  /-- No symbol is registered with a top scope marker. -/
  plain : before.1.registry.Plain

namespace Repetition

variable (run : Repetition)

/-- The modules that are scanned again, in their original order. -/
def again : List ModuleSource :=
  run.sources.filter fun source => source.name ∈ run.excluded

/-- What there is after the snapshot was restored. -/
def restored : Context × Table String Module :=
  ((Snapshot.capture run.before.1 run.before.2).restore run.excluded
    (Context.seeded run.catalogue, [])).2

/-- What there is after the excluded modules were scanned again. -/
def result : Context × Table String Module :=
  run.again.foldl ModuleSource.enter run.restored

/-- The modules that are scanned again are the excluded ones. -/
theorem mem_again {source : ModuleSource} :
    source ∈ run.again ↔ source ∈ run.sources ∧ source.name ∈ run.excluded := by
  rw [again, List.mem_filter, decide_eq_true_eq]

/-- The modules that are scanned again are distinct. -/
theorem again_distinct : SourcesDistinct run.again :=
  run.distinct.of_subperm List.filter_sublist.subperm

/-- What the scan entered. -/
theorem before_eq : run.sources.foldl ModuleSource.enter (Context.seeded run.catalogue, []) =
    run.before :=
  (scanSources_eq_ok_iff.1 run.scan).2

/-- Scanning the excluded modules again succeeds. -/
theorem scan_again : scanSources run.again run.restored = .ok run.result := by
  obtain ⟨hreadable, _⟩ := scanSources_eq_ok_iff.1 run.scan
  exact scanSources_eq_ok_iff.2 ⟨fun source hsource => hreadable source (run.mem_again.1 hsource).1,
    rfl⟩

/-- The registry of the scan lists no symbol twice. -/
theorem distinct_before : run.before.1.registry.Distinct :=
  run.before_eq ▸ ModuleSource.distinct_enterAll (Context.fresh_seeded _).distinct _

/-- The registry of the repetition lists no symbol twice. -/
theorem distinct_result : run.result.1.registry.Distinct :=
  ModuleSource.distinct_enterAll
    (Snapshot.distinct_restore (Context.fresh_seeded _).distinct _ _ _ _) _

/-- The owner of a symbol: builtin, or the first module that defines it. -/
theorem find?_before (category : Category) (name : String) :
    run.before.1.registry.find? category name =
      ((Context.seeded run.catalogue).registry.find? category name).or
        (run.sources.findSome? (ModuleSource.ownerOf category name)) := by
  rw [← run.before_eq, ModuleSource.find?_enterAll]

/-- The snapshot is restored without a word: no symbol that comes back is builtin. -/
theorem hears_restored :
    (Context.seeded run.catalogue).diagnostics.Hears [] run.restored.1.diagnostics := by
  refine Snapshot.hears_restore run.distinct_before run.plain ?_ _ _
  intro category name owner howner hkept
  cases hbuiltin : (Context.seeded run.catalogue).registry.find? category name with
  | none => rfl
  | some first =>
      rw [run.find?_before, hbuiltin, Option.some_or] at howner
      cases howner
      exact absurd (List.mem_cons.2 (Or.inl (Context.owner_seeded hbuiltin))) hkept

/-- Every symbol has the same owner as before. -/
theorem find?_result (category : Category) (name : String) :
    run.result.1.registry.find? category name = run.before.1.registry.find? category name := by
  rw [result, ModuleSource.find?_enterAll, restored,
    Snapshot.find?_restore run.distinct_before run.plain, run.find?_before]
  cases (Context.seeded run.catalogue).registry.find? category name with
  | some builtin => simp
  | none =>
      simp only [Option.none_or]
      exact ModuleSource.findSome?_ownerOf_split run.distinct.builtin run.excluded category name

/-- The scan gives no class a second parent. -/
theorem distinct_before_inherits : run.before.1.inherits.Distinct := by
  rw [← run.before_eq]
  refine ModuleSource.distinct_enterAll_inherits ?_ _
  rw [(Context.fresh_seeded _).inherits]
  exact List.nodup_nil

/-- The parent of a class, whichever module says so. -/
theorem get?_before_inherits (child : String) :
    run.before.1.inherits.get? child =
      run.sources.reverse.findSome? (ModuleSource.parentOf child) := by
  rw [← run.before_eq, ModuleSource.get?_enterAll_inherits, (Context.fresh_seeded _).inherits]
  exact Option.or_none

/-- Every class has its parent again after the snapshot was restored, in the same order. -/
theorem inherits_restored : run.restored.1.inherits = run.before.1.inherits := by
  rw [restored, Snapshot.restore_inherits, (Context.fresh_seeded _).inherits]
  exact Table.foldl_putNew_of_distinct run.distinct_before_inherits

/-- Every class has the same parent as before, in the same order. -/
theorem inherits_result : run.result.1.inherits = run.before.1.inherits := by
  have hkeys : run.result.1.inherits.keys = run.before.1.inherits.keys := by
    rw [← run.inherits_restored]
    refine ModuleSource.keys_enterAll_inherits fun source hsource edge hedge => ?_
    -- The class had a parent, since the module said so before.
    obtain ⟨parent, hparent⟩ := Fact.exists_parentIn_iff.2 ⟨edge.2, hedge⟩
    rw [run.inherits_restored, ← Table.get?_isSome_iff, run.get?_before_inherits,
      run.distinct.findSome?_parentOf.2 ⟨source, (run.mem_again.1 hsource).1, hparent⟩]
    rfl
  have hvalues (child : String) :
      run.result.1.inherits.get? child = run.before.1.inherits.get? child := by
    rw [result, ModuleSource.get?_enterAll_inherits, run.inherits_restored]
    cases hagain : run.again.reverse.findSome? (ModuleSource.parentOf child) with
    | none => rfl
    | some parent =>
        obtain ⟨source, hsource, hparent⟩ := run.again_distinct.findSome?_parentOf.1 hagain
        rw [run.get?_before_inherits,
          run.distinct.findSome?_parentOf.2 ⟨source, (run.mem_again.1 hsource).1, hparent⟩]
        rfl
  refine Table.Distinct.ext ?_ hkeys hvalues
  rw [Table.Distinct, hkeys]
  exact run.distinct_before_inherits

/-- The module of a name, whichever source has it. -/
theorem get?_before (name : String) :
    run.before.2.get? name = run.sources.reverse.findSome? (ModuleSource.moduleOf name) := by
  rw [← run.before_eq, ModuleSource.get?_enterAll]
  exact Option.or_none

/-- The module of a name that is scanned again is the one that was there. -/
theorem findSome?_again (name : String) :
    run.again.reverse.findSome? (ModuleSource.moduleOf name) =
      if name ∈ run.excluded then run.before.2.get? name else none := by
  ext module
  rw [run.again_distinct.findSome?_moduleOf, run.get?_before]
  simp only [run.mem_again]
  split
  · next hexcluded =>
      rw [run.distinct.findSome?_moduleOf]
      constructor
      · intro hgiven
        obtain ⟨source, ⟨hsource, _⟩, hmodule⟩ := hgiven
        exact ⟨source, hsource, hmodule⟩
      · intro hgiven
        obtain ⟨source, hsource, rfl, hmodule⟩ := hgiven
        exact ⟨source, ⟨hsource, hexcluded⟩, rfl, hmodule⟩
  · next hkept =>
      refine iff_of_false (fun hgiven => ?_) (Option.some_ne_none module ∘ Eq.symm)
      obtain ⟨source, ⟨_, hexcluded⟩, rfl, _⟩ := hgiven
      exact hkept hexcluded

/-- The module of a name that is restored is the one that was there, as its record describes it. -/
theorem get?_restored (name : String) :
    run.restored.2.get? name =
      if name ∈ run.excluded then none
      else (run.before.2.get? name).map fun module => Module.ofRecord module.toRecord := by
  have hmodules : run.before.2.Distinct := by
    rw [← run.before_eq]
    refine ModuleSource.distinct_enterAll_modules ?_ _
    exact List.nodup_nil
  ext module
  rw [restored, Snapshot.get?_restore_modules hmodules, List.mem_cons, not_or]
  split
  · next hexcluded => simp [hexcluded]
  · next hkept =>
      rw [Option.map_eq_some_iff]
      refine and_iff_right_of_imp fun hgiven => ⟨?_, hkept⟩
      obtain ⟨_, hbefore, _⟩ := hgiven
      rw [run.get?_before, run.distinct.findSome?_moduleOf] at hbefore
      obtain ⟨source, hsource, rfl, _⟩ := hbefore
      exact run.distinct.builtin source hsource

/-- The module of a name after the repetition is the one that was there before, as its record
describes it unless it was scanned again. -/
theorem get?_result (name : String) :
    run.result.2.get? name =
      (run.before.2.get? name).map fun module =>
        if name ∈ run.excluded then module else Module.ofRecord module.toRecord := by
  rw [result, ModuleSource.get?_enterAll, run.findSome?_again, run.get?_restored]
  by_cases hexcluded : name ∈ run.excluded
  · simp [hexcluded]
  · simp [hexcluded]

/-- Resolving cannot tell the repetition from the scan. -/
theorem runsAlike_result : RunsAlike run.before run.result where
  distinct := run.distinct_before
  distinct' := run.distinct_result
  owners category name := (run.find?_result category name).symm
  aliases name := by
    rw [run.inherits_result]
    exact Context.get?_aliasesOf_of_owners run.distinct_before run.distinct_result
      (fun category name => (run.find?_result category name).symm) _ _
  modules name := by
    rw [run.get?_result]
    cases run.before.2.get? name with
    | none => exact .none
    | some module =>
        refine .some ?_
        split
        · exact .refl module
        · exact module.alike_ofRecord_toRecord

/-- Scanning unchanged modules again over a snapshot is invisible, also where several modules define
the same symbol. Restoring says nothing, and the scan succeeds. Afterwards every symbol has the same
owner, the same classes inherit in the same order, and every module has the same table of
references. Every request gets the same answer, and if it names its modules the outcome is the
same. -/
theorem repetition_invisible :
    (run.restored.1.diagnostics.found = (Context.seeded run.catalogue).diagnostics.found ∧
      run.restored.1.diagnostics.messages =
        (Context.seeded run.catalogue).diagnostics.messages ∧
      run.restored.1.diagnostics.warned = (Context.seeded run.catalogue).diagnostics.warned) ∧
    scanSources run.again run.restored = .ok run.result ∧
    (∀ category name,
      run.result.1.registry.find? category name = run.before.1.registry.find? category name) ∧
    run.result.1.inherits = run.before.1.inherits ∧
    (∀ name, (run.result.2.get? name).map (·.toRecord.dependencies) =
      (run.before.2.get? name).map (·.toRecord.dependencies)) ∧
    ∀ control request,
      let outcome := Resolver.resolve run.before.2 request { controlModules := control }
        run.before.1
      let outcome' := Resolver.resolve run.result.2 request { controlModules := control }
        run.result.1
      SameAnswer outcome.1 outcome'.1 ∧ (request.names ≠ [] → outcome.1 = outcome'.1) := by
  have hheard := run.hears_restored
  have halike := run.runsAlike_result
  refine ⟨⟨hheard.found, ?_, ?_⟩, run.scan_again, run.find?_result, run.inherits_result, ?_, ?_⟩
  · simpa using hheard.messages
  · simpa using hheard.warned
  · intro name
    rw [run.get?_result, Option.map_map]
    congr 1
    funext module
    rw [Function.comp_apply]
    split
    · rfl
    · exact module.toRecord_dependencies_ofRecord
  · intro control request
    refine ⟨halike.sameAnswer control request, ?_⟩
    intro hnames
    obtain ⟨_, _, _, _, hbefore, hresult, _⟩ :=
      halike.resolve_eq hnames { controlModules := control }
    rw [hbefore, hresult]

/-- A second module that defines the class of the first one. -/
def copyModule : ModuleSource :=
  { Rescan.baseModule with module := { name := "copy", path := ⟨"", ["copy"]⟩ } }

/-- A run in which the owner of a class that is defined twice is scanned again. -/
def clash : Repetition where
  catalogue := {}
  sources := [Rescan.baseModule, copyModule, Rescan.heirModule, Rescan.userModule]
  excluded := ["base", "site"]
  before := [Rescan.baseModule, copyModule, Rescan.heirModule, Rescan.userModule].foldl
    ModuleSource.enter (Context.seeded {}, [])
  distinct := ⟨by decide, by decide, by decide +kernel⟩
  scan := scanSources_eq_ok_iff.2 ⟨by decide +kernel, rfl⟩
  plain := by decide +kernel

/-- The class is not restored for the second module, so the first one owns it again. -/
theorem clash_keeps_owner :
    clash.restored.1.registry.find? .hostClass "base" = none ∧
    clash.result.1.registry.find? .hostClass "base" = some "base" ∧
    (Resolver.resolve clash.result.2 { names := ["site"] } { controlModules := [] }
      clash.result.1).1.toOption = some ⟨[("site", ["base"])], ["base"]⟩ := by
  obtain ⟨_, _, howners, _, _, hanswers⟩ := repetition_invisible clash
  refine ⟨by decide +kernel, ?_, ?_⟩
  · rw [howners]
    decide +kernel
  · rw [← (hanswers [] { names := ["site"] }).2 (List.cons_ne_nil _ _)]
    decide +kernel

end Repetition

end ModuleGraph
