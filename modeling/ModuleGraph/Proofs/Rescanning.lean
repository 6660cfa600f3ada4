import ModuleGraph.Proofs.Agreement
import ModuleGraph.Proofs.Seeding
import ModuleGraph.Proofs.Snapshots
import ModuleGraph.Proofs.Sources

/-!
# Scanning some modules again

A `Rescan` is a run that restores a snapshot without the modules that have changed and then scans
these again. It is compared with a run that scans every module as it is now.

Both runs know the same symbols (`find?_result`) and the same modules with the same references
(`references_result`). But the snapshot brings back every parent of a class, also where a module
said so that is left out (`get?_result_inherits`). A class that does not inherit any more is
`Stale`: it still gets names for the variables of its old parent. `lists_agree_unless_stale` says
that nothing else can go wrong, and exactly when it does.
-/

namespace ModuleGraph

/-- The names that the variables of a context get in a class that inherits from a parent. -/
def Context.inheritedNames (context : Context) (edge : String × String) : List (String × String) :=
  Context.aliasesOfEdge (context.registry.ofCategory .classVariable) edge.1 edge.2

/-- No two classes get the same name for a variable that they inherit. -/
def Context.AliasesApart (context : Context) : Prop :=
  ∀ edge ∈ context.inherits, ∀ edge' ∈ context.inherits,
    ∀ named ∈ context.inheritedNames edge, ∀ named' ∈ context.inheritedNames edge',
      named.1 = named'.1 → edge.1 = edge'.1

instance (context : Context) : Decidable context.AliasesApart :=
  inferInstanceAs (Decidable (∀ edge ∈ context.inherits, ∀ edge' ∈ context.inherits,
    ∀ named ∈ context.inheritedNames edge, ∀ named' ∈ context.inheritedNames edge',
      named.1 = named'.1 → edge.1 = edge'.1))

/-- Where no two classes get the same name, an inherited name stands for one variable. -/
theorem Context.AliasesApart.owner_unique {context : Context} (h : context.AliasesApart)
    (hregistry : context.registry.Distinct) (hinherits : context.inherits.Distinct)
    {name owner owner' : String}
    (hmem : (name, owner) ∈
      Context.aliasesOf (context.registry.ofCategory .classVariable) context.inherits)
    (hmem' : (name, owner') ∈
      Context.aliasesOf (context.registry.ofCategory .classVariable) context.inherits) :
    owner = owner' := by
  obtain ⟨child, parent, hedge, hnamed⟩ := Context.mem_aliasesOf.1 hmem
  obtain ⟨child', parent', hedge', hnamed'⟩ := Context.mem_aliasesOf.1 hmem'
  obtain rfl : child = child' := h _ hedge _ hedge' _ hnamed _ hnamed' rfl
  rw [hinherits.mem_iff_get?] at hedge hedge'
  obtain rfl : parent = parent' := Option.some.inj (hedge.symm.trans hedge')
  exact Context.owner_unique_of_mem_aliasesOfEdge hregistry hnamed hnamed'

/-- A run that restores a snapshot of older modules and scans those again that have changed. -/
structure Rescan where
  /-- The builtin symbols, which are the same in all runs. -/
  catalogue : Builtins
  /-- The modules as they were, in the order in which they were scanned. -/
  old : List ModuleSource
  /-- The modules as they are now. -/
  new : List ModuleSource
  /-- The names of the modules that may have changed. -/
  excluded : List String
  /-- The modules that are scanned again, in the order in which they are. -/
  again : List ModuleSource
  /-- What the scan of the old modules found. -/
  before : Context × Table String Module
  /-- What a scan of all modules as they are now finds. -/
  after : Context × Table String Module
  /-- The old modules are apart. -/
  old_apart : SourcesApart old
  /-- The new modules are apart. -/
  new_apart : SourcesApart new
  /-- Modules that are not excluded have not changed. -/
  unchanged : ∀ source, source.name ∉ excluded → (source ∈ old ↔ source ∈ new)
  /-- The excluded modules are scanned again. -/
  again_perm : again.Perm (new.filter fun source => source.name ∈ excluded)
  /-- The old modules could be scanned. -/
  scan_old : scanSources old (Context.seeded catalogue, []) = .ok before
  /-- The new modules can be scanned. -/
  scan_new : scanSources new (Context.seeded catalogue, []) = .ok after
  /-- No symbol of the old modules is registered with a top scope marker. -/
  plain : before.1.registry.Plain
  /-- No two classes of the new modules get the same name for an inherited variable. -/
  aliases_apart : after.1.AliasesApart

namespace Rescan

variable (run : Rescan)

/-- What there is after the snapshot was restored. -/
def restored : Context × Table String Module :=
  ((Snapshot.capture run.before.1 run.before.2).restore run.excluded
    (Context.seeded run.catalogue, [])).2

/-- What there is after the excluded modules were scanned again. -/
def result : Context × Table String Module :=
  run.again.foldl ModuleSource.enter run.restored

/-- The modules scanned again are the new ones that are excluded. -/
theorem mem_again {source : ModuleSource} :
    source ∈ run.again ↔ source ∈ run.new ∧ source.name ∈ run.excluded := by
  rw [run.again_perm.mem_iff, List.mem_filter, decide_eq_true_eq]

/-- The modules scanned again are apart. -/
theorem again_apart : SourcesApart run.again :=
  run.new_apart.of_subperm (run.again_perm.subperm.trans List.filter_sublist.subperm)

/-- Scanning the excluded modules again succeeds. -/
theorem scan_again : scanSources run.again run.restored = .ok run.result := by
  obtain ⟨hreadable, _⟩ := scanSources_eq_ok_iff.1 run.scan_new
  exact scanSources_eq_ok_iff.2 ⟨fun source hsource => hreadable source (run.mem_again.1 hsource).1,
    rfl⟩

/-- What the scan of the old modules enters. -/
theorem before_eq : run.old.foldl ModuleSource.enter (Context.seeded run.catalogue, []) =
    run.before :=
  (scanSources_eq_ok_iff.1 run.scan_old).2

/-- What a scan of the new modules enters. -/
theorem after_eq : run.new.foldl ModuleSource.enter (Context.seeded run.catalogue, []) =
    run.after :=
  (scanSources_eq_ok_iff.1 run.scan_new).2

/-! ## The same symbols -/

/-- The old registry lists no symbol twice. -/
theorem distinct_before : run.before.1.registry.Distinct :=
  run.before_eq ▸ ModuleSource.distinct_enterAll (Context.fresh_seeded _).distinct _

/-- The registry of the full scan lists no symbol twice. -/
theorem distinct_after : run.after.1.registry.Distinct :=
  run.after_eq ▸ ModuleSource.distinct_enterAll (Context.fresh_seeded _).distinct _

/-- The registry of the rescan lists no symbol twice. -/
theorem distinct_result : run.result.1.registry.Distinct :=
  ModuleSource.distinct_enterAll
    (Snapshot.distinct_restore (Context.fresh_seeded _).distinct _ _ _ _) _

/-- The owners that come back are those of symbols of unchanged modules. -/
theorem owner_restored {category : Category} {name owner : String} :
    ((run.old.findSome? (ModuleSource.ownerOf category name)).filter fun owner =>
        owner ∉ builtinOwner :: run.excluded) = some owner ↔
      ∃ source ∈ run.new, source.name ∉ run.excluded ∧
        (category, name) ∈ source.symbols ∧ source.name = owner := by
  rw [Option.filter_eq_some_iff, run.old_apart.findSome?_ownerOf, decide_eq_true_eq,
    List.mem_cons, not_or]
  constructor
  · intro hgiven
    obtain ⟨⟨source, hsource, hsymbol, rfl⟩, _, hkept⟩ := hgiven
    exact ⟨source, (run.unchanged source hkept).1 hsource, hkept, hsymbol, rfl⟩
  · intro hgiven
    obtain ⟨source, hsource, hkept, hsymbol, rfl⟩ := hgiven
    exact ⟨⟨source, (run.unchanged source hkept).2 hsource, hsymbol, rfl⟩,
      run.new_apart.builtin source hsource, hkept⟩

/-- Every symbol has the same owner after the rescan as after the full scan. -/
theorem find?_result (category : Category) (name : String) :
    run.result.1.registry.find? category name = run.after.1.registry.find? category name := by
  rw [result, ModuleSource.find?_enterAll, restored,
    Snapshot.find?_restore run.distinct_before run.plain, ← run.before_eq, ← run.after_eq,
    ModuleSource.find?_enterAll, ModuleSource.find?_enterAll]
  cases (Context.seeded run.catalogue).registry.find? category name with
  | some builtin => simp
  | none =>
      simp only [Option.none_or]
      ext owner
      -- An owner comes from an unchanged module, or else from one that was scanned again.
      rw [Option.or_eq_some_iff, run.owner_restored, run.again_apart.findSome?_ownerOf,
        run.new_apart.findSome?_ownerOf]
      constructor
      · intro hcases
        rcases hcases with ⟨source, hsource, _, howner⟩ | ⟨_, source, hsource, howner⟩
        · exact ⟨source, hsource, howner⟩
        · exact ⟨source, (run.mem_again.1 hsource).1, howner⟩
      · intro hgiven
        obtain ⟨source, hsource, hsymbol, hname⟩ := hgiven
        by_cases hexcluded : source.name ∈ run.excluded
        · refine Or.inr ⟨?_, source, run.mem_again.2 ⟨hsource, hexcluded⟩, hsymbol, hname⟩
          -- No other module defines the symbol, so nothing was restored for it.
          rw [Option.eq_none_iff_forall_ne_some]
          intro other hother
          obtain ⟨first, hfirst, hkept, hsymbol', _⟩ := run.owner_restored.1 hother
          have hsame := run.new_apart.symbols _ hsource _ hfirst _ hsymbol hsymbol'
          exact hkept (hsame ▸ hexcluded)
        · exact Or.inl ⟨source, hsource, hexcluded, hsymbol, hname⟩

/-- The same symbols are listed after the rescan as after the full scan. -/
theorem mem_ofCategory_result {category : Category} {name owner : String} :
    (name, owner) ∈ run.result.1.registry.ofCategory category ↔
      (name, owner) ∈ run.after.1.registry.ofCategory category := by
  rw [Registry.mem_ofCategory, Registry.mem_ofCategory, ← run.distinct_result.find?_eq_some,
    ← run.distinct_after.find?_eq_some, run.find?_result]

/-! ## The same references -/

/-- The old table lists no module twice. -/
theorem distinct_before_modules : run.before.2.Distinct := by
  rw [← run.before_eq]
  refine ModuleSource.distinct_enterAll_modules ?_ _
  exact List.nodup_nil

/-- The module that a full scan finds under a name. -/
theorem get?_after {name : String} {module : Module} :
    run.after.2.get? name = some module ↔
      ∃ source ∈ run.new, source.name = name ∧ source.scanned = module := by
  rw [← run.after_eq, ModuleSource.get?_enterAll, Table.get?, Option.or_none,
    run.new_apart.findSome?_moduleOf]

/-- The module that the old scan found under a name. -/
theorem get?_before {name : String} {module : Module} :
    run.before.2.get? name = some module ↔
      ∃ source ∈ run.old, source.name = name ∧ source.scanned = module := by
  rw [← run.before_eq, ModuleSource.get?_enterAll, Table.get?, Option.or_none,
    run.old_apart.findSome?_moduleOf]

/-- The module that is restored under a name, as its record describes it. -/
theorem get?_restored {name : String} {module : Module} :
    run.restored.2.get? name = some module ↔
      ∃ source ∈ run.new, source.name = name ∧ name ∉ run.excluded ∧
        Module.ofRecord source.scanned.toRecord = module := by
  rw [restored, Snapshot.get?_restore_modules run.distinct_before_modules, List.mem_cons, not_or]
  constructor
  · intro hgiven
    obtain ⟨⟨_, hkept⟩, _, hbefore, rfl⟩ := hgiven
    obtain ⟨source, hsource, rfl, rfl⟩ := run.get?_before.1 hbefore
    exact ⟨source, (run.unchanged source hkept).1 hsource, rfl, hkept, rfl⟩
  · intro hgiven
    obtain ⟨source, hsource, rfl, hkept, rfl⟩ := hgiven
    have hold := (run.unchanged source hkept).2 hsource
    exact ⟨⟨run.new_apart.builtin source hsource, hkept⟩, source.scanned,
      run.get?_before.2 ⟨source, hold, rfl, rfl⟩, rfl⟩

/-- The module that the rescan finds under a name. -/
theorem get?_result {name : String} {module : Module} :
    run.result.2.get? name = some module ↔
      ∃ source ∈ run.new, source.name = name ∧
        (if name ∈ run.excluded then source.scanned
          else Module.ofRecord source.scanned.toRecord) = module := by
  rw [result, ModuleSource.get?_enterAll, Option.or_eq_some_iff, run.get?_restored,
    Option.eq_none_iff_forall_ne_some]
  simp only [ne_eq, run.again_apart.findSome?_moduleOf, run.mem_again]
  split
  · next hexcluded =>
      constructor
      · intro hcases
        rcases hcases with ⟨source, ⟨hsource, _⟩, hname, hmodule⟩ | ⟨_, _, _, _, hkept, _⟩
        · exact ⟨source, hsource, hname, hmodule⟩
        · exact absurd hexcluded hkept
      · intro hgiven
        obtain ⟨source, hsource, rfl, hmodule⟩ := hgiven
        exact Or.inl ⟨source, ⟨hsource, hexcluded⟩, rfl, hmodule⟩
  · next hkept =>
      constructor
      · intro hcases
        rcases hcases with ⟨source, ⟨_, hexcluded⟩, rfl, _⟩ |
          ⟨_, source, hsource, hname, _, hmodule⟩
        · exact absurd hexcluded hkept
        · exact ⟨source, hsource, hname, hmodule⟩
      · intro hgiven
        obtain ⟨source, hsource, rfl, hmodule⟩ := hgiven
        refine Or.inr ⟨?_, source, hsource, rfl, hkept, hmodule⟩
        intro _ hagain
        obtain ⟨other, ⟨_, hexcluded⟩, hname, _⟩ := hagain
        exact hkept (hname ▸ hexcluded)

/-- A name has a module after the rescan exactly if it has one after the full scan. -/
theorem hasKey_result (name : String) : run.result.2.hasKey name = run.after.2.hasKey name := by
  rw [Bool.eq_iff_iff, Table.hasKey, Table.hasKey, Option.isSome_iff_exists,
    Option.isSome_iff_exists]
  simp only [run.get?_result, run.get?_after]
  constructor
  · intro hgiven
    obtain ⟨_, source, hsource, hname, _⟩ := hgiven
    exact ⟨_, source, hsource, hname, rfl⟩
  · intro hgiven
    obtain ⟨_, source, hsource, hname, _⟩ := hgiven
    exact ⟨_, source, hsource, hname, rfl⟩

/-- Every module has the same references after the rescan as after the full scan. -/
theorem references_result {name : String} {entry : Dependency} :
    (∃ module, run.result.2.get? name = some module ∧ entry ∈ module.dependencies) ↔
      ∃ module, run.after.2.get? name = some module ∧ entry ∈ module.dependencies := by
  have hmem (source : ModuleSource) :
      entry ∈ (if name ∈ run.excluded then source.scanned
        else Module.ofRecord source.scanned.toRecord).dependencies ↔
      entry ∈ source.scanned.dependencies := by
    split
    · rfl
    · rw [Module.dependencies_ofRecord_toRecord, Dependencies.mem_items]
  simp only [run.get?_result, run.get?_after]
  constructor
  · intro hgiven
    obtain ⟨_, ⟨source, hsource, hname, rfl⟩, hentry⟩ := hgiven
    exact ⟨_, ⟨source, hsource, hname, rfl⟩, (hmem source).1 hentry⟩
  · intro hgiven
    obtain ⟨_, ⟨source, hsource, hname, rfl⟩, hentry⟩ := hgiven
    exact ⟨_, ⟨source, hsource, hname, rfl⟩, (hmem source).2 hentry⟩

/-! ## Stale parents -/

/-- The parent of a class after the rescan: the one that it has now, or else the old one. -/
theorem get?_result_inherits (child : String) :
    run.result.1.inherits.get? child =
      (run.after.1.inherits.get? child).or (run.before.1.inherits.get? child) := by
  have hstart : (Context.seeded run.catalogue).inherits.get? child = none := by
    rw [(Context.fresh_seeded _).inherits]
    rfl
  rw [result, ModuleSource.get?_enterAll_inherits, restored, Snapshot.get?_restore_inherits,
    ← run.before_eq, ← run.after_eq, ModuleSource.get?_enterAll_inherits,
    ModuleSource.get?_enterAll_inherits, hstart, Option.none_or, Option.or_none, Option.or_none]
  ext parent
  rw [Option.or_eq_some_iff, Option.or_eq_some_iff]
  simp only [Option.eq_none_iff_forall_ne_some, ne_eq, run.again_apart.findSome?_parentOf,
    run.new_apart.findSome?_parentOf, run.old_apart.findSome?_parentOf, run.mem_again]
  constructor
  · intro hcases
    rcases hcases with ⟨source, ⟨hsource, _⟩, hparent⟩ | ⟨hnone, source, hold, hparent⟩
    · exact Or.inl ⟨source, hsource, hparent⟩
    · by_cases hsome : ∃ found, ∃ source ∈ run.new, source.parentOf child = some found
      · -- A module that still says so is not scanned again, so it is an old one.
        obtain ⟨found, first, hfirst, hfound⟩ := hsome
        have hkept : first.name ∉ run.excluded := fun hexcluded =>
          hnone found ⟨first, ⟨hfirst, hexcluded⟩, hfound⟩
        have hfirst' := (run.unchanged first hkept).2 hfirst
        have hsame := run.old_apart.findSome?_parentOf.2 ⟨first, hfirst', hfound⟩
        rw [run.old_apart.findSome?_parentOf.2 ⟨source, hold, hparent⟩] at hsame
        exact Or.inl ⟨first, hfirst, hsame ▸ hfound⟩
      · exact Or.inr ⟨fun found hfound => hsome ⟨found, hfound⟩, source, hold, hparent⟩
  · intro hcases
    rcases hcases with ⟨source, hsource, hparent⟩ | ⟨hnone, hold⟩
    · by_cases hexcluded : source.name ∈ run.excluded
      · exact Or.inl ⟨source, ⟨hsource, hexcluded⟩, hparent⟩
      · refine Or.inr ⟨?_, source, (run.unchanged source hexcluded).2 hsource, hparent⟩
        intro found hagain
        obtain ⟨other, ⟨hother, hother'⟩, hfound⟩ := hagain
        -- Two modules that say from which class it inherits are the same.
        obtain ⟨_, hedge⟩ := Fact.exists_parentIn_iff.1 ⟨_, hparent⟩
        obtain ⟨_, hedge'⟩ := Fact.exists_parentIn_iff.1 ⟨_, hfound⟩
        have hname := run.new_apart.edges _ hsource _ hother _ hedge _ hedge' rfl
        exact hexcluded (hname ▸ hother')
    · exact Or.inr ⟨fun found ⟨source, ⟨hsource, _⟩, hfound⟩ =>
        hnone found ⟨source, hsource, hfound⟩, hold⟩

/-- A class inherited before and does not inherit any more. -/
def Stale (child parent : String) : Prop :=
  run.before.1.inherits.get? child = some parent ∧ run.after.1.inherits.get? child = none

/-- A variable of the old parent of a class has a name in the class that does not inherit any
more. -/
def StaleName (name owner : String) : Prop :=
  ∃ child parent, run.Stale child parent ∧
    (name, owner) ∈ run.after.1.inheritedNames (child, parent)

/-- The full scan gives no class a second entry. -/
theorem distinct_after_inherits : run.after.1.inherits.Distinct := by
  rw [← run.after_eq]
  refine ModuleSource.distinct_enterAll_inherits ?_ _
  rw [(Context.fresh_seeded _).inherits]
  exact List.nodup_nil

/-- The rescan gives no class a second entry. -/
theorem distinct_result_inherits : run.result.1.inherits.Distinct := by
  refine ModuleSource.distinct_enterAll_inherits (Snapshot.distinct_restore_inherits ?_ _ _ _ _) _
  rw [(Context.fresh_seeded _).inherits]
  exact List.nodup_nil

/-- After the rescan, a class has the parent that it has now, or else a stale one. -/
theorem mem_result_inherits {child parent : String} :
    (child, parent) ∈ run.result.1.inherits ↔
      (child, parent) ∈ run.after.1.inherits ∨ run.Stale child parent := by
  rw [run.distinct_result_inherits.mem_iff_get?, run.distinct_after_inherits.mem_iff_get?,
    run.get?_result_inherits, Option.or_eq_some_iff, Stale, and_comm (a := _ = some parent)]

/-- The names of inherited variables after the rescan: those after the full scan, and stale
ones. -/
theorem mem_aliasesOf_result {name owner : String} :
    (name, owner) ∈ Context.aliasesOf (run.result.1.registry.ofCategory .classVariable)
        run.result.1.inherits ↔
      (name, owner) ∈ Context.aliasesOf (run.after.1.registry.ofCategory .classVariable)
        run.after.1.inherits ∨ run.StaleName name owner := by
  have hedge (child parent : String) :
      (name, owner) ∈ Context.aliasesOfEdge (run.result.1.registry.ofCategory .classVariable)
          child parent ↔
        (name, owner) ∈ Context.aliasesOfEdge (run.after.1.registry.ofCategory .classVariable)
          child parent := by
    simp only [Context.mem_aliasesOfEdge, run.mem_ofCategory_result]
  simp only [Context.mem_aliasesOf, hedge, run.mem_result_inherits, StaleName,
    Context.inheritedNames, or_and_right, exists_or]

/-- In the full scan, an inherited name stands for one variable. -/
theorem aliasesOf_after_unique {name owner owner' : String}
    (h : (name, owner) ∈ Context.aliasesOf (run.after.1.registry.ofCategory .classVariable)
      run.after.1.inherits)
    (h' : (name, owner') ∈ Context.aliasesOf (run.after.1.registry.ofCategory .classVariable)
      run.after.1.inherits) : owner = owner' :=
  run.aliases_apart.owner_unique run.distinct_after run.distinct_after_inherits h h'

/-- A symbol has the same owner in both runs after all inherited variables were named, unless it is
a stale name. -/
theorem find?_aliased_result {category : Category} {name : String}
    (h : category = .classVariable → ¬ ∃ owner, run.StaleName name owner) :
    run.result.1.aliasInherited.2.registry.find? category name =
      run.after.1.aliasInherited.2.registry.find? category name := by
  rw [Context.find?_aliasInherited, Context.find?_aliasInherited, run.find?_result]
  congr 1
  split
  · next hcategory =>
      have hfresh := h hcategory.symm
      have hmem {owner : String} : (name, owner) ∈
          Context.aliasesOf (run.result.1.registry.ofCategory .classVariable)
            run.result.1.inherits ↔
          (name, owner) ∈ Context.aliasesOf (run.after.1.registry.ofCategory .classVariable)
            run.after.1.inherits := by
        rw [run.mem_aliasesOf_result, or_iff_left]
        exact fun hstale => hfresh ⟨owner, hstale⟩
      ext owner
      rw [Table.get?_eq_some_iff_mem, Table.get?_eq_some_iff_mem, hmem]
      · exact fun _ _ => run.aliasesOf_after_unique
      · exact fun _ _ hfirst hsecond => run.aliasesOf_after_unique (hmem.1 hfirst) (hmem.1 hsecond)
  · rfl

/-- A reference leads to the same owner in both runs, unless it is to a variable with a stale
name. -/
theorem lookup_result {category : Category} {name : String}
    (h : category = .classVariable → ¬ ∃ owner, run.StaleName (normalizeName name) owner) :
    run.result.1.aliasInherited.2.registry.lookup category name =
      run.after.1.aliasInherited.2.registry.lookup category name := by
  refine Registry.lookup_congr (run.find?_aliased_result h) fun other target hother => ?_
  exact run.find?_aliased_result fun hvariable => absurd hvariable hother

/-- A stale name stands for a variable after the rescan. -/
theorem exists_owner_of_staleName {name owner : String} (h : run.StaleName name owner) :
    ∃ found, run.result.1.aliasInherited.2.registry.find? .classVariable name = some found := by
  rw [← Option.isSome_iff_exists, Context.find?_aliasInherited, if_pos rfl, Option.isSome_or,
    Bool.or_eq_true]
  refine Or.inr (Table.get?_isSome_iff.2 (List.mem_map.2 ⟨(name, owner), ?_, rfl⟩))
  exact run.mem_aliasesOf_result.2 (Or.inr h)

/-- A module refers to a variable by a stale name. -/
def RefersToStale (name : String) : Prop :=
  ∃ module, run.after.2.get? name = some module ∧ ∃ entry ∈ module.dependencies,
    entry.category = .classVariable ∧ ∃ owner, run.StaleName (normalizeName entry.name) owner

/-- A module that refers to no variable by a stale name depends on the same ones in both runs. -/
theorem dependsOn_result {name : String} (h : ¬ run.RefersToStale name) (owner : String) :
    DependsOn run.result.1.aliasInherited.2.registry run.result.2 name owner ↔
      DependsOn run.after.1.aliasInherited.2.registry run.after.2 name owner := by
  unfold DependsOn
  refine and_congr_right fun _ => and_congr_right fun _ => ?_
  constructor
  · intro hgiven
    obtain ⟨_, hmodule, entry, hentry, found, hfound, howner⟩ := hgiven
    obtain ⟨module, hmodule', hentry'⟩ := run.references_result.1 ⟨_, hmodule, hentry⟩
    rw [run.lookup_result fun hvariable hstale =>
      h ⟨module, hmodule', entry, hentry', hvariable, hstale⟩] at hfound
    exact ⟨module, hmodule', entry, hentry', found, hfound, howner⟩
  · intro hgiven
    obtain ⟨module, hmodule, entry, hentry, found, hfound, howner⟩ := hgiven
    obtain ⟨module', hmodule', hentry'⟩ := run.references_result.2 ⟨_, hmodule, hentry⟩
    rw [← run.lookup_result fun hvariable hstale =>
      h ⟨module, hmodule, entry, hentry, hvariable, hstale⟩] at hfound
    exact ⟨module', hmodule', entry, hentry', found, hfound, howner⟩

/-- Scanning some modules again is the same as scanning all, unless a stale name is referred to.
The rescan succeeds. If no module refers to a variable by a stale name, it gives the same lists as
the full scan for every request. In general it does so exactly if all modules depend on the same
ones, and a stale name that nothing else explains always stands for a variable that the full scan
does not know. -/
theorem lists_agree_unless_stale :
    scanSources run.again run.restored = .ok run.result ∧
    ((∀ name, ¬ run.RefersToStale name) → ∀ control request,
      SameLists
        (Resolver.resolve run.result.2 request { controlModules := control } run.result.1).1
        (Resolver.resolve run.after.2 request { controlModules := control } run.after.1).1) ∧
    ((∀ control request,
      SameLists
        (Resolver.resolve run.result.2 request { controlModules := control } run.result.1).1
        (Resolver.resolve run.after.2 request { controlModules := control } run.after.1).1) ↔
      ∀ name owner,
        DependsOn run.result.1.aliasInherited.2.registry run.result.2 name owner ↔
          DependsOn run.after.1.aliasInherited.2.registry run.after.2 name owner) ∧
    ∀ name owner, run.StaleName name owner →
      run.after.1.aliasInherited.2.registry.find? .classVariable name = none →
      run.result.1.aliasInherited.2.registry.find? .classVariable name ≠ none := by
  refine ⟨run.scan_again, ?_, sameLists_iff run.hasKey_result, ?_⟩
  · intro hfresh
    exact sameLists_of_dependsOn run.hasKey_result fun name => run.dependsOn_result (hfresh name)
  · intro name owner hstale _
    obtain ⟨found, hfound⟩ := run.exists_owner_of_staleName hstale
    rw [hfound]
    exact Option.some_ne_none found

/-- The tree of a class with some fields. -/
def classTree (name : String) (fields : List (String × Value)) : Node :=
  .mk (.str "HostClassDefinition") (("name", .scalar (.str name)) :: fields) 0 0

/-- A module with one manifest. -/
def moduleOfTree (name : String) (root : Node) : ModuleSource where
  module := { name, path := ⟨"", [name]⟩ }
  manifests := [(⟨"manifests/init.pp", .str ""⟩, root)]

/-- A class with a parameter. -/
def baseModule : ModuleSource :=
  moduleOfTree "base" (classTree "base"
    [("parameters", .list [.node (.mk (.str "Parameter") [("name", .scalar (.str "port"))] 0 0)])])

/-- A class that inherits the parameter. -/
def heirModule : ModuleSource :=
  moduleOfTree "app" (classTree "app" [("parent_class", .scalar (.str "base"))])

/-- The same class without parent. -/
def orphanModule : ModuleSource :=
  moduleOfTree "app" (classTree "app" [])

/-- A class that refers to the parameter by its inherited name. -/
def userModule : ModuleSource :=
  moduleOfTree "site" (classTree "site"
    [("body", .node (.mk (.str "VariableExpression")
      [("expr", .node (.mk (.str "QualifiedName")
        [("value", .scalar (.str "app::port"))] 0 0))] 0 0))])

/-- A run after a class has lost its parent. -/
def lostParent : Rescan where
  catalogue := {}
  old := [baseModule, heirModule, userModule]
  new := [baseModule, orphanModule, userModule]
  excluded := ["app"]
  again := [orphanModule]
  before := [baseModule, heirModule, userModule].foldl ModuleSource.enter (Context.seeded {}, [])
  after := [baseModule, orphanModule, userModule].foldl ModuleSource.enter (Context.seeded {}, [])
  old_apart := ⟨by decide, by decide, by decide +kernel, by decide +kernel⟩
  new_apart := ⟨by decide, by decide, by decide +kernel, by decide +kernel⟩
  unchanged := by
    intro source hkept
    have hold : source ≠ heirModule := by
      intro heq
      subst heq
      exact hkept (by decide)
    have hnew : source ≠ orphanModule := by
      intro heq
      subst heq
      exact hkept (by decide)
    simp [hold, hnew]
  again_perm := .of_eq rfl
  scan_old := scanSources_eq_ok_iff.2 ⟨by decide +kernel, rfl⟩
  scan_new := scanSources_eq_ok_iff.2 ⟨by decide +kernel, rfl⟩
  plain := by decide +kernel
  aliases_apart := by decide +kernel

/-- After a class has lost its parent, the rescan lists a dependency that the full scan does not. -/
theorem lost_parent_lists_differ :
    ¬ ∀ control request,
      SameLists
        (Resolver.resolve lostParent.result.2 request { controlModules := control }
          lostParent.result.1).1
        (Resolver.resolve lostParent.after.2 request { controlModules := control }
          lostParent.after.1).1 := by
  intro hsame
  obtain ⟨_, _, hexact, _⟩ := lists_agree_unless_stale lostParent
  have hdepends := hexact.1 hsame "site" "base"
  revert hdepends
  decide +kernel

end Rescan

end ModuleGraph
