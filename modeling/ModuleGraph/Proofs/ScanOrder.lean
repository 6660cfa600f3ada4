import ModuleGraph.Proofs.Likeness
import ModuleGraph.Proofs.Rescanning

/-!
# The order of scanning

All modules write into the same tables: the first definition of a symbol counts, but the last parent
of a class, and inherited variables are named in the order of both. `scan_order_irrelevant` says
that this makes no difference as long as no two modules write to the same place: for modules that
are apart, every order of scanning gives the same owners, the same warnings and the same answers.

What a module says to the diagnostics depends on the owners of the symbols that it defines and on
nothing else (`Fact.sayingsOf_congr`). Where no other module defines them, it says the same
whenever it is scanned (`ModuleSource.hears_enterAll`).
-/

namespace ModuleGraph

/-! ## What facts say -/

namespace Fact

/-- The registry after a fact about a module was recorded. -/
def registered (owner : String) (registry : Registry) : Fact → Registry
  | .define category name _ => registry.addNew category (normalizeName name) owner
  | _ => registry

/-- What is said when a fact about a module is recorded. -/
def sayings (owner : String) (registry : Registry) : Fact → List Saying
  | .define category name allowRepeated =>
    registry.definitionSayings category (normalizeName name) owner allowRepeated
  | .warn message => [.remark message]
  | .report warning message => [.report warning message]
  | _ => []

/-- What is said when facts about a module are recorded in order. -/
def sayingsOf (owner : String) : Registry → List Fact → List Saying
  | _, [] => []
  | registry, fact :: rest =>
    fact.sayings owner registry ++ sayingsOf owner (fact.registered owner registry) rest

/-- Recording a fact changes the registry by its definition. -/
theorem record_registry (owner : String) (state : Context × Dependencies) (fact : Fact) :
    (record owner state fact).1.registry = fact.registered owner state.1.registry := by
  cases fact with
  | define category name allowRepeated => exact Context.define_registry ..
  | note | refer | inherit | unhandled | warn | report => rfl

/-- The owner of a symbol after a fact was recorded. -/
theorem find?_registered (owner : String) (registry : Registry) (fact : Fact)
    (category : Category) (name : String) :
    (fact.registered owner registry).find? category name =
      (registry.find? category name).or
        (if fact.symbol? = some (category, name) then some owner else none) := by
  rw [← find?_record owner ({ registry }, []) fact, record_registry]

/-- A fact is heard. -/
theorem hears_record (owner : String) (state : Context × Dependencies) (fact : Fact) :
    state.1.diagnostics.Hears (fact.sayings owner state.1.registry)
      (record owner state fact).1.diagnostics := by
  cases fact with
  | note message => exact Diagnostics.hears_log _ _ _
  | define category name allowRepeated => exact Context.hears_define ..
  | refer | inherit | unhandled => exact Diagnostics.hears_nil _
  | warn message => exact Diagnostics.hears_warn _ _
  | report warning message => exact Diagnostics.hears_report _ _ _

/-- Facts are heard in order. -/
theorem hears_recordAll (owner : String) (state : Context × Dependencies) (facts : List Fact) :
    state.1.diagnostics.Hears (sayingsOf owner state.1.registry facts)
      (recordAll owner state facts).1.diagnostics := by
  induction facts generalizing state with
  | nil => exact state.1.diagnostics.hears_nil
  | cons fact rest ih =>
      have hrest := ih (record owner state fact)
      rw [record_registry] at hrest
      exact (hears_record owner state fact).append hrest

/-- What facts say depends on the owners of the symbols that they define and on nothing else. -/
theorem sayingsOf_congr (owner : String) {registry registry' : Registry} {facts : List Fact}
    (h : ∀ symbol ∈ facts.filterMap symbol?,
      registry.find? symbol.1 symbol.2 = registry'.find? symbol.1 symbol.2) :
    sayingsOf owner registry facts = sayingsOf owner registry' facts := by
  induction facts generalizing registry registry' with
  | nil => rfl
  | cons fact rest ih =>
      have hfact : fact.sayings owner registry = fact.sayings owner registry' := by
        cases fact with
        | define category name allowRepeated =>
            have hsymbol := h (category, normalizeName name) List.mem_cons_self
            simp only [sayings, Registry.definitionSayings, hsymbol]
        | note | refer | inherit | unhandled | warn | report => rfl
      have hrest : ∀ symbol ∈ rest.filterMap symbol?,
          (fact.registered owner registry).find? symbol.1 symbol.2 =
            (fact.registered owner registry').find? symbol.1 symbol.2 := by
        intro symbol hsymbol
        have hmem : symbol ∈ (fact :: rest).filterMap symbol? := by
          obtain ⟨other, hother, hdefines⟩ := List.mem_filterMap.1 hsymbol
          exact List.mem_filterMap.2 ⟨other, List.mem_cons_of_mem _ hother, hdefines⟩
        rw [find?_registered, find?_registered, h symbol hmem]
      rw [sayingsOf, sayingsOf, hfact, ih hrest]

end Fact

/-! ## Scanning in another order -/

namespace ModuleSource

/-- What a module says when it is scanned. -/
def sayings (registry : Registry) (source : ModuleSource) : List Saying :=
  Fact.sayingsOf source.name registry source.facts

/-- Modules that are apart say the same whatever was scanned before: what each of them would say if
it came first. -/
theorem hears_enterAll {sources : List ModuleSource} (hapart : SourcesApart sources)
    (state : Context × Table String Module) {registry : Registry}
    (h : ∀ source ∈ sources, ∀ symbol ∈ source.symbols,
      state.1.registry.find? symbol.1 symbol.2 = registry.find? symbol.1 symbol.2) :
    state.1.diagnostics.Hears (sources.flatMap (sayings registry))
      (sources.foldl enter state).1.diagnostics := by
  induction sources generalizing state with
  | nil => exact state.1.diagnostics.hears_nil
  | cons source rest ih =>
      have hsource : source.sayings state.1.registry = source.sayings registry :=
        Fact.sayingsOf_congr _ (h source List.mem_cons_self)
      have hfirst : state.1.diagnostics.Hears (source.sayings registry)
          (enter state source).1.diagnostics := by
        rw [← hsource]
        exact Fact.hears_recordAll source.name (state.1, []) source.facts
      refine hfirst.append (ih (hapart.of_subperm (List.sublist_cons_self _ _).subperm) _ ?_)
      intro other hother symbol hsymbol
      -- The module entered first defines none of the symbols of the others.
      have hforeign : symbol ∉ source.symbols := by
        intro hshared
        have hname := hapart.symbols source List.mem_cons_self other
          (List.mem_cons_of_mem _ hother) symbol hshared hsymbol
        have hnames := hapart.names
        rw [List.map_cons, List.nodup_cons] at hnames
        exact hnames.1 (List.mem_map.2 ⟨other, hother, hname.symm⟩)
      have howner : (enter state source).1.registry.find? symbol.1 symbol.2 =
          (state.1.registry.find? symbol.1 symbol.2).or
            (if symbol ∈ source.symbols then some source.name else none) :=
        Fact.find?_recordAll ..
      rw [howner, if_neg hforeign, Option.or_none]
      exact h other (List.mem_cons_of_mem _ hother) symbol hsymbol

section Order

variable {first second : List ModuleSource}

/-- Every symbol has the same owner in both orders. -/
theorem find?_enterAll_perm (hperm : first.Perm second) (hapart : SourcesApart first)
    (state : Context × Table String Module) (category : Category) (name : String) :
    (first.foldl enter state).1.registry.find? category name =
      (second.foldl enter state).1.registry.find? category name := by
  rw [find?_enterAll, find?_enterAll]
  congr 1
  ext owner
  rw [hapart.findSome?_ownerOf, (hapart.of_subperm hperm.symm.subperm).findSome?_ownerOf]
  simp only [hperm.mem_iff]

/-- Every class has the same parent in both orders. -/
theorem get?_enterAll_perm_inherits (hperm : first.Perm second) (hapart : SourcesApart first)
    (state : Context × Table String Module) (child : String) :
    (first.foldl enter state).1.inherits.get? child =
      (second.foldl enter state).1.inherits.get? child := by
  rw [get?_enterAll_inherits, get?_enterAll_inherits]
  congr 1
  ext parent
  rw [hapart.findSome?_parentOf, (hapart.of_subperm hperm.symm.subperm).findSome?_parentOf]
  simp only [hperm.mem_iff]

/-- Every name has the same module in both orders. -/
theorem get?_enterAll_perm (hperm : first.Perm second) (hapart : SourcesApart first)
    (state : Context × Table String Module) (name : String) :
    (first.foldl enter state).2.get? name = (second.foldl enter state).2.get? name := by
  rw [get?_enterAll, get?_enterAll]
  congr 1
  ext module
  rw [hapart.findSome?_moduleOf, (hapart.of_subperm hperm.symm.subperm).findSome?_moduleOf]
  simp only [hperm.mem_iff]

/-- The same warnings are found in both orders. -/
theorem mem_found_enterAll_perm (hperm : first.Perm second) (hapart : SourcesApart first)
    (state : Context × Table String Module) (warning : Warning) :
    warning ∈ (first.foldl enter state).1.diagnostics.found ↔
      warning ∈ (second.foldl enter state).1.diagnostics.found := by
  have hfirst := hears_enterAll hapart state fun _ _ _ _ => rfl
  have hsecond := hears_enterAll (hapart.of_subperm hperm.symm.subperm) state fun _ _ _ _ => rfl
  rw [hfirst.found, hsecond.found, Diagnostics.mem_foldl_insertNew,
    Diagnostics.mem_foldl_insertNew]
  simp only [List.mem_flatMap, hperm.mem_iff]

end Order

end ModuleSource

/-- Where no two classes get the same name for a variable, contexts with the same owners and the
same parents name inherited variables alike. -/
theorem Context.AliasesApart.get?_aliasesOf_eq {first second : Context} (h : first.AliasesApart)
    (hfirst : first.registry.Distinct) (hsecond : second.registry.Distinct)
    (howners : ∀ category name,
      first.registry.find? category name = second.registry.find? category name)
    (hinherits : first.inherits.Distinct) (hinherits' : second.inherits.Distinct)
    (hparents : ∀ child, first.inherits.get? child = second.inherits.get? child) (name : String) :
    Table.get? (aliasesOf (first.registry.ofCategory .classVariable) first.inherits) name =
      Table.get? (aliasesOf (second.registry.ofCategory .classVariable) second.inherits) name := by
  have hmem {owner : String} :
      (name, owner) ∈ aliasesOf (first.registry.ofCategory .classVariable) first.inherits ↔
        (name, owner) ∈ aliasesOf (second.registry.ofCategory .classVariable) second.inherits := by
    simp only [mem_aliasesOf, mem_aliasesOfEdge, Registry.mem_ofCategory,
      hfirst.mem_entries_iff hsecond howners, hinherits.mem_iff_get?, hinherits'.mem_iff_get?,
      hparents]
  ext owner
  rw [Table.get?_eq_some_iff_mem, Table.get?_eq_some_iff_mem, hmem]
  · exact fun _ _ hnamed hnamed' =>
      h.owner_unique hfirst hinherits (hmem.2 hnamed) (hmem.2 hnamed')
  · exact fun _ _ hnamed hnamed' => h.owner_unique hfirst hinherits hnamed hnamed'

/-- Two contexts know the same owners and have found the same warnings. -/
structure Context.SameFindings (first second : Context) : Prop where
  /-- Every symbol has the same owner. -/
  owners : ∀ category name,
    first.registry.find? category name = second.registry.find? category name
  /-- The same warnings were found. -/
  found : ∀ warning, warning ∈ first.diagnostics.found ↔ warning ∈ second.diagnostics.found

/-- Contexts whose diagnostics hear the same have found the same warnings if they had before. -/
theorem Diagnostics.Hears.mem_found_iff {before before' after after' : Diagnostics}
    {sayings : List Saying} (h : before.Hears sayings after) (h' : before'.Hears sayings after')
    (hfound : ∀ warning, warning ∈ before.found ↔ warning ∈ before'.found) (warning : Warning) :
    warning ∈ after.found ↔ warning ∈ after'.found := by
  rw [h.found, h'.found, mem_foldl_insertNew, mem_foldl_insertNew, hfound]

/-- Resolving cannot tell apart two runs that scan the same modules in different orders. -/
theorem runsAlike_of_perm {catalogue : Builtins} {first second : List ModuleSource}
    (hperm : first.Perm second) (hapart : SourcesApart first)
    (haliases : (first.foldl ModuleSource.enter (Context.seeded catalogue, [])).1.AliasesApart) :
    RunsAlike (first.foldl ModuleSource.enter (Context.seeded catalogue, []))
      (second.foldl ModuleSource.enter (Context.seeded catalogue, [])) := by
  have hfresh := Context.fresh_seeded catalogue
  have hregistry (sources : List ModuleSource) :
      (sources.foldl ModuleSource.enter (Context.seeded catalogue, [])).1.registry.Distinct :=
    ModuleSource.distinct_enterAll hfresh.distinct sources
  have hinherits (sources : List ModuleSource) :
      (sources.foldl ModuleSource.enter (Context.seeded catalogue, [])).1.inherits.Distinct := by
    refine ModuleSource.distinct_enterAll_inherits ?_ sources
    rw [hfresh.inherits]
    exact List.nodup_nil
  have howners := ModuleSource.find?_enterAll_perm hperm hapart (Context.seeded catalogue, [])
  refine ⟨hregistry first, hregistry second, howners, ?_, ?_⟩
  · exact haliases.get?_aliasesOf_eq (hregistry first) (hregistry second) howners
      (hinherits first) (hinherits second)
      (ModuleSource.get?_enterAll_perm_inherits hperm hapart _)
  · intro name
    rw [ModuleSource.get?_enterAll_perm hperm hapart]
    cases (second.foldl ModuleSource.enter (Context.seeded catalogue, [])).2.get? name with
    | none => exact .none
    | some module => exact .some (.refl module)

/-- The order of scanning makes no difference. Modules that are apart and that can be scanned in one
order can be scanned in every order. The same symbols get the same owners and the same warnings are
found, and every request gets the same answer. If it names its modules, even the outcome is the
same, and so is what is known afterwards. -/
theorem scan_order_irrelevant {catalogue : Builtins} {first second : List ModuleSource}
    {before : Context × Table String Module} (hperm : first.Perm second)
    (hapart : SourcesApart first)
    (hscan : scanSources first (Context.seeded catalogue, []) = .ok before)
    (haliases : before.1.AliasesApart) :
    ∃ after, scanSources second (Context.seeded catalogue, []) = .ok after ∧
      before.1.SameFindings after.1 ∧
      ∀ control request,
        let outcome := Resolver.resolve before.2 request { controlModules := control } before.1
        let outcome' := Resolver.resolve after.2 request { controlModules := control } after.1
        SameAnswer outcome.1 outcome'.1 ∧
        (request.names ≠ [] →
          outcome.1 = outcome'.1 ∧ outcome.2.2.SameFindings outcome'.2.2) := by
  obtain ⟨hreadable, rfl⟩ := scanSources_eq_ok_iff.1 hscan
  have halike := runsAlike_of_perm hperm hapart haliases
  have hfound := ModuleSource.mem_found_enterAll_perm hperm hapart (Context.seeded catalogue, [])
  refine ⟨_, scanSources_eq_ok_iff.2
    ⟨fun source hsource => hreadable source (hperm.mem_iff.2 hsource), rfl⟩,
    ⟨halike.owners, hfound⟩, ?_⟩
  intro control request
  refine ⟨halike.sameAnswer control request, ?_⟩
  intro hnames
  obtain ⟨outcome, next, first', second', hfirst, hsecond, howners, sayings, hsaid, hsaid'⟩ :=
    halike.resolve_eq hnames { controlModules := control }
  rw [hfirst, hsecond]
  exact ⟨rfl, howners, hsaid.mem_found_iff hsaid' hfound⟩

/-- A class, its heir and a user of the inherited variable are scanned from the last to the first,
and the variable is found all the same. -/
theorem heir_scanned_before_parent :
    ∃ after,
      scanSources [Rescan.userModule, Rescan.heirModule, Rescan.baseModule]
        (Context.seeded {}, []) = .ok after ∧
      (Resolver.resolve after.2 { names := ["site"] } { controlModules := [] }
        after.1).1.toOption = some ⟨[("site", ["base"])], ["base"]⟩ := by
  have hperm : [Rescan.baseModule, Rescan.heirModule, Rescan.userModule].Perm
      [Rescan.userModule, Rescan.heirModule, Rescan.baseModule] := (List.reverse_perm _).symm
  have hapart : SourcesApart [Rescan.baseModule, Rescan.heirModule, Rescan.userModule] :=
    ⟨by decide, by decide, by decide +kernel, by decide +kernel⟩
  have hreadable : ∀ source ∈ [Rescan.baseModule, Rescan.heirModule, Rescan.userModule],
      source.Readable := by decide +kernel
  have hscan := scanSources_eq_ok_iff.2 ⟨hreadable, Eq.refl ([Rescan.baseModule,
    Rescan.heirModule, Rescan.userModule].foldl ModuleSource.enter (Context.seeded {}, []))⟩
  obtain ⟨after, hafter, _, hanswers⟩ :=
    scan_order_irrelevant hperm hapart hscan (by decide +kernel)
  obtain ⟨houtcome, _⟩ := (hanswers [] { names := ["site"] }).2 (List.cons_ne_nil _ _)
  refine ⟨after, hafter, ?_⟩
  rw [← houtcome]
  decide +kernel

end ModuleGraph
