import ModuleGraph.Resolution
import ModuleGraph.Proofs.Ascending
import ModuleGraph.Proofs.Definitions

/-!
# Direct dependencies

`DependsOn registry modules name owner` says that a module refers to a symbol of another one: the
owner that a reference leads to, other than the module itself and the builtin symbols.

Resolving a module computes this relation. `resolveDirect_fst` says that the list found depends on
the registry and on the references alone, and `mem_directDependencies` that it lists the owners.
Warnings are evaluated on the way, but the registry stays as it is.
-/

namespace ModuleGraph

/-- A module refers to a symbol that another module owns. -/
def DependsOn (registry : Registry) (modules : Table String Module) (name owner : String) : Prop :=
  owner ≠ builtinOwner ∧ owner ≠ name ∧ ∃ module, modules.get? name = some module ∧
    ∃ entry ∈ module.dependencies, ∃ found,
      registry.lookup entry.category entry.name = some found ∧ found.owner = owner

instance (registry : Registry) (modules : Table String Module) (name owner : String) :
    Decidable (DependsOn registry modules name owner) :=
  decidable_of_iff (owner ≠ builtinOwner ∧ owner ≠ name ∧ ∃ module ∈ (modules.get? name).toList,
    ∃ entry ∈ module.dependencies,
      (registry.lookup entry.category entry.name).map Match.owner = some owner)
    (by simp [DependsOn])

/-- The categories of a table of references include those of all its entries. -/
theorem Dependencies.category_mem_categories {table : Dependencies} {entry : Dependency}
    (h : entry ∈ table) : entry.category ∈ table.categories := by
  unfold categories
  by_cases href : entry.category ∈ Category.referable
  · exact List.mem_append_left _ href
  · refine List.mem_append_right _ (List.mem_eraseDups.2 (List.mem_filter.2 ⟨?_, ?_⟩))
    · exact List.mem_map_of_mem h
    · simpa using href

/-- The groups of a table of references hold its entries. -/
@[simp] theorem Dependencies.mem_items {table : Dependencies} {entry : Dependency} :
    entry ∈ table.items ↔ entry ∈ table := by
  simp only [items, ofCategory, List.mem_flatMap, List.mem_filter, decide_eq_true_eq]
  constructor
  · intro hgiven
    obtain ⟨_, _, hmem, _⟩ := hgiven
    exact hmem
  · intro hmem
    exact ⟨entry.category, category_mem_categories hmem, hmem, rfl⟩

namespace Registry

/-- The owners of what a list of references means. -/
def ownersOf (registry : Registry) (entries : List Dependency) : List String :=
  entries.filterMap fun entry => (registry.lookup entry.category entry.name).map Match.owner

/-- The direct dependencies of a module that is known by a name, in order. -/
def directDependencies (registry : Registry) (name : String) (module : Module) : List String :=
  Text.sortedSet ((registry.ownersOf module.dependencies.items).filter fun owner =>
    owner ≠ builtinOwner ∧ owner ≠ name)

/-- The direct dependencies of a module are the modules that it depends on. -/
theorem mem_directDependencies {registry : Registry} {modules : Table String Module}
    {name owner : String} {module : Module} (hmodule : modules.get? name = some module) :
    owner ∈ registry.directDependencies name module ↔ DependsOn registry modules name owner := by
  simp only [directDependencies, Text.mem_sortedSet, List.mem_filter, ownersOf,
    List.mem_filterMap, Option.map_eq_some_iff, Dependencies.mem_items, decide_eq_true_eq,
    DependsOn, hmodule, Option.some.injEq]
  constructor
  · intro hgiven
    obtain ⟨⟨entry, hentry, found, hfound, howner⟩, hbuiltin, hself⟩ := hgiven
    exact ⟨hbuiltin, hself, module, rfl, entry, hentry, found, hfound, howner⟩
  · intro hgiven
    obtain ⟨hbuiltin, hself, _, rfl, entry, hentry, found, hfound, howner⟩ := hgiven
    exact ⟨⟨entry, hentry, found, hfound, howner⟩, hbuiltin, hself⟩

/-- No reference can mean a variable instead of what it says. -/
theorem category_ne_of_mem_alternatives {category : Category} {name : String}
    {target : Category × String} (h : target ∈ alternatives category name) :
    target.1 ≠ .classVariable := by
  cases category with
  | hostClass | legacyFunction | definedType | typeAlias | classVariable => cases h
  | function | dataType | resourceType =>
      simp only [alternatives, List.mem_cons, List.not_mem_nil, or_false] at h
      rcases h with rfl | rfl | rfl <;> exact Category.noConfusion
  | provider =>
      obtain ⟨type, _, rfl⟩ := List.mem_map.1 h
      exact Category.noConfusion

/-- What a reference means is the same in registries that agree on its symbol and on all that are
no variables. -/
theorem lookup_congr {registry registry' : Registry} {category : Category} {name : String}
    (hsymbol : registry.find? category (normalizeName name) =
      registry'.find? category (normalizeName name))
    (hothers : ∀ other target, other ≠ .classVariable →
      registry.find? other target = registry'.find? other target) :
    registry.lookup category name = registry'.lookup category name := by
  have hfirst (targets : List (Category × String))
      (htargets : ∀ target ∈ targets, target.1 ≠ .classVariable) :
      registry.firstOwned targets = registry'.firstOwned targets := by
    induction targets with
    | nil => rfl
    | cons target rest ih =>
        obtain ⟨htarget, hrest⟩ := List.forall_mem_cons.1 htargets
        simp only [firstOwned, owner?, hothers _ _ htarget, ih hrest]
  unfold lookup owner?
  rw [hsymbol, hfirst _ fun _ => category_ne_of_mem_alternatives]

/-- What a reference may mean: the symbol that it names, and then the alternatives, in order. -/
def meanings (category : Category) (name : String) : List (Category × String) :=
  (category, name) :: alternatives category name

/-- Nothing is found among symbols that have no owner. -/
theorem firstOwned_eq_none_iff {registry : Registry} {targets : List (Category × String)} :
    registry.firstOwned targets = none ↔
      ∀ target ∈ targets, registry.owner? target.1 target.2 = none := by
  induction targets with
  | nil => simp [firstOwned]
  | cons target rest ih =>
      rw [List.forall_mem_cons, ← ih, firstOwned]
      cases registry.owner? target.1 target.2 <;> simp

/-- What is found among symbols has the owner of one of them. -/
theorem owner_of_firstOwned {registry : Registry} {targets : List (Category × String)}
    {found : Match} (h : registry.firstOwned targets = some found) :
    ∃ target ∈ targets, registry.owner? target.1 target.2 = some found.owner := by
  induction targets with
  | nil => cases h
  | cons target rest ih =>
      simp only [List.mem_cons, exists_eq_or_imp]
      rw [firstOwned] at h
      split at h
      · next owner howner =>
          cases h
          exact .inl howner
      · exact .inr (ih h)

/-- A reference means nothing if nothing that it may mean has an owner. -/
theorem lookup_eq_none_iff {registry : Registry} {category : Category} {name : String} :
    registry.lookup category name = none ↔
      ∀ target ∈ meanings category name, registry.owner? target.1 target.2 = none := by
  rw [meanings, List.forall_mem_cons, ← firstOwned_eq_none_iff, lookup]
  cases registry.owner? category name <;> simp

/-- What a reference means has the owner of something that it may mean. -/
theorem owner_of_lookup {registry : Registry} {category : Category} {name : String}
    {found : Match} (h : registry.lookup category name = some found) :
    ∃ target ∈ meanings category name, registry.owner? target.1 target.2 = some found.owner := by
  simp only [meanings, List.mem_cons, exists_eq_or_imp]
  rw [lookup] at h
  split at h
  · next owner howner =>
      cases h
      exact .inl howner
  · exact .inr (owner_of_firstOwned h)

/-- Only a symbol of the registry has an owner. -/
theorem exists_entry_of_find? {registry : Registry} {category : Category} {name owner : String}
    (h : registry.find? category name = some owner) :
    ∃ entry ∈ registry.entries, entry.owner = owner := by
  obtain ⟨entry, hentry, howner⟩ := Option.map_eq_some_iff.1 h
  exact ⟨entry, List.mem_of_find?_eq_some hentry, howner⟩

/-- Only a symbol of the registry is found among alternatives. -/
theorem exists_entry_of_firstOwned {registry : Registry} {targets : List (Category × String)}
    {found : Match} (h : registry.firstOwned targets = some found) :
    ∃ entry ∈ registry.entries, entry.owner = found.owner := by
  induction targets with
  | nil => cases h
  | cons target rest ih =>
      obtain ⟨category, name⟩ := target
      simp only [firstOwned] at h
      split at h
      · next owner howner =>
          cases h
          exact exists_entry_of_find? howner
      · exact ih h

/-- What a reference means is owned by the owner of some symbol of the registry. -/
theorem exists_entry_of_lookup {registry : Registry} {category : Category} {name : String}
    {found : Match} (h : registry.lookup category name = some found) :
    ∃ entry ∈ registry.entries, entry.owner = found.owner := by
  unfold lookup at h
  split at h
  · next owner howner =>
      cases h
      exact exists_entry_of_find? howner
  · exact exists_entry_of_firstOwned h

end Registry

/-- A dependency owns a symbol of the registry. -/
theorem DependsOn.mem_owners {registry : Registry} {modules : Table String Module}
    {name owner : String} (h : DependsOn registry modules name owner) :
    owner ∈ registry.entries.map Definition.owner := by
  obtain ⟨_, _, _, _, _, _, found, hfound, rfl⟩ := h
  obtain ⟨entry, hentry, howner⟩ := Registry.exists_entry_of_lookup hfound
  exact List.mem_map.2 ⟨entry, hentry, howner⟩

namespace Context

/-- Looking up a symbol leaves the registry as it is. -/
@[simp] theorem lookup_registry (context : Context) (category : Category) (name : String) :
    (context.lookup category name).2.registry = context.registry := by
  unfold lookup
  split <;> rfl

/-- Looking up a symbol finds the owner that the registry gives. -/
@[simp] theorem lookup_fst (context : Context) (category : Category) (name : String) :
    (context.lookup category name).1 = (context.registry.lookup category name).map Match.owner := by
  unfold lookup
  split <;> simp [*]

/-- Resolving a reference leaves the registry as it is. -/
@[simp] theorem resolveEntry_registry (context : Context) (entry : Dependency) :
    (context.resolveEntry entry).2.registry = context.registry := by
  have hkept := context.lookup_registry entry.category entry.name
  unfold resolveEntry
  split
  · next hlookup => simpa [hlookup] using hkept
  · next hlookup =>
      rw [hlookup] at hkept
      dsimp only
      split <;> simpa using hkept

/-- Resolving a reference finds the owner that the registry gives. -/
@[simp] theorem resolveEntry_fst (context : Context) (entry : Dependency) :
    (context.resolveEntry entry).1 =
      (context.registry.lookup entry.category entry.name).map Match.owner := by
  have howner := context.lookup_fst entry.category entry.name
  unfold resolveEntry
  split
  · next hlookup => simpa [hlookup] using howner
  · next hlookup =>
      rw [hlookup] at howner
      dsimp only
      split <;> exact howner

/-- Resolving references leaves the registry as it is. -/
@[simp] theorem resolveEntries_registry (entries : List Dependency) (context : Context) :
    (resolveEntries entries context).2.registry = context.registry := by
  induction entries generalizing context with
  | nil => rfl
  | cons entry rest ih =>
      simp only [resolveEntries]
      rw [ih, resolveEntry_registry]

/-- Resolving references finds the owners that the registry gives. -/
@[simp] theorem resolveEntries_fst (entries : List Dependency) (context : Context) :
    (resolveEntries entries context).1 = context.registry.ownersOf entries := by
  induction entries generalizing context with
  | nil => rfl
  | cons entry rest ih =>
      simp only [resolveEntries, Registry.ownersOf, List.filterMap_cons]
      rw [ih, resolveEntry_registry, resolveEntry_fst]
      cases (context.registry.lookup entry.category entry.name).map Match.owner <;> rfl

/-- Checking for control modules leaves the registry as it is. -/
@[simp] theorem checkControl_registry (context : Context) (controlModules : List String)
    (module : Module) (dependencies : List String) :
    (context.checkControl controlModules module dependencies).registry = context.registry := by
  unfold checkControl
  split
  · rfl
  · split <;> rfl

/-- Resolving a module leaves the registry as it is. -/
@[simp] theorem resolveDirect_registry (context : Context) (controlModules : List String)
    (name : String) (module : Module) :
    (context.resolveDirect controlModules name module).2.registry = context.registry := by
  simp [resolveDirect]

/-- Resolving a module finds its direct dependencies. -/
@[simp] theorem resolveDirect_fst (context : Context) (controlModules : List String)
    (name : String) (module : Module) :
    (context.resolveDirect controlModules name module).1 =
      context.registry.directDependencies name module := by
  simp [resolveDirect, Registry.directDependencies]

end Context

end ModuleGraph
