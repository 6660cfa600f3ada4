import ModuleGraph.Snapshot
import ModuleGraph.Proofs.Aliases
import ModuleGraph.Proofs.Groups
import ModuleGraph.Proofs.Tables

/-!
# What a snapshot brings back

A snapshot is taken of one run and restored into another one. `find?_restore`,
`get?_restore_inherits` and `get?_restore_modules` say what is there afterwards: the symbols and
the modules come back without those of the excluded modules, but every class has its parent again,
whichever module said so.
-/

namespace ModuleGraph

/-- No name has a top scope marker any more. -/
def Registry.Plain (registry : Registry) : Prop :=
  ∀ entry ∈ registry.entries, ¬ "::".toList <+: entry.name.toList

instance (registry : Registry) : Decidable registry.Plain :=
  inferInstanceAs (Decidable (∀ entry ∈ registry.entries, ¬ "::".toList <+: entry.name.toList))

/-- The record of a module keeps its references, group by group. -/
theorem Module.dependencies_ofRecord_toRecord (module : Module) :
    (ofRecord module.toRecord).dependencies = module.dependencies.items := by
  simp only [ofRecord, toRecord, Dependencies.items, List.flatMap_map]
  congr 1
  funext category
  simp only [List.map_map, Function.comp_def]
  refine List.map_congr_left ?_ |>.trans (List.map_id _)
  intro entry hentry
  have hcategory := of_decide_eq_true (List.mem_filter.1 hentry).2
  rw [← hcategory]
  rfl

/-- The record of a module keeps its table of references, with the order of groups and names. -/
theorem Module.toRecord_dependencies_ofRecord (module : Module) :
    (ofRecord module.toRecord).toRecord.dependencies = module.toRecord.dependencies := by
  simp only [toRecord]
  have hkept := module.dependencies_ofRecord_toRecord
  simp only [toRecord] at hkept
  rw [hkept, Dependencies.categories_items]
  simp only [Dependencies.ofCategory_items]

namespace Snapshot

/-- The symbols of a table that are restored. -/
def restorable (skipped : List String) (table : Table String String) : Table String String :=
  (table.filter fun entry => entry.2 ∉ skipped).map fun entry => (normalizeName entry.1, entry.2)

/-- Restoring the symbols of one category adds those that have no owner. -/
theorem restoreDefinitions_registry (skipped : List String) (category : Category)
    (table : Table String String) (context : Context) :
    (restoreDefinitions skipped category table context).registry =
      context.registry.addAll category (restorable skipped table) := by
  unfold restoreDefinitions restorable Registry.addAll
  rw [List.foldl_map]
  induction table.filter fun entry => entry.2 ∉ skipped generalizing context with
  | nil => rfl
  | cons entry rest ih =>
      rw [List.foldl_cons, ih, Context.define_registry, List.foldl_cons]

/-- Restoring the symbols of one category changes no inheritance. -/
theorem restoreDefinitions_inherits (skipped : List String) (category : Category)
    (table : Table String String) (context : Context) :
    (restoreDefinitions skipped category table context).inherits = context.inherits := by
  unfold restoreDefinitions
  induction table.filter fun entry => entry.2 ∉ skipped generalizing context with
  | nil => rfl
  | cons entry rest ih => rw [List.foldl_cons, ih, Context.define_inherits]

/-- Restores the symbols of some categories. -/
def restoreCategories (skipped : List String) (tables : Category → Table String String)
    (categories : List Category) (context : Context) : Context :=
  (categories.map fun category => (category, tables category)).foldl
    (fun context entry => restoreDefinitions skipped entry.1 entry.2 context) context

/-- The owner of a symbol after the symbols of some categories were restored. -/
theorem find?_restoreCategories (skipped : List String) (tables : Category → Table String String)
    (categories : List Category) (context : Context) (category : Category) (name : String) :
    (restoreCategories skipped tables categories context).registry.find? category name =
      (context.registry.find? category name).or
        (if category ∈ categories then Table.get? (restorable skipped (tables category)) name
        else none) := by
  unfold restoreCategories
  induction categories generalizing context with
  | nil => simp
  | cons first rest ih =>
      rw [List.map_cons, List.foldl_cons, ih, restoreDefinitions_registry, Registry.find?_addAll,
        Option.or_assoc]
      congr 1
      by_cases hfirst : first = category
      · subst hfirst
        by_cases hrest : first ∈ rest <;> simp [hrest]
      · simp [hfirst, Ne.symm hfirst]

/-- Restoring symbols repeats none. -/
theorem distinct_restoreCategories {context : Context} (h : context.registry.Distinct)
    (skipped : List String) (tables : Category → Table String String)
    (categories : List Category) :
    (restoreCategories skipped tables categories context).registry.Distinct := by
  unfold restoreCategories
  induction categories generalizing context with
  | nil => exact h
  | cons first rest ih =>
      refine ih ?_
      rw [restoreDefinitions_registry]
      exact h.addAll _ _

/-- Restoring symbols changes no inheritance. -/
theorem restoreCategories_inherits (skipped : List String)
    (tables : Category → Table String String) (categories : List Category) (context : Context) :
    (restoreCategories skipped tables categories context).inherits = context.inherits := by
  unfold restoreCategories
  induction categories generalizing context with
  | nil => rfl
  | cons first rest ih => rw [List.map_cons, List.foldl_cons, ih, restoreDefinitions_inherits]

/-- The symbols of a registry that are restored, if it lists none twice and has plain names. -/
theorem get?_restorable {registry : Registry} (h : registry.Distinct) (hplain : registry.Plain)
    (skipped : List String) (category : Category) (name : String) :
    Table.get? (restorable skipped (registry.ofCategory category)) name =
      (registry.find? category name).filter fun owner => owner ∉ skipped := by
  have hmem {owner : String} :
      (name, owner) ∈ restorable skipped (registry.ofCategory category) ↔
        registry.find? category name = some owner ∧ owner ∉ skipped := by
    simp only [restorable, List.mem_map, List.mem_filter, decide_eq_true_eq, Prod.mk.injEq,
      Prod.exists, Registry.mem_ofCategory]
    rw [h.find?_eq_some]
    constructor
    · intro hgiven
      obtain ⟨written, _, ⟨hentry, hkept⟩, hname, rfl⟩ := hgiven
      rw [normalizeName_eq_self (hplain _ hentry)] at hname
      exact ⟨hname ▸ hentry, hkept⟩
    · intro hgiven
      obtain ⟨hentry, hkept⟩ := hgiven
      exact ⟨name, owner, ⟨hentry, hkept⟩, normalizeName_eq_self (hplain _ hentry), rfl⟩
  ext owner
  rw [Table.get?_eq_some_iff_mem, hmem, Option.filter_eq_some_iff, decide_eq_true_eq]
  intro first second hfirst hsecond
  have howners := (hmem.1 hfirst).1.symm.trans (hmem.1 hsecond).1
  exact Option.some.inj howners

variable {context start : Context} {modules : Table String Module}

/-- The symbols after a snapshot was restored: each has the owner that it had, or else the one in
the snapshot, unless that is excluded. -/
theorem find?_restore (h : context.registry.Distinct) (hplain : context.registry.Plain)
    (modules table : Table String Module) (excluded : List String) (start : Context)
    (category : Category) (name : String) :
    ((capture context modules).restore excluded (start, table)).2.1.registry.find? category name =
      (start.registry.find? category name).or
        ((context.registry.find? category name).filter fun owner =>
          owner ∉ builtinOwner :: excluded) := by
  have hfind := find?_restoreCategories (builtinOwner :: excluded) context.registry.ofCategory
    Category.all start category name
  rw [if_pos (Category.mem_all category), get?_restorable h hplain] at hfind
  exact hfind

/-- Restoring a snapshot repeats no symbol. -/
theorem distinct_restore (h : start.registry.Distinct) (context : Context)
    (modules table : Table String Module) (excluded : List String) :
    ((capture context modules).restore excluded (start, table)).2.1.registry.Distinct :=
  distinct_restoreCategories h (builtinOwner :: excluded) context.registry.ofCategory Category.all

/-- The inheritance after a snapshot was restored: that of the snapshot is added, and none of it is
left out. -/
theorem restore_inherits (context start : Context) (modules table : Table String Module)
    (excluded : List String) :
    ((capture context modules).restore excluded (start, table)).2.1.inherits =
      context.inherits.foldl (fun table entry => table.putNew entry.1 entry.2) start.inherits := by
  rw [← restoreCategories_inherits (builtinOwner :: excluded) context.registry.ofCategory
    Category.all start]
  rfl

/-- The parent of a class after a snapshot was restored: the one that it had, or else the one in
the snapshot, whichever module said so. -/
theorem get?_restore_inherits (context start : Context) (modules table : Table String Module)
    (excluded : List String) (child : String) :
    ((capture context modules).restore excluded (start, table)).2.1.inherits.get? child =
      (start.inherits.get? child).or (context.inherits.get? child) := by
  rw [restore_inherits, Table.get?_foldl_putNew]

/-- Restoring a snapshot gives no class a second entry. -/
theorem distinct_restore_inherits (h : start.inherits.Distinct) (context : Context)
    (modules table : Table String Module) (excluded : List String) :
    ((capture context modules).restore excluded (start, table)).2.1.inherits.Distinct := by
  rw [restore_inherits]
  generalize start.inherits = edges at h
  induction context.inherits generalizing edges with
  | nil => exact h
  | cons entry rest ih => exact ih _ (h.putNew entry.1 entry.2)

/-- The modules after a snapshot was restored into an empty table: those of the snapshot that are
not excluded, as their records describe them. -/
theorem get?_restore_modules (h : modules.Distinct) (context start : Context)
    (excluded : List String) {name : String} {module : Module} :
    ((capture context modules).restore excluded (start, [])).2.2.get? name = some module ↔
      name ∉ builtinOwner :: excluded ∧
        ∃ kept, modules.get? name = some kept ∧ Module.ofRecord kept.toRecord = module := by
  -- The last entry of a name counts, but no name has two.
  let restored : Table String Module :=
    ((capture context modules).modules.filter fun entry =>
      entry.1 ∉ builtinOwner :: excluded).map fun entry => (entry.1, Module.ofRecord entry.2)
  have htable : ((capture context modules).restore excluded (start, [])).2.2 =
      restored.foldl (fun table entry => Table.put table entry.1 entry.2) [] := by
    rw [List.foldl_map]
    rfl
  have hmem {module : Module} : (name, module) ∈ restored.reverse ↔
      name ∉ builtinOwner :: excluded ∧
        ∃ kept, modules.get? name = some kept ∧ Module.ofRecord kept.toRecord = module := by
    simp only [restored, capture, List.mem_reverse, List.mem_map, List.mem_filter,
      decide_eq_true_eq, Prod.mk.injEq, Prod.exists]
    constructor
    · intro hgiven
      obtain ⟨_, _, ⟨⟨_, kept, hkept, rfl, rfl⟩, hname⟩, rfl, rfl⟩ := hgiven
      exact ⟨hname, kept, h.mem_iff_get?.1 hkept, rfl⟩
    · intro hgiven
      obtain ⟨hname, kept, hkept, rfl⟩ := hgiven
      exact ⟨name, kept.toRecord, ⟨⟨name, kept, h.mem_iff_get?.2 hkept, rfl, rfl⟩, hname⟩, rfl, rfl⟩
  rw [htable, Table.get?_foldl_put, show Table.get? ([] : Table String Module) name = none from rfl,
    Option.or_none, Table.get?_eq_some_iff_mem, hmem]
  intro first second hfirst hsecond
  obtain ⟨_, kept, hkept, rfl⟩ := hmem.1 hfirst
  obtain ⟨_, kept', hkept', rfl⟩ := hmem.1 hsecond
  rw [hkept] at hkept'
  cases hkept'
  rfl

end Snapshot

end ModuleGraph
