import ModuleGraph.Context

/-!
# What a definition changes

Notes, messages and warnings go to the diagnostics of a context and nowhere else. A definition adds
its symbol to the registry if the symbol has no owner yet. `define_registry` says so once, and no
later proof opens `Context.define`; `Registry.find?_addNew` gives the owner of every symbol after
it.

A registry is `Distinct` if it lists no symbol twice. Definitions keep it so.
-/

namespace ModuleGraph

namespace Context

/-! ## Diagnostics -/

/-- Messages leave the registry as it is. -/
@[simp] theorem log_registry (context : Context) (level : Level) (message : String) :
    (context.log level message).registry = context.registry := rfl

/-- Messages leave the edges of inheritance as they are. -/
@[simp] theorem log_inherits (context : Context) (level : Level) (message : String) :
    (context.log level message).inherits = context.inherits := rfl

/-- A message at the warning level leaves the registry as it is. -/
@[simp] theorem warn_registry (context : Context) (message : String) :
    (context.warn message).registry = context.registry := rfl

/-- A message at the warning level leaves the edges of inheritance as they are. -/
@[simp] theorem warn_inherits (context : Context) (message : String) :
    (context.warn message).inherits = context.inherits := rfl

/-- A warning leaves the registry as it is. -/
@[simp] theorem report_registry (context : Context) (warning : Warning) (message : String) :
    (context.report warning message).registry = context.registry := rfl

/-- A warning leaves the edges of inheritance as they are. -/
@[simp] theorem report_inherits (context : Context) (warning : Warning) (message : String) :
    (context.report warning message).inherits = context.inherits := rfl

/-- The note of a definition leaves the registry as it is. -/
@[simp] theorem noteDefinition_registry (context : Context) (category : Category)
    (name source : String) :
    (context.noteDefinition category name source).registry = context.registry := rfl

/-- The note of a definition leaves the edges of inheritance as they are. -/
@[simp] theorem noteDefinition_inherits (context : Context) (category : Category)
    (name source : String) :
    (context.noteDefinition category name source).inherits = context.inherits := rfl

end Context

/-! ## Definitions -/

/-- A name without top scope marker stays as it is. -/
theorem normalizeName_eq_self {name : String} (h : ¬ "::".toList <+: name.toList) :
    normalizeName name = name := by
  unfold normalizeName
  split
  · next rest hname => exact absurd ⟨rest, hname.symm⟩ h
  · rfl

/-- Adds a symbol that has no owner yet. -/
def Registry.addNew (registry : Registry) (category : Category) (name owner : String) : Registry :=
  if registry.find? category name = none then registry.add category name owner else registry

/-- The first owner of a symbol stays: a new one counts only for a symbol without owner. -/
theorem Registry.find?_addNew (registry : Registry) (category other : Category)
    (name target owner : String) :
    (registry.addNew category name owner).find? other target =
      (registry.find? other target).or
        (if category = other ∧ name = target then some owner else none) := by
  unfold addNew
  split
  · exact Registry.find?_add ..
  · next howned =>
      by_cases hsame : category = other ∧ name = target
      · obtain ⟨rfl, rfl⟩ := hsame
        obtain ⟨first, hfirst⟩ := Option.ne_none_iff_exists'.1 howned
        simp [hfirst]
      · simp [hsame]

namespace Context

/-- A definition adds its symbol unless the symbol has an owner. -/
theorem define_registry (context : Context) (category : Category) (name source : String)
    (allowRepeated : Bool) :
    (context.define category name source allowRepeated).2.registry =
      context.registry.addNew category (normalizeName name) source := by
  unfold define Registry.addNew
  cases hfind : context.registry.find? category (normalizeName name) with
  | none => simp [hfind]
  | some owner => cases allowRepeated <;> simp [hfind]

/-- A definition meets no unknown kind. -/
@[simp] theorem define_unhandledKinds (context : Context) (category : Category)
    (name source : String) (allowRepeated : Bool) :
    (context.define category name source allowRepeated).2.unhandledKinds =
      context.unhandledKinds := by
  unfold define
  dsimp only
  split
  · rfl
  · split <;> rfl

/-- A definition changes no inheritance. -/
@[simp] theorem define_inherits (context : Context) (category : Category) (name source : String)
    (allowRepeated : Bool) :
    (context.define category name source allowRepeated).2.inherits = context.inherits := by
  unfold define
  cases hfind : context.registry.find? category (normalizeName name) with
  | none => simp [hfind]
  | some owner => cases allowRepeated <;> simp [hfind]

end Context

namespace Registry

/-- No symbol is listed twice. -/
def Distinct (registry : Registry) : Prop :=
  registry.entries.Pairwise fun a b => ¬(a.category = b.category ∧ a.name = b.name)

/-- A symbol that is listed has an owner. -/
theorem find?_eq_none {registry : Registry} {category : Category} {name : String} :
    registry.find? category name = none ↔
      ∀ entry ∈ registry.entries, ¬(entry.category = category ∧ entry.name = name) := by
  simp [find?]

/-- In a registry without repetitions, every entry gives the owner of its symbol. -/
theorem Distinct.find?_eq_some {registry : Registry} (h : registry.Distinct) {category : Category}
    {name owner : String} :
    registry.find? category name = some owner ↔ ⟨category, name, owner⟩ ∈ registry.entries := by
  obtain ⟨entries⟩ := registry
  simp only [Distinct, find?] at *
  induction entries with
  | nil => simp
  | cons entry rest ih =>
      obtain ⟨hentry, hrest⟩ := List.pairwise_cons.1 h
      by_cases hsame : entry.category = category ∧ entry.name = name
      · obtain ⟨rfl, rfl⟩ := hsame
        have hnot : ⟨entry.category, entry.name, owner⟩ ∉ rest := fun hmem =>
          hentry _ hmem ⟨rfl, rfl⟩
        obtain ⟨category, name, first⟩ := entry
        simp only [List.mem_cons, hnot, or_false]
        simp [eq_comm]
      · have hne : (⟨category, name, owner⟩ : Definition) ≠ entry := by
          intro heq
          subst heq
          exact hsame ⟨rfl, rfl⟩
        rw [List.find?_cons_of_neg (by simpa using hsame), ih hrest]
        simp [hne]

/-- Adding a symbol that has no owner repeats none. -/
theorem Distinct.add {registry : Registry} (h : registry.Distinct) {category : Category}
    {name : String} (hnew : registry.find? category name = none) (owner : String) :
    (registry.add category name owner).Distinct := by
  rw [find?_eq_none] at hnew
  refine List.pairwise_append.2 ⟨h, List.pairwise_singleton _ _, ?_⟩
  intro entry hentry added hadded
  rw [List.mem_singleton.1 hadded]
  exact hnew entry hentry

/-- The variables of a registry are those of its entries that have the category. -/
theorem mem_ofCategory {registry : Registry} {category : Category} {name owner : String} :
    (name, owner) ∈ registry.ofCategory category ↔
      ⟨category, name, owner⟩ ∈ registry.entries := by
  simp only [ofCategory, List.mem_map, List.mem_filter, decide_eq_true_eq, Prod.mk.injEq]
  constructor
  · intro hgiven
    obtain ⟨⟨_, _, _⟩, ⟨hmem, rfl⟩, rfl, rfl⟩ := hgiven
    exact hmem
  · intro hmem
    exact ⟨_, ⟨hmem, rfl⟩, rfl, rfl⟩

/-- Adding a symbol unless it has an owner repeats none. -/
theorem Distinct.addNew {registry : Registry} (h : registry.Distinct) (category : Category)
    (name owner : String) : (registry.addNew category name owner).Distinct := by
  unfold Registry.addNew
  split
  · next hnew => exact h.add hnew owner
  · exact h

end Registry

end ModuleGraph
