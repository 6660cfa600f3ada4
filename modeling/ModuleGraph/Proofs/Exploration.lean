import Mathlib.Data.Finset.Card
import Mathlib.Data.Finset.SDiff
import ModuleGraph.Proofs.DirectDependencies

/-!
# Which modules are resolved

Resolving works through a queue: it starts with the requested modules and, in recursive mode, adds
every dependency that is no control module and was not queued before. `Required` is the set of
modules that it has to resolve.

Read `Exploring` first: it is what every step of an exploration preserves (`Exploring.step`).
`explore_cases` follows from it by induction: an exploration ends with an empty queue, and then all
required modules are resolved, or at a required module that is not in the table. The bound on the
number of steps never ends one early, since every name that enters the queue later owns a symbol of
the registry.
-/

namespace ModuleGraph

/-- The modules that have to be resolved: the requested ones and, in recursive mode, their
dependencies other than control modules. -/
inductive Required (registry : Registry) (modules : Table String Module) (control : List String)
    (recursive : Bool) (roots : List String) : String → Prop
  | root {name : String} (h : name ∈ roots) :
      Required registry modules control recursive roots name
  | dependency {name owner : String} (hrecursive : recursive = true)
      (h : Required registry modules control recursive roots name)
      (hdepends : DependsOn registry modules name owner) (hcontrol : owner ∉ control) :
      Required registry modules control recursive roots owner

namespace Resolver

variable {registry : Registry} {modules : Table String Module} {control : List String}
variable {recursive : Bool} {roots queue queued : List String}
variable {resolver : Resolver} {context : Context}

/-- What a resolver keeps is right: the direct dependencies of modules of the table. -/
def Sound (registry : Registry) (modules : Table String Module) (resolver : Resolver) : Prop :=
  ∀ name dependencies, resolver.direct.get? name = some dependencies →
    ∃ module, modules.get? name = some module ∧
      dependencies = registry.directDependencies name module

/-- Resolving a module of the table keeps its direct dependencies and changes nothing else that is
kept. -/
theorem resolveModule_of_get? {name : String} {module : Module}
    (hsound : resolver.Sound context.registry modules)
    (hmodule : modules.get? name = some module) :
    ∃ resolver' context',
      resolver.resolveModule modules name context =
        (.ok (context.registry.directDependencies name module), resolver', context') ∧
      resolver'.controlModules = resolver.controlModules ∧
      context'.registry = context.registry ∧
      ∀ other, resolver'.direct.get? other =
        if name = other then some (context.registry.directDependencies name module)
        else resolver.direct.get? other := by
  unfold resolveModule
  cases hkept : resolver.direct.get? name with
  | some dependencies =>
      obtain ⟨found, hfound, rfl⟩ := hsound name dependencies hkept
      obtain rfl : found = module := Option.some.inj (hfound.symm.trans hmodule)
      refine ⟨resolver, context, rfl, rfl, rfl, ?_⟩
      intro other
      split
      · next hother => rw [← hother, hkept]
      · rfl
  | none =>
      have hvalue := context.resolveDirect_fst resolver.controlModules name module
      have hregistry := context.resolveDirect_registry resolver.controlModules name module
      simp only [hmodule]
      rw [hvalue]
      exact ⟨_, _, rfl, rfl, hregistry, fun other => Table.get?_put ..⟩

/-- A module that is not in the table cannot be resolved. -/
theorem resolveModule_of_get?_none {name : String}
    (hsound : resolver.Sound context.registry modules) (hmodule : modules.get? name = none) :
    resolver.resolveModule modules name context =
      (.error (.unknownModule name), resolver, context) := by
  unfold resolveModule
  cases hkept : resolver.direct.get? name with
  | some dependencies =>
      obtain ⟨_, hfound, _⟩ := hsound name dependencies hkept
      rw [hmodule] at hfound
      cases hfound
  | none => simp only [hmodule]

/-- The state of an exploration from the given roots. -/
structure Exploring (registry : Registry) (modules : Table String Module) (control : List String)
    (recursive : Bool) (roots queue queued : List String) (resolver : Resolver)
    (context : Context) : Prop where
  /-- The registry stays as it was. -/
  registry_eq : context.registry = registry
  /-- The control modules stay as they were. -/
  control_eq : resolver.controlModules = control
  /-- What is kept is right. -/
  sound : resolver.Sound registry modules
  /-- The roots were queued. -/
  roots_queued : ∀ name ∈ roots, name ∈ queued
  /-- What waits in the queue was queued. -/
  queue_queued : ∀ name ∈ queue, name ∈ queued
  /-- What was queued and does not wait any more is resolved. -/
  resolved : ∀ name ∈ queued, name ∈ queue ∨ resolver.direct.hasKey name = true
  /-- The dependencies of what is resolved were queued. -/
  dependencies_queued : recursive = true → ∀ name owner, resolver.direct.hasKey name = true →
    DependsOn registry modules name owner → owner ∉ control → owner ∈ queued
  /-- Nothing is queued without need. -/
  queued_required : ∀ name ∈ queued, Required registry modules control recursive roots name

/-- An exploration begins with the roots in the queue and nothing resolved. -/
theorem exploring_start (context : Context) (modules : Table String Module)
    (control : List String) (recursive : Bool) (roots : List String) :
    Exploring context.registry modules control recursive roots roots roots
      { controlModules := control } context where
  registry_eq := rfl
  control_eq := rfl
  sound := fun _ _ h => by cases h
  roots_queued := fun _ h => h
  queue_queued := fun _ h => h
  resolved := fun _ h => Or.inl h
  dependencies_queued := fun _ _ _ h => by cases h
  queued_required := fun _ h => .root h

/-- The dependencies that one step adds to the queue. -/
def reachedFrom (recursive : Bool) (control queued dependencies : List String) : List String :=
  if recursive then dependencies.filter fun d => d ∉ queued ∧ d ∉ control else []

/-- A dependency that a step adds is new and no control module. -/
theorem mem_reachedFrom {dependencies : List String} {name : String} :
    name ∈ reachedFrom recursive control queued dependencies ↔
      recursive = true ∧ name ∈ dependencies ∧ name ∉ queued ∧ name ∉ control := by
  unfold reachedFrom
  cases recursive <;> simp

/-- One step of an exploration: the first module of the queue is resolved, and its new dependencies
enter the queue. -/
theorem Exploring.step {name : String} {module : Module} {resolver' : Resolver}
    {context' : Context}
    (h : Exploring registry modules control recursive roots (name :: queue) queued resolver context)
    (hmodule : modules.get? name = some module)
    (hcontrol : resolver'.controlModules = resolver.controlModules)
    (hregistry : context'.registry = context.registry)
    (hdirect : ∀ other, resolver'.direct.get? other =
      if name = other then some (registry.directDependencies name module)
      else resolver.direct.get? other) :
    Exploring registry modules control recursive roots
      (queue ++ reachedFrom recursive control queued (registry.directDependencies name module))
      (queued ++ reachedFrom recursive control queued (registry.directDependencies name module))
      resolver' context' := by
  have hkey (other : String) : resolver'.direct.hasKey other = true ↔
      name = other ∨ resolver.direct.hasKey other = true := by
    simp only [Table.hasKey, hdirect]
    split <;> simp [*]
  refine ⟨hregistry.trans h.registry_eq, hcontrol.trans h.control_eq, ?_, ?_, ?_, ?_, ?_, ?_⟩
  · intro other dependencies hother
    rw [hdirect] at hother
    split at hother
    · next heq =>
        cases hother
        exact ⟨module, heq ▸ hmodule, by rw [heq]⟩
    · exact h.sound other dependencies hother
  · intro root hroot
    exact List.mem_append_left _ (h.roots_queued root hroot)
  · intro other hother
    rcases List.mem_append.1 hother with hold | hnew
    · exact List.mem_append_left _ (h.queue_queued other (List.mem_cons_of_mem _ hold))
    · exact List.mem_append_right _ hnew
  · intro other hother
    rw [hkey]
    -- The first module of the queue leaves it and is resolved now.
    rcases List.mem_append.1 hother with hold | hnew
    · rcases h.resolved other hold with hwaits | hdone
      · rcases List.mem_cons.1 hwaits with rfl | hwaits
        · exact Or.inr (Or.inl rfl)
        · exact Or.inl (List.mem_append_left _ hwaits)
      · exact Or.inr (Or.inr hdone)
    · exact Or.inl (List.mem_append_right _ hnew)
  · intro hrecursive other owner hother hdepends howner
    rcases (hkey other).1 hother with rfl | hdone
    -- A dependency of this module was queued before, or else it is among those that enter.
    · by_cases hqueued : owner ∈ queued
      · exact List.mem_append_left _ hqueued
      · refine List.mem_append_right _ (mem_reachedFrom.2 ⟨hrecursive, ?_, hqueued, howner⟩)
        exact (Registry.mem_directDependencies hmodule).2 hdepends
    · exact List.mem_append_left _
        (h.dependencies_queued hrecursive other owner hdone hdepends howner)
  · intro other hother
    rcases List.mem_append.1 hother with hold | hnew
    · exact h.queued_required other hold
    · obtain ⟨hrecursive, hmem, _, howner⟩ := mem_reachedFrom.1 hnew
      have hname := h.queued_required name (h.queue_queued name List.mem_cons_self)
      exact .dependency hrecursive hname ((Registry.mem_directDependencies hmodule).1 hmem) howner

/-- The number of owners of symbols that were not queued. -/
def unqueued (registry : Registry) (queued : List String) : Nat :=
  ((registry.entries.map Definition.owner).toFinset \ queued.toFinset).card

/-- There are no more owners than symbols. -/
theorem unqueued_le_size (registry : Registry) (queued : List String) :
    unqueued registry queued ≤ registry.size := by
  have hcard := (Finset.card_le_card (Finset.sdiff_subset (s := _) (t := queued.toFinset))).trans
    (List.toFinset_card_le (registry.entries.map Definition.owner))
  rwa [List.length_map] at hcard

/-- What a step adds to the queue was not queued before. -/
theorem unqueued_step (registry : Registry) (control : List String) (recursive : Bool)
    (queued : List String) {name : String} {module : Module}
    (hmodule : modules.get? name = some module) :
    let reached := reachedFrom recursive control queued (registry.directDependencies name module)
    unqueued registry (queued ++ reached) + reached.length = unqueued registry queued := by
  intro reached
  -- What is reached is taken out of the owners that were not queued, each of them once.
  have hnodup : reached.Nodup := by
    have hall := (Text.sortedSet_ascending ((registry.ownersOf module.dependencies.items).filter
      fun owner => owner ≠ builtinOwner ∧ owner ≠ name)).nodup
    simp only [reached, reachedFrom, Registry.directDependencies]
    split
    · exact hall.filter _
    · exact List.nodup_nil
  have hsubset : reached.toFinset ⊆
      (registry.entries.map Definition.owner).toFinset \ queued.toFinset := by
    intro owner howner
    obtain ⟨_, hmem, hqueued, _⟩ := mem_reachedFrom.1 (List.mem_toFinset.1 howner)
    have hdepends := (Registry.mem_directDependencies hmodule).1 hmem
    simp only [Finset.mem_sdiff, List.mem_toFinset]
    exact ⟨hdepends.mem_owners, hqueued⟩
  have hcard := Finset.card_sdiff_add_card_eq_card hsubset
  rw [List.toFinset_card_of_nodup hnodup] at hcard
  unfold unqueued
  rw [List.toFinset_append, ← hcard, sdiff_sdiff_left]
  rfl

/-- Exploring goes on with the queue that a resolved module leaves. -/
theorem explore_cons {steps : Nat} {name : String} {dependencies : List String}
    {resolver' : Resolver} {context' : Context}
    (hresolve : resolver.resolveModule modules name context =
      (.ok dependencies, resolver', context'))
    (hcontrol : resolver'.controlModules = control) :
    explore modules recursive (steps + 1) (name :: queue) queued resolver context =
      explore modules recursive steps
        (queue ++ reachedFrom recursive control queued dependencies)
        (queued ++ reachedFrom recursive control queued dependencies) resolver' context' := by
  simp only [explore, hresolve, reachedFrom, hcontrol]

/-- A whole exploration: it ends with an empty queue, or at a required module that is not in the
table. -/
theorem explore_cases {steps : Nat}
    (h : Exploring registry modules control recursive roots queue queued resolver context)
    (hsteps : queue.length + unqueued registry queued < steps) :
    (∃ queued' resolver' context',
      explore modules recursive steps queue queued resolver context =
        (.ok (), resolver', context') ∧
      Exploring registry modules control recursive roots [] queued' resolver' context') ∨
    ∃ name resolver' context',
      explore modules recursive steps queue queued resolver context =
        (.error (.unknownModule name), resolver', context') ∧
      Required registry modules control recursive roots name ∧ modules.get? name = none := by
  -- A step takes one name from the queue; what it adds is taken from the names not queued.
  induction steps generalizing queue queued resolver context with
  | zero => exact absurd hsteps (Nat.not_lt_zero _)
  | succ steps ih =>
      cases queue with
      | nil => exact Or.inl ⟨queued, resolver, context, rfl, h⟩
      | cons name queue =>
          obtain rfl := h.registry_eq
          cases hmodule : modules.get? name with
          | none =>
              refine Or.inr ⟨name, resolver, context, ?_, ?_, hmodule⟩
              · simp only [explore, resolveModule_of_get?_none h.sound hmodule]
              · exact h.queued_required name (h.queue_queued name List.mem_cons_self)
          | some module =>
              obtain ⟨resolver', context', hresolve, hcontrol, hregistry, hdirect⟩ :=
                resolveModule_of_get? h.sound hmodule
              have hnext := h.step hmodule hcontrol hregistry hdirect
              have hunqueued := unqueued_step context.registry control recursive queued hmodule
              rw [explore_cons hresolve (hcontrol.trans h.control_eq)]
              refine ih hnext ?_
              simp only [List.length_append, List.length_cons] at hunqueued hsteps ⊢
              omega

end Resolver

end ModuleGraph
