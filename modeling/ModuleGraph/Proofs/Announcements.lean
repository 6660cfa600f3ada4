import ModuleGraph.Proofs.Accounting
import ModuleGraph.Proofs.BreadthFirst

/-!
# What resolving announces

The warnings about a module are announced when it is resolved: first a message for each reference
that nothing defines, then one if an ordinary module depends on control modules. A module can be
requested several times and be reached on many ways, and a control module can be requested and be a
dependency as well. `resolve_announces_once` says that every required module is announced once all
the same, in breadth-first order, and that resolving it again is silent.

Read `Announcing` first. It is what an exploration preserves (`Announcing.step`): the diagnostics
have heard what there is to say about the modules resolved so far, repetitions left out.
-/

namespace ModuleGraph

/-! ## What there is to say about a module -/

/-- An ordinary module depends on control modules. -/
def Module.DependsOnControl (module : Module) (control dependencies : List String) : Prop :=
  module.name ∉ control ∧ module.controlRepo = false ∧ ∃ name ∈ control, name ∈ dependencies

instance (module : Module) (control dependencies : List String) :
    Decidable (module.DependsOnControl control dependencies) :=
  inferInstanceAs (Decidable (_ ∧ _ ∧ ∃ name ∈ control, name ∈ dependencies))

/-- The message about a module that depends on control modules. It names them in the order of the
list of control modules. -/
def Module.controlMessage (module : Module) (control dependencies : List String) : String :=
  "Module " ++ module.name ++ " depends on control repo module " ++
    String.intercalate ", "
      ((control.filter fun name => name ∈ dependencies).map fun name => "'" ++ name ++ "'")

/-- What is said about control modules is one report, if anything. -/
theorem Module.controlSayings_eq (module : Module) (control dependencies : List String) :
    module.controlSayings control dependencies =
      if module.DependsOnControl control dependencies then
        [.report (.controlDependency module.name) (module.controlMessage control dependencies)]
      else [] := by
  unfold controlSayings controlMessage
  by_cases hexempt : module.name ∈ control ∨ module.controlRepo
  · have hsilent : ¬ module.DependsOnControl control dependencies := by
      rintro ⟨hname, hrepo, -⟩
      exact hexempt.elim hname fun h => Bool.false_ne_true (hrepo.symm.trans h)
    rw [if_pos hexempt, if_neg hsilent]
  · rw [if_neg hexempt]
    rw [not_or, Bool.not_eq_true] at hexempt
    cases hoffending : control.filter fun name => name ∈ dependencies with
    | nil =>
        have hsilent : ¬ module.DependsOnControl control dependencies := by
          rintro ⟨-, -, name, hname, hdependency⟩
          exact List.filter_eq_nil_iff.1 hoffending name hname (decide_eq_true hdependency)
        rw [if_neg hsilent]
    | cons first rest =>
        have hfirst : first ∈ control.filter fun name => name ∈ dependencies := by
          rw [hoffending]
          exact List.mem_cons_self
        obtain ⟨hcontrol, hdependency⟩ := List.mem_filter.1 hfirst
        rw [if_pos ⟨hexempt.1, hexempt.2, first, hcontrol, of_decide_eq_true hdependency⟩]

namespace Registry

/-- The warnings that are evaluated while a module is resolved: one for each file with a reference
that nothing defines, and then at most one about control modules. -/
def evaluated (registry : Registry) (control : List String) (name : String) (module : Module) :
    List Warning :=
  (module.dependencies.items.flatMap fun entry =>
    if registry.lookup entry.category entry.name = none then
      entry.sources.map (.missingDefinition entry.category entry.name)
    else []) ++
  if module.DependsOnControl control (registry.directDependencies name module) then
    [.controlDependency module.name]
  else []

/-- The messages that surface while a module is resolved: those about references that nothing
defines, in the order of the references, and then at most one about control modules. -/
def announced (registry : Registry) (known : List Warning) (control : List String) (name : String)
    (module : Module) : List String :=
  module.dependencies.items.flatMap (registry.missingMessages known) ++
  if module.DependsOnControl control (registry.directDependencies name module) ∧
      .controlDependency module.name ∉ known then
    [module.controlMessage control (registry.directDependencies name module)]
  else []

/-- What is said while a module is resolved. -/
def sayingsAbout (registry : Registry) (control : List String) (name : String) (module : Module) :
    List Saying :=
  registry.missingSayings module.dependencies.items ++
    module.controlSayings control (registry.directDependencies name module)

/-- What is said about a module evaluates these warnings. -/
theorem flatMap_warnings_sayingsAbout (registry : Registry) (control : List String)
    (name : String) (module : Module) :
    (registry.sayingsAbout control name module).flatMap Saying.warnings =
      registry.evaluated control name module := by
  unfold sayingsAbout evaluated
  rw [List.flatMap_append]
  congr 1
  · rw [missingSayings, List.flatMap_assoc]
    refine List.flatMap_congr fun entry _ => ?_
    split <;> simp [Saying.warnings]
  · rw [Module.controlSayings_eq]
    split <;> rfl

/-- What is said about a module surfaces as these messages. -/
theorem flatMap_messages_sayingsAbout (registry : Registry) (known : List Warning)
    (control : List String) (name : String) (module : Module) :
    (registry.sayingsAbout control name module).flatMap (Saying.messages known) =
      registry.announced known control name module := by
  unfold sayingsAbout announced
  rw [List.flatMap_append, flatMap_messages_missingSayings, Module.controlSayings_eq]
  congr 1
  by_cases hcontrol : module.DependsOnControl control (registry.directDependencies name module)
  · by_cases hknown : .controlDependency module.name ∈ known
    · simp [hcontrol, hknown, Saying.messages]
    · simp [hcontrol, hknown, Saying.messages]
  · simp [hcontrol]

end Registry

/-- What is told about the module that is known by a name, nothing if there is none. -/
def Module.tellNamed {α : Type} (modules : Table String Module) (tell : String → Module → List α)
    (name : String) : List α :=
  (modules.get? name).elim [] (tell name)

/-! ## Explorations announce once -/

namespace Resolver

variable {registry : Registry} {modules : Table String Module} {control : List String}
variable {recursive : Bool} {roots processed queue queued : List String}
variable {resolver resolver' : Resolver} {start : Diagnostics} {context context' : Context}

/-- What was said up to now: all there is to say about the processed modules, each once. -/
structure Announcing (registry : Registry) (modules : Table String Module) (control : List String)
    (start : Diagnostics) (processed : List String) (resolver : Resolver) (context : Context) :
    Prop where
  /-- The diagnostics have heard it in order. -/
  heard : start.Hears
    (processed.eraseDups.flatMap (Module.tellNamed modules (registry.sayingsAbout control)))
    context.diagnostics
  /-- The processed modules are kept, and no others. -/
  hasKey_iff : ∀ name, resolver.direct.hasKey name = true ↔ name ∈ processed

/-- At the beginning, nothing was said. -/
theorem announcing_start (registry : Registry) (modules : Table String Module)
    (control : List String) (context : Context) :
    Announcing registry modules control context.diagnostics [] { controlModules := control }
      context where
  heard := context.diagnostics.hears_nil
  hasKey_iff := fun name => iff_of_false (by simp [Table.hasKey, Table.get?]) List.not_mem_nil

/-- One step of an exploration: a module that is resolved for the first time is announced, and one
that was resolved before is not. -/
theorem Announcing.step {name : String} {module : Module} {dependencies : List String}
    (h : Announcing registry modules control start processed resolver context)
    (hregistry : context.registry = registry) (hcontrol : resolver.controlModules = control)
    (hmodule : modules.get? name = some module)
    (hresolve : resolver.resolveModule modules name context =
      (.ok dependencies, resolver', context')) :
    Announcing registry modules control start (processed ++ [name]) resolver' context' := by
  unfold resolveModule at hresolve
  cases hkept : resolver.direct.get? name with
  | some kept =>
      have hprocessed : name ∈ processed :=
        (h.hasKey_iff name).1 (Option.isSome_iff_exists.2 ⟨kept, hkept⟩)
      rw [hkept] at hresolve
      cases hresolve
      refine ⟨(eraseDups_concat_of_mem hprocessed).symm ▸ h.heard, fun other =>
        (h.hasKey_iff other).trans ?_⟩
      rw [List.mem_append, List.mem_singleton]
      exact ⟨Or.inl, fun hother => hother.elim id fun heq => heq ▸ hprocessed⟩
  | none =>
      rw [hkept, hmodule] at hresolve
      cases hresolve
      have hnew : name ∉ processed := fun hprocessed => by
        have hkey := (h.hasKey_iff name).2 hprocessed
        rw [Table.hasKey, hkept] at hkey
        cases hkey
      constructor
      · have hsaid := context.hears_resolveDirect control name module
        rw [hregistry] at hsaid
        rw [eraseDups_concat_of_not_mem hnew, List.flatMap_append, List.flatMap_singleton,
          Module.tellNamed, hmodule]
        exact h.heard.append (hcontrol ▸ hsaid)
      · intro other
        rw [Table.hasKey, Table.get?_put, List.mem_append, List.mem_singleton, ← h.hasKey_iff,
          Table.hasKey]
        split
        · next heq => simp [heq]
        · next hne => simp [Ne.symm hne]

/-- A whole exploration that goes through announces every module that was queued. -/
theorem explore_announces {steps : Nat}
    (hexploring : Exploring registry modules control recursive roots queue queued resolver context)
    (hordered : Ordered registry modules control recursive roots processed queue queued)
    (hannouncing : Announcing registry modules control start processed resolver context)
    (hsteps : queue.length + unqueued registry queued < steps)
    (hok : explore modules recursive steps queue queued resolver context =
      (.ok (), resolver', context')) :
    ∃ queued',
      Exploring registry modules control recursive roots [] queued' resolver' context' ∧
      Ordered registry modules control recursive roots queued' [] queued' ∧
      Announcing registry modules control start queued' resolver' context' := by
  -- A step takes one name from the queue; what it adds is taken from the names not queued.
  induction steps generalizing processed queue queued resolver context with
  | zero => exact absurd hsteps (Nat.not_lt_zero _)
  | succ steps ih =>
      cases queue with
      | nil =>
          cases hok
          obtain rfl : queued = processed := by rw [hordered.queued_eq, List.append_nil]
          exact ⟨queued, hexploring, hordered, hannouncing⟩
      | cons name queue =>
          obtain rfl := hexploring.registry_eq
          cases hmodule : modules.get? name with
          | none =>
              simp only [explore, resolveModule_of_get?_none hexploring.sound hmodule] at hok
              cases hok
          | some module =>
              obtain ⟨next, context'', hresolve, hcontrol, hregistry, hdirect⟩ :=
                resolveModule_of_get? hexploring.sound hmodule
              have hunqueued := unqueued_step context.registry control recursive queued hmodule
              rw [explore_cons hresolve (hcontrol.trans hexploring.control_eq)] at hok
              refine ih (hexploring.step hmodule hcontrol hregistry hdirect)
                (hordered.step hmodule)
                (hannouncing.step rfl hexploring.control_eq hmodule hresolve) ?_ hok
              simp only [List.length_append, List.length_cons] at hunqueued hsteps ⊢
              omega

/-- At the end of an exploration, the breadth-first order is what was queued. -/
theorem Ordered.eraseDups_eq
    (h : Ordered registry modules control recursive roots queued [] queued)
    (hend : Exploring registry modules control recursive roots [] queued resolver context) :
    queued.eraseDups = breadthFirst registry modules control recursive roots := by
  obtain ⟨rest, hrest⟩ := h.queued_first
  have hnodup : (breadthFirst registry modules control recursive roots).Nodup :=
    metWithin_nodup _ _ _
  cases rest with
  | nil => rw [← hrest, List.append_nil]
  | cons name rest =>
      -- A further name would be required, hence queued, and stand in the order twice.
      have hmem : name ∈ breadthFirst registry modules control recursive roots := by
        rw [← hrest]
        simp
      have hqueued := hend.queued_of_required (mem_breadthFirst.1 hmem)
      rw [← hrest] at hnodup
      have hapart := (List.nodup_append.1 hnodup).2.2 name (List.mem_eraseDups.2 hqueued) name
        List.mem_cons_self
      exact absurd rfl hapart

/-- A resolver that starts from nothing and succeeds has announced the modules of the order. -/
theorem announcing_of_resolve {request : Request} {resolution : Resolution}
    (h : resolve modules request { controlModules := control } context =
      (.ok resolution, resolver', context')) :
    ∃ queued,
      Exploring context.aliasInherited.2.registry modules control request.recursive
        (request.roots modules) [] queued resolver' context' ∧
      queued.eraseDups = breadthFirst context.aliasInherited.2.registry modules control
        request.recursive (request.roots modules) ∧
      Announcing context.aliasInherited.2.registry modules control context.diagnostics queued
        resolver' context' := by
  obtain ⟨started, hstarted⟩ : ∃ started,
      (context.log .info "Resolving dependencies").aliasInherited.2 = started := ⟨_, rfl⟩
  have hregistry : started.registry = context.aliasInherited.2.registry := by
    rw [← hstarted]
    exact context.aliasInherited_log_registry _ _
  have hquiet : context.diagnostics.Hears [] started.diagnostics := by
    rw [← hstarted]
    exact (context.diagnostics.hears_log .info "Resolving dependencies").append
      (context.log .info "Resolving dependencies").hears_aliasInherited
  rw [← hregistry]
  simp only [resolve, hstarted] at h
  split at h
  · cases h
  · next hexplore =>
      cases h
      have hsteps : (request.roots modules).length +
          unqueued started.registry (request.roots modules) < (request.roots modules).length +
            started.registry.size + ({ controlModules := control } : Resolver).edgeCount + 1 := by
        have := unqueued_le_size started.registry (request.roots modules)
        omega
      obtain ⟨queued, hend, hordered, hannounced⟩ := explore_announces
        (exploring_start started modules control request.recursive (request.roots modules))
        (ordered_start started.registry modules control request.recursive (request.roots modules))
        (announcing_start started.registry modules control started) hsteps hexplore
      exact ⟨queued, hend, hordered.eraseDups_eq hend,
        ⟨hquiet.append hannounced.heard, hannounced.hasKey_iff⟩⟩

end Resolver

/-- Every required module is announced once. A resolver that starts from nothing and succeeds
surfaces, for the required modules in breadth-first order, the messages about the references of the
module that nothing defines, in their order, and then at most one about control modules. The warning
about control modules is evaluated if the module is neither listed as a control module nor marked as
one and depends on one of the list directly. Nothing else is evaluated or surfaced. The order has
the required modules once each: the roots in their order, and then what each module adds, in
ascending order. Resolving one of them again, in any context, gives its dependencies and says
nothing. -/
theorem resolve_announces_once {modules : Table String Module} {request : Request}
    {control : List String} {context context' : Context} {resolution : Resolution}
    {resolver : Resolver}
    (h : Resolver.resolve modules request { controlModules := control } context =
      (.ok resolution, resolver, context')) :
    let registry := context.aliasInherited.2.registry
    let roots := request.roots modules
    let known := context.diagnostics.known
    let order := breadthFirst registry modules control request.recursive roots
    order.Nodup ∧
    (∀ name, name ∈ order ↔ Required registry modules control request.recursive roots name) ∧
    order = (roots ++
      order.flatMap (nextOf registry modules control request.recursive)).eraseDups ∧
    (∀ name ∈ order, ∃ module, modules.get? name = some module ∧
      Text.Ascending (registry.directDependencies name module) ∧
      ∀ table later, resolver.resolveModule table name later =
        (.ok (registry.directDependencies name module), resolver, later)) ∧
    context'.diagnostics.messages = context.diagnostics.messages ++
      order.flatMap (Module.tellNamed modules (registry.announced known control)) ∧
    context'.diagnostics.found =
      (order.flatMap (Module.tellNamed modules (registry.evaluated control))).foldl
        Diagnostics.insertNew context.diagnostics.found := by
  intro registry roots known order
  obtain ⟨queued, hend, hqueued, hannounced⟩ := Resolver.announcing_of_resolve h
  have hheard := hannounced.heard
  rw [hqueued] at hheard
  have habout {α : Type} (read : Saying → List α) (tell : String → Module → List α)
      (hread : ∀ name module,
        (registry.sayingsAbout control name module).flatMap read = tell name module) :
      (order.flatMap (Module.tellNamed modules (registry.sayingsAbout control))).flatMap read =
        order.flatMap (Module.tellNamed modules tell) := by
    rw [List.flatMap_assoc]
    refine List.flatMap_congr fun name _ => ?_
    unfold Module.tellNamed
    cases modules.get? name with
    | none => rfl
    | some module => exact hread name module
  refine ⟨metWithin_nodup _ _ _, fun _ => mem_breadthFirst, breadthFirst_eq .., ?_, ?_, ?_⟩
  · intro name hname
    have hkey := (hannounced.hasKey_iff name).2
      (List.mem_eraseDups.1 (hqueued.symm ▸ hname : name ∈ queued.eraseDups))
    obtain ⟨dependencies, hkept⟩ := Option.isSome_iff_exists.1 hkey
    obtain ⟨module, hmodule, rfl⟩ := hend.sound name dependencies hkept
    refine ⟨module, hmodule, Text.sortedSet_ascending _, fun table later => ?_⟩
    rw [Resolver.resolveModule, hkept]
  · rw [hheard.messages]
    exact congrArg (context.diagnostics.messages ++ ·)
      (habout _ _ fun name module =>
        registry.flatMap_messages_sayingsAbout known control name module)
  · rw [hheard.found]
    exact congrArg (List.foldl Diagnostics.insertNew context.diagnostics.found)
      (habout _ _ fun name module => registry.flatMap_warnings_sayingsAbout control name module)

/-- A module and a control module refer to each other. They are requested, the first one twice, and
the messages about the first one surface once. -/
theorem repeated_request_announced_once :
    let modules := modulesIncluding [("app", ["role", "lost"]), ("role", ["app"])]
    let context : Context := { registry := registryOfClasses ["app", "role"] }
    let request : Request := { names := ["app", "role", "app"], recursive := true }
    ∃ resolution resolver context',
      Resolver.resolve modules request { controlModules := ["role"] } context =
        (.ok resolution, resolver, context') ∧
      context'.diagnostics.messages =
        ["Failed to find class lost. Sources init.pp",
          "Module app depends on control repo module 'role'"] ∧
      ∀ later, resolver.resolveModule modules "role" later = (.ok ["app"], resolver, later) := by
  intro modules context request
  have hok : (Resolver.resolve modules request { controlModules := ["role"] } context).1 =
      .ok ⟨[("app", ["role"]), ("role", ["app"])], ["app", "role"]⟩ := by cbv
  obtain ⟨resolver, context', hresolve⟩ : ∃ resolver context',
      Resolver.resolve modules request { controlModules := ["role"] } context =
        (.ok ⟨[("app", ["role"]), ("role", ["app"])], ["app", "role"]⟩, resolver, context') :=
    ⟨_, _, Prod.ext hok rfl⟩
  obtain ⟨_, _, _, hagain, hmessages, _⟩ := resolve_announces_once hresolve
  let registry := registryOfClasses ["app", "role"]
  let app : Module :=
    { name := "app"
      path := ⟨"", ["app"]⟩
      dependencies := [⟨.hostClass, "role", ["init.pp"]⟩, ⟨.hostClass, "lost", ["init.pp"]⟩] }
  let role : Module :=
    { name := "role"
      path := ⟨"", ["role"]⟩
      dependencies := [⟨.hostClass, "app", ["init.pp"]⟩] }
  have hregistry : context.aliasInherited.2.registry = registry := by cbv
  have horder : breadthFirst registry modules ["role"] true (request.roots modules) =
      ["app", "role"] := by cbv
  have happ : registry.directDependencies "app" app = ["role"] := by cbv
  have hrole : registry.directDependencies "role" role = ["app"] := by cbv
  rw [hregistry, horder] at hagain hmessages
  refine ⟨_, resolver, context', hresolve, hmessages.trans ?_, fun later => ?_⟩
  · have hfirst : registry.announced [] ["role"] "app" app =
        ["Failed to find class lost. Sources init.pp",
          "Module app depends on control repo module 'role'"] := by
      rw [Registry.announced, happ]
      decide +kernel
    have hsecond : registry.announced [] ["role"] "role" role = [] := by
      rw [Registry.announced, hrole]
      decide +kernel
    exact congrArg₂ (fun first second => [] ++ (first ++ (second ++ []))) hfirst hsecond
  · obtain ⟨module, hmodule, _, hresolved⟩ := hagain "role" (by decide)
    cases hmodule
    exact hrole ▸ hresolved modules later

end ModuleGraph
