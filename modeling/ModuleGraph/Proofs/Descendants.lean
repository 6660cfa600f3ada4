import ModuleGraph.Proofs.InheritedNames
import ModuleGraph.Proofs.LetterCase
import ModuleGraph.Proofs.Meetings

/-!
# Variables that reach descendants

A pass over inherited variables names those that the parent classes had when it began, so what it
names is inherited further by the next pass only. `Registry.InheritedIn` counts the edges of the
inheritance that lie between a class and the variable it inherits.

By `inherited_names_need_a_pass_per_edge`, a number of passes makes exactly those names known that
are inherited along at most as many edges. Each resolving is one pass, so a reference to a variable
of a distant ancestor is recorded as missing until classes were resolved as often as there are
edges.
-/

namespace ModuleGraph

/-! ## Names along several edges -/

/-- A variable is known under the name along a number of edges, from the variables that have an
owner. -/
inductive Registry.InheritedIn (registry : Registry) (edges : Table String String) :
    Nat → String → Prop
  /-- The variable has an owner. -/
  | own {name : String} (h : registry.find? .classVariable name ≠ none) :
      InheritedIn registry edges 0 name
  /-- A class inherits what is known in its parent. -/
  | next {steps : Nat} {child parent short : String} (hedge : (child, parent) ∈ edges)
      (h : InheritedIn registry edges steps (parent ++ "::" ++ short)) :
      InheritedIn registry edges (steps + 1) (normalizeName (child ++ "::" ++ short))

/-- A class inherits from another one along a number of edges, and no parent on the way is written
with a top scope marker. -/
inductive Table.Descends (edges : Table String String) : Nat → String → String → Prop
  /-- A class and itself. -/
  | self (name : String) : Descends edges 0 name name
  /-- A class inherits from what its parent inherits from. -/
  | through {steps : Nat} {child parent top : String} (hedge : (child, parent) ∈ edges)
      (hplain : ¬ HasMarker (parent ++ "::")) (h : Descends edges steps parent top) :
      Descends edges (steps + 1) child top

/-- A name below a class that is written without top scope marker has none. -/
theorem normalizeName_below {parent : String} (h : ¬ HasMarker (parent ++ "::")) (short : String) :
    normalizeName (parent ++ "::" ++ short) = parent ++ "::" ++ short := by
  refine normalizeName_eq_self fun hmarker => h ?_
  rw [String.toList_append] at hmarker
  exact List.prefix_of_prefix_length_le hmarker (List.prefix_append _ _) (by simp)

namespace Table.Descends

variable {registry : Registry} {edges : Table String String}

/-- A variable of an ancestor is known in the class along the edges between them. -/
theorem inheritedIn {steps : Nat} {child top short : String} (h : edges.Descends steps child top)
    (howned : registry.owner? .classVariable (top ++ "::" ++ short) ≠ none) :
    registry.InheritedIn edges steps (normalizeName (child ++ "::" ++ short)) := by
  induction h with
  | self name => exact .own howned
  | through hedge hplain _ ih =>
      have hparent := ih howned
      rw [normalizeName_below hplain] at hparent
      exact .next hedge hparent

end Table.Descends

/-! ## One pass -/

namespace Context

/-- After a pass, a variable is known if it was before or if some edge gives it. -/
theorem find?_aliasInherited_ne_none_iff {context : Context} {name : String} :
    context.aliasInherited.2.registry.find? .classVariable name ≠ none ↔
      context.registry.find? .classVariable name ≠ none ∨
        ∃ edge ∈ context.inherits, ∃ owner, context.registry.InheritsAs edge name owner := by
  rw [find?_aliasInherited, if_pos rfl, ne_eq, Option.or_eq_none_iff, not_and_or,
    ← Registry.exists_firstInheritsAs_iff, ← ne_eq, ← ne_eq, Option.ne_none_iff_exists']
  simp only [Option.ne_none_iff_exists', get?_aliasesOf_iff_firstInheritsAs]

variable {context : Context} {steps : Nat} {name : String}

/-- What is known along some edges after a pass was known along one more edge at most. -/
theorem inheritedIn_of_aliasInherited
    (h : context.aliasInherited.2.registry.InheritedIn context.inherits steps name) :
    ∃ before ≤ steps + 1, context.registry.InheritedIn context.inherits before name := by
  induction h with
  | own hknown =>
      rcases find?_aliasInherited_ne_none_iff.1 hknown with hown | hinherited
      · exact ⟨0, Nat.zero_le _, .own hown⟩
      · obtain ⟨edge, hedge, owner, short, howner, rfl⟩ := hinherited
        have hparent := Option.ne_none_iff_exists'.2 ⟨owner, howner⟩
        exact ⟨1, Nat.le_refl _, .next hedge (.own hparent)⟩
  | next hedge _ ih =>
      obtain ⟨before, hbound, hparent⟩ := ih
      exact ⟨before + 1, Nat.succ_le_succ hbound, .next hedge hparent⟩

/-- What has an owner has one after a pass. -/
theorem inheritedIn_zero_aliasInherited (h : context.registry.InheritedIn context.inherits 0 name) :
    context.aliasInherited.2.registry.InheritedIn context.inherits 0 name := by
  cases h with
  | own hknown => exact .own (find?_aliasInherited_ne_none_iff.2 (.inl hknown))

/-- What was known along some edges is known along one edge less after a pass. -/
theorem inheritedIn_aliasInherited
    (h : context.registry.InheritedIn context.inherits (steps + 1) name) :
    context.aliasInherited.2.registry.InheritedIn context.inherits steps name := by
  induction steps generalizing name with
  | zero =>
      cases h with
      | next hedge hparent =>
          cases hparent with
          | own hknown =>
              obtain ⟨owner, howner⟩ := Option.ne_none_iff_exists'.1 hknown
              refine .own (find?_aliasInherited_ne_none_iff.2 (.inr ?_))
              exact ⟨_, hedge, owner, _, howner, rfl⟩
  | succ steps ih =>
      cases h with
      | next hedge hparent => exact .next hedge (ih hparent)

/-! ## Resolving only hears -/

/-- Nothing but the diagnostics changes. -/
def OnlyHears (before after : Context) : Prop :=
  ∃ diagnostics, after = before.hearing diagnostics

/-- Nothing changes. -/
theorem OnlyHears.refl (context : Context) : context.OnlyHears context :=
  ⟨context.diagnostics, rfl⟩

/-- Nothing but the diagnostics changes, twice. -/
theorem OnlyHears.trans {before between after : Context} (hfirst : before.OnlyHears between)
    (hsecond : between.OnlyHears after) : before.OnlyHears after := by
  obtain ⟨_, rfl⟩ := hfirst
  obtain ⟨_, rfl⟩ := hsecond
  exact ⟨_, rfl⟩

/-- A reference is looked up. -/
theorem onlyHears_lookup (context : Context) (category : Category) (name : String) :
    context.OnlyHears (context.lookup category name).2 := by
  unfold lookup
  split
  · exact ⟨_, rfl⟩
  · exact .refl context
  · exact .refl context

/-- A reference is resolved. -/
theorem onlyHears_resolveEntry (context : Context) (entry : Dependency) :
    context.OnlyHears (context.resolveEntry entry).2 := by
  have hlookup := context.onlyHears_lookup entry.category entry.name
  unfold resolveEntry
  split
  · next heq =>
      rw [heq] at hlookup
      exact hlookup.trans ⟨_, rfl⟩
  · next heq =>
      rw [heq] at hlookup
      dsimp only
      split
      · exact hlookup.trans ⟨_, rfl⟩
      · exact hlookup.trans ⟨_, rfl⟩

/-- References are resolved. -/
theorem onlyHears_resolveEntries (entries : List Dependency) (context : Context) :
    context.OnlyHears (resolveEntries entries context).2 := by
  induction entries generalizing context with
  | nil => exact .refl context
  | cons entry rest ih => exact (context.onlyHears_resolveEntry entry).trans (ih _)

/-- A module is resolved. -/
theorem onlyHears_resolveDirect (context : Context) (control : List String) (name : String)
    (module : Module) : context.OnlyHears (context.resolveDirect control name module).2 := by
  have hcheck (context : Context) (dependencies : List String) :
      context.OnlyHears (context.checkControl control module dependencies) := by
    unfold checkControl
    split
    · exact .refl context
    · split
      · exact .refl context
      · exact ⟨_, rfl⟩
  unfold resolveDirect
  exact ((OnlyHears.trans ⟨_, rfl⟩ (onlyHears_resolveEntries _ _)).trans (hcheck _ _)).trans
    ⟨_, rfl⟩

end Context

namespace Resolver

/-- Modules are explored, also where that fails. -/
theorem onlyHears_explore (modules : Table String Module) (recursive : Bool) (steps : Nat)
    (queue queued : List String) (resolver : Resolver) (context : Context) :
    context.OnlyHears (explore modules recursive steps queue queued resolver context).2.2 := by
  have hmodule (resolver : Resolver) (name : String) (context : Context) :
      context.OnlyHears (resolver.resolveModule modules name context).2.2 := by
    unfold resolveModule
    split
    · exact .refl context
    · split
      · exact .refl context
      · exact context.onlyHears_resolveDirect _ _ _
  induction steps generalizing queue queued resolver context with
  | zero => exact .refl context
  | succ steps ih =>
      cases queue with
      | nil => exact .refl context
      | cons name queue =>
          have hfirst := hmodule resolver name context
          unfold explore
          split
          · next hresolve =>
              rw [hresolve] at hfirst
              exact hfirst
          · next hresolve =>
              rw [hresolve] at hfirst
              exact hfirst.trans (ih _ _ _ _)

end Resolver

/-! ## Passes -/

/-- The operation goes through the inherited variables once: it names them, and it may resolve
modules after that, with the kept resolver or with a new one. -/
def Operation.IsPass : Operation → Prop
  | .aliasInherited | .resolve .. | .resolveKept .. => True
  | _ => False

/-- What one pass leaves, whether or not modules could be resolved after it. -/
structure PassedOver (before after : RunState) : Prop where
  /-- The inherited variables have their names. -/
  registry : after.context.registry = before.context.aliasInherited.2.registry
  /-- The same classes inherit. -/
  inherits : after.context.inherits = before.context.inherits
  /-- The modules stay. -/
  modules : after.modules = before.modules

/-- Resolving names the inherited variables, and then only the diagnostics change. -/
theorem Resolver.onlyHears_resolve (modules : Table String Module) (request : Request)
    (resolver : Resolver) (context : Context) :
    (context.log .info "Resolving dependencies").aliasInherited.2.OnlyHears
      (resolver.resolve modules request context).2.2 := by
  rw [resolve_eq_finish]
  exact onlyHears_explore modules request.recursive _ _ _ _ _

/-- A pass changes no inheritance. -/
theorem Context.aliasInherited_inherits (context : Context) :
    context.aliasInherited.2.inherits = context.inherits :=
  aliasInherited_keeps (fun c _ _ => c.define_inherits _ _ _ _) context

/-- A pass leaves what it is expected to. -/
theorem Operation.IsPass.passedOver {operation : Operation} (h : operation.IsPass)
    (state : RunState) : PassedOver state (operation.apply state).2 := by
  have hresolved (resolver : Resolver) (request : Request) :
      let after := (resolver.resolve state.modules request state.context).2.2
      after.registry = state.context.aliasInherited.2.registry ∧
        after.inherits = state.context.inherits := by
    obtain ⟨diagnostics, heard⟩ := resolver.onlyHears_resolve state.modules request state.context
    dsimp only
    rw [heard]
    exact ⟨state.context.aliasInherited_log_registry _ _, Context.aliasInherited_inherits _⟩
  cases operation with
  | aliasInherited => exact ⟨rfl, state.context.aliasInherited_inherits, rfl⟩
  | resolve control request =>
      obtain ⟨hregistry, hinherits⟩ := hresolved { controlModules := control } request
      exact ⟨hregistry, hinherits, rfl⟩
  | resolveKept request =>
      obtain ⟨hregistry, hinherits⟩ := hresolved state.resolver request
      exact ⟨hregistry, hinherits, rfl⟩
  | define | addBuiltins | addModule | onModule | restore | report | evaluate | warn => cases h

/-- Operations after others begin where those end. -/
theorem runAll_append_snd (operations more : List Operation) (state : RunState) :
    (runAll (operations ++ more) state).2 = (runAll more (runAll operations state).2).2 := by
  induction operations generalizing state with
  | nil => rfl
  | cons operation rest ih => exact ih _

/-- What passes leave, one after another: the names that are inherited along at most as many edges,
and the same inheritance and modules. -/
theorem passedOver_runAll {operations : List Operation}
    (hpasses : ∀ operation ∈ operations, operation.IsPass) (state : RunState) :
    let after := (runAll operations state).2
    (∀ name, after.context.registry.find? .classVariable name ≠ none ↔
      ∃ steps ≤ operations.length,
        state.context.registry.InheritedIn state.context.inherits steps name) ∧
    after.context.inherits = state.context.inherits ∧ after.modules = state.modules := by
  induction operations generalizing state with
  | nil =>
      refine ⟨fun name => ⟨fun hknown => ⟨0, Nat.le_refl _, .own hknown⟩, ?_⟩, rfl, rfl⟩
      intro hgiven
      obtain ⟨steps, hbound, hname⟩ := hgiven
      obtain rfl : steps = 0 := Nat.le_zero.1 hbound
      cases hname with
      | own hknown => exact hknown
  | cons operation rest ih =>
      obtain ⟨hoperation, hrest⟩ := List.forall_mem_cons.1 hpasses
      have hpassed := hoperation.passedOver state
      obtain ⟨hknown, hinherits, hmodules⟩ := ih hrest (operation.apply state).2
      refine ⟨fun name => (hknown name).trans ?_, hinherits.trans hpassed.inherits,
        hmodules.trans hpassed.modules⟩
      rw [hpassed.registry, hpassed.inherits]
      constructor
      · intro hgiven
        obtain ⟨steps, hbound, hname⟩ := hgiven
        obtain ⟨before, hbefore, hown⟩ := Context.inheritedIn_of_aliasInherited hname
        exact ⟨before, hbefore.trans (Nat.succ_le_succ hbound), hown⟩
      · intro hgiven
        obtain ⟨steps, hbound, hname⟩ := hgiven
        cases steps with
        | zero => exact ⟨0, Nat.zero_le _, Context.inheritedIn_zero_aliasInherited hname⟩
        | succ steps =>
            exact ⟨steps, Nat.le_of_succ_le_succ hbound, Context.inheritedIn_aliasInherited hname⟩

/-- Every pass goes one edge further. After a number of passes, with or without resolving modules,
exactly the variables are known that are inherited along at most as many edges, so a class knows the
variables of an ancestor that is no further away. When a module is resolved next, its reference to a
variable is recorded as missing if the variable is still further away. -/
theorem inherited_names_need_a_pass_per_edge {operations : List Operation}
    (hpasses : ∀ operation ∈ operations, operation.IsPass) (state : RunState) :
    let registry := state.context.registry
    let edges := state.context.inherits
    let after := (runAll operations state).2
    (∀ name, after.context.registry.owner? .classVariable name ≠ none ↔
      ∃ steps ≤ operations.length, registry.InheritedIn edges steps (normalizeName name)) ∧
    (∀ steps child top short, edges.Descends steps child top → steps ≤ operations.length →
      registry.owner? .classVariable (top ++ "::" ++ short) ≠ none →
      after.context.registry.owner? .classVariable (child ++ "::" ++ short) ≠ none) ∧
    ∀ control user module name file, state.modules.get? user = some module →
      (.missingDefinition .classVariable name file ∈
          ((Operation.resolve control { names := [user] }).apply
            after).2.context.diagnostics.found ↔
        .missingDefinition .classVariable name file ∈ after.context.diagnostics.found ∨
          module.dependencies.Mentions .classVariable name file ∧
            ¬ ∃ steps ≤ operations.length + 1,
              registry.InheritedIn edges steps (normalizeName name)) := by
  intro registry edges after
  obtain ⟨hknown, -, hmodules⟩ := passedOver_runAll hpasses state
  refine ⟨fun name => hknown (normalizeName name), ?_, ?_⟩
  · intro steps child top short hdescends hbound howned
    exact (hknown _).2 ⟨steps, hbound, hdescends.inheritedIn howned⟩
  · intro control user module name file hmodule
    -- The next resolving goes one edge further, as one more pass does.
    have hmore : ∀ operation ∈ operations ++ [.aliasInherited], operation.IsPass := by
      simpa [or_imp, forall_and] using ⟨hpasses, trivial⟩
    obtain ⟨hnext, -, -⟩ := passedOver_runAll hmore state
    rw [runAll_append_snd, List.length_append, List.length_singleton] at hnext
    have hlookup : after.context.aliasInherited.2.registry.lookup .classVariable name = none ↔
        ¬ ∃ steps ≤ operations.length + 1,
          registry.InheritedIn edges steps (normalizeName name) := by
      rw [← hnext, not_not, Registry.lookup_eq_none_iff]
      simp only [Registry.meanings, alternatives, List.mem_singleton, forall_eq]
      rfl
    rw [← hlookup]
    exact Resolver.missing_mem_found_iff ((congrArg (Table.get? · user) hmodules).trans hmodule)

/-- A variable of a class two edges away is missing when a module is resolved first, and known when
it is resolved again. -/
theorem distant_variable_known_second_time :
    let user : Module := {
      name := "user", path := ⟨"", ["user"]⟩
      dependencies := [⟨.classVariable, "app::port", ["init.pp"]⟩] }
    let state : RunState := {
      context := {
        registry := ⟨[⟨.classVariable, "core::port", "core"⟩]⟩
        inherits := [("app", "base"), ("base", "core")] }
      modules := [("user", user)] }
    let resolve := Operation.resolve [] { names := ["user"] }
    let first := (runAll [resolve] state).2
    let second := (runAll [resolve, resolve] state).2
    first.context.registry.owner? .classVariable "app::port" = none ∧
      .missingDefinition .classVariable "app::port" "init.pp" ∈ first.context.diagnostics.found ∧
      second.context.registry.owner? .classVariable "app::port" ≠ none := by
  intro user state resolve first second
  have hpasses : ∀ operation ∈ [resolve, resolve], operation.IsPass := by
    simp [resolve, Operation.IsPass]
  obtain ⟨-, hdescendants, -⟩ := inherited_names_need_a_pass_per_edge hpasses state
  have hbase : Table.Descends [("app", "base"), ("base", "core")] 1 "base" "core" :=
    .through (by simp) (by decide) (.self "core")
  have happ : Table.Descends [("app", "base"), ("base", "core")] 2 "app" "core" :=
    .through (by simp) (by decide) hbase
  refine ⟨by decide +kernel, by decide +kernel, ?_⟩
  exact hdescendants 2 "app" "core" "port" happ (Nat.le_refl 2) (by decide)

end ModuleGraph
