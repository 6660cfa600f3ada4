import ModuleGraph.Proofs.Agreement

/-!
# The order in which modules are resolved

Resolving works through the required modules in breadth-first order: the roots in their order, then
the dependencies of each module in ascending order, every name once. `breadthFirst` is this order.
It lists the required modules (`mem_breadthFirst`), and it is the solution of an equation of its own
(`breadthFirst_eq`).

`resolve_fails_at_first_missing` says when resolving fails: exactly if a required module is not in
the table, and then at the first such module in this order. An exploration keeps to the order
(`Ordered`): what was queued up to now is a first part of it.
-/

namespace ModuleGraph

/-! ## Lists without repetitions -/

section EraseDups

variable {α β : Type} [DecidableEq α] [DecidableEq β]

/-- The first part of a list gives the first part of its names without repetitions. -/
theorem eraseDups_prefix_eraseDups {list longer : List α} (h : list <+: longer) :
    list.eraseDups <+: longer.eraseDups := by
  obtain ⟨rest, rfl⟩ := h
  rw [List.eraseDups_append]
  exact List.prefix_append _ _

/-- Without repetitions, the first name with a property is the same. -/
theorem find?_eraseDups (property : α → Bool) :
    (list : List α) → list.eraseDups.find? property = list.find? property
  | [] => rfl
  | name :: rest => by
      rw [List.eraseDups_cons, List.find?_cons, List.find?_cons, find?_eraseDups property _,
        List.find?_filter]
      cases hname : property name with
      | true => rfl
      | false =>
          -- What is left out has not the property.
          refine congrArg (rest.find? ·) (funext fun other => ?_)
          by_cases hother : other = name
          · simp [hother, hname]
          · simp [hother]
termination_by list => list.length
decreasing_by exact Nat.lt_succ_of_le (List.length_filter_le ..)

/-- Behind lists that are the same without repetitions, a list adds the same names. -/
theorem eraseDups_append_congr {first second : List α} (h : first.eraseDups = second.eraseDups)
    (rest : List α) : (first ++ rest).eraseDups = (second ++ rest).eraseDups := by
  have hmem (name : α) : name ∈ first ↔ name ∈ second := by
    rw [← List.mem_eraseDups, h, List.mem_eraseDups]
  have hrest : rest.removeAll first = rest.removeAll second := by
    refine List.filter_congr fun name _ => ?_
    simp [hmem]
  rw [List.eraseDups_append, List.eraseDups_append, h, hrest]

/-- Names that are in a list already can be left out behind it. -/
theorem eraseDups_append_filter (list rest : List α) :
    (list ++ rest.filter (· ∉ list)).eraseDups = (list ++ rest).eraseDups := by
  have hrest : (rest.filter (· ∉ list)).removeAll list = rest.removeAll list := by
    unfold List.removeAll
    rw [List.filter_filter]
    refine List.filter_congr fun name _ => ?_
    simp
  rw [List.eraseDups_append, List.eraseDups_append, hrest]

/-- Names that are all in a list already add nothing to it. -/
theorem eraseDups_append_of_subset {list rest : List α} (h : ∀ name ∈ rest, name ∈ list) :
    (list ++ rest).eraseDups = list.eraseDups := by
  have hnone : rest.filter (· ∉ list) = [] :=
    List.filter_eq_nil_iff.2 fun name hname => by simp [h name hname]
  rw [← eraseDups_append_filter, hnone, List.append_nil]

/-- A name that is in a list already adds nothing to it. -/
theorem eraseDups_concat_of_mem {list : List α} {name : α} (h : name ∈ list) :
    (list ++ [name]).eraseDups = list.eraseDups :=
  eraseDups_append_of_subset fun _ hother => List.mem_singleton.1 hother ▸ h

/-- A new name comes at the end. -/
theorem eraseDups_concat_of_not_mem {list : List α} {name : α} (h : name ∉ list) :
    (list ++ [name]).eraseDups = list.eraseDups ++ [name] := by
  rw [List.eraseDups_append]
  simp [List.removeAll, h, List.eraseDups_cons]

/-- What names lead to does not depend on their repetitions, up to its own. -/
theorem eraseDups_append_flatMap (start : List β) (list : List α) (next : α → List β) :
    (start ++ list.eraseDups.flatMap next).eraseDups = (start ++ list.flatMap next).eraseDups := by
  induction list using List.reverseRecOn with
  | nil => rfl
  | append_singleton list name ih =>
      rw [List.flatMap_append, List.flatMap_singleton, ← List.append_assoc]
      by_cases hname : name ∈ list
      · have hnext : ∀ target ∈ next name, target ∈ start ++ list.flatMap next := by
          intro target htarget
          exact List.mem_append_right _ (List.mem_flatMap.2 ⟨name, hname, htarget⟩)
        rw [eraseDups_concat_of_mem hname, ih, eraseDups_append_of_subset hnext]
      · rw [eraseDups_concat_of_not_mem hname, List.flatMap_append, List.flatMap_singleton,
          ← List.append_assoc]
        exact eraseDups_append_congr ih _

end EraseDups

/-! ## Breadth-first order -/

/-- The modules that a module adds to those that have to be resolved: in recursive mode, its
dependencies other than control modules, in ascending order. -/
def nextOf (registry : Registry) (modules : Table String Module) (control : List String)
    (recursive : Bool) (name : String) : List String :=
  match modules.get? name with
  | none => []
  | some module =>
    if recursive then (registry.directDependencies name module).filter (· ∉ control) else []

/-- The names that are met within a number of steps from the roots, in breadth-first order. -/
def metWithin (next : String → List String) (roots : List String) : Nat → List String
  | 0 => roots.eraseDups
  | steps + 1 => (roots ++ (metWithin next roots steps).flatMap next).eraseDups

/-- The modules that have to be resolved, in breadth-first order: the roots in their order, then
the dependencies of each module in ascending order, every name once. Every name that is not a root
owns a symbol, so that there are no more steps to it than symbols. -/
def breadthFirst (registry : Registry) (modules : Table String Module) (control : List String)
    (recursive : Bool) (roots : List String) : List String :=
  metWithin (nextOf registry modules control recursive) roots registry.size

section Order

variable {registry : Registry} {modules : Table String Module} {control : List String}
variable {recursive : Bool} {roots : List String} {next : String → List String}

/-- A module adds those of its dependencies that are no control modules. -/
theorem mem_nextOf {name owner : String} :
    owner ∈ nextOf registry modules control recursive name ↔
      recursive = true ∧ DependsOn registry modules name owner ∧ owner ∉ control := by
  unfold nextOf
  cases hmodule : modules.get? name with
  | none => simp [DependsOn, hmodule]
  | some module =>
      cases recursive with
      | false => simp
      | true => simp [Registry.mem_directDependencies hmodule]

/-- Another step only adds names at the end. -/
theorem metWithin_prefix_succ (next : String → List String) (roots : List String) (steps : Nat) :
    metWithin next roots steps <+: metWithin next roots (steps + 1) := by
  induction steps with
  | zero => exact eraseDups_prefix_eraseDups (List.prefix_append _ _)
  | succ steps ih =>
      obtain ⟨rest, hrest⟩ := ih
      refine eraseDups_prefix_eraseDups ?_
      rw [← hrest, List.flatMap_append, ← List.append_assoc]
      exact List.prefix_append _ _

/-- A name two steps away comes behind all that are one step away, and a cycle changes nothing. -/
example : metWithin (fun name => if name = "app" then ["base", "zoo"] else ["ant", "app"])
    ["app"] 2 = ["app", "base", "zoo", "ant"] := by cbv

/-- No name is met twice. -/
theorem metWithin_nodup (next : String → List String) (roots : List String) (steps : Nat) :
    (metWithin next roots steps).Nodup := by
  cases steps with
  | zero => exact Text.nodup_eraseDups _
  | succ steps => exact Text.nodup_eraseDups _

/-- A new name that owns a symbol is one less that was not queued. -/
theorem unqueued_lt {list longer : List String} {name : String} (hsubset : list ⊆ longer)
    (hname : name ∈ longer) (hnew : name ∉ list)
    (howner : name ∈ registry.entries.map Definition.owner) :
    Resolver.unqueued registry longer < Resolver.unqueued registry list := by
  refine Finset.card_lt_card (Finset.ssubset_iff_of_subset ?_ |>.2 ⟨name, ?_, ?_⟩)
  · refine Finset.sdiff_subset_sdiff (Finset.Subset.refl _) fun other hother => ?_
    exact List.mem_toFinset.2 (hsubset (List.mem_toFinset.1 hother))
  · simp only [Finset.mem_sdiff, List.mem_toFinset]
    exact ⟨howner, hnew⟩
  · simp [hname]

/-- A step meets nothing new, or one of the owners that were not met before. -/
theorem metWithin_succ_cases
    (hnext : ∀ name owner, owner ∈ next name → owner ∈ registry.entries.map Definition.owner)
    (roots : List String) (steps : Nat) :
    metWithin next roots (steps + 1) = metWithin next roots steps ∨
      Resolver.unqueued registry (metWithin next roots (steps + 1)) <
        Resolver.unqueued registry (metWithin next roots steps) := by
  have hnodup := metWithin_nodup next roots (steps + 1)
  obtain ⟨rest, hrest⟩ := metWithin_prefix_succ next roots steps
  cases rest with
  | nil => exact Or.inl (by rw [← hrest, List.append_nil])
  | cons name rest =>
      have hname : name ∈ metWithin next roots (steps + 1) := by
        rw [← hrest]
        exact List.mem_append_right _ List.mem_cons_self
      have hnew : name ∉ metWithin next roots steps := by
        rw [← hrest] at hnodup
        exact fun hmem => (List.nodup_append.1 hnodup).2.2 name hmem name List.mem_cons_self rfl
      -- A root would have been met at once, so the name is a dependency.
      have howner : name ∈ registry.entries.map Definition.owner := by
        rw [metWithin, List.mem_eraseDups, List.mem_append, List.mem_flatMap] at hname
        rcases hname with hroot | ⟨other, _, hother⟩
        · refine absurd ?_ hnew
          cases steps with
          | zero => exact List.mem_eraseDups.2 hroot
          | succ steps => exact List.mem_eraseDups.2 (List.mem_append_left _ hroot)
        · exact hnext other name hother
      refine Or.inr (unqueued_lt ?_ hname hnew howner)
      rw [← hrest]
      exact List.subset_append_left _ _

/-- As long as a step meets something new, there are at least as many symbols as steps. -/
theorem metWithin_stable_or
    (hnext : ∀ name owner, owner ∈ next name → owner ∈ registry.entries.map Definition.owner)
    (roots : List String) (steps : Nat) :
    metWithin next roots (steps + 1) = metWithin next roots steps ∨
      Resolver.unqueued registry (metWithin next roots (steps + 1)) + (steps + 1) ≤
        registry.size := by
  induction steps with
  | zero =>
      rcases metWithin_succ_cases hnext roots 0 with hsame | hless
      · exact Or.inl hsame
      · have := Resolver.unqueued_le_size registry (metWithin next roots 0)
        exact Or.inr (by omega)
  | succ steps ih =>
      rcases ih with hsame | hbound
      · exact Or.inl (congrArg
          (fun met : List String => (roots ++ met.flatMap next).eraseDups) hsame)
      · rcases metWithin_succ_cases hnext roots (steps + 1) with hsame | hless
        · exact Or.inl hsame
        · exact Or.inr (by omega)

/-- The order is the roots and what the modules in the order add, every name once. -/
theorem breadthFirst_eq (registry : Registry) (modules : Table String Module)
    (control : List String) (recursive : Bool) (roots : List String) :
    breadthFirst registry modules control recursive roots =
      (roots ++ (breadthFirst registry modules control recursive roots).flatMap
        (nextOf registry modules control recursive)).eraseDups := by
  have hnext (name owner : String) (h : owner ∈ nextOf registry modules control recursive name) :
      owner ∈ registry.entries.map Definition.owner :=
    (mem_nextOf.1 h).2.1.mem_owners
  rcases metWithin_stable_or hnext roots registry.size with hsame | hbound
  · exact hsame.symm
  · exact absurd hbound (by omega)

/-- The order lists the required modules. -/
theorem mem_breadthFirst {name : String} :
    name ∈ breadthFirst registry modules control recursive roots ↔
      Required registry modules control recursive roots name := by
  constructor
  · unfold breadthFirst
    generalize registry.size = steps
    intro hname
    induction steps generalizing name with
    | zero => exact .root (List.mem_eraseDups.1 hname)
    | succ steps ih =>
        rw [metWithin, List.mem_eraseDups, List.mem_append, List.mem_flatMap] at hname
        rcases hname with hroot | ⟨other, hother, hadded⟩
        · exact .root hroot
        · obtain ⟨hrecursive, hdepends, hcontrol⟩ := mem_nextOf.1 hadded
          exact .dependency hrecursive (ih hother) hdepends hcontrol
  · intro hrequired
    rw [breadthFirst_eq, List.mem_eraseDups, List.mem_append]
    induction hrequired with
    | root hroot => exact Or.inl hroot
    | dependency hrecursive _ hdepends hcontrol ih =>
        refine Or.inr (List.mem_flatMap.2 ⟨_, ?_, mem_nextOf.2 ⟨hrecursive, hdepends, hcontrol⟩⟩)
        rw [breadthFirst_eq, List.mem_eraseDups, List.mem_append]
        exact ih

end Order

/-! ## Explorations keep to the order -/

namespace Resolver

variable {registry : Registry} {modules : Table String Module} {control : List String}
variable {recursive : Bool} {roots processed queue queued : List String}
variable {resolver : Resolver} {context : Context}

/-- How far an exploration has come in breadth-first order. -/
structure Ordered (registry : Registry) (modules : Table String Module) (control : List String)
    (recursive : Bool) (roots processed queue queued : List String) : Prop where
  /-- What was queued is processed or waits. -/
  queued_eq : queued = processed ++ queue
  /-- The roots were queued, and what the processed modules add. -/
  queued_added : queued.eraseDups =
    (roots ++ processed.flatMap (nextOf registry modules control recursive)).eraseDups
  /-- What was queued is the first part of the order. -/
  queued_first : queued.eraseDups <+: breadthFirst registry modules control recursive roots
  /-- What is processed was found in the table. -/
  processed_known : ∀ name ∈ processed, modules.hasKey name = true

/-- At the beginning, the roots wait. -/
theorem ordered_start (registry : Registry) (modules : Table String Module)
    (control : List String) (recursive : Bool) (roots : List String) :
    Ordered registry modules control recursive roots [] roots roots where
  queued_eq := rfl
  queued_added := by rw [List.flatMap_nil, List.append_nil]
  queued_first := by
    rw [breadthFirst_eq]
    exact eraseDups_prefix_eraseDups (List.prefix_append _ _)
  processed_known := fun _ h => absurd h List.not_mem_nil

/-- What a step adds to the queue is what the module adds, without the names queued before. -/
theorem reachedFrom_eq {name : String} {module : Module}
    (hmodule : modules.get? name = some module) :
    reachedFrom recursive control queued (registry.directDependencies name module) =
      (nextOf registry modules control recursive name).filter (· ∉ queued) := by
  simp only [reachedFrom, nextOf, hmodule]
  cases recursive with
  | false => rfl
  | true =>
      simp only [if_true, List.filter_filter]
      refine List.filter_congr fun owner _ => ?_
      simp

/-- One step of an exploration goes on in the order. -/
theorem Ordered.step {name : String} {module : Module}
    (h : Ordered registry modules control recursive roots processed (name :: queue) queued)
    (hmodule : modules.get? name = some module) :
    let reached := reachedFrom recursive control queued (registry.directDependencies name module)
    Ordered registry modules control recursive roots (processed ++ [name]) (queue ++ reached)
      (queued ++ reached) := by
  intro reached
  have hadded : (queued ++ reached).eraseDups = (roots ++ (processed ++ [name]).flatMap
      (nextOf registry modules control recursive)).eraseDups := by
    rw [List.flatMap_append, List.flatMap_singleton, ← List.append_assoc,
      ← eraseDups_append_congr h.queued_added, ← eraseDups_append_filter queued (nextOf ..)]
    exact congrArg (fun rest => (queued ++ rest).eraseDups) (reachedFrom_eq hmodule)
  refine ⟨?_, hadded, ?_, ?_⟩
  · rw [h.queued_eq]
    simp
  · -- What is processed is a first part of the order, so it adds a first part of what all add.
    have hprocessed : (processed ++ [name]).eraseDups <+:
        breadthFirst registry modules control recursive roots := by
      refine (eraseDups_prefix_eraseDups ?_).trans h.queued_first
      rw [h.queued_eq, List.append_cons processed name queue]
      exact List.prefix_append _ _
    obtain ⟨rest, hrest⟩ := hprocessed
    rw [hadded, ← eraseDups_append_flatMap, breadthFirst_eq, ← hrest]
    refine eraseDups_prefix_eraseDups ?_
    rw [List.flatMap_append, ← List.append_assoc]
    exact List.prefix_append _ _
  · intro other hother
    rcases List.mem_append.1 hother with hold | hnew
    · exact h.processed_known other hold
    · rw [List.mem_singleton.1 hnew]
      exact Option.isSome_iff_exists.2 ⟨module, hmodule⟩

/-- A waiting module that is not in the table is the first such module in the order, if it is the
next one. -/
theorem Ordered.find?_missing {name : String}
    (h : Ordered registry modules control recursive roots processed (name :: queue) queued)
    (hmissing : modules.get? name = none) :
    (breadthFirst registry modules control recursive roots).find?
      (fun other => !modules.hasKey other) = some name := by
  have hqueued : queued.find? (fun other => !modules.hasKey other) = some name := by
    have hprocessed : processed.find? (fun other => !modules.hasKey other) = none := by
      refine List.find?_eq_none.2 fun other hother => ?_
      simp [h.processed_known other hother]
    rw [h.queued_eq, List.find?_append, hprocessed, List.find?_cons]
    simp [Table.hasKey, hmissing]
  obtain ⟨rest, hrest⟩ := h.queued_first
  rw [← hrest, List.find?_append, find?_eraseDups, hqueued]
  rfl

/-- A whole exploration fails only at the first module of the order that is not in the table. -/
theorem explore_fails_at {steps : Nat} {failure : Failure}
    (hexploring : Exploring registry modules control recursive roots queue queued resolver context)
    (hordered : Ordered registry modules control recursive roots processed queue queued)
    (hfails : (explore modules recursive steps queue queued resolver context).1 =
      .error failure) :
    ∃ name, failure = .unknownModule name ∧
      (breadthFirst registry modules control recursive roots).find?
        (fun other => !modules.hasKey other) = some name := by
  induction steps generalizing processed queue queued resolver context with
  | zero => cases hfails
  | succ steps ih =>
      cases queue with
      | nil => cases hfails
      | cons name queue =>
          obtain rfl := hexploring.registry_eq
          cases hmodule : modules.get? name with
          | none =>
              simp only [explore, resolveModule_of_get?_none hexploring.sound hmodule] at hfails
              cases hfails
              exact ⟨name, rfl, hordered.find?_missing hmodule⟩
          | some module =>
              obtain ⟨resolver', context', hresolve, hcontrol, hregistry, hdirect⟩ :=
                resolveModule_of_get? hexploring.sound hmodule
              rw [explore_cons hresolve (hcontrol.trans hexploring.control_eq)] at hfails
              exact ih (hexploring.step hmodule hcontrol hregistry hdirect)
                (hordered.step hmodule) hfails

/-- Resolving from nothing fails only at the first module of the order that is not in the table. -/
theorem resolve_fails_at {request : Request} {failure : Failure}
    (hfails : (resolve modules request { controlModules := control } context).1 =
      .error failure) :
    ∃ name, failure = .unknownModule name ∧
      (breadthFirst context.aliasInherited.2.registry modules control request.recursive
        (request.roots modules)).find? (fun other => !modules.hasKey other) = some name := by
  obtain ⟨started, hstarted⟩ : ∃ started,
      (context.log .info "Resolving dependencies").aliasInherited.2 = started := ⟨_, rfl⟩
  have hregistry : started.registry = context.aliasInherited.2.registry := by
    rw [← hstarted]
    exact context.aliasInherited_log_registry _ _
  rw [← hregistry]
  simp only [resolve, hstarted] at hfails
  split at hfails
  · next hexplore =>
      cases hfails
      exact explore_fails_at (exploring_start started modules control _ _)
        (ordered_start started.registry modules control _ _) (congrArg Prod.fst hexplore)
  · cases hfails

end Resolver

/-- Resolving fails exactly when it has to. The required modules are the requested ones and, in
recursive mode, the dependencies of required modules that are in the table, other than control
modules, where the dependencies are those that resolving a module gives after the inherited
variables have their names. A resolver that starts from nothing fails if and only if a required
module is not in the table, and then it names the first one in breadth-first order; otherwise it
gives a resolution. A control module that is not requested is not required, so it need not be in the
table. -/
theorem resolve_fails_at_first_missing (modules : Table String Module) (request : Request)
    (control : List String) (context : Context) :
    let started := context.aliasInherited.2
    let roots := request.roots modules
    let required := Required started.registry modules control request.recursive roots
    let next := nextOf started.registry modules control request.recursive
    let order := breadthFirst started.registry modules control request.recursive roots
    let outcome := (Resolver.resolve modules request { controlModules := control } context).1
    (∀ name module, modules.get? name = some module → ∃ direct,
      (Resolver.resolveModule modules name { controlModules := control } started).1 =
        .ok direct ∧
      Text.Ascending direct ∧ (∀ owner, owner ∈ direct ↔
        DependsOn started.registry modules name owner) ∧
      next name = if request.recursive then direct.filter (· ∉ control) else []) ∧
    (∀ name, name ∈ order ↔ required name) ∧
    order = (roots ++ order.flatMap next).eraseDups ∧
    ((∃ failure, outcome = .error failure) ↔
      ∃ name, required name ∧ modules.hasKey name = false) ∧
    ((∃ resolution, outcome = .ok resolution) ↔
      ∀ name, required name → modules.hasKey name = true) ∧
    (∀ failure, outcome = .error failure → ∃ name,
      order.find? (fun other => !modules.hasKey other) = some name ∧
      failure = .unknownModule name ∧
      failure.message? = some ("Module " ++ name ++ " has not been scanned")) ∧
    ∀ name ∈ control, name ∉ roots → ¬ required name := by
  intro started roots required next order outcome
  have hreturns : (∃ resolution, outcome = .ok resolution) ↔
      ∀ name, required name → modules.hasKey name = true := by
    have hok := Resolver.resolve_ok_iff modules request control context
    simp only [← Option.isSome_iff_exists] at hok
    exact hok
  have hfails (failure : Failure) (hfailure : outcome = .error failure) : ∃ name,
      failure = .unknownModule name ∧
      order.find? (fun other => !modules.hasKey other) = some name :=
    Resolver.resolve_fails_at hfailure
  refine ⟨?_, fun _ => mem_breadthFirst, breadthFirst_eq .., ?_, hreturns, ?_, ?_⟩
  · intro name module hmodule
    have hsound : ({ controlModules := control } : Resolver).Sound started.registry modules :=
      fun _ _ h => by cases h
    obtain ⟨_, _, hresolve, _⟩ := Resolver.resolveModule_of_get? hsound hmodule
    refine ⟨started.registry.directDependencies name module, ?_, Text.sortedSet_ascending _,
      fun owner => Registry.mem_directDependencies hmodule, ?_⟩
    · rw [hresolve]
    · simp only [next, nextOf, hmodule]
  · constructor
    · intro hgiven
      obtain ⟨failure, hfailure⟩ := hgiven
      obtain ⟨name, _, hfirst⟩ := hfails failure hfailure
      refine ⟨name, mem_breadthFirst.1 (List.mem_of_find?_eq_some hfirst), ?_⟩
      simpa using List.find?_some hfirst
    · intro hgiven
      obtain ⟨name, hrequired, hmissing⟩ := hgiven
      cases houtcome : outcome with
      | error failure => exact ⟨failure, rfl⟩
      | ok resolution =>
          have hknown := hreturns.1 ⟨resolution, houtcome⟩ name hrequired
          rw [hmissing] at hknown
          cases hknown
  · intro failure hfailure
    obtain ⟨name, rfl, hfirst⟩ := hfails failure hfailure
    exact ⟨name, hfirst, rfl, rfl⟩
  · intro name hcontrol hroot hrequired
    cases hrequired with
    | root hmem => exact hroot hmem
    | dependency _ _ _ howner => exact howner hcontrol

end ModuleGraph
