import Mathlib
import ModuleGraph.Proofs.Aliases
import ModuleGraph.Proofs.Closure
import ModuleGraph.Proofs.Exploration
import ModuleGraph.Proofs.Tables

/-!
# Resolving computes reachability

The outcome of resolving is described by `Listed`: the names that a requested module reaches along
dependencies, or depends on directly if the mode is not recursive. The theorem
`resolve_lists_reachable_modules` says that a resolver that starts from nothing lists exactly these
names in ascending order. So what is listed for a module does not depend on the other modules that
are requested with it.

Two loops have to agree for this. The exploration resolves the required modules, and the closure
reads what it kept, taking a module that was not resolved for one without dependencies.
`reaches_keeps_iff` shows that no such module lies on a way from a root.
-/

namespace ModuleGraph

/-- The modules that a request starts from: the named ones, or all if none is named. -/
def Request.roots (request : Request) (modules : Table String Module) : List String :=
  if request.names.isEmpty then modules.keys else request.names

/-- The names that are listed for a requested module. -/
def Listed (registry : Registry) (modules : Table String Module) (control : List String)
    (recursive : Bool) (root name : String) : Prop :=
  name ≠ root ∧
    if recursive then Reaches (DependsOn registry modules) control root name
    else DependsOn registry modules root name

/-- The resolution lists what is asked for, given the registry in which references are looked up. -/
structure Resolution.Answers (resolution : Resolution) (registry : Registry)
    (modules : Table String Module) (control : List String) (request : Request) : Prop where
  /-- There is a list for each requested module and for no other. -/
  hasKey_iff : ∀ name, resolution.modules.hasKey name = true ↔ name ∈ request.roots modules
  /-- Each list is ascending. -/
  ascending : ∀ root names, resolution.modules.get? root = some names → Text.Ascending names
  /-- Each list has the names that are listed for its module. -/
  mem_iff : ∀ root names, resolution.modules.get? root = some names →
    ∀ name, name ∈ names ↔ Listed registry modules control request.recursive root name
  /-- The combined list is ascending. -/
  combined_ascending : Text.Ascending resolution.dependencies
  /-- The combined list has the names of all lists and the extra ones, apart from the builtin
  symbols and from the primary module unless its name is empty. -/
  mem_combined_iff : ∀ name, name ∈ resolution.dependencies ↔
    ((∃ root ∈ request.roots modules,
        Listed registry modules control request.recursive root name) ∨ name ∈ request.extra) ∧
      name ≠ builtinOwner ∧
      ∀ primary, Resolver.primaryOf request = some primary → primary ≠ "" → name ≠ primary

namespace Resolver

variable {registry : Registry} {modules : Table String Module} {control : List String}
variable {recursive : Bool} {roots queued : List String}
variable {resolver : Resolver} {context : Context}

/-- What a resolved module keeps is what it depends on. -/
theorem Exploring.keeps_iff
    (h : Exploring registry modules control recursive roots [] queued resolver context)
    {name owner : String} (hname : name ∈ queued) :
    resolver.Keeps name owner ↔ DependsOn registry modules name owner := by
  rcases h.resolved name hname with hqueue | hkey
  · exact absurd hqueue List.not_mem_nil
  · obtain ⟨dependencies, hkept⟩ := Option.isSome_iff_exists.1 hkey
    obtain ⟨module, hmodule, rfl⟩ := h.sound name dependencies hkept
    rw [Keeps, hkept, Option.getD_some]
    exact Registry.mem_directDependencies hmodule

/-- In recursive mode, every module that a root reaches is resolved unless it is a control
module. -/
theorem Exploring.queued_of_reaches
    (h : Exploring registry modules control true roots [] queued resolver context)
    {root name : String} (hroot : root ∈ roots)
    (hreaches : Reaches (DependsOn registry modules) control root name)
    (hname : name ∉ control) : name ∈ queued := by
  have hnext {first second : String} (hfirst : first ∈ queued) (hsecond : second ∉ control)
      (hdepends : DependsOn registry modules first second) : second ∈ queued := by
    rcases h.resolved first hfirst with hqueue | hkey
    · exact absurd hqueue List.not_mem_nil
    · exact h.dependencies_queued rfl first second hkey hdepends hsecond
  induction hreaches with
  | direct hdepends => exact hnext (h.roots_queued root hroot) hname hdepends
  | through _ hbetween hdepends ih => exact hnext (ih hbetween) hname hdepends

/-- From a root, what is kept reaches the same names as the dependencies do. -/
theorem Exploring.reaches_keeps_iff
    (h : Exploring registry modules control true roots [] queued resolver context)
    {root name : String} (hroot : root ∈ roots) :
    Reaches resolver.Keeps control root name ↔
      Reaches (DependsOn registry modules) control root name := by
  have hqueued := h.roots_queued root hroot
  constructor
  · intro hreaches
    induction hreaches with
    | direct hkeeps => exact .direct ((h.keeps_iff hqueued).1 hkeeps)
    | through _ hbetween hkeeps ih =>
        have hresolved := h.queued_of_reaches hroot ih hbetween
        exact .through ih hbetween ((h.keeps_iff hresolved).1 hkeeps)
  · intro hreaches
    induction hreaches with
    | direct hdepends => exact .direct ((h.keeps_iff hqueued).2 hdepends)
    | through hbefore hbetween hdepends ih =>
        have hresolved := h.queued_of_reaches hroot hbefore hbetween
        exact .through ih hbetween ((h.keeps_iff hresolved).2 hdepends)

/-- After an exploration, the dependencies of a root are the names listed for it. -/
theorem Exploring.mem_dependenciesOf
    (h : Exploring registry modules control recursive roots [] queued resolver context)
    {root name : String} (hroot : root ∈ roots) :
    name ∈ resolver.dependenciesOf recursive root ↔
      Listed registry modules control recursive root name := by
  simp only [dependenciesOf, Text.mem_sortedSet, List.mem_filter, decide_eq_true_eq, Listed]
  rw [and_comm]
  refine and_congr_right fun _ => ?_
  cases recursive with
  | false => exact h.keeps_iff (h.roots_queued root hroot)
  | true =>
      simp only [if_true]
      rw [mem_closure rfl, h.control_eq]
      exact h.reaches_keeps_iff hroot

/-- The dependencies of a root are ascending. -/
theorem dependenciesOf_ascending (resolver : Resolver) (recursive : Bool) (root : String) :
    Text.Ascending (resolver.dependenciesOf recursive root) :=
  Text.sortedSet_ascending _

/-- The list that the outcome has for a module. -/
theorem get?_collect (resolver : Resolver) (request : Request) (roots : List String)
    (name : String) :
    (resolver.collect request roots).modules.get? name =
      if name ∈ roots then some (resolver.dependenciesOf request.recursive name) else none :=
  Table.get?_ofEntries_map _ _ _

/-- The names in the combined list of the outcome. -/
theorem mem_collect_dependencies {request : Request} {name : String} :
    name ∈ (resolver.collect request roots).dependencies ↔
      ((∃ root ∈ roots, name ∈ resolver.dependenciesOf request.recursive root) ∨
        name ∈ request.extra) ∧ name ≠ builtinOwner ∧
      ∀ primary, primaryOf request = some primary → primary ≠ "" → name ≠ primary := by
  have hprimary : ((primaryOf request).getD "" = "" ∨ name ≠ (primaryOf request).getD "") ↔
      ∀ primary, primaryOf request = some primary → primary ≠ "" → name ≠ primary := by
    cases primaryOf request with
    | none => simp
    | some primary => simp [or_iff_not_imp_left]
  have hlists : (∃ entry ∈ (resolver.collect request roots).modules, name ∈ entry.2) ↔
      ∃ root ∈ roots, name ∈ resolver.dependenciesOf request.recursive root := by
    constructor
    · intro hgiven
      obtain ⟨⟨root, names⟩, hentry, hname⟩ := hgiven
      obtain ⟨hroot, rfl⟩ := (Table.mem_ofEntries_map _ _).1 hentry
      exact ⟨root, hroot, hname⟩
    · intro hgiven
      obtain ⟨root, hroot, hname⟩ := hgiven
      exact ⟨(root, _), (Table.mem_ofEntries_map _ _).2 ⟨hroot, rfl⟩, hname⟩
  simp only [collect] at hlists ⊢
  simp only [Text.mem_sortedSet, List.mem_filter, List.mem_append, List.mem_flatMap,
    decide_eq_true_eq, hlists, hprimary]

/-- After an exploration, the outcome lists what is asked for. -/
theorem Exploring.answers {request : Request}
    (h : Exploring registry modules control request.recursive (request.roots modules) [] queued
      resolver context) :
    (resolver.collect request (request.roots modules)).Answers registry modules control
      request where
  hasKey_iff := by
    intro name
    rw [Table.hasKey, get?_collect]
    split <;> simp [*]
  ascending := by
    intro root names hnames
    rw [get?_collect] at hnames
    split at hnames
    · cases hnames
      exact dependenciesOf_ascending _ _ _
    · cases hnames
  mem_iff := by
    intro root names hnames name
    rw [get?_collect] at hnames
    split at hnames
    · next hroot =>
        cases hnames
        exact h.mem_dependenciesOf hroot
    · cases hnames
  combined_ascending := Text.sortedSet_ascending _
  mem_combined_iff := by
    intro name
    rw [mem_collect_dependencies]
    refine and_congr_left fun _ => or_congr_left (exists_congr fun root => ?_)
    exact and_congr_right fun hroot => h.mem_dependenciesOf hroot

/-- Resolving from nothing succeeds after an exploration of the roots, and otherwise fails at a
required module that is not in the table. -/
theorem resolve_cases (modules : Table String Module) (request : Request) (control : List String)
    (context : Context) :
    (∃ queued resolver context',
      Exploring context.aliasInherited.2.registry modules control request.recursive
        (request.roots modules) [] queued resolver context' ∧
      (resolve modules request { controlModules := control } context).1 =
        .ok (resolver.collect request (request.roots modules))) ∨
    ∃ name,
      (resolve modules request { controlModules := control } context).1 =
        .error (.unknownModule name) ∧
      Required context.aliasInherited.2.registry modules control request.recursive
        (request.roots modules) name ∧ modules.get? name = none := by
  obtain ⟨started, hstarted⟩ : ∃ started,
      (context.log .info "Resolving dependencies").aliasInherited.2 = started := ⟨_, rfl⟩
  have hregistry : started.registry = context.aliasInherited.2.registry := by
    rw [← hstarted]
    exact context.aliasInherited_log_registry _ _
  have hstart := exploring_start started modules control request.recursive (request.roots modules)
  -- There are more steps than names that are queued or can still enter the queue.
  have hsteps : (request.roots modules).length +
      unqueued started.registry (request.roots modules) < (request.roots modules).length +
        started.registry.size + ({ controlModules := control } : Resolver).edgeCount + 1 := by
    have := unqueued_le_size started.registry (request.roots modules)
    omega
  rw [← hregistry]
  unfold Request.roots at hstart hsteps ⊢
  rcases explore_cases hstart hsteps with
    ⟨queued, resolver, context', hexplore, hend⟩ | ⟨name, resolver, context', hexplore, hname⟩
  · refine Or.inl ⟨queued, resolver, context', hend, ?_⟩
    simp only [resolve, hstarted]
    rw [hexplore]
  · refine Or.inr ⟨name, ?_, hname⟩
    simp only [resolve, hstarted]
    rw [hexplore]

/-- A resolver that starts from nothing and succeeds lists what is asked for. -/
theorem answers_of_resolve {request : Request} {resolution : Resolution}
    (h : (resolve modules request { controlModules := control } context).1 = .ok resolution) :
    resolution.Answers context.aliasInherited.2.registry modules control request := by
  rcases resolve_cases modules request control context with
    ⟨queued, resolver, context', hexploring, hok⟩ | ⟨name, herror, _⟩
  · rw [hok] at h
    cases h
    exact hexploring.answers
  · rw [herror] at h
    cases h

end Resolver

/-- What is listed for a module in two answers to requests of the same mode. -/
theorem Resolution.Answers.get?_eq {registry : Registry} {modules : Table String Module}
    {control : List String} {request other : Request} {resolution resolution' : Resolution}
    (h : resolution.Answers registry modules control request)
    (hother : resolution'.Answers registry modules control other)
    (hmode : other.recursive = request.recursive) {root : String}
    (hroot : root ∈ request.roots modules) (hroot' : root ∈ other.roots modules) :
    resolution'.modules.get? root = resolution.modules.get? root := by
  obtain ⟨names, hnames⟩ := Option.isSome_iff_exists.1 ((h.hasKey_iff root).2 hroot)
  obtain ⟨names', hnames'⟩ := Option.isSome_iff_exists.1 ((hother.hasKey_iff root).2 hroot')
  rw [hnames, hnames']
  congr 1
  refine (hother.ascending _ _ hnames').ext (h.ascending _ _ hnames) fun name => ?_
  rw [hother.mem_iff _ _ hnames', h.mem_iff _ _ hnames, hmode]

/-- Resolving computes reachability. A resolver that starts from nothing and succeeds lists, for
each requested module, exactly the names that it reaches along ways between whose ends no control
module lies, or only those that it depends on directly if the mode is not recursive. Which other
modules are requested, and how often, makes no difference to the list of a module. -/
theorem resolve_lists_reachable_modules {modules : Table String Module} {request : Request}
    {control : List String} {context : Context} {resolution : Resolution}
    (h : (Resolver.resolve modules request { controlModules := control } context).1 =
      .ok resolution) :
    resolution.Answers context.aliasInherited.2.registry modules control request ∧
    ∀ other resolution',
      (Resolver.resolve modules other { controlModules := control } context).1 = .ok resolution' →
      other.recursive = request.recursive →
      ∀ root ∈ request.roots modules, root ∈ other.roots modules →
        resolution'.modules.get? root = resolution.modules.get? root := by
  have hanswers := Resolver.answers_of_resolve h
  refine ⟨hanswers, ?_⟩
  intro other resolution' hother hmode root hroot hroot'
  exact hanswers.get?_eq (Resolver.answers_of_resolve hother) hmode hroot hroot'

/-- Modules that each refer to some classes. -/
def modulesIncluding (classes : Table String (List String)) : Table String Module :=
  classes.map fun (name, included) =>
    (name, {
      name, path := ⟨"", [name]⟩
      dependencies := included.map fun target => ⟨.hostClass, target, ["init.pp"]⟩ })

/-- A registry in which each of some modules owns the class of its name. -/
def registryOfClasses (names : List String) : Registry :=
  ⟨names.map fun name => ⟨.hostClass, name, name⟩⟩

/-- Around a cycle and up to a control module, but not behind it. -/
theorem resolve_lists_cycle_up_to_control :
    let modules := modulesIncluding
      [("app", ["base"]), ("base", ["app", "role"]), ("role", ["site"]), ("site", [])]
    let context : Context := { registry := registryOfClasses ["app", "base", "role", "site"] }
    Listed context.aliasInherited.2.registry modules ["role"] true "app" "role" ∧
    ¬ Listed context.aliasInherited.2.registry modules ["role"] true "app" "site" := by
  intro modules context
  have hresolve : (Resolver.resolve modules { names := ["app"], recursive := true }
      { controlModules := ["role"] } context).1 =
        .ok ⟨[("app", ["base", "role"])], ["base", "role"]⟩ := by cbv
  obtain ⟨hanswers, -⟩ := resolve_lists_reachable_modules hresolve
  have hlisted := hanswers.mem_iff "app" ["base", "role"] rfl
  exact ⟨(hlisted "role").1 (by decide), fun h => absurd ((hlisted "site").2 h) (by decide)⟩

end ModuleGraph
