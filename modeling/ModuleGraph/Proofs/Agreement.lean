import ModuleGraph.Proofs.Reachability

/-!
# Runs that resolve alike

`resolve_ok_iff` says when resolving succeeds: exactly if every required module is in the table.
With what the lists hold, `sameLists_iff` follows: two runs that have the same module names give
the same lists for every request if and only if every module depends on the same modules in both.
-/

namespace ModuleGraph

/-- Two outcomes of resolving give the same lists, or both fail. -/
def SameLists : Except Failure Resolution → Except Failure Resolution → Prop
  | .ok first, .ok second =>
    (∀ name, first.modules.get? name = second.modules.get? name) ∧
      first.dependencies = second.dependencies
  | .error _, .error _ => True
  | _, _ => False

namespace Resolver

variable {registry registry' : Registry} {modules modules' : Table String Module}
variable {control : List String} {recursive : Bool} {roots queued : List String}
variable {resolver : Resolver} {context context' : Context}

/-- At the end of an exploration, all required modules were queued. -/
theorem Exploring.queued_of_required
    (h : Exploring registry modules control recursive roots [] queued resolver context)
    {name : String} (hrequired : Required registry modules control recursive roots name) :
    name ∈ queued := by
  induction hrequired with
  | root hroot => exact h.roots_queued _ hroot
  | dependency hrecursive _ hdepends hcontrol ih =>
      rcases h.resolved _ ih with hqueue | hkey
      · exact absurd hqueue List.not_mem_nil
      · exact h.dependencies_queued hrecursive _ _ hkey hdepends hcontrol

/-- At the end of an exploration, all required modules were found in the table. -/
theorem Exploring.exists_module_of_required
    (h : Exploring registry modules control recursive roots [] queued resolver context)
    {name : String} (hrequired : Required registry modules control recursive roots name) :
    ∃ module, modules.get? name = some module := by
  rcases h.resolved name (h.queued_of_required hrequired) with hqueue | hkey
  · exact absurd hqueue List.not_mem_nil
  · obtain ⟨dependencies, hkept⟩ := Option.isSome_iff_exists.1 hkey
    obtain ⟨module, hmodule, _⟩ := h.sound name dependencies hkept
    exact ⟨module, hmodule⟩

/-- Resolving from nothing succeeds exactly if every required module is in the table. -/
theorem resolve_ok_iff (modules : Table String Module) (request : Request) (control : List String)
    (context : Context) :
    (∃ resolution,
      (resolve modules request { controlModules := control } context).1 = .ok resolution) ↔
    ∀ name, Required context.aliasInherited.2.registry modules control request.recursive
      (request.roots modules) name → ∃ module, modules.get? name = some module := by
  rcases resolve_cases modules request control context with
    ⟨queued, resolver, context', hexploring, hok⟩ | ⟨name, herror, hrequired, hmissing⟩
  · exact ⟨fun _ name hrequired => hexploring.exists_module_of_required hrequired,
      fun _ => ⟨_, hok⟩⟩
  · constructor
    · intro hgiven
      obtain ⟨resolution, hresolution⟩ := hgiven
      rw [herror] at hresolution
      cases hresolution
    · intro hall
      obtain ⟨module, hmodule⟩ := hall name hrequired
      rw [hmissing] at hmodule
      cases hmodule

end Resolver

section Agreement

variable {registry registry' : Registry} {modules modules' : Table String Module}

/-- What is required depends on the dependencies of modules alone. -/
theorem Required.of_dependsOn
    (h : ∀ name owner, DependsOn registry modules name owner →
      DependsOn registry' modules' name owner)
    {control roots roots' : List String} {recursive : Bool} {name : String}
    (hroots : ∀ root ∈ roots, root ∈ roots')
    (hrequired : Required registry modules control recursive roots name) :
    Required registry' modules' control recursive roots' name := by
  induction hrequired with
  | root hroot => exact .root (hroots _ hroot)
  | dependency hrecursive _ hdepends hcontrol ih =>
      exact .dependency hrecursive ih (h _ _ hdepends) hcontrol

/-- What a module reaches depends on the dependencies of modules alone. -/
theorem Reaches.mono {depends depends' : String → String → Prop}
    (h : ∀ name owner, depends name owner → depends' name owner) {control : List String}
    {root name : String} (hreaches : Reaches depends control root name) :
    Reaches depends' control root name := by
  induction hreaches with
  | direct hdepends => exact .direct (h _ _ hdepends)
  | through _ hcontrol hdepends ih => exact .through ih hcontrol (h _ _ hdepends)

/-- What is listed for a module depends on the dependencies of modules alone. -/
theorem listed_congr
    (h : ∀ name owner, DependsOn registry modules name owner ↔
      DependsOn registry' modules' name owner)
    (control : List String) (recursive : Bool) (root name : String) :
    Listed registry modules control recursive root name ↔
      Listed registry' modules' control recursive root name := by
  unfold Listed
  refine and_congr_right fun _ => ?_
  cases recursive with
  | false => exact h root name
  | true =>
      exact ⟨Reaches.mono fun name owner => (h name owner).1,
        Reaches.mono fun name owner => (h name owner).2⟩

/-- Two answers to the same request give the same lists if the modules depend on the same ones. -/
theorem Resolution.Answers.sameLists {control : List String} {request : Request}
    {resolution resolution' : Resolution}
    (h : resolution.Answers registry modules control request)
    (h' : resolution'.Answers registry' modules' control request)
    (hroots : ∀ name, name ∈ request.roots modules ↔ name ∈ request.roots modules')
    (hdepends : ∀ name owner,
      DependsOn registry modules name owner ↔ DependsOn registry' modules' name owner) :
    SameLists (.ok resolution) (.ok resolution') := by
  have hlisted := listed_congr hdepends control request.recursive
  constructor
  · intro root
    cases hnames : resolution.modules.get? root with
    | none =>
        cases hnames' : resolution'.modules.get? root with
        | none => rfl
        | some names' =>
            have hroot := (h'.hasKey_iff root).1 (Option.isSome_iff_exists.2 ⟨names', hnames'⟩)
            have hkey := (h.hasKey_iff root).2 ((hroots root).2 hroot)
            rw [Table.hasKey, hnames] at hkey
            cases hkey
    | some names =>
        have hroot := (h.hasKey_iff root).1 (Option.isSome_iff_exists.2 ⟨names, hnames⟩)
        obtain ⟨names', hnames'⟩ :=
          Option.isSome_iff_exists.1 ((h'.hasKey_iff root).2 ((hroots root).1 hroot))
        rw [hnames']
        congr 1
        -- Both lists are ascending, so the same members make them equal.
        refine (h.ascending _ _ hnames).ext (h'.ascending _ _ hnames') fun name => ?_
        rw [h.mem_iff _ _ hnames, h'.mem_iff _ _ hnames', hlisted]
  · refine h.combined_ascending.ext h'.combined_ascending fun name => ?_
    rw [h.mem_combined_iff, h'.mem_combined_iff]
    refine and_congr_left fun _ => or_congr_left (exists_congr fun root => ?_)
    rw [hroots, hlisted]

variable {context context' : Context}

/-- Runs in which the modules depend on the same ones give the same lists. -/
theorem sameLists_of_dependsOn (hkeys : ∀ name, modules.hasKey name = modules'.hasKey name)
    (hdepends : ∀ name owner,
      DependsOn context.aliasInherited.2.registry modules name owner ↔
        DependsOn context'.aliasInherited.2.registry modules' name owner)
    (control : List String) (request : Request) :
    SameLists (Resolver.resolve modules request { controlModules := control } context).1
      (Resolver.resolve modules' request { controlModules := control } context').1 := by
  have hroots (name : String) : name ∈ request.roots modules ↔ name ∈ request.roots modules' := by
    unfold Request.roots
    split
    · rw [← Table.hasKey_iff_mem_keys, ← Table.hasKey_iff_mem_keys, hkeys]
    · rfl
  have hmodule (name : String) :
      (∃ module, modules.get? name = some module) ↔ ∃ module, modules'.get? name = some module := by
    rw [← Option.isSome_iff_exists, ← Option.isSome_iff_exists]
    exact iff_of_eq (congrArg (· = true) (hkeys name))
  have hok := Resolver.resolve_ok_iff modules request control context
  have hok' := Resolver.resolve_ok_iff modules' request control context'
  have hsame : (∃ resolution, (Resolver.resolve modules request
        { controlModules := control } context).1 = .ok resolution) ↔
      ∃ resolution, (Resolver.resolve modules' request
        { controlModules := control } context').1 = .ok resolution := by
    rw [hok, hok']
    -- The same modules are required, and the same modules are in the tables.
    constructor
    · intro hall name hrequired
      refine (hmodule name).1 (hall name ?_)
      exact hrequired.of_dependsOn (fun name owner => (hdepends name owner).2)
        fun root => (hroots root).2
    · intro hall name hrequired
      refine (hmodule name).2 (hall name ?_)
      exact hrequired.of_dependsOn (fun name owner => (hdepends name owner).1)
        fun root => (hroots root).1
  cases hfirst : (Resolver.resolve modules request { controlModules := control } context).1 with
  | ok resolution =>
      obtain ⟨resolution', hsecond⟩ := hsame.1 ⟨resolution, hfirst⟩
      rw [hsecond]
      exact (Resolver.answers_of_resolve hfirst).sameLists (Resolver.answers_of_resolve hsecond)
        hroots hdepends
  | error failure =>
      cases hsecond :
          (Resolver.resolve modules' request { controlModules := control } context').1 with
      | ok resolution' =>
          obtain ⟨resolution, hresolution⟩ := hsame.2 ⟨resolution', hsecond⟩
          rw [hfirst] at hresolution
          cases hresolution
      | error failure' => exact trivial

/-- What a module of the table depends on can be read off the list for it alone. -/
theorem exists_resolve_direct {name : String} {module : Module}
    (hmodule : modules.get? name = some module) (control : List String) (context : Context) :
    ∃ resolution names,
      (Resolver.resolve modules { names := [name] } { controlModules := control } context).1 =
        .ok resolution ∧
      resolution.modules.get? name = some names ∧
      ∀ owner, owner ∈ names ↔ DependsOn context.aliasInherited.2.registry modules name owner := by
  obtain ⟨resolution, hresolution⟩ :=
    (Resolver.resolve_ok_iff modules { names := [name] } control context).2 (by
      intro other hrequired
      cases hrequired with
      | root hroot =>
          rw [List.mem_singleton.1 hroot]
          exact ⟨module, hmodule⟩
      | dependency hrecursive => cases hrecursive)
  have hanswers := Resolver.answers_of_resolve hresolution
  obtain ⟨names, hnames⟩ :=
    Option.isSome_iff_exists.1 ((hanswers.hasKey_iff name).2 List.mem_cons_self)
  refine ⟨resolution, names, hresolution, hnames, fun owner => ?_⟩
  rw [hanswers.mem_iff _ _ hnames]
  exact ⟨fun h => h.2, fun h => ⟨h.2.1, h⟩⟩

/-- Two runs with the same module names give the same lists for every request if and only if their
modules depend on the same ones. -/
theorem sameLists_iff (hkeys : ∀ name, modules.hasKey name = modules'.hasKey name) :
    (∀ control request,
      SameLists (Resolver.resolve modules request { controlModules := control } context).1
        (Resolver.resolve modules' request { controlModules := control } context').1) ↔
    ∀ name owner,
      DependsOn context.aliasInherited.2.registry modules name owner ↔
        DependsOn context'.aliasInherited.2.registry modules' name owner := by
  refine ⟨fun hsame name owner => ?_, sameLists_of_dependsOn hkeys⟩
  cases hmodule : modules.get? name with
  | none =>
      have hmodule' : modules'.get? name = none := by
        rw [← Option.isNone_iff_eq_none, ← Option.not_isSome]
        rw [show (modules'.get? name).isSome = (modules.get? name).isSome from (hkeys name).symm,
          hmodule]
        rfl
      simp [DependsOn, hmodule, hmodule']
  | some module =>
      obtain ⟨module', hmodule'⟩ : ∃ module', modules'.get? name = some module' := by
        rw [← Option.isSome_iff_exists]
        exact (hkeys name).symm.trans (Option.isSome_iff_exists.2 ⟨module, hmodule⟩)
      -- The request for this module alone shows what it depends on.
      obtain ⟨resolution, names, hresolve, hnames, hmem⟩ :=
        exists_resolve_direct hmodule [] context
      obtain ⟨resolution', names', hresolve', hnames', hmem'⟩ :=
        exists_resolve_direct hmodule' [] context'
      have hlists := hsame [] { names := [name] }
      rw [hresolve, hresolve'] at hlists
      obtain rfl : names = names' :=
        Option.some.inj (hnames.symm.trans ((hlists.1 name).trans hnames'))
      rw [← hmem, ← hmem']

end Agreement

end ModuleGraph
