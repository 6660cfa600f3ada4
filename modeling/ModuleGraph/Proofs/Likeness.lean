import ModuleGraph.Proofs.Agreement
import ModuleGraph.Proofs.Aliases
import ModuleGraph.Proofs.Deafness

/-!
# Runs that cannot be told apart

Two runs are `RunsAlike` if their symbols have the same owners, before and after inherited variables
get their names, and if they have the same modules as far as resolving can tell. The order in which
symbols, modules and inheritance were learnt may differ.

Such runs give the same answer to every request (`RunsAlike.sameAnswer`). Where the request names
its modules, they even take the same course (`RunsAlike.resolve_eq`): every step has the same
outcome, and the diagnostics of both runs hear the same.
-/

namespace ModuleGraph

/-! ## Registries with the same owners -/

namespace Registry

variable {registry registry' : Registry}

/-- Registries without repetitions that give the same owners have the same entries. -/
theorem Distinct.mem_entries_iff (h : registry.Distinct) (h' : registry'.Distinct)
    (howners : ∀ category name, registry.find? category name = registry'.find? category name)
    {entry : Definition} : entry ∈ registry.entries ↔ entry ∈ registry'.entries := by
  obtain ⟨category, name, owner⟩ := entry
  rw [← h.find?_eq_some, ← h'.find?_eq_some, howners]

/-- A registry without repetitions has no entry twice. -/
theorem Distinct.nodup (h : registry.Distinct) : registry.entries.Nodup := by
  refine List.Pairwise.imp ?_ h
  intro first second hapart heq
  exact hapart ⟨congrArg Definition.category heq, congrArg Definition.name heq⟩

/-- Registries without repetitions that give the same owners have the same size. -/
theorem Distinct.size_eq (h : registry.Distinct) (h' : registry'.Distinct)
    (howners : ∀ category name, registry.find? category name = registry'.find? category name) :
    registry.size = registry'.size := by
  have hperm : registry.entries.Perm registry'.entries :=
    (List.perm_ext_iff_of_nodup h.nodup h'.nodup).2 fun _ => h.mem_entries_iff h' howners
  exact hperm.length_eq

/-- Registries that give the same owners give the same meaning to every reference. -/
theorem lookup_eq_of_owners
    (howners : ∀ category name, registry.find? category name = registry'.find? category name)
    (category : Category) (name : String) :
    registry.lookup category name = registry'.lookup category name :=
  lookup_congr (howners _ _) fun other target _ => howners other target

/-- Which modules a module depends on follows from what its references mean. -/
theorem directDependencies_congr
    (hlookup : ∀ category name, registry.lookup category name = registry'.lookup category name)
    {module module' : Module}
    (hitems : module.dependencies.items = module'.dependencies.items) (name : String) :
    registry.directDependencies name module = registry'.directDependencies name module' := by
  unfold directDependencies ownersOf
  rw [hitems]
  simp only [hlookup]

end Registry

/-! ## What definitions say -/

/-- What is said when a module defines a symbol whose name has no top scope marker. -/
def Registry.definitionSayings (registry : Registry) (category : Category) (name source : String)
    (allowRepeated : Bool) : List Saying :=
  match registry.find? category name with
  | none => []
  | some owner =>
    if allowRepeated then []
    else [.report (.duplicateDefinition category name source)
      (category.label ++ " " ++ name ++ " (" ++ source ++ "): Already defined in " ++ owner)]

/-- A symbol that may be repeated is defined without a word. -/
@[simp] theorem Registry.definitionSayings_repeated (registry : Registry) (category : Category)
    (name source : String) : registry.definitionSayings category name source true = [] := by
  unfold definitionSayings
  split <;> rfl

/-- A new symbol is defined without a word. -/
theorem Registry.definitionSayings_new {registry : Registry} {category : Category} {name : String}
    (h : registry.find? category name = none) (source : String) (allowRepeated : Bool) :
    registry.definitionSayings category name source allowRepeated = [] := by
  simp only [definitionSayings, h]

namespace Context

/-- A definition is heard. -/
theorem hears_define (context : Context) (category : Category) (name source : String)
    (allowRepeated : Bool) :
    context.diagnostics.Hears
      (context.registry.definitionSayings category (normalizeName name) source allowRepeated)
      (context.define category name source allowRepeated).2.diagnostics := by
  have hnote := context.diagnostics.hears_log .debug
    ("Adding " ++ category.label ++ " definition " ++ normalizeName name ++ " from " ++ source)
  unfold Registry.definitionSayings
  cases hfind : context.registry.find? category (normalizeName name) with
  | none =>
      simp only [define, noteDefinition_registry, hfind]
      exact hnote
  | some owner =>
      cases allowRepeated with
      | true =>
          simp only [define, noteDefinition_registry, hfind, if_true]
          exact hnote
      | false =>
          simp only [define, noteDefinition_registry, hfind, Bool.false_eq_true, if_false]
          exact hnote.append (Diagnostics.hears_report _ _ _)

/-- Naming the variables of a parent class says nothing. -/
theorem hears_aliasVariables (child parent : String) (owned : List (String × String))
    (count : Nat) (context : Context) :
    context.diagnostics.Hears []
      (aliasVariables child parent owned (count, context)).2.diagnostics := by
  induction owned generalizing count context with
  | nil => exact context.diagnostics.hears_nil
  | cons entry rest ih =>
      obtain ⟨variableName, owner⟩ := entry
      simp only [aliasVariables]
      cases inheritedName? parent variableName with
      | none => exact ih count context
      | some name =>
          have hdefine := context.hears_define .classVariable (child ++ "::" ++ name) owner true
          rw [Registry.definitionSayings_repeated] at hdefine
          exact hdefine.append (ih _ _)

/-- Naming inherited variables says nothing. -/
theorem hears_aliasInherited (context : Context) :
    context.diagnostics.Hears [] context.aliasInherited.2.diagnostics := by
  have hedges (owned : List (String × String)) (edges : Table String String)
      (state : Nat × Context) :
      state.2.diagnostics.Hears [] (aliasEdges owned edges state).2.diagnostics := by
    induction edges generalizing state with
    | nil => exact state.2.diagnostics.hears_nil
    | cons edge rest ih =>
        exact (hears_aliasVariables edge.1 edge.2 owned state.1 state.2).append (ih _)
  exact hedges _ _ (0, context)

end Context

/-! ## Two contexts on the same course -/

/-- Two contexts keep their registries, and their diagnostics hear the same. -/
structure SameCourse (first second first' second' : Context) : Prop where
  /-- The first registry stays. -/
  registry : first'.registry = first.registry
  /-- The second registry stays. -/
  registry' : second'.registry = second.registry
  /-- The same is said in both. -/
  hears : ∃ sayings, first.diagnostics.Hears sayings first'.diagnostics ∧
    second.diagnostics.Hears sayings second'.diagnostics

namespace SameCourse

variable {first second first' second' first'' second'' : Context}

/-- Nothing happens. -/
theorem refl (first second : Context) : SameCourse first second first second :=
  ⟨rfl, rfl, [], first.diagnostics.hears_nil, second.diagnostics.hears_nil⟩

/-- One thing happens after another. -/
theorem trans (h : SameCourse first second first' second')
    (h' : SameCourse first' second' first'' second'') :
    SameCourse first second first'' second'' where
  registry := h'.registry.trans h.registry
  registry' := h'.registry'.trans h.registry'
  hears := by
    obtain ⟨sayings, hheard, hheard'⟩ := h.hears
    obtain ⟨more, hmore, hmore'⟩ := h'.hears
    exact ⟨sayings ++ more, hheard.append hmore, hheard'.append hmore'⟩

/-- References mean the same in both contexts at the end if they did at the start. -/
theorem lookup_eq (h : SameCourse first second first' second')
    (hlookup : ∀ category name,
      first.registry.lookup category name = second.registry.lookup category name)
    (category : Category) (name : String) :
    first'.registry.lookup category name = second'.registry.lookup category name := by
  rw [h.registry, h.registry', hlookup]

/-- Both journals get a record. -/
theorem log (first second : Context) (level : Level) (message message' : String) :
    SameCourse first second (first.log level message) (second.log level message') :=
  ⟨rfl, rfl, [], Diagnostics.hears_log _ _ _, Diagnostics.hears_log _ _ _⟩

end SameCourse

namespace Context

/-- A reference that something defines is resolved without a word. -/
theorem hears_resolveEntry_of_some {context : Context} {entry : Dependency} {found : Match}
    (h : context.registry.lookup entry.category entry.name = some found) :
    context.diagnostics.Hears [] (context.resolveEntry entry).2.diagnostics := by
  obtain ⟨owner, instead⟩ := found
  cases instead with
  | none =>
      simp only [resolveEntry, lookup, h]
      exact Diagnostics.hears_log _ _ _
  | some target =>
      simp only [resolveEntry, lookup, h]
      exact (Diagnostics.hears_log _ _ _).append (Diagnostics.hears_log _ _ _)

section Course

variable {first second : Context}

/-- A reference is resolved in both contexts. -/
theorem sameCourse_resolveEntry
    (hlookup : ∀ category name,
      first.registry.lookup category name = second.registry.lookup category name)
    (entry : Dependency) :
    SameCourse first second (first.resolveEntry entry).2 (second.resolveEntry entry).2 where
  registry := first.resolveEntry_registry entry
  registry' := second.resolveEntry_registry entry
  hears := by
    have hsame := hlookup entry.category entry.name
    cases hfound : first.registry.lookup entry.category entry.name with
    | none =>
        exact ⟨_, hears_resolveEntry hfound, hears_resolveEntry (hsame.symm.trans hfound)⟩
    | some found =>
        exact ⟨_, hears_resolveEntry_of_some hfound,
          hears_resolveEntry_of_some (hsame.symm.trans hfound)⟩

/-- References are resolved in both contexts. -/
theorem sameCourse_resolveEntries
    (hlookup : ∀ category name,
      first.registry.lookup category name = second.registry.lookup category name)
    (entries : List Dependency) :
    SameCourse first second (resolveEntries entries first).2 (resolveEntries entries second).2 := by
  induction entries generalizing first second with
  | nil => exact .refl first second
  | cons entry rest ih =>
      have hentry := sameCourse_resolveEntry hlookup entry
      exact hentry.trans (ih (hentry.lookup_eq hlookup))

/-- Modules that are alike are checked for control modules in both contexts. -/
theorem sameCourse_checkControl (first second : Context) {module module' : Module}
    (hname : module.name = module'.name) (hcontrol : module.controlRepo = module'.controlRepo)
    (controlModules dependencies : List String) :
    SameCourse first second (first.checkControl controlModules module dependencies)
      (second.checkControl controlModules module' dependencies) := by
  simp only [checkControl, hname, hcontrol, reportControl]
  split
  · exact .refl first second
  · split
    · exact .refl first second
    · exact ⟨rfl, rfl, _, Diagnostics.hears_report _ _ _, Diagnostics.hears_report _ _ _⟩

end Course

end Context

/-! ## Modules that are alike -/

/-- Resolving cannot tell two modules apart. -/
structure Module.Alike (first second : Module) : Prop where
  /-- They have the same name. -/
  name : first.name = second.name
  /-- Both or none are control repositories. -/
  controlRepo : first.controlRepo = second.controlRepo
  /-- They have the same references. -/
  items : first.dependencies.items = second.dependencies.items

/-- A module is like itself. -/
theorem Module.Alike.refl (module : Module) : module.Alike module :=
  ⟨rfl, rfl, rfl⟩

/-- Two names both have no module, or have modules that are alike. -/
theorem Module.alike_cases {found found' : Option Module} (h : Option.Rel Alike found found') :
    (found = none ∧ found' = none) ∨
      ∃ module module', found = some module ∧ found' = some module' ∧ module.Alike module' := by
  cases h with
  | none => exact Or.inl ⟨rfl, rfl⟩
  | some halike => exact Or.inr ⟨_, _, rfl, rfl, halike⟩

/-- Modules that are alike are resolved in both contexts. -/
theorem Context.sameCourse_resolveDirect {first second : Context}
    (hlookup : ∀ category name,
      first.registry.lookup category name = second.registry.lookup category name)
    {module module' : Module} (hmodule : module.Alike module') (controlModules : List String)
    (name : String) :
    SameCourse first second (first.resolveDirect controlModules name module).2
      (second.resolveDirect controlModules name module').2 := by
  have hdirect := Registry.directDependencies_congr hlookup hmodule.items name
  have hvalue := first.resolveDirect_fst controlModules name module
  have hvalue' := second.resolveDirect_fst controlModules name module'
  simp only [resolveDirect] at hvalue hvalue' ⊢
  rw [hvalue, hvalue', hdirect, hmodule.items]
  have hstart := SameCourse.log first second .info ("Resolving module " ++ name)
    ("Resolving module " ++ name)
  have hentries := sameCourse_resolveEntries (hstart.lookup_eq hlookup) module'.dependencies.items
  have hcontrol := sameCourse_checkControl
    (resolveEntries module'.dependencies.items
      (first.log .info ("Resolving module " ++ name))).2
    (resolveEntries module'.dependencies.items
      (second.log .info ("Resolving module " ++ name))).2
    hmodule.name hmodule.controlRepo controlModules
    (second.registry.directDependencies name module')
  exact ((hstart.trans hentries).trans hcontrol).trans (.log _ _ _ _ _)

namespace Resolver

section Course

variable {first second : Context} {modules modules' : Table String Module}

/-- Resolving a module has the same outcome in both runs. -/
theorem resolveModule_alike
    (hlookup : ∀ category name,
      first.registry.lookup category name = second.registry.lookup category name)
    (hmodules : ∀ name, Option.Rel Module.Alike (modules.get? name) (modules'.get? name))
    (resolver : Resolver) (name : String) :
    ∃ outcome next first' second',
      resolver.resolveModule modules name first = (outcome, next, first') ∧
      resolver.resolveModule modules' name second = (outcome, next, second') ∧
      SameCourse first second first' second' := by
  unfold resolveModule
  cases resolver.direct.get? name with
  | some dependencies => exact ⟨_, _, _, _, rfl, rfl, .refl first second⟩
  | none =>
      rcases Module.alike_cases (hmodules name) with
        ⟨hfound, hfound'⟩ | ⟨module, module', hfound, hfound', halike⟩
      · rw [hfound, hfound']
        exact ⟨_, _, _, _, rfl, rfl, .refl first second⟩
      · have hvalue := first.resolveDirect_fst resolver.controlModules name module
        have hvalue' := second.resolveDirect_fst resolver.controlModules name module'
        rw [← Registry.directDependencies_congr hlookup halike.items name] at hvalue'
        rw [hfound, hfound']
        dsimp only
        rw [hvalue, hvalue']
        exact ⟨_, _, _, _, rfl, rfl,
          Context.sameCourse_resolveDirect hlookup halike resolver.controlModules name⟩

/-- Exploring has the same outcome in both runs. -/
theorem explore_alike
    (hlookup : ∀ category name,
      first.registry.lookup category name = second.registry.lookup category name)
    (hmodules : ∀ name, Option.Rel Module.Alike (modules.get? name) (modules'.get? name))
    (recursive : Bool) (steps : Nat) (queue queued : List String) (resolver : Resolver) :
    ∃ outcome next first' second',
      explore modules recursive steps queue queued resolver first = (outcome, next, first') ∧
      explore modules' recursive steps queue queued resolver second = (outcome, next, second') ∧
      SameCourse first second first' second' := by
  induction steps generalizing queue queued resolver first second with
  | zero => exact ⟨_, _, _, _, rfl, rfl, .refl first second⟩
  | succ steps ih =>
      cases queue with
      | nil => exact ⟨_, _, _, _, rfl, rfl, .refl first second⟩
      | cons name queue =>
          obtain ⟨outcome, next, first', second', hfirst, hsecond, hcourse⟩ :=
            resolveModule_alike hlookup hmodules resolver name
          cases outcome with
          | error failure =>
              refine ⟨.error failure, next, first', second', ?_, ?_, hcourse⟩
              · simp only [explore, hfirst]
              · simp only [explore, hsecond]
          | ok dependencies =>
              obtain ⟨outcome, last, first'', second'', hrest, hrest', hcourse'⟩ :=
                ih (hcourse.lookup_eq hlookup)
                  (queue ++ reachedFrom recursive next.controlModules queued dependencies)
                  (queued ++ reachedFrom recursive next.controlModules queued dependencies) next
              refine ⟨outcome, last, first'', second'', ?_, ?_, hcourse.trans hcourse'⟩
              · rw [explore_cons hfirst rfl, hrest]
              · rw [explore_cons hsecond rfl, hrest']

end Course

end Resolver

/-! ## Runs that are alike -/

/-- Resolving cannot tell two runs apart. -/
structure RunsAlike (first second : Context × Table String Module) : Prop where
  /-- The first run lists no symbol twice. -/
  distinct : first.1.registry.Distinct
  /-- The second run lists no symbol twice. -/
  distinct' : second.1.registry.Distinct
  /-- Every symbol has the same owner. -/
  owners : ∀ category name,
    first.1.registry.find? category name = second.1.registry.find? category name
  /-- Every inherited variable has the same owner. -/
  aliases : ∀ name,
    Table.get? (Context.aliasesOf (first.1.registry.ofCategory .classVariable) first.1.inherits)
        name =
      Table.get? (Context.aliasesOf (second.1.registry.ofCategory .classVariable)
        second.1.inherits) name
  /-- Every name has the same module. -/
  modules : ∀ name, Option.Rel Module.Alike (first.2.get? name) (second.2.get? name)

/-- Two outcomes of resolving: the same lists, or in both a module is missing. -/
inductive SameAnswer : Except Failure Resolution → Except Failure Resolution → Prop
  | lists {first second : Resolution}
      (hmodules : ∀ name, first.modules.get? name = second.modules.get? name)
      (hcombined : first.dependencies = second.dependencies) :
      SameAnswer (.ok first) (.ok second)
  | missing (name name' : String) :
      SameAnswer (.error (.unknownModule name)) (.error (.unknownModule name'))

namespace RunsAlike

variable {first second : Context × Table String Module}

/-- Every symbol has the same owner after inherited variables were named. -/
theorem find?_aliasInherited (h : RunsAlike first second) (category : Category) (name : String) :
    first.1.aliasInherited.2.registry.find? category name =
      second.1.aliasInherited.2.registry.find? category name := by
  rw [Context.find?_aliasInherited, Context.find?_aliasInherited, h.owners, h.aliases]

/-- Both registries have the same size after inherited variables were named. -/
theorem size_aliasInherited (h : RunsAlike first second) :
    first.1.aliasInherited.2.registry.size = second.1.aliasInherited.2.registry.size := by
  refine Registry.Distinct.size_eq ?_ ?_ h.find?_aliasInherited
  · rw [Context.aliasInherited_registry]
    exact h.distinct.addAll _ _
  · rw [Context.aliasInherited_registry]
    exact h.distinct'.addAll _ _

/-- Both runs have modules of the same names. -/
theorem hasKey_eq (h : RunsAlike first second) (name : String) :
    first.2.hasKey name = second.2.hasKey name := by
  unfold Table.hasKey
  rcases Module.alike_cases (h.modules name) with ⟨hfound, hfound'⟩ | ⟨_, _, hfound, hfound', _⟩
  · rw [hfound, hfound']
  · rw [hfound, hfound']
    rfl

/-- A module depends on the same modules in both runs. -/
theorem dependsOn_iff (h : RunsAlike first second) (name owner : String) :
    DependsOn first.1.aliasInherited.2.registry first.2 name owner ↔
      DependsOn second.1.aliasInherited.2.registry second.2 name owner := by
  have hlookup := Registry.lookup_eq_of_owners h.find?_aliasInherited
  rcases Module.alike_cases (h.modules name) with
    ⟨hfound, hfound'⟩ | ⟨module, module', hfound, hfound', halike⟩
  · simp [DependsOn, hfound, hfound']
  · rw [← Registry.mem_directDependencies hfound, ← Registry.mem_directDependencies hfound',
      Registry.directDependencies_congr hlookup halike.items]

/-- Both runs give the same answer to every request. -/
theorem sameAnswer (h : RunsAlike first second) (control : List String) (request : Request) :
    SameAnswer (Resolver.resolve first.2 request { controlModules := control } first.1).1
      (Resolver.resolve second.2 request { controlModules := control } second.1).1 := by
  have hlists := sameLists_of_dependsOn h.hasKey_eq h.dependsOn_iff control request
  rcases Resolver.resolve_cases first.2 request control first.1 with
    ⟨_, _, _, _, hok⟩ | ⟨name, herror, _⟩
  · rcases Resolver.resolve_cases second.2 request control second.1 with
      ⟨_, _, _, _, hok'⟩ | ⟨name', herror', _⟩
    · rw [hok, hok'] at hlists ⊢
      exact .lists hlists.1 hlists.2
    · rw [hok, herror'] at hlists
      exact absurd hlists id
  · rcases Resolver.resolve_cases second.2 request control second.1 with
      ⟨_, _, _, _, hok'⟩ | ⟨name', herror', _⟩
    · rw [herror, hok'] at hlists
      exact absurd hlists id
    · rw [herror, herror']
      exact .missing name name'

/-- Both runs take the same course where the request names its modules: the outcome and what the
resolver keeps are the same, symbols have the same owners, and the diagnostics hear the same. -/
theorem resolve_eq (h : RunsAlike first second) {request : Request} (hnames : request.names ≠ [])
    (resolver : Resolver) :
    ∃ outcome next first' second',
      resolver.resolve first.2 request first.1 = (outcome, next, first') ∧
      resolver.resolve second.2 request second.1 = (outcome, next, second') ∧
      (∀ category name,
        first'.registry.find? category name = second'.registry.find? category name) ∧
      ∃ sayings, first.1.diagnostics.Hears sayings first'.diagnostics ∧
        second.1.diagnostics.Hears sayings second'.diagnostics := by
  have hempty : request.names.isEmpty = false := by
    cases hrequest : request.names with
    | nil => exact absurd hrequest hnames
    | cons name rest => rfl
  -- The start of the journal is no part of what is compared.
  have hstarted (context : Context) :
      (context.log .info "Resolving dependencies").aliasInherited.2.registry =
        context.aliasInherited.2.registry :=
    context.aliasInherited_log_registry _ _
  have howners (category : Category) (name : String) :
      (first.1.log .info "Resolving dependencies").aliasInherited.2.registry.find? category name =
        (second.1.log .info "Resolving dependencies").aliasInherited.2.registry.find? category
          name := by
    rw [hstarted, hstarted, h.find?_aliasInherited]
  have hheard (context : Context) : context.diagnostics.Hears []
      (context.log .info "Resolving dependencies").aliasInherited.2.diagnostics :=
    (context.diagnostics.hears_log .info "Resolving dependencies").append
      (context.log .info "Resolving dependencies").hears_aliasInherited
  obtain ⟨outcome, next, first', second', hfirst, hsecond, hcourse⟩ :=
    Resolver.explore_alike (Registry.lookup_eq_of_owners howners) h.modules request.recursive
      (request.names.length + second.1.aliasInherited.2.registry.size + resolver.edgeCount + 1)
      request.names request.names resolver
  refine ⟨outcome.map fun _ => next.collect request request.names, next, first', second', ?_, ?_,
    ?_, ?_⟩
  · rw [Resolver.resolve_eq_finish]
    simp only [hempty, Bool.false_eq_true, if_false, hstarted, h.size_aliasInherited, hfirst]
    rfl
  · rw [Resolver.resolve_eq_finish]
    simp only [hempty, Bool.false_eq_true, if_false, hstarted, hsecond]
    rfl
  · intro category name
    rw [hcourse.registry, hcourse.registry', howners]
  · obtain ⟨sayings, hsaid, hsaid'⟩ := hcourse.hears
    exact ⟨sayings, (hheard first.1).append hsaid, (hheard second.1).append hsaid'⟩

end RunsAlike

end ModuleGraph
