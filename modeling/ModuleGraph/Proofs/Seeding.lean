import ModuleGraph.Builtins
import ModuleGraph.Proofs.Definitions

/-!
# A context with the builtin symbols

A run begins in a context in which the symbols of a catalogue are defined and nothing else. What no
step of adding a catalogue loses (`KeptByBuiltins`) holds of that context too: nothing inherits in
it, no symbol is listed twice (`fresh_seeded`), and every symbol is builtin (`owner_seeded`).
-/

namespace ModuleGraph.Context

/-- A property of contexts that no step of adding a catalogue loses. -/
structure KeptByBuiltins (property : Context → Prop) : Prop where
  /-- A record is added to the journal. -/
  log : ∀ {context}, property context → ∀ level message, property (context.log level message)
  /-- A message is surfaced. -/
  warn : ∀ {context}, property context → ∀ message, property (context.warn message)
  /-- A builtin symbol is defined. -/
  define : ∀ {context}, property context → ∀ category name,
    property (context.defineBuiltin category name)
  /-- The catalogue is complete. -/
  loaded : ∀ {context}, property context → property { context with builtinsLoaded := true }

namespace KeptByBuiltins

variable {property : Context → Prop} {context : Context}

/-- Builtin symbols of one category are defined. -/
theorem defineBuiltins (hkept : KeptByBuiltins property) (h : property context)
    (category : Category) (names : List String) :
    property (context.defineBuiltins category names) := by
  unfold Context.defineBuiltins
  induction names generalizing context with
  | nil => exact h
  | cons name rest ih => exact ih (hkept.define h category name)

/-- The providers of a resource type are defined. -/
theorem addProviders (hkept : KeptByBuiltins property) (h : property context) (type : String)
    (providers seen : List String) :
    property (Context.addProviders type providers (seen, context)).2 := by
  induction providers generalizing seen context with
  | nil => exact h
  | cons provider rest ih =>
      unfold Context.addProviders
      dsimp only
      split
      · exact ih (hkept.warn h _) _
      · exact ih (hkept.define h _ _) _

/-- Resource types are defined with their providers. -/
theorem addResourceTypes (hkept : KeptByBuiltins property) (h : property context)
    (types : Table String (List String)) (seen : List String) :
    property (Context.addResourceTypes types (seen, context)).2 := by
  induction types generalizing seen context with
  | nil => exact h
  | cons entry rest ih =>
      obtain ⟨type, providers⟩ := entry
      exact ih (hkept.addProviders (hkept.define h _ _) type providers seen) _

/-- A catalogue is added. -/
theorem addBuiltins (hkept : KeptByBuiltins property) (h : property context)
    (catalogue : Builtins) : property (context.addBuiltins catalogue).2 := by
  unfold Context.addBuiltins
  split
  · exact h
  · have hlogged := hkept.log h .info "Loading built-in types, providers and functions"
    have htypes := hkept.addResourceTypes hlogged catalogue.resourceTypes []
    have hproviders := hkept.defineBuiltins htypes .provider catalogue.providerClasses
    have hdata := hkept.defineBuiltins hproviders .dataType (catalogue.dataTypes.map Text.lower)
    have hlegacy := hkept.defineBuiltins hdata .legacyFunction catalogue.legacyFunctions
    have hfunctions := hkept.defineBuiltins hlegacy .function catalogue.functions
    have haliases := hkept.defineBuiltins hfunctions .typeAlias
      (catalogue.typeAliases.map Text.lower)
    exact hkept.loaded haliases

end KeptByBuiltins

/-- Nothing inherits, and no symbol is listed twice. -/
structure Fresh (context : Context) : Prop where
  /-- No symbol is listed twice. -/
  distinct : context.registry.Distinct
  /-- No class inherits. -/
  inherits : context.inherits = []

/-- A builtin symbol is added to the registry. -/
theorem defineBuiltin_registry (context : Context) (category : Category) (name : String) :
    (context.defineBuiltin category name).registry =
      context.registry.addNew category (normalizeName name) builtinOwner :=
  define_registry ..

/-- A context stays fresh while a catalogue is added. -/
theorem keptByBuiltins_fresh : KeptByBuiltins Fresh where
  log h _ _ := ⟨h.distinct, h.inherits⟩
  warn h _ := ⟨h.distinct, h.inherits⟩
  define {context} h category name :=
    { distinct := by
        rw [defineBuiltin_registry]
        exact h.distinct.addNew _ _ _
      inherits := by
        unfold defineBuiltin
        rw [define_inherits, h.inherits] }
  loaded h := ⟨h.distinct, h.inherits⟩

/-- All symbols are builtin. -/
def AllBuiltin (context : Context) : Prop :=
  ∀ category name owner, context.registry.find? category name = some owner → owner = builtinOwner

/-- All symbols stay builtin while a catalogue is added. -/
theorem keptByBuiltins_allBuiltin : KeptByBuiltins AllBuiltin where
  log h _ _ := h
  warn h _ := h
  define {context} h category name := by
    intro other target owner howner
    rw [defineBuiltin_registry, Registry.find?_addNew, Option.or_eq_some_iff] at howner
    rcases howner with hold | ⟨_, hnew⟩
    · exact h other target owner hold
    · split at hnew
      · exact (Option.some.inj hnew).symm
      · cases hnew
  loaded h := h

/-- The context of a run that has just begun: only builtin symbols are defined. -/
def seeded (catalogue : Builtins) : Context :=
  (({} : Context).addBuiltins catalogue).2

/-- Nothing inherits in the context of a run that has just begun. -/
theorem fresh_seeded (catalogue : Builtins) : (seeded catalogue).Fresh := by
  have hempty : ({} : Context).Fresh := ⟨List.Pairwise.nil, rfl⟩
  exact keptByBuiltins_fresh.addBuiltins hempty catalogue

/-- All symbols of a run that has just begun are builtin. -/
theorem owner_seeded {catalogue : Builtins} {category : Category} {name owner : String}
    (h : (seeded catalogue).registry.find? category name = some owner) : owner = builtinOwner := by
  have hempty : ({} : Context).AllBuiltin := fun _ _ _ howner => by cases howner
  exact keptByBuiltins_allBuiltin.addBuiltins hempty catalogue category name owner h

end ModuleGraph.Context
