import ModuleGraph.Builtins
import ModuleGraph.Proofs.DirectDependencies
import ModuleGraph.Proofs.Sayings
import ModuleGraph.Proofs.Scanning

/-!
# Steps that do not listen

A step `Says` what it has to say without listening to the diagnostics: started in states that
differ in their diagnostics only, it ends in outcomes that differ in their diagnostics only, and
the diagnostics hear the same sayings. Such steps compose, and every step of the analysis is one of
them. In particular no step depends on which warnings are known.
-/

namespace ModuleGraph

/-! ## Steps and their composition -/

section Steps

variable {σ τ υ ι κ α : Type}

/-- From states that differ in their diagnostics, a step leads to outcomes that differ in their
diagnostics, and the diagnostics hear the same, with the given remarks among it. -/
def Says (step : σ → τ) (before : Diagnostics → σ) (remarks : List String)
    (after : Diagnostics → τ) : Prop :=
  ∃ sayings : List Saying, sayings.filterMap Saying.remark? = remarks ∧
    ∀ diagnostics, ∃ heard, step (before diagnostics) = after heard ∧
      diagnostics.Hears sayings heard

/-- A step that leaves the diagnostics as they are says nothing. -/
theorem says_nothing_of_eq {step : σ → τ} {before : Diagnostics → σ} {after : Diagnostics → τ}
    (h : ∀ diagnostics, step (before diagnostics) = after diagnostics) :
    Says step before [] after :=
  ⟨[], rfl, fun diagnostics => ⟨diagnostics, h diagnostics, diagnostics.hears_nil⟩⟩

/-- A step that does not touch the diagnostics says nothing. -/
theorem says_nothing (step : σ → τ) (before : Diagnostics → σ) :
    Says step before [] fun diagnostics => step (before diagnostics) :=
  says_nothing_of_eq fun _ => rfl

/-- A step says what another one does, if it leads where the other one leads it. -/
theorem Says.transfer {step : σ → τ} {other : ι → κ} {before : Diagnostics → σ}
    {before' : Diagnostics → ι} {remarks : List String} {after : Diagnostics → τ}
    {after' : Diagnostics → κ} (h : Says step before remarks after)
    (hleads : ∀ diagnostics heard, step (before diagnostics) = after heard →
      other (before' diagnostics) = after' heard) : Says other before' remarks after' := by
  obtain ⟨sayings, hremarks, hsaid⟩ := h
  refine ⟨sayings, hremarks, fun diagnostics => ?_⟩
  obtain ⟨heard, hstep, hhears⟩ := hsaid diagnostics
  exact ⟨heard, hleads diagnostics heard hstep, hhears⟩

/-- One step says what another one does, if both lead to the same. -/
theorem Says.congr {step other : σ → τ} {before : Diagnostics → σ} {remarks : List String}
    {after : Diagnostics → τ} (h : Says step before remarks after)
    (heq : ∀ diagnostics, other (before diagnostics) = step (before diagnostics)) :
    Says other before remarks after :=
  h.transfer fun diagnostics _ hstep => (heq diagnostics).trans hstep

/-- A step says what two others do, if it goes on with the second where the first one leads. -/
theorem Says.seq {first : σ → τ} {second : κ → υ} {other : σ → υ} {before : Diagnostics → σ}
    {between : Diagnostics → τ} {between' : Diagnostics → κ} {after : Diagnostics → υ}
    {remarks more : List String} (hfirst : Says first before remarks between)
    (hsecond : Says second between' more after)
    (hleads : ∀ diagnostics heard, first (before diagnostics) = between heard →
      other (before diagnostics) = second (between' heard)) :
    Says other before (remarks ++ more) after := by
  obtain ⟨sayings, hremarks, hsaid⟩ := hfirst
  obtain ⟨others, hmore, hothers⟩ := hsecond
  refine ⟨sayings ++ others, by rw [List.filterMap_append, hremarks, hmore], ?_⟩
  intro diagnostics
  obtain ⟨heard, hstep, hhears⟩ := hsaid diagnostics
  obtain ⟨heard', hstep', hhears'⟩ := hothers heard
  exact ⟨heard', (hleads diagnostics heard hstep).trans hstep', hhears.append hhears'⟩

/-- One step after another says what both say. -/
theorem Says.comp {first : σ → τ} {second : τ → υ} {before : Diagnostics → σ}
    {between : Diagnostics → τ} {after : Diagnostics → υ} {remarks more : List String}
    (hfirst : Says first before remarks between) (hsecond : Says second between more after) :
    Says (fun state => second (first state)) before (remarks ++ more) after :=
  hfirst.seq hsecond fun _ _ hstep => congrArg second hstep

/-- Changing an outcome says nothing more. -/
theorem Says.map {step : σ → τ} {before : Diagnostics → σ} {remarks : List String}
    {after : Diagnostics → τ} (h : Says step before remarks after) (change : τ → υ) :
    Says (fun state => change (step state)) before remarks
      fun diagnostics => change (after diagnostics) := by
  simpa using h.comp (says_nothing change after)

/-- One step continues with the value that another one returns. -/
theorem Says.bind {first : σ → α × τ} {before : Diagnostics → σ} {value : α}
    {between : Diagnostics → τ} {after : Diagnostics → υ} {remarks more : List String}
    (hfirst : Says first before remarks fun diagnostics => (value, between diagnostics))
    (second : α → τ → υ) (hsecond : Says (second value) between more after) :
    Says (fun state => second (first state).1 (first state).2) before (remarks ++ more) after := by
  refine hfirst.seq hsecond fun diagnostics heard hstep => ?_
  simp only [hstep]

/-- A loop says what its rounds say, in order. -/
theorem says_foldl {round : σ → ι → σ} {state : κ → Diagnostics → σ} {remarks : ι → List String}
    (h : ∀ before item, ∃ after,
      Says (fun s => round s item) (state before) (remarks item) (state after))
    (items : List ι) (before : κ) :
    ∃ after, Says (fun s => items.foldl round s) (state before) (items.flatMap remarks)
      (state after) := by
  induction items generalizing before with
  | nil => exact ⟨before, says_nothing _ _⟩
  | cons item rest ih =>
      obtain ⟨between, hfirst⟩ := h before item
      obtain ⟨after, hrest⟩ := ih between
      exact ⟨after, hfirst.comp hrest⟩

/-- A loop of rounds without remarks makes none. -/
theorem says_foldl_nothing {round : σ → ι → σ} {state : κ → Diagnostics → σ}
    (h : ∀ before item, ∃ after, Says (fun s => round s item) (state before) [] (state after))
    (items : List ι) (before : κ) :
    ∃ after, Says (fun s => items.foldl round s) (state before) [] (state after) := by
  obtain ⟨after, hsaid⟩ := says_foldl h items before
  rw [List.flatMap_eq_nil_iff.2 fun _ _ => rfl] at hsaid
  exact ⟨after, hsaid⟩

/-- One step after another fails where the first does. -/
theorem says_runFrom_error {ε β : Type} {step : ExceptT ε (StateM σ) α}
    {next : α → ExceptT ε (StateM σ) β} {before between : Diagnostics → σ} {failure : ε}
    {remarks : List String}
    (h : Says (runFrom step) before remarks fun diagnostics =>
      (.error failure, between diagnostics)) :
    Says (runFrom (step >>= next)) before remarks fun diagnostics =>
      (.error failure, between diagnostics) := by
  refine h.transfer fun diagnostics heard hstep => ?_
  rw [runFrom_bind, hstep]

/-- One step that can fail continues with the value that another one returns. -/
theorem says_runFrom_bind {ε β : Type} {step : ExceptT ε (StateM σ) α}
    {next : α → ExceptT ε (StateM σ) β} {before between : Diagnostics → σ} {value : α}
    {after : Diagnostics → Except ε β × σ} {remarks more : List String}
    (hstep : Says (runFrom step) before remarks fun diagnostics => (.ok value, between diagnostics))
    (hnext : Says (runFrom (next value)) between more after) :
    Says (runFrom (step >>= next)) before (remarks ++ more) after := by
  refine hstep.seq hnext fun diagnostics heard hrun => ?_
  rw [runFrom_bind, hrun]

end Steps

namespace Context

/-- The context with other diagnostics. -/
def hearing (context : Context) (diagnostics : Diagnostics) : Context :=
  { context with diagnostics }

/-! ## Definitions -/

/-- The journal says nothing. -/
theorem says_log (context : Context) (level : Level) (message : String) :
    Says (fun c : Context => c.log level message) context.hearing [] context.hearing :=
  ⟨[], rfl, fun diagnostics => ⟨_, rfl, diagnostics.hears_log level message⟩⟩

/-- A message is a remark. -/
theorem says_warn (context : Context) (message : String) :
    Says (fun c : Context => c.warn message) context.hearing [message] context.hearing :=
  ⟨[.remark message], rfl, fun diagnostics => ⟨_, rfl, diagnostics.hears_warn message⟩⟩

/-- A reported warning is no remark. -/
theorem says_report (context : Context) (warning : Warning) (message : String) :
    Says (fun c : Context => c.report warning message) context.hearing [] context.hearing :=
  ⟨[.report warning message], rfl,
    fun diagnostics => ⟨_, rfl, diagnostics.hears_report warning message⟩⟩

/-- Whether a module becomes the owner of a symbol does not depend on the diagnostics. -/
theorem says_define (context : Context) (category : Category) (name source : String)
    (allowRepeated : Bool) :
    ∃ (added : Bool) (after : Context),
      Says (fun c : Context => c.define category name source allowRepeated) context.hearing []
        fun diagnostics => (added, after.hearing diagnostics) := by
  have hnote := context.says_log .debug ("Adding " ++ category.label ++ " definition " ++
    normalizeName name ++ " from " ++ source)
  cases hfind : context.registry.find? category (normalizeName name) with
  | none =>
      refine ⟨true, { context with
        registry := context.registry.add category (normalizeName name) source }, ?_⟩
      refine (hnote.map fun c => (true, { c with
        registry := c.registry.add category (normalizeName name) source })).congr ?_
      intro diagnostics
      simp only [define, noteDefinition, log, hearing, hfind]
  | some owner =>
      refine ⟨false, context, ?_⟩
      cases allowRepeated with
      | true =>
          refine (hnote.map fun c => (false, c)).congr fun diagnostics => ?_
          simp only [define, noteDefinition, log, hearing, hfind]
          rfl
      | false =>
          have hreport := context.says_report
            (.duplicateDefinition category (normalizeName name) source)
            (category.label ++ " " ++ normalizeName name ++ " (" ++ source ++
              "): Already defined in " ++ owner)
          refine ((hnote.comp hreport).map fun c => (false, c)).congr fun diagnostics => ?_
          simp only [define, noteDefinition, log, hearing, hfind]
          rfl

/-- What a definition leaves does not depend on the diagnostics. -/
theorem says_define_snd (context : Context) (category : Category) (name source : String)
    (allowRepeated : Bool) :
    ∃ after : Context, Says (fun c : Context => (c.define category name source allowRepeated).2)
      context.hearing [] after.hearing := by
  obtain ⟨_, after, hsaid⟩ := context.says_define category name source allowRepeated
  exact ⟨after, hsaid.map Prod.snd⟩

/-! ## Builtin symbols -/

/-- Defining builtin symbols makes no remark. -/
theorem says_defineBuiltins (category : Category) (names : List String) (context : Context) :
    ∃ after : Context, Says (fun c : Context => c.defineBuiltins category names) context.hearing []
      after.hearing :=
  says_foldl_nothing
    (fun (before : Context) name => before.says_define_snd category name builtinOwner false)
    names context

end Context

namespace Builtins

/-- The names that stand in a list again or were seen before, and all names seen then. -/
def sift : List String → List String → List String × List String
  | seen, [] => ([], seen)
  | seen, name :: rest =>
    if name ∈ seen then
      let (repeated, seen) := sift seen rest
      (name :: repeated, seen)
    else sift (name :: seen) rest

/-- Sifting two lists is sifting one after the other. -/
theorem sift_append (seen first second : List String) :
    sift seen (first ++ second) =
      ((sift seen first).1 ++ (sift (sift seen first).2 second).1,
        (sift (sift seen first).2 second).2) := by
  induction first generalizing seen with
  | nil => rfl
  | cons name rest ih =>
      by_cases hseen : name ∈ seen
      · simp [sift, hseen, ih]
      · simp [sift, hseen, ih]

/-- The names of the providers of a resource type. -/
def namesOf (entry : String × List String) : List String :=
  entry.2.map fun provider => entry.1 ++ "/" ++ provider

/-- The message about a provider that is listed again. -/
def repeatedMessage (name : String) : String :=
  "Found duplicate provider " ++ name

/-- What is remarked about the providers of a catalogue. -/
def remarks (catalogue : Builtins) : List String :=
  (sift [] (catalogue.resourceTypes.flatMap namesOf)).1.map repeatedMessage

end Builtins

namespace Context

open Builtins (sift namesOf repeatedMessage)

/-- Adding providers remarks on those that are listed again. -/
theorem says_addProviders (type : String) (providers seen : List String) (context : Context) :
    ∃ after : Context, Says (fun c : Context => addProviders type providers (seen, c))
      context.hearing ((sift seen (namesOf (type, providers))).1.map repeatedMessage)
      fun diagnostics =>
        ((sift seen (namesOf (type, providers))).2, after.hearing diagnostics) := by
  induction providers generalizing seen context with
  | nil => exact ⟨context, says_nothing _ _⟩
  | cons provider rest ih =>
      by_cases hseen : type ++ "/" ++ provider ∈ seen
      · obtain ⟨after, hrest⟩ := ih seen context
        have hwarn := context.says_warn (repeatedMessage (type ++ "/" ++ provider))
        have hsift : sift seen (namesOf (type, provider :: rest)) =
            ((type ++ "/" ++ provider) :: (sift seen (namesOf (type, rest))).1,
              (sift seen (namesOf (type, rest))).2) := if_pos hseen
        rw [hsift]
        refine ⟨after, (hwarn.comp hrest).congr fun diagnostics => ?_⟩
        simp only [addProviders, hseen, if_true]
        rfl
      · obtain ⟨between, hdefine⟩ :=
          context.says_define_snd .provider (type ++ "/" ++ provider) builtinOwner false
        obtain ⟨after, hrest⟩ := ih ((type ++ "/" ++ provider) :: seen) between
        have hsift : sift seen (namesOf (type, provider :: rest)) =
            sift ((type ++ "/" ++ provider) :: seen) (namesOf (type, rest)) := if_neg hseen
        rw [hsift]
        refine ⟨after, (hdefine.comp hrest).congr fun diagnostics => ?_⟩
        simp only [addProviders, hseen, if_false]
        rfl

/-- Adding resource types remarks on providers that are listed again. -/
theorem says_addResourceTypes (types : Table String (List String)) (seen : List String)
    (context : Context) :
    ∃ after : Context, Says (fun c : Context => (addResourceTypes types (seen, c)).2)
      context.hearing ((sift seen (types.flatMap namesOf)).1.map repeatedMessage)
      after.hearing := by
  induction types generalizing seen context with
  | nil => exact ⟨context, says_nothing _ _⟩
  | cons entry rest ih =>
      obtain ⟨type, providers⟩ := entry
      obtain ⟨defined, hdefine⟩ := context.says_define_snd .resourceType type builtinOwner false
      obtain ⟨between, hproviders⟩ := says_addProviders type providers seen defined
      obtain ⟨after, hrest⟩ := ih (sift seen (namesOf (type, providers))).2 between
      rw [List.flatMap_cons, Builtins.sift_append, List.map_append]
      exact ⟨after, hdefine.comp
        (hproviders.bind (fun seen c => (addResourceTypes rest (seen, c)).2) hrest)⟩

/-- Adding a catalogue remarks on the providers that it lists again, unless one was added
before. -/
theorem says_addBuiltins (catalogue : Builtins) (context : Context) :
    ∃ (count : Nat) (after : Context), Says (fun c : Context => c.addBuiltins catalogue)
      context.hearing (if context.builtinsLoaded then [] else catalogue.remarks)
      fun diagnostics => (count, after.hearing diagnostics) := by
  cases hloaded : context.builtinsLoaded with
  | true =>
      refine ⟨0, context, says_nothing_of_eq fun diagnostics => ?_⟩
      simp only [addBuiltins, hearing, hloaded, if_true]
  | false =>
      have hlog := context.says_log .info "Loading built-in types, providers and functions"
      obtain ⟨typed, htypes⟩ := says_addResourceTypes catalogue.resourceTypes [] context
      obtain ⟨based, hclasses⟩ := typed.says_defineBuiltins .provider catalogue.providerClasses
      obtain ⟨valued, hdata⟩ :=
        based.says_defineBuiltins .dataType (catalogue.dataTypes.map Text.lower)
      obtain ⟨older, hlegacy⟩ :=
        valued.says_defineBuiltins .legacyFunction catalogue.legacyFunctions
      obtain ⟨newer, hfunctions⟩ := older.says_defineBuiltins .function catalogue.functions
      obtain ⟨named, haliases⟩ :=
        newer.says_defineBuiltins .typeAlias (catalogue.typeAliases.map Text.lower)
      have hchain := (((((hlog.comp htypes).comp hclasses).comp hdata).comp hlegacy).comp
        hfunctions).comp haliases
      refine ⟨named.registry.size - context.registry.size, { named with builtinsLoaded := true },
        ?_⟩
      have hremarks : (((((([] ++ catalogue.remarks) ++ []) ++ []) ++ []) ++ []) ++ []) =
          catalogue.remarks := by simp only [List.nil_append, List.append_nil]
      have hsaid := hchain.map fun c =>
        (c.registry.size - context.registry.size, { c with builtinsLoaded := true })
      refine (hremarks ▸ hsaid).congr fun diagnostics => ?_
      simp only [addBuiltins, hearing, hloaded]
      rfl

/-! ## Inherited variables -/

/-- Naming the variables of a parent class makes no remark. -/
theorem says_aliasVariables (child parent : String) (names : List (String × String))
    (count : Nat) (context : Context) :
    ∃ (total : Nat) (after : Context), Says (aliasVariables child parent names)
      (fun diagnostics => (count, context.hearing diagnostics)) []
      fun diagnostics => (total, after.hearing diagnostics) := by
  induction names generalizing count context with
  | nil => exact ⟨count, context, says_nothing _ _⟩
  | cons entry rest ih =>
      obtain ⟨variableName, owner⟩ := entry
      cases hname : inheritedName? parent variableName with
      | none =>
          obtain ⟨total, after, hrest⟩ := ih count context
          refine ⟨total, after, hrest.congr fun diagnostics => ?_⟩
          simp only [aliasVariables, hname]
      | some name =>
          obtain ⟨added, between, hdefine⟩ :=
            context.says_define .classVariable (child ++ "::" ++ name) owner true
          obtain ⟨total, after, hrest⟩ := ih (if added then count + 1 else count) between
          have hstep : Says (fun state : Nat × Context =>
              state.2.define .classVariable (child ++ "::" ++ name) owner true)
              (fun diagnostics => (count, context.hearing diagnostics)) []
              fun diagnostics => (added, between.hearing diagnostics) := hdefine
          refine ⟨total, after, (hstep.bind (fun added c => aliasVariables child parent rest
            (if added then count + 1 else count, c)) hrest).congr fun diagnostics => ?_⟩
          simp only [aliasVariables, hname]

/-- Naming the variables for a list of inheriting classes makes no remark. -/
theorem says_aliasEdges (owned : List (String × String)) (edges : Table String String)
    (count : Nat) (context : Context) :
    ∃ (total : Nat) (after : Context), Says (aliasEdges owned edges)
      (fun diagnostics => (count, context.hearing diagnostics)) []
      fun diagnostics => (total, after.hearing diagnostics) := by
  induction edges generalizing count context with
  | nil => exact ⟨count, context, says_nothing _ _⟩
  | cons edge rest ih =>
      obtain ⟨subtotal, between, hfirst⟩ :=
        says_aliasVariables edge.1 edge.2 owned count context
      obtain ⟨total, after, hrest⟩ := ih subtotal between
      exact ⟨total, after, hfirst.comp hrest⟩

/-- Naming inherited variables makes no remark. -/
theorem says_aliasInherited (context : Context) :
    ∃ (total : Nat) (after : Context), Says aliasInherited context.hearing []
      fun diagnostics => (total, after.hearing diagnostics) := by
  obtain ⟨total, after, hsaid⟩ := says_aliasEdges
    (context.registry.ofCategory .classVariable) context.inherits 0 context
  exact ⟨total, after, (says_nothing (fun c => (0, c)) context.hearing).comp hsaid⟩

/-! ## Resolving -/

/-- Looking up a symbol makes no remark. -/
theorem says_lookup (category : Category) (name : String) (context : Context) :
    Says (fun c : Context => c.lookup category name) context.hearing []
      fun diagnostics => ((context.registry.lookup category name).map Match.owner,
        context.hearing diagnostics) := by
  cases hlookup : context.registry.lookup category name with
  | none =>
      refine says_nothing_of_eq fun diagnostics => ?_
      simp only [lookup, hearing, hlookup, Option.map_none]
  | some found =>
      obtain ⟨owner, instead⟩ := found
      cases instead with
      | none =>
          refine says_nothing_of_eq fun diagnostics => ?_
          simp only [lookup, hearing, hlookup, Option.map_some]
      | some alternative =>
          have hlog := context.says_log .debug ("Resolved " ++ category.label ++ " " ++ name ++
            " as " ++ alternative.1.label ++ " " ++ alternative.2)
          refine (hlog.map fun c => (some owner, c)).congr fun _ => ?_
          simp only [lookup, hearing, hlookup]

/-- Resolving a reference makes no remark. -/
theorem says_resolveEntry (entry : Dependency) (context : Context) :
    Says (fun c : Context => c.resolveEntry entry) context.hearing []
      fun diagnostics => ((context.registry.lookup entry.category entry.name).map Match.owner,
        context.hearing diagnostics) := by
  cases hlookup : context.registry.lookup entry.category entry.name with
  | some found =>
      have hfound := (says_lookup entry.category entry.name context).map Prod.snd
      have hlog := context.says_log .debug ("Found dependency " ++ found.owner ++ " for " ++
        entry.category.label ++ " " ++ entry.name)
      refine ((hfound.comp hlog).map fun c => (some found.owner, c)).congr fun diagnostics => ?_
      have howner : ((context.hearing diagnostics).lookup entry.category entry.name).1 =
          some found.owner := by
        rw [lookup_fst]
        exact congrArg (Option.map Match.owner) hlookup
      simp only [resolveEntry]
      split
      · next owner c heq =>
          rw [heq] at howner ⊢
          cases howner
          rfl
      · next c heq =>
          rw [heq] at howner
          cases howner
  | none =>
      refine ⟨[.missing entry.category entry.name entry.sources], rfl, fun diagnostics => ?_⟩
      have hheard := @hears_resolveEntry (context.hearing diagnostics) entry hlookup
      refine ⟨_, ?_, hheard⟩
      simp only [resolveEntry, lookup, hearing, hlookup]
      split <;> rfl

/-- Resolving references makes no remark. -/
theorem says_resolveEntries (entries : List Dependency) (context : Context) :
    Says (resolveEntries entries) context.hearing []
      fun diagnostics => (context.registry.ownersOf entries, context.hearing diagnostics) := by
  induction entries with
  | nil => exact says_nothing _ _
  | cons entry rest ih =>
      have hentry := says_resolveEntry entry context
      have howners : context.registry.ownersOf (entry :: rest) =
          ((context.registry.lookup entry.category entry.name).map Match.owner).toList ++
            context.registry.ownersOf rest := by
        rw [Registry.ownersOf, List.filterMap_cons]
        cases context.registry.lookup entry.category entry.name <;> rfl
      rw [howners]
      exact hentry.bind
        (fun owner c => (owner.toList ++ (resolveEntries rest c).1, (resolveEntries rest c).2))
        (ih.map fun outcome => (_ ++ outcome.1, outcome.2))

/-- Looking for control modules makes no remark. -/
theorem says_checkControl (controlModules : List String) (module : Module)
    (dependencies : List String) (context : Context) :
    Says (fun c : Context => c.checkControl controlModules module dependencies) context.hearing []
      context.hearing := by
  by_cases hcontrol : module.name ∈ controlModules ∨ module.controlRepo
  · exact says_nothing_of_eq fun diagnostics => if_pos hcontrol
  · cases hoffending : controlModules.filter fun name => name ∈ dependencies with
    | nil =>
        refine says_nothing_of_eq fun diagnostics => ?_
        simp only [checkControl, if_neg hcontrol, hoffending]
    | cons first rest =>
        have hreport := context.says_report (.controlDependency module.name)
          ("Module " ++ module.name ++ " depends on control repo module " ++
            String.intercalate ", " ((first :: rest).map fun name => "'" ++ name ++ "'"))
        refine hreport.congr fun diagnostics => ?_
        simp only [checkControl, if_neg hcontrol, hoffending]
        rfl

/-- Resolving a module makes no remark. -/
theorem says_resolveDirect (controlModules : List String) (name : String) (module : Module)
    (context : Context) :
    Says (fun c : Context => c.resolveDirect controlModules name module) context.hearing []
      fun diagnostics => (context.registry.directDependencies name module,
        context.hearing diagnostics) := by
  have hstart := context.says_log .info ("Resolving module " ++ name)
  have hentries := says_resolveEntries module.dependencies.items context
  have hcontrol := says_checkControl controlModules module
    (context.registry.directDependencies name module) context
  have hend := context.says_log .debug ("Found " ++ name ++ " dependencies " ++
    Json.quotedNames (context.registry.directDependencies name module))
  have hchain := ((hstart.comp (hentries.map Prod.snd)).comp hcontrol).comp hend
  refine (hchain.map fun c => (context.registry.directDependencies name module, c)).congr ?_
  intro diagnostics
  have howners := resolveEntries_fst module.dependencies.items
    ((context.hearing diagnostics).log .info ("Resolving module " ++ name))
  simp only [resolveDirect, howners]
  rfl

end Context

namespace Resolver

/-- Resolving a module, or finding what was resolved before, makes no remark. -/
theorem says_resolveModule (modules : Table String Module) (name : String) (resolver : Resolver)
    (context : Context) :
    ∃ (outcome : Except Failure (List String)) (next : Resolver),
      Says (resolver.resolveModule modules name) context.hearing []
        fun diagnostics => (outcome, next, context.hearing diagnostics) := by
  cases hdirect : resolver.direct.get? name with
  | some dependencies =>
      refine ⟨.ok dependencies, resolver, says_nothing_of_eq fun diagnostics => ?_⟩
      simp only [resolveModule, hdirect]
  | none =>
      cases hmodule : modules.get? name with
      | none =>
          refine ⟨.error (.unknownModule name), resolver, says_nothing_of_eq fun diagnostics => ?_⟩
          simp only [resolveModule, hdirect, hmodule]
      | some module =>
          have hsaid := Context.says_resolveDirect resolver.controlModules name module context
          refine ⟨.ok (context.registry.directDependencies name module),
            { resolver with
              direct := resolver.direct.put name
                (context.registry.directDependencies name module) },
            hsaid.transfer fun diagnostics heard hstep => ?_⟩
          simp only [resolveModule, hdirect, hmodule, hstep]

/-- Exploring makes no remark. -/
theorem says_explore (modules : Table String Module) (recursive : Bool) (steps : Nat)
    (queue queued : List String) (resolver : Resolver) (context : Context) :
    ∃ (outcome : Except Failure Unit) (next : Resolver),
      Says (explore modules recursive steps queue queued resolver) context.hearing []
        fun diagnostics => (outcome, next, context.hearing diagnostics) := by
  induction steps generalizing queue queued resolver with
  | zero => exact ⟨.ok (), resolver, says_nothing _ _⟩
  | succ steps ih =>
      cases queue with
      | nil => exact ⟨.ok (), resolver, says_nothing _ _⟩
      | cons name queue =>
          obtain ⟨outcome, between, hmodule⟩ := says_resolveModule modules name resolver context
          cases outcome with
          | error failure =>
              refine ⟨.error failure, between, hmodule.transfer fun diagnostics heard hstep => ?_⟩
              simp only [explore, hstep]
          | ok dependencies =>
              let reached :=
                if recursive then
                  dependencies.filter fun d => d ∉ queued ∧ d ∉ between.controlModules
                else []
              obtain ⟨outcome, next, hrest⟩ := ih (queue ++ reached) (queued ++ reached) between
              refine ⟨outcome, next, hmodule.seq hrest fun diagnostics heard hstep => ?_⟩
              simp only [explore, hstep]
              rfl

/-- The outcome for modules that were explored. -/
def finish (request : Request) (roots : List String)
    (explored : Except Failure Unit × Resolver × Context) :
    Except Failure Resolution × Resolver × Context :=
  (explored.1.map fun _ => explored.2.1.collect request roots, explored.2)

/-- Resolving explores the roots and collects what was found. -/
theorem resolve_eq_finish (modules : Table String Module) (request : Request)
    (resolver : Resolver) (context : Context) :
    resolver.resolve modules request context =
      let roots := if request.names.isEmpty then modules.keys else request.names
      let started := (context.log .info "Resolving dependencies").aliasInherited.2
      finish request roots (explore modules request.recursive
        (roots.length + started.registry.size + resolver.edgeCount + 1) roots roots resolver
        started) := by
  simp only [resolve]
  split <;> simp only [finish, *] <;> rfl

/-- Resolving makes no remark. -/
theorem says_resolve (modules : Table String Module) (request : Request) (resolver : Resolver)
    (context : Context) :
    ∃ (outcome : Except Failure Resolution) (next : Resolver) (after : Context),
      Says (resolver.resolve modules request) context.hearing []
        fun diagnostics => (outcome, next, after.hearing diagnostics) := by
  let roots := if request.names.isEmpty then modules.keys else request.names
  have hlog := context.says_log .info "Resolving dependencies"
  obtain ⟨_, started, haliases⟩ := context.says_aliasInherited
  obtain ⟨outcome, next, hexplore⟩ := says_explore modules request.recursive
    (roots.length + started.registry.size + resolver.edgeCount + 1) roots roots resolver started
  have hfinish : Says (fun c : Context => finish request roots (explore modules request.recursive
      (roots.length + c.registry.size + resolver.edgeCount + 1) roots roots resolver c))
      started.hearing [] fun diagnostics =>
        (outcome.map fun _ => next.collect request roots, next, started.hearing diagnostics) :=
    hexplore.map (finish request roots)
  have hchain := (hlog.comp (haliases.map Prod.snd)).comp hfinish
  exact ⟨_, next, started, hchain.congr fun _ => resolve_eq_finish modules request resolver _⟩

end Resolver

/-! ## Files and snapshots -/

namespace Fact

/-- What a fact remarks. -/
def remarks : Fact → List String
  | .warn message => [message]
  | _ => []

/-- The state in which facts are recorded, with other diagnostics. -/
def hearing (state : Context × Dependencies) (diagnostics : Diagnostics) :
    Context × Dependencies :=
  (state.1.hearing diagnostics, state.2)

/-- Recording a fact remarks what the fact does. -/
theorem says_record (owner : String) (state : Context × Dependencies) (fact : Fact) :
    ∃ after, Says (fun s => record owner s fact) (hearing state) fact.remarks (hearing after) := by
  obtain ⟨context, references⟩ := state
  -- What is done to the context goes on beside the references.
  have hbeside {step : Context → Context} {remarks : List String} {after : Context}
      (h : Says step context.hearing remarks after.hearing) :
      ∃ after, Says (fun s : Context × Dependencies => (step s.1, s.2))
        (hearing (context, references)) remarks (hearing after) :=
    ⟨(after, references), h.map fun c => (c, references)⟩
  cases fact with
  | note message => exact hbeside (context.says_log .debug message)
  | define category name allowRepeated =>
      obtain ⟨after, hsaid⟩ := context.says_define_snd category name owner allowRepeated
      exact hbeside hsaid
  | refer category name source =>
      exact ⟨(context, references.add category name source), says_nothing _ _⟩
  | inherit child parent =>
      exact ⟨({ context with inherits := context.inherits.put child parent }, references),
        says_nothing _ _⟩
  | unhandled kind =>
      exact ⟨({ context with unhandledKinds := context.unhandledKinds ++ [kind] }, references),
        says_nothing _ _⟩
  | warn message => exact hbeside (context.says_warn message)
  | report warning message => exact hbeside (context.says_report warning message)

/-- Recording facts remarks what the facts do. -/
theorem says_recordAll (owner : String) (facts : List Fact) (state : Context × Dependencies) :
    ∃ after, Says (fun s => recordAll owner s facts) (hearing state) (facts.flatMap remarks)
      (hearing after) :=
  says_foldl (says_record owner) facts state

end Fact

/-- What is remarked about a file: what its tree remarks, and the names left open unless reading
failed. -/
def sourceRemarks (file : SourceFile) (root : Node) : List String :=
  let reading := root.reading file [] []
  reading.facts.flatMap Fact.remarks ++
    if reading.failure.isSome then [] else reading.pending.map (unresolvedMessage file)

/-- Reading a file says what its tree does. -/
theorem says_readSource (owner : String) (file : SourceFile) (root : Node)
    (state : Context × Dependencies) :
    ∃ outcome after, Says (readSource owner file root) (Fact.hearing state)
      (sourceRemarks file root) fun diagnostics => (outcome, Fact.hearing after diagnostics) := by
  obtain ⟨between, hfacts⟩ := Fact.says_recordAll owner
    (.note ("Parsing " ++ file.name) :: (root.reading file [] []).facts) state
  cases hfailure : (root.reading file [] []).failure with
  | some failure =>
      refine ⟨.error failure, between, ?_⟩
      have hremarks : sourceRemarks file root =
          (Fact.note ("Parsing " ++ file.name) :: (root.reading file [] []).facts).flatMap
            Fact.remarks := by
        simp [sourceRemarks, hfailure, Fact.remarks]
      rw [hremarks]
      refine hfacts.transfer fun diagnostics heard hstep => ?_
      simp only [readSource, hfailure, hstep]
  | none =>
      obtain ⟨after, hpending⟩ := Fact.says_recordAll owner
        ((root.reading file [] []).pending.map fun name => Fact.warn (unresolvedMessage file name))
        between
      refine ⟨.ok (root.reading file [] []).pending, after, ?_⟩
      have hremarks : sourceRemarks file root =
          (Fact.note ("Parsing " ++ file.name) :: (root.reading file [] []).facts).flatMap
            Fact.remarks ++ ((root.reading file [] []).pending.map fun name =>
              Fact.warn (unresolvedMessage file name)).flatMap Fact.remarks := by
        simp only [sourceRemarks, hfailure, List.flatMap_cons, List.flatMap_map, Fact.remarks,
          List.nil_append, Option.isSome_none, Bool.false_eq_true, if_false]
        rw [List.map_eq_flatMap]
      rw [hremarks]
      refine (hfacts.comp hpending).transfer fun diagnostics heard hstep => ?_
      simp only [readSource, hfailure, hstep]

namespace Snapshot

/-- Restoring definitions makes no remark. -/
theorem says_restoreDefinitions (skipped : List String) (category : Category)
    (table : Table String String) (context : Context) :
    ∃ after : Context, Says (restoreDefinitions skipped category table) context.hearing []
      after.hearing :=
  says_foldl_nothing
    (fun (before : Context) (entry : String × String) =>
      before.says_define_snd category entry.1 entry.2 false) _ context

/-- Restoring a snapshot makes no remark. -/
theorem says_restore (snapshot : Snapshot) (excluded : List String) (context : Context)
    (modules : Table String Module) :
    ∃ (count : Nat) (after : Context) (restored : Table String Module),
      Says (snapshot.restore excluded) (fun diagnostics => (context.hearing diagnostics, modules))
        [] fun diagnostics => (count, after.hearing diagnostics, restored) := by
  obtain ⟨between, hdefinitions⟩ := says_foldl_nothing
    (fun (before : Context) (entry : Category × Table String String) =>
      says_restoreDefinitions (builtinOwner :: excluded) entry.1 entry.2 before)
    snapshot.definitions context
  let records := snapshot.modules.filter fun entry => entry.1 ∉ builtinOwner :: excluded
  let restored := records.foldl
    (fun table entry => table.put entry.1 (Module.ofRecord entry.2)) modules
  let inherit (c : Context) : Context :=
    { c with
      inherits := snapshot.inherits.foldl (fun table entry => table.putNew entry.1 entry.2)
        c.inherits }
  have hpair : Says (fun state : Context × Table String Module => snapshot.definitions.foldl
      (fun c entry => restoreDefinitions (builtinOwner :: excluded) entry.1 entry.2 c) state.1)
      (fun diagnostics => (context.hearing diagnostics, modules)) [] between.hearing := hdefinitions
  exact ⟨records.length, inherit between, restored,
    (hpair.map fun c => (records.length, inherit c, restored)).congr fun _ => rfl⟩

end Snapshot

namespace ModuleScan

/-- The state of reading a module, with other diagnostics. -/
def hearing (state : ModuleScan) (diagnostics : Diagnostics) : ModuleScan :=
  { state with context := state.context.hearing diagnostics }

/-- Reading from the directory without a word for the journal says nothing. -/
theorem says_ask {α : Type} {step : DirectoryRead α} {state : ModuleScan}
    {outcome : Except Failure α} {directory : ModuleDirectory}
    (h : ∀ journal, runFrom step (state.directory, journal) = (outcome, directory, journal)) :
    Says (runFrom (ask step)) state.hearing []
      fun diagnostics => (outcome, { state with directory }.hearing diagnostics) := by
  refine ⟨[], rfl, fun diagnostics => ⟨diagnostics, ?_, diagnostics.hears_nil⟩⟩
  have hread : state.directory.read (state.context.hearing diagnostics) step =
      (outcome, directory, state.context.hearing diagnostics) := by
    have hstep := h diagnostics.journal
    unfold runFrom at hstep
    unfold ModuleDirectory.read
    rw [show (state.context.hearing diagnostics).diagnostics.journal = diagnostics.journal from rfl,
      hstep]
    rfl
  have hask : runFrom (ask step) (state.hearing diagnostics) =
      runFrom (lift (state.directory.read (state.context.hearing diagnostics) step).1)
        { state with
          directory := (state.directory.read (state.context.hearing diagnostics) step).2.1
          context := (state.directory.read (state.context.hearing diagnostics) step).2.2 } := rfl
  rw [hask, hread, runFrom_lift]
  rfl

/-- Asking whether the directory is a control repository says nothing. -/
theorem says_readControlRepo (files : FileSystem) (state : ModuleScan) :
    ∃ (outcome : Except Failure Bool) (after : ModuleScan),
      Says (runFrom (ask (ModuleDirectory.readControlRepo files))) state.hearing []
        fun diagnostics => (outcome, after.hearing diagnostics) := by
  obtain ⟨⟨path, controlRepo, name, metadata⟩, dependencies, context⟩ := state
  cases controlRepo with
  | some flag => exact ⟨.ok flag, _, says_ask fun journal => rfl⟩
  | none =>
      have hread (journal : Array Record) : runFrom (ModuleDirectory.readControlRepo files)
          ({ path, name, metadata }, journal) =
          match isControlRepo files path with
          | .ok flag => (.ok flag, { path, controlRepo := some flag, name, metadata }, journal)
          | .error failure => (.error failure, { path, name, metadata }, journal) := by
        show runFrom (ModuleDirectory.lift (isControlRepo files path) >>= _) _ = _
        rw [runFrom_bind, ModuleDirectory.runFrom_lift]
        cases isControlRepo files path <;> rfl
      cases hfile : isControlRepo files path with
      | error failure =>
          exact ⟨.error failure, _, says_ask fun journal => by rw [hread, hfile]⟩
      | ok flag => exact ⟨.ok flag, _, says_ask fun journal => by rw [hread, hfile]⟩

/-- Looking for the metadata of a module makes no remark. -/
theorem says_checkMetadata (files : FileSystem) (name : String) (state : ModuleScan) :
    ∃ (outcome : Except Failure Unit) (after : ModuleScan),
      Says (runFrom (checkMetadata files name)) state.hearing []
        fun diagnostics => (outcome, after.hearing diagnostics) := by
  have hpresent : Says (runFrom (ask (ModuleDirectory.readHasMetadata files))) state.hearing []
      fun diagnostics => (files.isFile state.directory.metadataPath, state.hearing diagnostics) :=
    says_ask fun journal => ModuleDirectory.runFrom_lift _ _
  let message := "Missing metadata file " ++ state.directory.metadataPath.toText ++ "!"
  let complain (controlRepo : Bool) : Action Unit :=
    if controlRepo then pure ()
    else update fun context => context.report (.missingMetadata name) message
  -- Where there is no file, only a control repository goes unreported.
  have habsent : ∃ (outcome : Except Failure Unit) (after : ModuleScan),
      Says (runFrom (ask (ModuleDirectory.readControlRepo files) >>= complain)) state.hearing []
        fun diagnostics => (outcome, after.hearing diagnostics) := by
    obtain ⟨outcome, between, hcontrol⟩ := says_readControlRepo files state
    cases outcome with
    | error failure => exact ⟨.error failure, between, says_runFrom_error hcontrol⟩
    | ok controlRepo =>
        refine ⟨.ok (), between, says_runFrom_bind hcontrol ?_⟩
        cases controlRepo with
        | true => exact says_nothing _ _
        | false =>
            have hreport := between.context.says_report (.missingMetadata name) message
            exact hreport.map fun context => ((.ok () : Except Failure Unit),
              { between with context := context })
  cases hfile : files.isFile state.directory.metadataPath with
  | error failure =>
      rw [hfile] at hpresent
      exact ⟨.error failure, state, says_runFrom_error hpresent⟩
  | ok present =>
      rw [hfile] at hpresent
      cases present with
      | true => exact ⟨.ok (), state, says_runFrom_bind hpresent (says_nothing _ _)⟩
      | false =>
          obtain ⟨outcome, after, hsaid⟩ := habsent
          refine ⟨outcome, after, says_runFrom_bind hpresent (hsaid.congr fun diagnostics => ?_)⟩
          rw [if_neg Bool.false_ne_true, runFrom_bind]
          rfl

end ModuleScan

end ModuleGraph
