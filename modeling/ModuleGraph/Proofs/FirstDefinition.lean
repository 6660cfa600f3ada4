import ModuleGraph.Proofs.Accounting
import ModuleGraph.Proofs.Courses
import ModuleGraph.Proofs.Operations
import ModuleGraph.Proofs.PluginFacts
import ModuleGraph.Proofs.Seeding
import ModuleGraph.Proofs.StatedFacts

/-!
# The first definition wins

Every operation of a run, whether it succeeds or fails half-way, takes the context on a course of
definitions. `Operation.attempts` lists the definitions that an operation attempts, read off its
arguments and the state before it: those of a catalogue, of the facts of a file as far as it can be
read, of plugin files, of a snapshot, and the names of inherited variables.

`Operation.tries_apply` says so of one operation, and `tries_runAll` of a whole run. The main
theorem `first_definition_wins` combines them with what every course leaves behind. If a run begins
with a catalogue, its symbols stay builtin and nothing that may mean one of them is ever missing.
-/

namespace ModuleGraph

/-! ## What is attempted -/

/-- The definition that a fact about a module attempts. -/
def Fact.attempt? (owner : String) : Fact → Option Attempt
  | .define category name allowRepeated => some ⟨category, name, owner, allowRepeated⟩
  | _ => none

namespace Builtins

/-- The definition of a builtin symbol. -/
def attempt (category : Category) (name : String) : Attempt :=
  ⟨category, name, builtinOwner, false⟩

/-- The names of a list that were not seen before, each where it stands first. -/
def unseen : List String → List String → List String
  | _, [] => []
  | seen, name :: rest =>
    if name ∈ seen then unseen seen rest else name :: unseen (name :: seen) rest

/-- The definitions of resource types, each with its providers that were not seen before. -/
def typeAttempts : List String → Table String (List String) → List Attempt
  | _, [] => []
  | seen, entry :: rest =>
    attempt .resourceType entry.1 :: (unseen seen (namesOf entry)).map (attempt .provider) ++
      typeAttempts (sift seen (namesOf entry)).2 rest

/-- The definitions of a catalogue. -/
def attempts (catalogue : Builtins) : List Attempt :=
  typeAttempts [] catalogue.resourceTypes ++
    catalogue.providerClasses.map (attempt .provider) ++
    (catalogue.dataTypes.map Text.lower).map (attempt .dataType) ++
    catalogue.legacyFunctions.map (attempt .legacyFunction) ++
    catalogue.functions.map (attempt .function) ++
    (catalogue.typeAliases.map Text.lower).map (attempt .typeAlias)

/-- The catalogue lists a symbol, whose name may have a top scope marker. -/
def Seeds (catalogue : Builtins) (target : Category × String) : Prop :=
  ∃ attempt ∈ catalogue.attempts, attempt.symbol = (target.1, normalizeName target.2)

instance (catalogue : Builtins) (target : Category × String) : Decidable (catalogue.Seeds target) :=
  inferInstanceAs (Decidable (∃ attempt ∈ catalogue.attempts,
    attempt.symbol = (target.1, normalizeName target.2)))

end Builtins

/-- The definitions of a snapshot that are restored. -/
def Snapshot.attempts (snapshot : Snapshot) (excluded : List String) : List Attempt :=
  snapshot.definitions.flatMap fun group =>
    (group.2.filter fun entry => entry.2 ∉ builtinOwner :: excluded).map fun entry =>
      ⟨group.1, entry.1, entry.2, false⟩

namespace Context

/-- The names that the variables of a parent class get in one class that inherits from it. -/
def aliasAttemptsOfEdge (owned : List (String × String)) (edge : String × String) : List Attempt :=
  owned.filterMap fun entry =>
    (inheritedName? edge.2 entry.1).map fun name =>
      ⟨.classVariable, edge.1 ++ "::" ++ name, entry.2, true⟩

/-- The names that inherited variables get. -/
def aliasAttempts (context : Context) : List Attempt :=
  context.inherits.flatMap (aliasAttemptsOfEdge (context.registry.ofCategory .classVariable))

end Context

/-- The definitions that an operation on a module attempts. -/
def ModuleOperation.attempts (module : Module) : ModuleOperation → List Attempt
  | .walk file root => (root.reading file [] []).facts.filterMap (Fact.attempt? module.name)
  | .scanPlugins files relativeTo =>
    (Plugin.pluginFacts files ⟨module.path, relativeTo⟩).facts.filterMap
      (Fact.attempt? module.name)
  | .refer .. | .checkMetadata _ => []

namespace Operation

/-- The definitions that an operation attempts. -/
def attempts (state : RunState) : Operation → List Attempt
  | .define category name source allowRepeated => [⟨category, name, source, allowRepeated⟩]
  | .addBuiltins catalogue => if state.context.builtinsLoaded then [] else catalogue.attempts
  | .onModule key operation =>
    match state.modules.get? key with
    | some module => operation.attempts module
    | none => []
  | .restore snapshot excluded => snapshot.attempts excluded
  | .aliasInherited | .resolve .. | .resolveKept _ => state.context.aliasAttempts
  | .addModule .. | .report .. | .evaluate _ | .warn _ => []

/-- The warnings that an operation is told to record. -/
def reported : Operation → List Warning
  | .report warning _ | .evaluate warning => [warning]
  | _ => []

end Operation

/-- The definitions that operations attempt in order. -/
def attemptsAll : List Operation → RunState → List Attempt
  | [], _ => []
  | operation :: rest, state =>
    operation.attempts state ++ attemptsAll rest (operation.apply state).2

/-! ## Facts -/

/-- If the fact reports a warning, it is about no symbol. -/
def Fact.Excusable : Fact → Prop
  | .report warning _ => ∀ registry : Registry, registry.Excuses warning
  | _ => True

/-- Recording facts attempts their definitions. -/
theorem Fact.tries_recordAll (owner : String) {facts : List Fact}
    (h : ∀ fact ∈ facts, fact.Excusable) (state : Context × Dependencies) :
    state.1.Tries [] (facts.filterMap (attempt? owner)) (recordAll owner state facts).1 := by
  induction facts generalizing state with
  | nil => exact (Context.Aside.refl [] state.1).tries
  | cons fact rest ih =>
      obtain ⟨hfact, hrest⟩ := List.forall_mem_cons.1 h
      have hlater := ih hrest (record owner state fact)
      cases fact with
      | define category name allowRepeated =>
          exact (Context.tries_attempt state.1 ⟨category, name, owner, allowRepeated⟩).append hlater
      | note message => exact (Context.aside_log state.1 .debug message).then_tries hlater
      | warn message => exact (Context.aside_warn state.1 message).then_tries hlater
      | report warning message =>
          exact (Context.aside_report state.1 (.inr (hfact _)) message).then_tries hlater
      | refer | inherit | unhandled =>
          refine Context.Aside.then_tries ?_ hlater
          exact .of_silent rfl state.1.diagnostics.hears_nil

/-- No tree reports a warning. -/
theorem Node.excusable_reading (file : SourceFile) (root : Node) :
    ∀ fact ∈ (root.reading file [] []).facts, fact.Excusable := by
  have hplain (fact : Fact) (hfact : fact.isPlain = true) : fact.Excusable := by
    cases fact with
    | report => cases hfact
    | note | define | refer | inherit | unhandled | warn => trivial
  refine Node.within_reading [] (fun place _ claimed => ?_) []
  refine Node.within_ownReading hplain fun kind _ => ?_
  exact Reading.within_ofKind hplain (fun _ _ _ => trivial) _ _ _ _ _

/-- A file is read as far as it can be. -/
theorem tries_readSource (owner : String) (file : SourceFile) (root : Node)
    (state : Context × Dependencies) :
    state.1.Tries [] ((root.reading file [] []).facts.filterMap (Fact.attempt? owner))
      (readSource owner file root state).2.1 := by
  have hfacts : ∀ fact ∈ .note ("Parsing " ++ file.name) :: (root.reading file [] []).facts,
      fact.Excusable := List.forall_mem_cons.2 ⟨trivial, root.excusable_reading file⟩
  have hread := Fact.tries_recordAll owner hfacts state
  unfold readSource
  dsimp only
  split
  · exact hread
  · -- The messages about the names left open define nothing.
    have hwarnings : ∀ fact ∈ (root.reading file [] []).pending.map fun name =>
        Fact.warn (unresolvedMessage file name), fact.Excusable := by
      intro fact hfact
      obtain ⟨name, _, rfl⟩ := List.mem_map.1 hfact
      trivial
    have hopen := hread.append (Fact.tries_recordAll owner hwarnings _)
    have hnone : ((root.reading file [] []).pending.map fun name =>
        Fact.warn (unresolvedMessage file name)).filterMap (Fact.attempt? owner) = [] := by
      simp [Fact.attempt?]
    rw [hnone, List.append_nil] at hopen
    exact hopen

/-- What a plugin file may say: no kind of a node is unknown in it, no class inherits, and all that
is reported are errors in the file. -/
def Fact.SaidByPlugin : Fact → Prop
  | .note _ | .define .. | .refer .. | .warn _ | .report (.typeError ..) _ => True
  | _ => False

/-- An error in a file is about no symbol. -/
theorem Fact.SaidByPlugin.excusable {fact : Fact} (h : fact.SaidByPlugin) : fact.Excusable := by
  cases fact with
  | report warning =>
      cases warning with
      | typeError => exact fun _ => trivial
      | duplicateDefinition | missingDefinition | controlDependency | missingMetadata => cases h
  | note | define | refer | inherit | unhandled | warn => trivial

namespace Plugin

/-- The plugin files of a module say nothing else. -/
theorem said_pluginFacts (files : FileSystem) (location : Location) :
    (pluginFacts files location).Within Fact.SaidByPlugin :=
  within_pluginFacts (fun _ => trivial) (fun _ => trivial) (fun _ _ => trivial)
    (fun _ _ _ _ => trivial) (fun _ _ _ _ _ => trivial)

/-- No plugin file reports a warning about a symbol. -/
theorem excusable_pluginFacts (files : FileSystem) (location : Location) :
    (pluginFacts files location).Within Fact.Excusable :=
  fun fact hfact => (said_pluginFacts files location fact hfact).excusable

end Plugin

/-! ## Metadata -/

/-- Looking for the metadata of a module defines nothing. -/
theorem ModuleScan.aside_checkMetadata (files : FileSystem) (name : String) (state : ModuleScan) :
    state.context.Aside [] (runFrom (checkMetadata files name) state).2.context := by
  let along (before after : ModuleScan) : Prop := before.context.Aside [] after.context
  have htrans {first second third : ModuleScan} (h : along first second)
      (h' : along second third) : along first third := Context.Aside.trans h h'
  have hask {α : Type} (step : DirectoryRead α) (state : ModuleScan) :
      along state (runFrom (ask step) state).2 := by
    have hrun : runFrom (ask step) state =
        runFrom (lift (state.directory.read state.context step).1)
          { state with
            directory := (state.directory.read state.context step).2.1
            context := (state.directory.read state.context step).2.2 } := rfl
    rw [hrun, runFrom_lift]
    exact .of_silent rfl ⟨rfl, rfl, (List.append_nil _).symm, (Bool.or_false _).symm⟩
  have hpresent := hask (ModuleDirectory.readHasMetadata files) state
  refine leads_bind along htrans hpresent fun present between _ => ?_
  split
  · exact .refl [] between.context
  · refine leads_bind along htrans (.refl [] between.context) fun found _ hget => ?_
    obtain ⟨_, rfl⟩ := Prod.mk.inj hget
    refine leads_bind along htrans (hask (ModuleDirectory.readControlRepo files) _)
      fun controlRepo after _ => ?_
    split
    · exact .refl [] after.context
    · have hexcused : after.context.registry.Excuses (.missingMetadata name) := trivial
      exact after.context.aside_report (.inr hexcused) _

/-! ## The catalogue, snapshots and inherited variables -/

namespace Context

open Builtins (sift namesOf unseen)

/-- Builtin symbols of one category are defined in order. -/
theorem tries_defineBuiltins (context : Context) (category : Category) (names : List String) :
    context.Tries [] (names.map (Builtins.attempt category))
      (context.defineBuiltins category names) := by
  rw [List.map_eq_flatMap]
  exact tries_foldl (fun context name => context.tries_attempt (Builtins.attempt category name))
    names context

/-- The providers of a resource type are defined, each once. -/
theorem tries_addProviders (type : String) (providers seen : List String) (context : Context) :
    (addProviders type providers (seen, context)).1 = (sift seen (namesOf (type, providers))).2 ∧
      context.Tries []
        ((unseen seen (namesOf (type, providers))).map (Builtins.attempt .provider))
        (addProviders type providers (seen, context)).2 := by
  induction providers generalizing seen context with
  | nil => exact ⟨rfl, (Aside.refl [] context).tries⟩
  | cons provider rest ih =>
      by_cases hseen : type ++ "/" ++ provider ∈ seen
      · obtain ⟨hnames, htries⟩ := ih seen
          (context.warn ("Found duplicate provider " ++ (type ++ "/" ++ provider)))
        simp only [addProviders, namesOf, List.map_cons, sift, unseen, hseen, if_true]
        exact ⟨hnames, (context.aside_warn _).tries.append htries⟩
      · obtain ⟨hnames, htries⟩ := ih ((type ++ "/" ++ provider) :: seen)
          (context.defineBuiltin .provider (type ++ "/" ++ provider))
        simp only [addProviders, namesOf, List.map_cons, sift, unseen, hseen, if_false]
        exact ⟨hnames, (context.tries_attempt
          (Builtins.attempt .provider (type ++ "/" ++ provider))).append htries⟩

/-- Resource types are defined with their providers. -/
theorem tries_addResourceTypes (types : Table String (List String)) (seen : List String)
    (context : Context) :
    context.Tries [] (Builtins.typeAttempts seen types)
      (addResourceTypes types (seen, context)).2 := by
  induction types generalizing seen context with
  | nil => exact (Aside.refl [] context).tries
  | cons entry rest ih =>
      obtain ⟨type, providers⟩ := entry
      obtain ⟨hnames, hproviders⟩ := tries_addProviders type providers seen
        (context.defineBuiltin .resourceType type)
      have htype := context.tries_attempt
        (Builtins.attempt .resourceType type)
      have hrest := ih (addProviders type providers
        (seen, context.defineBuiltin .resourceType type)).1
        (addProviders type providers (seen, context.defineBuiltin .resourceType type)).2
      unfold Builtins.typeAttempts
      rw [← hnames]
      exact (htype.append hproviders).append hrest

/-- A catalogue is defined, unless one was added before. -/
theorem tries_addBuiltins (context : Context) (catalogue : Builtins) :
    context.Tries [] (if context.builtinsLoaded then [] else catalogue.attempts)
      (context.addBuiltins catalogue).2 := by
  unfold addBuiltins
  split
  · exact (Aside.refl [] context).tries
  · have hlog := (context.aside_log .info
      "Loading built-in types, providers and functions").tries
    have htypes := hlog.append (tries_addResourceTypes catalogue.resourceTypes [] _)
    have hclasses := htypes.append (tries_defineBuiltins _ .provider catalogue.providerClasses)
    have hdata := hclasses.append
      (tries_defineBuiltins _ .dataType (catalogue.dataTypes.map Text.lower))
    have hlegacy := hdata.append
      (tries_defineBuiltins _ .legacyFunction catalogue.legacyFunctions)
    have hfunctions := hlegacy.append (tries_defineBuiltins _ .function catalogue.functions)
    have haliases := hfunctions.append
      (tries_defineBuiltins _ .typeAlias (catalogue.typeAliases.map Text.lower))
    exact haliases.then_aside (.of_silent rfl (Diagnostics.hears_nil _))

/-- The names of inherited variables are defined in order. -/
theorem tries_aliasInherited (context : Context) :
    context.Tries [] context.aliasAttempts context.aliasInherited.2 := by
  have hedge (owned : List (String × String)) (child parent : String) (state : Nat × Context) :
      state.2.Tries [] (aliasAttemptsOfEdge owned (child, parent))
        (aliasVariables child parent owned state).2 := by
    induction owned generalizing state with
    | nil => exact (Aside.refl [] state.2).tries
    | cons entry rest ih =>
        obtain ⟨variableName, owner⟩ := entry
        obtain ⟨count, context⟩ := state
        simp only [aliasVariables, aliasAttemptsOfEdge, List.filterMap_cons]
        cases hname : inheritedName? parent variableName with
        | none => exact ih (count, context)
        | some name =>
            have hname := context.tries_attempt ⟨.classVariable, child ++ "::" ++ name, owner, true⟩
            refine hname.append ?_
            exact ih (_, _)
  have hedges (owned : List (String × String)) (edges : Table String String)
      (state : Nat × Context) :
      state.2.Tries [] (edges.flatMap (aliasAttemptsOfEdge owned))
        (aliasEdges owned edges state).2 := by
    induction edges generalizing state with
    | nil => exact (Aside.refl [] state.2).tries
    | cons edge rest ih => exact (hedge owned edge.1 edge.2 state).append (ih _)
  exact hedges _ _ (0, context)

end Context

/-- A snapshot is restored in order. -/
theorem Snapshot.tries_restore (snapshot : Snapshot) (excluded : List String)
    (state : Context × Table String Module) :
    state.1.Tries [] (snapshot.attempts excluded) (snapshot.restore excluded state).2.1 := by
  have hgroup (context : Context) (group : Category × Table String String) :
      context.Tries []
        ((group.2.filter fun entry => entry.2 ∉ builtinOwner :: excluded).map fun entry =>
          ⟨group.1, entry.1, entry.2, false⟩)
        (restoreDefinitions (builtinOwner :: excluded) group.1 group.2 context) := by
    rw [List.map_eq_flatMap]
    exact Context.tries_foldl (fun context entry =>
      context.tries_attempt ⟨group.1, entry.1, entry.2, false⟩) _ context
  have hgroups := Context.tries_foldl hgroup snapshot.definitions state.1
  -- The inheritance is restored afterwards, and defines nothing.
  exact hgroups.then_aside (.of_silent rfl (Diagnostics.hears_nil _))

/-! ## Resolving -/

namespace Resolver

/-- Resolving a module defines nothing, and a reference is recorded as missing only if it means
nothing. -/
theorem aside_resolveDirect (context : Context) (control : List String) (name : String)
    (module : Module) :
    context.Aside [] (context.resolveDirect control name module).2 := by
  refine ⟨context.resolveDirect_registry control name module, _,
    context.hears_resolveDirect control name module, fun warning hwarning => .inr ?_⟩
  rw [List.flatMap_append, List.mem_append] at hwarning
  rcases hwarning with hmissing | hcontrol
  · obtain ⟨entry, _, hlookup, source, _, rfl⟩ :=
      Registry.mem_warnings_missingSayings.1 hmissing
    exact hlookup
  · unfold Module.controlSayings at hcontrol
    split at hcontrol
    · cases hcontrol
    · split at hcontrol
      · cases hcontrol
      · rw [List.mem_singleton.1 hcontrol]
        trivial

/-- Resolving a module that may be resolved already or be missing. -/
theorem aside_resolveModule (modules : Table String Module) (name : String) (resolver : Resolver)
    (context : Context) :
    context.Aside [] (resolver.resolveModule modules name context).2.2 := by
  unfold resolveModule
  split
  · exact .refl [] context
  · split
    · exact .refl [] context
    · exact aside_resolveDirect context _ _ _

/-- Exploring defines nothing, also where it fails. -/
theorem aside_explore (modules : Table String Module) (recursive : Bool) (steps : Nat)
    (queue queued : List String) (resolver : Resolver) (context : Context) :
    context.Aside [] (explore modules recursive steps queue queued resolver context).2.2 := by
  induction steps generalizing queue queued resolver context with
  | zero => exact .refl [] context
  | succ steps ih =>
      cases queue with
      | nil => exact .refl [] context
      | cons name queue =>
          have hmodule := aside_resolveModule modules name resolver context
          unfold explore
          split
          · next hresolve =>
              rw [hresolve] at hmodule
              exact hmodule
          · next hresolve =>
              rw [hresolve] at hmodule
              exact hmodule.trans (ih _ _ _ _)

/-- Resolving gives inherited variables their names and defines nothing else. -/
theorem tries_resolve (modules : Table String Module) (request : Request) (resolver : Resolver)
    (context : Context) :
    context.Tries [] context.aliasAttempts
      (resolver.resolve modules request context).2.2 := by
  have hlog := context.aside_log .info "Resolving dependencies"
  have haliases := (context.log .info "Resolving dependencies").tries_aliasInherited
  rw [resolve_eq_finish]
  refine (hlog.then_tries haliases).then_aside ?_
  exact aside_explore modules request.recursive _ _ _ _ _

end Resolver

/-! ## Operations and runs -/

/-- An operation on a module takes the context on a course, also where it fails. -/
theorem ModuleOperation.tries_apply (key : String) (module : Module) (operation : ModuleOperation)
    (state : RunState) :
    state.context.Tries [] (operation.attempts module)
      (operation.apply key module state).2.context := by
  cases operation with
  | refer category name source =>
      simp only [apply]
      cases module.dependencies.add? category name source with
      | ok | error => exact (Context.Aside.refl [] state.context).tries
  | walk file root =>
      exact tries_readSource module.name file root (state.context, module.dependencies)
  | scanPlugins files relativeTo =>
      exact Fact.tries_recordAll module.name (Plugin.excusable_pluginFacts files _)
        (state.context, module.dependencies)
  | checkMetadata files =>
      exact (ModuleScan.aside_checkMetadata files module.name
        (metadataScan module state.context)).tries

/-- An operation takes the context on a course of the definitions that it attempts, also where it
fails. -/
theorem Operation.tries_apply (operation : Operation) (state : RunState) :
    state.context.Tries operation.reported (operation.attempts state)
      (operation.apply state).2.context := by
  cases operation with
  | define category name source allowRepeated =>
      exact state.context.tries_attempt ⟨category, name, source, allowRepeated⟩
  | addBuiltins catalogue => exact state.context.tries_addBuiltins catalogue
  | onModule key operation =>
      simp only [apply, attempts]
      cases state.modules.get? key with
      | some module => exact operation.tries_apply key module state
      | none => exact (Context.Aside.refl _ state.context).tries
  | restore snapshot excluded =>
      exact snapshot.tries_restore excluded (state.context, state.modules)
  | aliasInherited => exact state.context.tries_aliasInherited
  | resolve controlModules request =>
      exact Resolver.tries_resolve state.modules request { controlModules } state.context
  | resolveKept request =>
      exact Resolver.tries_resolve state.modules request state.resolver state.context
  | report warning message =>
      exact (state.context.aside_report (.inl List.mem_cons_self) _).tries
  | evaluate warning =>
      exact (Context.Aside.tries ⟨rfl, _, state.context.diagnostics.hears_evaluate warning,
        fun _ hwarning => .inl hwarning⟩)
  | warn message => exact (state.context.aside_warn message).tries
  | addModule key module => exact (Context.Aside.refl _ state.context).tries

/-- A run takes the context on a course of the definitions that its operations attempt. -/
theorem tries_runAll (operations : List Operation) (state : RunState) :
    state.context.Tries (operations.flatMap Operation.reported) (attemptsAll operations state)
      (runAll operations state).2.context := by
  induction operations generalizing state with
  | nil => exact (Context.Aside.refl _ state.context).tries
  | cons operation rest ih =>
      have hfirst := (operation.tries_apply state).mono
        (List.subset_append_left operation.reported (rest.flatMap Operation.reported))
      have hrest := (ih (operation.apply state).2).mono
        (List.subset_append_right operation.reported (rest.flatMap Operation.reported))
      exact hfirst.append hrest

/-! ## Runs that begin with a catalogue -/

namespace Builtins

/-- The source of every definition of a catalogue is builtin. -/
theorem source_of_mem_attempts {catalogue : Builtins} {attempt : Attempt}
    (h : attempt ∈ catalogue.attempts) : attempt.source = builtinOwner := by
  have hnames {category : Category} {names : List String}
      (hmem : attempt ∈ names.map (Builtins.attempt category)) : attempt.source = builtinOwner := by
    obtain ⟨name, _, rfl⟩ := List.mem_map.1 hmem
    rfl
  have htypes {types : Table String (List String)} {seen : List String}
      (hmem : attempt ∈ typeAttempts seen types) : attempt.source = builtinOwner := by
    induction types generalizing seen with
    | nil => cases hmem
    | cons entry rest ih =>
        simp only [typeAttempts, List.cons_append, List.mem_cons, List.mem_append] at hmem
        rcases hmem with rfl | hproviders | hrest
        · rfl
        · exact hnames hproviders
        · exact ih hrest
  simp only [attempts, List.mem_append] at h
  rcases h with ((((htype | hclass) | hdata) | hlegacy) | hfunction) | halias
  · exact htypes htype
  · exact hnames hclass
  · exact hnames hdata
  · exact hnames hlegacy
  · exact hnames hfunction
  · exact hnames halias

/-- The symbols of a catalogue are builtin after it was added to an empty registry. -/
theorem Seeds.owner {catalogue : Builtins} {target : Category × String} (h : catalogue.Seeds target)
    {reported : List Warning} {before after : Context} (hempty : before.registry.entries = [])
    (htries : before.Tries reported catalogue.attempts after) :
    after.registry.owner? target.1 target.2 = some builtinOwner := by
  obtain ⟨trace, hcourse, htrace⟩ := htries
  obtain ⟨attempt, hattempt, hsymbol⟩ := h
  rw [← htrace] at hattempt
  obtain ⟨entry, hentry, rfl⟩ := List.mem_map.1 hattempt
  have hnone : before.registry.find? target.1 (normalizeName target.2) = none := by
    simp [Registry.find?, hempty]
  unfold Registry.owner?
  rw [hcourse.find?_eq, hnone, Option.none_or]
  cases hfirst : trace.find? fun entry =>
      entry.1.symbol = (target.1, normalizeName target.2) with
  | none => exact absurd (decide_eq_true hsymbol) (List.find?_eq_none.1 hfirst entry hentry)
  | some first =>
      have hmem : first.1 ∈ catalogue.attempts :=
        htrace ▸ List.mem_map_of_mem (List.mem_of_find?_eq_some hfirst)
      exact congrArg some (source_of_mem_attempts hmem)

end Builtins

/-- What a run keeps of the catalogue with which it began: the references that name a listed symbol
are to builtin ones and lead to no module, and those that may mean a listed symbol are never
missing. -/
structure Builtins.Kept (catalogue : Builtins) (reported : List Warning)
    (before after : Context) : Prop where
  /-- A reference to a symbol of the catalogue is to a builtin symbol. -/
  builtin : ∀ category name, catalogue.Seeds (category, name) →
    after.registry.lookup category name = some ⟨builtinOwner, none⟩
  /-- No dependency of a module is due to a reference to a symbol of the catalogue. -/
  edges : ∀ control key module, ∀ owner ∈ (after.resolveDirect control key module).1,
    ∃ entry ∈ module.dependencies, ¬ catalogue.Seeds (entry.category, entry.name) ∧
      ∃ found, after.registry.lookup entry.category entry.name = some found ∧ found.owner = owner
  /-- A reference that may mean a symbol of the catalogue means something, and was recorded as
  missing only where that was reported from outside. -/
  present : ∀ category name,
    (∃ target ∈ Registry.meanings category name, catalogue.Seeds target) →
      after.registry.lookup category name ≠ none ∧
        ∀ source, .missingDefinition category name source ∈ after.diagnostics.found →
          .missingDefinition category name source ∈ before.diagnostics.found ∨
            .missingDefinition category name source ∈ reported

/-- Adding a catalogue records no missing symbol. -/
theorem Context.missing_mem_found_addBuiltins {context : Context} {catalogue : Builtins}
    {category : Category} {name source : String}
    (h : .missingDefinition category name source ∈
      (context.addBuiltins catalogue).2.diagnostics.found) :
    .missingDefinition category name source ∈ context.diagnostics.found := by
  have hkept : KeptByBuiltins fun later =>
      .missingDefinition category name source ∈ later.diagnostics.found →
        .missingDefinition category name source ∈ context.diagnostics.found :=
    { log := fun hlater _ _ => hlater
      warn := fun hlater _ => hlater
      define := by
        intro later hlater other target hmem
        have hattempt : .missingDefinition category name source ∈
            (later.attempt (Builtins.attempt other target)).2.diagnostics.found := hmem
        exact hlater (missing_mem_found_attempt hattempt)
      loaded := fun hlater => hlater }
  exact hkept.addBuiltins id catalogue h

/-- The symbols of a catalogue that is added to an empty registry are kept on every course. -/
theorem Builtins.kept_of_course {catalogue : Builtins} {reported : List Warning}
    {before after : Context} {trace : List (Attempt × Bool)}
    (hempty : before.registry.entries = []) (hnew : before.builtinsLoaded = false)
    (hcourse : (before.addBuiltins catalogue).2.Course reported trace after) :
    catalogue.Kept reported before after := by
  have hload := before.tries_addBuiltins catalogue
  rw [if_neg (by simp [hnew])] at hload
  have howner {category : Category} {name : String} (h : catalogue.Seeds (category, name)) :
      after.registry.owner? category name = some builtinOwner :=
    hcourse.find?_of_some (h.owner hempty hload)
  have hbuiltin (category : Category) (name : String) (h : catalogue.Seeds (category, name)) :
      after.registry.lookup category name = some ⟨builtinOwner, none⟩ := by
    simp only [Registry.lookup, howner h]
  refine ⟨hbuiltin, ?_, ?_⟩
  · intro control key module owner hmem
    rw [Context.resolveDirect_fst] at hmem
    have hmodule : Table.get? [(key, module)] key = some module := if_pos rfl
    obtain ⟨hother, _, kept, hkept, entry, hentry, found, hfound, rfl⟩ :=
      (Registry.mem_directDependencies hmodule).1 hmem
    obtain rfl : module = kept := Option.some.inj (hmodule.symm.trans hkept)
    refine ⟨entry, hentry, fun hseeds => hother ?_, found, hfound, rfl⟩
    rw [hbuiltin _ _ hseeds] at hfound
    exact (congrArg Match.owner (Option.some.inj hfound)).symm
  · intro category name hmeant
    obtain ⟨target, htarget, hseeds⟩ := hmeant
    have hloaded : (before.addBuiltins catalogue).2.registry.lookup category name ≠ none := by
      rw [ne_eq, Registry.lookup_eq_none_iff]
      intro hnone
      have hsome := hseeds.owner hempty hload
      rw [hnone target htarget] at hsome
      cases hsome
    refine ⟨hcourse.lookup_ne_none hloaded, fun source hmissing => ?_⟩
    exact (hcourse.not_missing hloaded hmissing).imp_left Context.missing_mem_found_addBuiltins

/-- The first definition of a symbol wins over whole runs. Whatever operations a run carries out,
and also where they fail half-way, the definitions that they attempt are the steps of a course from
the context before to the context after, and the first one of each symbol wins on it: it alone
succeeds and names the owner, no entry is removed, changed or moved, and the later ones are recorded
as duplicates unless repetition is allowed. If the run begins with a catalogue and without any
symbol, references to the symbols of the catalogue stay builtin, and those that may mean one are
never missing. -/
theorem first_definition_wins (operations : List Operation) (state : RunState) :
    (∃ trace : List (Attempt × Bool),
      trace.map Prod.fst = attemptsAll operations state ∧
      state.context.Course (operations.flatMap Operation.reported) trace
        (runAll operations state).2.context ∧
      state.context.FirstWins (operations.flatMap Operation.reported) trace
        (runAll operations state).2.context) ∧
    ∀ catalogue rest, operations = .addBuiltins catalogue :: rest →
      state.context.registry.entries = [] → state.context.builtinsLoaded = false →
        catalogue.Kept (operations.flatMap Operation.reported) state.context
          (runAll operations state).2.context := by
  constructor
  · obtain ⟨trace, hcourse, htrace⟩ := tries_runAll operations state
    exact ⟨trace, htrace, hcourse, hcourse.firstWins⟩
  · rintro catalogue rest rfl hempty hnew
    obtain ⟨trace, hcourse, _⟩ :=
      tries_runAll rest ((Operation.addBuiltins catalogue).apply state).2
    exact Builtins.kept_of_course hempty hnew hcourse

/-- A catalogue with a resource type, its provider listed twice, and a function of the older
kind. -/
def smallCatalogue : Builtins where
  resourceTypes := [("file", ["posix", "posix"])]
  legacyFunctions := ["notice"]

/-- Operations that begin with the catalogue. A module then defines the resource type again and a
function that is new, refers to both kinds of functions and to a class that nothing defines, and is
resolved. -/
def smallOperations : List Operation :=
  [.addBuiltins smallCatalogue,
    .define .resourceType "::file" "app" false,
    .define .function "greet" "app" false,
    .define .function "::greet" "base" true,
    .addModule "app" { name := "app", path := ⟨"", ["app"]⟩ },
    .onModule "app" (.refer .function "notice" "init.pp"),
    .onModule "app" (.refer .resourceType "::file" "init.pp"),
    .onModule "app" (.refer .hostClass "lost" "init.pp"),
    .resolve [] { names := ["app"] }]

/-- The run of the small operations: the resource type stays builtin, the second definition of it is
recorded, and of the references only the one to the class is missing. -/
theorem smallOperations_keep_catalogue :
    let after := (runAll smallOperations {}).2.context
    after.registry.lookup .resourceType "::file" = some ⟨builtinOwner, none⟩ ∧
      after.registry.lookup .function "notice" ≠ none ∧
      .missingDefinition .function "notice" "init.pp" ∉ after.diagnostics.found ∧
      after.registry.size = 4 ∧
      after.diagnostics.found =
        [.duplicateDefinition .resourceType "file" "app",
          .missingDefinition .hostClass "lost" "init.pp"] := by
  have hkept := (first_definition_wins smallOperations {}).2 smallCatalogue _ rfl rfl rfl
  obtain ⟨hmeant, hmissing⟩ := hkept.present .function "notice"
    ⟨(.legacyFunction, "notice"), by decide, by decide⟩
  refine ⟨hkept.builtin .resourceType "::file" (by decide), hmeant, fun h => ?_, by cbv, by cbv⟩
  rcases hmissing "init.pp" h with hbefore | hreported
  · cases hbefore
  · cases hreported

end ModuleGraph
