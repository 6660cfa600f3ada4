import ModuleGraph.Proofs.Deafness

/-!
# Sequences of operations

A `RunState` is what the operations of a run share: the context, the table of modules and a resolver
that is kept. `Operation.apply` carries out one operation and answers it, and `runAll` carries out
operations in order; a failed operation is answered like any other, and the next one goes on from
what it left.

`says_apply` says what one operation says, and `says_runAll` carries it along a whole run: apart
from the answers that tell whether a warning is known, neither the answers nor what is left depend
on the diagnostics, and the diagnostics hear the same.
-/

namespace ModuleGraph

/-! ## States and operations -/

/-- What the operations of a run share. -/
structure RunState where
  /-- What the run has learnt. -/
  context : Context := {}
  /-- The modules by key. -/
  modules : Table String Module := []
  /-- The resolver that is kept. -/
  resolver : Resolver := {}

namespace RunState

/-- The state with other diagnostics. -/
def hearing (state : RunState) (diagnostics : Diagnostics) : RunState :=
  { state with context := state.context.hearing diagnostics }

/-- The state in which other warnings are known. -/
def knowing (state : RunState) (known : List Warning) : RunState :=
  state.hearing { state.context.diagnostics with known }

/-- Replaces the context and the references of a module. -/
def enter (state : RunState) (key : String) (module : Module)
    (entered : Context × Dependencies) : RunState :=
  { state with
    context := entered.1
    modules := state.modules.put key { module with dependencies := entered.2 } }

end RunState

/-- An operation on one module. -/
inductive ModuleOperation
  /-- A file refers to a symbol. -/
  | refer (category : Category) (name source : String)
  /-- The tree of a file is read. -/
  | walk (file : SourceFile) (root : Node)
  /-- The plugin files are read. -/
  | scanPlugins (files : FileSystem) (relativeTo : Option Path)
  /-- The metadata file is looked for. -/
  | checkMetadata (files : FileSystem)

/-- An operation of a run. -/
inductive Operation
  /-- A source defines a symbol. -/
  | define (category : Category) (name source : String) (allowRepeated : Bool)
  /-- The builtin symbols are added. -/
  | addBuiltins (catalogue : Builtins)
  /-- A module is put into the table. -/
  | addModule (key : String) (module : Module)
  /-- Something is done with a module of the table. -/
  | onModule (key : String) (operation : ModuleOperation)
  /-- A snapshot is restored. -/
  | restore (snapshot : Snapshot) (excluded : List String)
  /-- Inherited variables get their names. -/
  | aliasInherited
  /-- Modules are resolved by a new resolver. -/
  | resolve (controlModules : List String) (request : Request)
  /-- Modules are resolved by the resolver that is kept. -/
  | resolveKept (request : Request)
  /-- A warning is reported, by its description unless a message is given. -/
  | report (warning : Warning) (message : Option String)
  /-- A warning is evaluated. -/
  | evaluate (warning : Warning)
  /-- A message is surfaced. -/
  | warn (message : String)

/-- The answer to an operation. -/
inductive Answer
  /-- The operation has no result. -/
  | done
  /-- Whether a warning was surfaced, or is known. -/
  | flag (value : Bool)
  /-- Whether a symbol was defined. -/
  | defined (added : Bool)
  /-- A number of definitions or modules. -/
  | count (number : Nat)
  /-- The names left open. -/
  | pending (names : List Node)
  /-- The outcome of resolving. -/
  | resolved (resolution : Resolution)
  /-- The operation failed. -/
  | failed (failure : Failure)

namespace Answer

/-- The answer of an outcome. -/
def ofOutcome {α : Type} (answer : α → Answer) : Except Failure α → Answer
  | .ok value => answer value
  | .error failure => .failed failure

/-- The answer without the flag that tells whether a warning is known. -/
def blind : Answer → Answer
  | .flag _ => .done
  | answer => answer

/-- Only a flag is hidden. -/
theorem blind_ofOutcome {α : Type} {answer : α → Answer} (h : ∀ value, (answer value).blind =
    answer value) (outcome : Except Failure α) :
    (ofOutcome answer outcome).blind = ofOutcome answer outcome := by
  cases outcome with
  | ok value => exact h value
  | error failure => rfl

end Answer

namespace ModuleOperation

/-- The state in which the metadata of a module are looked for. -/
def metadataScan (module : Module) (context : Context) : ModuleScan where
  directory :=
    { path := module.path
      controlRepo := some module.controlRepo
      name := some module.name }
  dependencies := module.dependencies
  context := context

/-- Carries out an operation on the module of a key. -/
def apply (key : String) (module : Module) (state : RunState) :
    ModuleOperation → Answer × RunState
  | .refer category name source =>
    match module.dependencies.add? category name source with
    | .ok dependencies => (.done, state.enter key module (state.context, dependencies))
    | .error failure => (.failed failure, state)
  | .walk file root =>
    let (outcome, entered) :=
      readSource module.name file root (state.context, module.dependencies)
    (.ofOutcome .pending outcome, state.enter key module entered)
  | .scanPlugins files relativeTo =>
    let plugins := Plugin.pluginFacts files ⟨module.path, relativeTo⟩
    let entered := Fact.recordAll module.name (state.context, module.dependencies) plugins.facts
    let added := entered.1.registry.size - state.context.registry.size
    (.ofOutcome (fun _ => .count added) plugins.outcome, state.enter key module entered)
  | .checkMetadata files =>
    let (outcome, scan) := runFrom (ModuleScan.checkMetadata files module.name)
      (metadataScan module state.context)
    (.ofOutcome (fun _ => .done) outcome, { state with context := scan.context })

/-- The messages that an operation surfaces and that belong to no kind of warning. -/
def remarks (module : Module) : ModuleOperation → List String
  | .walk file root => sourceRemarks file root
  | .scanPlugins files relativeTo =>
    (Plugin.pluginFacts files ⟨module.path, relativeTo⟩).facts.flatMap Fact.remarks
  | .refer .. | .checkMetadata .. => []

end ModuleOperation

namespace Operation

/-- The message of a reported warning. -/
def reportMessage (warning : Warning) : Option String → String
  | some message => if message = "" then warning.describe else message
  | none => warning.describe

/-- Carries out an operation. -/
def apply (state : RunState) : Operation → Answer × RunState
  | .define category name source allowRepeated =>
    let (added, context) := state.context.define category name source allowRepeated
    (.defined added, { state with context })
  | .addBuiltins catalogue =>
    let (count, context) := state.context.addBuiltins catalogue
    (.count count, { state with context })
  | .addModule key module => (.done, { state with modules := state.modules.put key module })
  | .onModule key operation =>
    match state.modules.get? key with
    | some module => operation.apply key module state
    | none => (.failed .undefinedOperation, state)
  | .restore snapshot excluded =>
    let (count, context, modules) := snapshot.restore excluded (state.context, state.modules)
    (.count count, { state with context, modules })
  | .aliasInherited =>
    let (count, context) := state.context.aliasInherited
    (.count count, { state with context })
  | .resolve controlModules request =>
    let (outcome, _, context) :=
      Resolver.resolve state.modules request { controlModules } state.context
    (.ofOutcome .resolved outcome, { state with context })
  | .resolveKept request =>
    let (outcome, resolver, context) :=
      state.resolver.resolve state.modules request state.context
    (.ofOutcome .resolved outcome, { state with context, resolver })
  | .report warning message =>
    let (surfaced, diagnostics) :=
      state.context.diagnostics.report warning (reportMessage warning message)
    (.flag surfaced, state.hearing diagnostics)
  | .evaluate warning =>
    let (known, diagnostics) := state.context.diagnostics.evaluate warning
    (.flag known, state.hearing diagnostics)
  | .warn message => (.done, { state with context := state.context.warn message })

/-- The messages that an operation surfaces and that belong to no kind of warning. -/
def remarks (state : RunState) : Operation → List String
  | .addBuiltins catalogue => if state.context.builtinsLoaded then [] else catalogue.remarks
  | .onModule key operation =>
    match state.modules.get? key with
    | some module => operation.remarks module
    | none => []
  | .warn message => [message]
  | _ => []

end Operation

/-- Carries out operations in order. -/
def runAll : List Operation → RunState → List Answer × RunState
  | [], state => ([], state)
  | operation :: rest, state =>
    let (answer, state) := operation.apply state
    let (answers, state) := runAll rest state
    (answer :: answers, state)

/-- The messages that operations surface and that belong to no kind of warning. -/
def remarksAll : List Operation → RunState → List String
  | [], _ => []
  | operation :: rest, state =>
    operation.remarks state ++ remarksAll rest (operation.apply state).2

/-! ## What operations say -/

/-- The outcome of operations without the flags that tell whether a warning is known. -/
def blindly (outcome : List Answer × RunState) : List Answer × RunState :=
  (outcome.1.map Answer.blind, outcome.2)

/-- What an operation on a module says does not depend on the diagnostics. -/
theorem ModuleOperation.says_apply (key : String) (module : Module) (operation : ModuleOperation)
    (state : RunState) :
    ∃ (answer : Answer) (after : RunState), answer.blind = answer ∧
      Says (fun s => operation.apply key module s) state.hearing (operation.remarks module)
        fun diagnostics => (answer, after.hearing diagnostics) := by
  cases operation with
  | refer category name source =>
      cases hadd : module.dependencies.add? category name source with
      | ok dependencies =>
          refine ⟨.done, state.enter key module (state.context, dependencies), rfl,
            says_nothing_of_eq fun diagnostics => ?_⟩
          simp only [apply, hadd]
          rfl
      | error failure =>
          refine ⟨.failed failure, state, rfl, says_nothing_of_eq fun diagnostics => ?_⟩
          simp only [apply, hadd]
  | walk file root =>
      obtain ⟨outcome, entered, hsaid⟩ :=
        says_readSource module.name file root (state.context, module.dependencies)
      refine ⟨.ofOutcome .pending outcome, state.enter key module entered,
        Answer.blind_ofOutcome (fun _ => rfl) outcome, hsaid.transfer fun diagnostics heard h => ?_⟩
      have hread : readSource module.name file root
          ((state.hearing diagnostics).context, module.dependencies) =
            (outcome, Fact.hearing entered heard) := h
      simp only [apply, hread]
      rfl
  | scanPlugins files relativeTo =>
      let plugins := Plugin.pluginFacts files ⟨module.path, relativeTo⟩
      obtain ⟨entered, hsaid⟩ :=
        Fact.says_recordAll module.name plugins.facts (state.context, module.dependencies)
      let added := entered.1.registry.size - state.context.registry.size
      refine ⟨.ofOutcome (fun _ => .count added) plugins.outcome, state.enter key module entered,
        Answer.blind_ofOutcome (fun _ => rfl) plugins.outcome,
        hsaid.transfer fun diagnostics heard h => ?_⟩
      have hrecord : Fact.recordAll module.name
          ((state.hearing diagnostics).context, module.dependencies) plugins.facts =
            Fact.hearing entered heard := h
      simp only [apply, plugins, hrecord]
      rfl
  | checkMetadata files =>
      obtain ⟨outcome, after, hsaid⟩ := ModuleScan.says_checkMetadata files module.name
        (metadataScan module state.context)
      refine ⟨.ofOutcome (fun _ => .done) outcome, { state with context := after.context },
        Answer.blind_ofOutcome (fun _ => rfl) outcome, hsaid.transfer fun diagnostics heard h => ?_⟩
      have hcheck : runFrom (ModuleScan.checkMetadata files module.name)
          (metadataScan module (state.hearing diagnostics).context) =
            (outcome, after.hearing heard) := h
      simp only [apply, hcheck]
      rfl

/-- A step on the context says the same as a step on the state. -/
theorem RunState.says_onContext {α : Type} {step : Context → α × Context} {state : RunState}
    {remarks : List String} {value : α} {after : Context}
    (h : Says step state.context.hearing remarks
      fun diagnostics => (value, after.hearing diagnostics))
    (answer : α → Answer) :
    Says (fun s : RunState => (answer (step s.context).1, { s with context := (step s.context).2 }))
      state.hearing remarks
      fun diagnostics => (answer value, { state with context := after }.hearing diagnostics) := by
  refine h.transfer fun diagnostics heard hstep => ?_
  have hcontext : step (state.hearing diagnostics).context = (value, after.hearing heard) := hstep
  simp only [hcontext]
  rfl

/-- What an operation says does not depend on the diagnostics, and neither does its answer, flags
apart. -/
theorem Operation.says_apply (operation : Operation) (state : RunState) :
    ∃ (answer : Answer) (after : RunState),
      Says (fun s => ((operation.apply s).1.blind, (operation.apply s).2)) state.hearing
        (operation.remarks state) fun diagnostics => (answer, after.hearing diagnostics) := by
  cases operation with
  | define category name source allowRepeated =>
      obtain ⟨_, _, hsaid⟩ := state.context.says_define category name source allowRepeated
      exact ⟨_, _, RunState.says_onContext hsaid .defined⟩
  | addBuiltins catalogue =>
      obtain ⟨_, _, hsaid⟩ := Context.says_addBuiltins catalogue state.context
      exact ⟨_, _, RunState.says_onContext hsaid .count⟩
  | addModule key module =>
      exact ⟨.done, { state with modules := state.modules.put key module },
        says_nothing_of_eq fun _ => rfl⟩
  | onModule key operation =>
      cases hmodule : state.modules.get? key with
      | some module =>
          obtain ⟨answer, after, hblind, hsaid⟩ := operation.says_apply key module state
          have hremarks : (onModule key operation).remarks state = operation.remarks module := by
            simp only [remarks, hmodule]
          rw [hremarks]
          refine ⟨answer, after, hsaid.transfer fun diagnostics heard h => ?_⟩
          simp only [apply, RunState.hearing, hmodule]
          rw [← hblind]
          exact congrArg (fun outcome : Answer × RunState => (outcome.1.blind, outcome.2)) h
      | none =>
          have hremarks : (onModule key operation).remarks state = [] := by
            simp only [remarks, hmodule]
          rw [hremarks]
          refine ⟨.failed .undefinedOperation, state, says_nothing_of_eq fun diagnostics => ?_⟩
          simp only [apply, RunState.hearing, hmodule]
          rfl
  | restore snapshot excluded =>
      obtain ⟨count, after, modules, hsaid⟩ :=
        snapshot.says_restore excluded state.context state.modules
      refine ⟨.count count, { state with context := after, modules },
        hsaid.transfer fun diagnostics heard h => ?_⟩
      have hrestore : snapshot.restore excluded ((state.hearing diagnostics).context,
          (state.hearing diagnostics).modules) = (count, after.hearing heard, modules) := h
      simp only [apply, hrestore]
      rfl
  | aliasInherited =>
      obtain ⟨_, _, hsaid⟩ := state.context.says_aliasInherited
      exact ⟨_, _, RunState.says_onContext hsaid .count⟩
  | resolve controlModules request =>
      obtain ⟨_, _, _, hsaid⟩ :=
        Resolver.says_resolve state.modules request { controlModules } state.context
      exact ⟨_, _, RunState.says_onContext (hsaid.map fun found => (found.1, found.2.2))
        fun outcome => (Answer.ofOutcome .resolved outcome).blind⟩
  | resolveKept request =>
      obtain ⟨outcome, resolver, after, hsaid⟩ :=
        Resolver.says_resolve state.modules request state.resolver state.context
      refine ⟨(Answer.ofOutcome .resolved outcome).blind, { state with context := after, resolver },
        hsaid.transfer fun diagnostics heard h => ?_⟩
      have hresolve : Resolver.resolve (state.hearing diagnostics).modules request
          (state.hearing diagnostics).resolver (state.hearing diagnostics).context =
            (outcome, resolver, after.hearing heard) := h
      simp only [apply, hresolve]
      rfl
  | report warning message =>
      have hsaid := state.context.says_report warning (reportMessage warning message)
      exact ⟨_, _, RunState.says_onContext (hsaid.map fun c => ((), c)) fun _ => .done⟩
  | evaluate warning =>
      exact ⟨.done, state, [.evaluate warning], rfl,
        fun diagnostics => ⟨_, rfl, diagnostics.hears_evaluate warning⟩⟩
  | warn message =>
      have hsaid := state.context.says_warn message
      exact ⟨_, _, RunState.says_onContext (hsaid.map fun c => ((), c)) fun _ => .done⟩

/-- What operations remark does not depend on the diagnostics. -/
theorem remarksAll_hearing (operations : List Operation) (state : RunState)
    (first second : Diagnostics) :
    remarksAll operations (state.hearing first) = remarksAll operations (state.hearing second) := by
  induction operations generalizing state first second with
  | nil => rfl
  | cons operation rest ih =>
      obtain ⟨_, after, _, _, hsaid⟩ := operation.says_apply state
      obtain ⟨heard, hfirst, _⟩ := hsaid first
      obtain ⟨heard', hsecond, _⟩ := hsaid second
      have hremarks : operation.remarks (state.hearing first) =
          operation.remarks (state.hearing second) := by cases operation <;> rfl
      simp only [remarksAll, hremarks, (Prod.mk.inj hfirst).2, (Prod.mk.inj hsecond).2]
      rw [ih after heard heard']

/-- What operations say does not depend on the diagnostics, and neither do their answers, flags
apart. -/
theorem says_runAll (operations : List Operation) (state : RunState) :
    ∃ (answers : List Answer) (after : RunState),
      Says (fun s => blindly (runAll operations s)) state.hearing (remarksAll operations state)
        fun diagnostics => (answers, after.hearing diagnostics) := by
  induction operations generalizing state with
  | nil => exact ⟨[], state, says_nothing _ _⟩
  | cons operation rest ih =>
      obtain ⟨answer, between, hfirst⟩ := operation.says_apply state
      obtain ⟨answers, after, hrest⟩ := ih between
      have hremarks : remarksAll rest (operation.apply state).2 = remarksAll rest between := by
        obtain ⟨_, _, hsaid⟩ := hfirst
        obtain ⟨heard, hstep, _⟩ := hsaid state.context.diagnostics
        have hstate : (operation.apply state).2 = between.hearing heard := (Prod.mk.inj hstep).2
        rw [hstate]
        exact remarksAll_hearing rest between heard between.context.diagnostics
      refine ⟨answer :: answers, after, ?_⟩
      rw [remarksAll, hremarks]
      refine hfirst.seq (hrest.map fun outcome => (answer :: outcome.1, outcome.2)) ?_
      intro diagnostics heard hstep
      obtain ⟨hanswer, hstate⟩ := Prod.mk.inj hstep
      simp only [runAll, blindly, List.map_cons, hanswer, hstate]

end ModuleGraph
