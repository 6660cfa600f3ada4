import ModuleGraph.Proofs.Operations

/-!
# Known warnings change no outcome

The same operations are carried out twice, with different known warnings.
`runAll_independent_of_known` says that both runs learn the same, give the same answers and record
the same warnings; only what surfaces differs. Knowing more warnings can only silence, and where all
recorded warnings are known nothing but remarks surfaces.
-/

namespace ModuleGraph

/-- Two states hold the same apart from what was known and surfaced. -/
structure RunState.LearntLike (first second : RunState) : Prop where
  /-- The symbols have the same owners. -/
  registry : first.context.registry = second.context.registry
  /-- The inheritance is the same. -/
  inherits : first.context.inherits = second.context.inherits
  /-- The unknown node kinds are the same. -/
  unhandledKinds : first.context.unhandledKinds = second.context.unhandledKinds
  /-- The builtin symbols were added to both or to neither. -/
  builtinsLoaded : first.context.builtinsLoaded = second.context.builtinsLoaded
  /-- The tables of modules are the same. -/
  modules : first.modules = second.modules
  /-- The kept resolvers found out the same. -/
  resolver : first.resolver = second.resolver
  /-- The same warnings were evaluated, in the same order. -/
  found : first.context.diagnostics.found = second.context.diagnostics.found

/-- The diagnostics hear the same from operations whatever they hold, and apart from the flags the
operations answer and learn the same. -/
theorem runAll_hears (operations : List Operation) (start : RunState) :
    ∃ sayings : List Saying,
      sayings.filterMap Saying.remark? = remarksAll operations start ∧
      (∀ diagnostics : Diagnostics, diagnostics.Hears sayings
        (runAll operations (start.hearing diagnostics)).2.context.diagnostics) ∧
      ∀ first second : Diagnostics,
        (runAll operations (start.hearing first)).1.map Answer.blind =
          (runAll operations (start.hearing second)).1.map Answer.blind ∧
        (first.found = second.found → (runAll operations (start.hearing first)).2.LearntLike
          (runAll operations (start.hearing second)).2) := by
  obtain ⟨answers, after, sayings, hremarks, hsaid⟩ := says_runAll operations start
  have hrun (diagnostics : Diagnostics) : ∃ heard,
      (runAll operations (start.hearing diagnostics)).1.map Answer.blind = answers ∧
      (runAll operations (start.hearing diagnostics)).2 = after.hearing heard ∧
      diagnostics.Hears sayings heard := by
    obtain ⟨heard, hstep, hhears⟩ := hsaid diagnostics
    exact ⟨heard, (Prod.mk.inj hstep).1, (Prod.mk.inj hstep).2, hhears⟩
  refine ⟨sayings, hremarks, fun diagnostics => ?_, fun first second => ?_⟩
  · obtain ⟨heard, _, hstate, hhears⟩ := hrun diagnostics
    rw [hstate]
    exact hhears
  · obtain ⟨heard, hanswers, hstate, hhears⟩ := hrun first
    obtain ⟨heard', hanswers', hstate', hhears'⟩ := hrun second
    refine ⟨hanswers.trans hanswers'.symm, fun hfound => ?_⟩
    have hsame : heard.found = heard'.found := by
      rw [hhears.found, hhears'.found, hfound]
    rw [hstate, hstate']
    exact ⟨rfl, rfl, rfl, rfl, rfl, rfl, hsame⟩

/-- Which warnings are known changes neither what operations learn nor what they answer, only what
surfaces. Where more is known no flag is raised that is not raised otherwise, where all evaluated
warnings are known only remarks surface, and the flag is raised exactly if something surfaces. -/
theorem runAll_independent_of_known (start : RunState) (operations : List Operation)
    (known more : List Warning) :
    let first := runAll operations (start.knowing known)
    let second := runAll operations (start.knowing more)
    first.1.map Answer.blind = second.1.map Answer.blind ∧
    first.2.LearntLike second.2 ∧
    (known ⊆ more → second.2.context.diagnostics.warned = true →
      first.2.context.diagnostics.warned = true) ∧
    (second.2.context.diagnostics.found ⊆ more →
      second.2.context.diagnostics.messages =
        start.context.diagnostics.messages ++ remarksAll operations start) ∧
    (start.context.diagnostics.messages = [] → start.context.diagnostics.warned = false →
      (second.2.context.diagnostics.warned = true ↔
        second.2.context.diagnostics.messages ≠ [])) := by
  intro first second
  obtain ⟨sayings, hremarks, hhears, hsame⟩ := runAll_hears operations start
  obtain ⟨hanswers, hlearnt⟩ := hsame { start.context.diagnostics with known }
    { start.context.diagnostics with known := more }
  have hfirst := hhears { start.context.diagnostics with known }
  have hsecond := hhears { start.context.diagnostics with known := more }
  refine ⟨hanswers, hlearnt rfl, ?_, ?_, ?_⟩
  · exact fun hsubset => hfirst.warned_of_subset hsecond rfl hsubset
  · intro hknown
    rw [← hremarks]
    exact hsecond.messages_of_known hknown
  · exact hsecond.warned_iff

/-- Operations with a symbol that is defined twice, one that is missing, and a remark. -/
def noisyOperations : List Operation := [
  .define .hostClass "ntp" "ntp" false,
  .define .hostClass "::ntp" "chrony" false,
  .addModule "site" { name := "site", path := .ofText "modules/site" },
  .onModule "site" (.refer .hostClass "ntp" "init.pp"),
  .onModule "site" (.refer .hostClass "web" "init.pp"),
  .warn "Disk is full",
  .resolve defaultControlModules { names := ["site"] }]

/-- The warnings that `noisyOperations` evaluate. -/
def noisyWarnings : List Warning := [
  .duplicateDefinition .hostClass "ntp" "chrony",
  .missingDefinition .hostClass "web" "init.pp"]

/-- Three messages surface from `noisyOperations`, and only the remark once their warnings are
known. -/
theorem noisyOperations_silenced :
    let first := runAll noisyOperations (({} : RunState).knowing [])
    let second := runAll noisyOperations (({} : RunState).knowing noisyWarnings)
    first.2.context.diagnostics.messages.length = 3 ∧
    first.2.context.diagnostics.found = noisyWarnings ∧
    first.1.map Answer.blind = second.1.map Answer.blind ∧ first.2.LearntLike second.2 ∧
    second.2.context.diagnostics.messages = ["Disk is full"] ∧
    second.2.context.diagnostics.warned = true ∧ first.2.context.diagnostics.warned = true := by
  intro first second
  obtain ⟨hanswers, hlearnt, hflag, hmessages, hwarned⟩ :=
    runAll_independent_of_known {} noisyOperations [] noisyWarnings
  have hfound : first.2.context.diagnostics.found = noisyWarnings := by decide +kernel
  have hknown : second.2.context.diagnostics.found ⊆ noisyWarnings := by
    rw [← hlearnt.found, hfound]
    exact List.Subset.refl _
  have hremark : remarksAll noisyOperations {} = ["Disk is full"] := by decide +kernel
  have hsurfaced : second.2.context.diagnostics.messages = ["Disk is full"] := by
    rw [hmessages hknown, hremark]
    rfl
  have hraised : second.2.context.diagnostics.warned = true := by
    refine (hwarned rfl rfl).2 ?_
    rw [hsurfaced]
    exact List.cons_ne_nil _ _
  exact ⟨by decide +kernel, hfound, hanswers, hlearnt, hsurfaced, hraised,
    hflag (List.nil_subset _) hraised⟩

end ModuleGraph
