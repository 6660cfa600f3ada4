import ModuleGraph.Proofs.Likeness

/-!
# Courses of definitions

Whatever happens to a context is a `Context.Course`: definitions are attempted one after another,
each with the answer whether its source became the owner, and in between nothing is defined
(`Aside`). Who attempts a definition, and whether it was met while a file was read, a snapshot was
restored or a variable got its name in another class, makes no difference.

`Course.firstWins` says what every course leaves. Exactly the first attempt for a symbol without
owner is answered with yes and adds an entry at the end of the registry; no entry is removed,
changed or moved, and exactly the later attempts that may not repeat are recorded as duplicates. By
`Course.not_missing`, a reference that means something at the start is never recorded as missing.
-/

namespace ModuleGraph

/-! ## Attempts -/

/-- A definition that is attempted. -/
structure Attempt where
  /-- The category of the symbol. -/
  category : Category
  /-- The name of the symbol as it is written. -/
  name : String
  /-- The module that defines the symbol. -/
  source : String
  /-- The symbol may have an owner already. -/
  allowRepeated : Bool
deriving DecidableEq, Repr

namespace Attempt

/-- The symbol that is defined, without top scope marker. -/
def symbol (attempt : Attempt) : Category × String :=
  (attempt.category, normalizeName attempt.name)

/-- The entry that is made if the symbol has no owner. -/
def definition (attempt : Attempt) : Definition :=
  ⟨attempt.category, normalizeName attempt.name, attempt.source⟩

/-- The warning that is reported if the symbol has an owner and may not be repeated. -/
def duplicate (attempt : Attempt) : Warning :=
  .duplicateDefinition attempt.category (normalizeName attempt.name) attempt.source

end Attempt

namespace Context

/-- Attempts a definition, and says whether its source became the owner. -/
def attempt (context : Context) (attempt : Attempt) : Bool × Context :=
  context.define attempt.category attempt.name attempt.source attempt.allowRepeated

/-- A definition succeeds if its symbol has no owner. -/
theorem attempt_fst (context : Context) (attempt : Attempt) :
    (context.attempt attempt).1 =
      decide (context.registry.find? attempt.category (normalizeName attempt.name) = none) := by
  simp only [Context.attempt, define, noteDefinition_registry]
  cases hfind : context.registry.find? attempt.category (normalizeName attempt.name) with
  | none => rfl
  | some owner => cases attempt.allowRepeated <;> rfl

/-- A definition that succeeds adds its entry at the end. -/
theorem attempt_entries (context : Context) (attempt : Attempt) :
    (context.attempt attempt).2.registry.entries = context.registry.entries ++
      if (context.attempt attempt).1 then [attempt.definition] else [] := by
  rw [attempt_fst]
  simp only [Context.attempt, define_registry, Registry.addNew, decide_eq_true_eq]
  split
  · rfl
  · exact (List.append_nil _).symm

/-- The owner of a symbol after a definition was attempted. -/
theorem find?_attempt (context : Context) (attempt : Attempt) (category : Category)
    (name : String) :
    (context.attempt attempt).2.registry.find? category name =
      (context.registry.find? category name).or
        (if attempt.symbol = (category, name) then some attempt.source else none) := by
  simp only [Context.attempt, define_registry, Registry.find?_addNew, Attempt.symbol,
    Prod.mk.injEq]

/-- A definition records no missing symbol. -/
theorem missing_mem_found_attempt {context : Context} {attempt : Attempt} {category : Category}
    {name source : String}
    (h : .missingDefinition category name source ∈ (context.attempt attempt).2.diagnostics.found) :
    .missingDefinition category name source ∈ context.diagnostics.found := by
  have hheard := context.hears_define attempt.category attempt.name attempt.source
    attempt.allowRepeated
  rw [Context.attempt, hheard.found, Diagnostics.mem_foldl_insertNew] at h
  refine h.resolve_right fun hwarning => ?_
  unfold Registry.definitionSayings at hwarning
  split at hwarning
  · cases hwarning
  · split at hwarning
    · cases hwarning
    · exact Warning.noConfusion (List.mem_singleton.1 hwarning)

end Context

/-! ## Asides -/

/-- A warning that may be recorded while nothing is defined: none about a symbol that is defined
again, and one about a missing symbol only if nothing owns what the reference may mean. -/
def Registry.Excuses (registry : Registry) : Warning → Prop
  | .duplicateDefinition .. => False
  | .missingDefinition category name _ => registry.lookup category name = none
  | .typeError .. | .controlDependency .. | .missingMetadata .. => True

namespace Context

/-- Nothing is defined between two contexts, and what is recorded is excused or among the warnings
that are reported from outside. -/
structure Aside (reported : List Warning) (before after : Context) : Prop where
  /-- No entry is added. -/
  registry : after.registry = before.registry
  /-- What the diagnostics hear. -/
  hears : ∃ sayings, before.diagnostics.Hears sayings after.diagnostics ∧
    ∀ warning ∈ sayings.flatMap Saying.warnings,
      warning ∈ reported ∨ before.registry.Excuses warning

variable {reported : List Warning} {before between after : Context}

/-- Something silent happens. -/
theorem Aside.of_silent (hregistry : after.registry = before.registry)
    (hsilent : before.diagnostics.Hears [] after.diagnostics) : Aside reported before after :=
  ⟨hregistry, [], hsilent, fun _ hwarning => by cases hwarning⟩

/-- Nothing happens. -/
theorem Aside.refl (reported : List Warning) (context : Context) :
    Aside reported context context :=
  .of_silent rfl context.diagnostics.hears_nil

/-- One thing happens after another. -/
theorem Aside.trans (hfirst : Aside reported before between)
    (hsecond : Aside reported between after) : Aside reported before after := by
  obtain ⟨sayings, hheard, hexcused⟩ := hfirst.hears
  obtain ⟨more, hmore, hexcused'⟩ := hsecond.hears
  refine ⟨hsecond.registry.trans hfirst.registry, sayings ++ more, hheard.append hmore, ?_⟩
  intro warning hwarning
  rw [List.flatMap_append, List.mem_append] at hwarning
  rw [hfirst.registry] at hexcused'
  exact hwarning.elim (hexcused warning) (hexcused' warning)

/-- A record is added to the journal. -/
theorem aside_log (context : Context) (level : Level) (message : String) :
    Aside [] context (context.log level message) :=
  .of_silent rfl (context.diagnostics.hears_log level message)

/-- A message is surfaced. -/
theorem aside_warn (context : Context) (message : String) :
    Aside [] context (context.warn message) :=
  ⟨rfl, _, context.diagnostics.hears_warn message, fun _ hwarning => by cases hwarning⟩

/-- A warning is reported that may be. -/
theorem aside_report (context : Context) {warning : Warning}
    (h : warning ∈ reported ∨ context.registry.Excuses warning) (message : String) :
    Aside reported context (context.report warning message) := by
  refine ⟨rfl, _, context.diagnostics.hears_report warning message, fun other hother => ?_⟩
  rw [show other = warning from List.mem_singleton.1 hother]
  exact h

/-- What was recorded before is recorded still, and what was not is reported or excused. -/
theorem Aside.mem_found (h : Aside reported before after) {warning : Warning} :
    (warning ∈ before.diagnostics.found → warning ∈ after.diagnostics.found) ∧
      (warning ∈ after.diagnostics.found → warning ∈ before.diagnostics.found ∨
        warning ∈ reported ∨ before.registry.Excuses warning) := by
  obtain ⟨sayings, hheard, hexcused⟩ := h.hears
  rw [hheard.found, Diagnostics.mem_foldl_insertNew]
  exact ⟨.inl, Or.imp_right (hexcused warning)⟩

/-! ## Courses -/

/-- A context goes through definitions, each with its answer, and nothing else is defined. -/
inductive Course (reported : List Warning) : Context → List (Attempt × Bool) → Context → Prop
  /-- Nothing happens any more. -/
  | done (context : Context) : Course reported context [] context
  /-- Something happens that defines nothing. -/
  | aside {before between after : Context} {trace : List (Attempt × Bool)}
      (h : Aside reported before between) (hrest : Course reported between trace after) :
      Course reported before trace after
  /-- A definition is attempted. -/
  | attempt {before after : Context} {trace : List (Attempt × Bool)} (attempt : Attempt)
      (hrest : Course reported (before.attempt attempt).2 trace after) :
      Course reported before ((attempt, (before.attempt attempt).1) :: trace) after

namespace Course

variable {trace more : List (Attempt × Bool)}

/-- One course after another. -/
theorem append (hfirst : Course reported before trace between)
    (hsecond : Course reported between more after) :
    Course reported before (trace ++ more) after := by
  induction hfirst with
  | done => exact hsecond
  | aside h _ ih => exact .aside h (ih hsecond)
  | attempt attempt _ ih => exact .attempt attempt (ih hsecond)

/-- A course may be told with more warnings that are reported from outside. -/
theorem mono (h : Course reported before trace after) {others : List Warning}
    (hsubset : reported ⊆ others) : Course others before trace after := by
  induction h with
  | done context => exact .done context
  | aside haside _ ih =>
      obtain ⟨hregistry, sayings, hheard, hexcused⟩ := haside
      exact .aside ⟨hregistry, sayings, hheard, fun warning hwarning =>
        (hexcused warning hwarning).imp_left fun hmem => hsubset hmem⟩ ih
  | attempt attempt _ ih => exact .attempt attempt ih

/-- Entries are added at the end, one for each definition that succeeds. -/
theorem entries_eq (h : Course reported before trace after) :
    after.registry.entries = before.registry.entries ++
      (trace.filter Prod.snd).map fun entry => entry.1.definition := by
  induction h with
  | done => simp
  | aside haside _ ih => rw [ih, haside.registry]
  | attempt attempt _ ih =>
      rw [ih, attempt_entries, List.append_assoc, List.filter_cons]
      split <;> rfl

/-- A definition succeeds if its symbol had no owner at the start and was not attempted before. -/
theorem added_iff {front back : List (Attempt × Bool)} {attempt : Attempt} {added : Bool}
    (h : Course reported before (front ++ (attempt, added) :: back) after) :
    added = true ↔
      before.registry.find? attempt.category (normalizeName attempt.name) = none ∧
        ∀ entry ∈ front, entry.1.symbol ≠ attempt.symbol := by
  generalize htrace : front ++ (attempt, added) :: back = trace at h
  induction h generalizing front with
  | done => simp at htrace
  | aside haside _ ih => rw [ih htrace, haside.registry]
  | @attempt before after trace first hrest ih =>
      cases front with
      | nil =>
          obtain ⟨hfirst, -⟩ := List.cons_eq_cons.1 htrace
          obtain ⟨rfl, rfl⟩ := Prod.mk.inj hfirst
          simp [attempt_fst]
      | cons entry front =>
          obtain ⟨rfl, hfront⟩ := List.cons_eq_cons.1 htrace
          rw [ih hfront, find?_attempt, Option.or_eq_none_iff, List.forall_mem_cons, and_assoc]
          simp [Attempt.symbol]

/-- A symbol keeps its owner, or else gets the source of the first definition for it. -/
theorem find?_eq (h : Course reported before trace after) (category : Category) (name : String) :
    after.registry.find? category name = (before.registry.find? category name).or
      ((trace.find? fun entry => entry.1.symbol = (category, name)).map
        fun entry => entry.1.source) := by
  induction h with
  | done => simp
  | aside haside _ ih => rw [ih, haside.registry]
  | attempt attempt _ ih =>
      rw [ih, find?_attempt, Option.or_assoc, List.find?_cons]
      by_cases hsymbol : attempt.symbol = (category, name) <;> simp [hsymbol]

/-- The duplicates that are recorded, other than those that are reported from outside. -/
theorem duplicate_mem_found_iff (h : Course reported before trace after) {category : Category}
    {name source : String} (hreported : .duplicateDefinition category name source ∉ reported) :
    .duplicateDefinition category name source ∈ after.diagnostics.found ↔
      .duplicateDefinition category name source ∈ before.diagnostics.found ∨
        ∃ entry ∈ trace, entry.2 = false ∧ entry.1.allowRepeated = false ∧
          entry.1.duplicate = .duplicateDefinition category name source := by
  induction h with
  | done => simp
  | aside haside _ ih =>
      rw [ih]
      refine or_congr_left ⟨fun hmem => ?_, haside.mem_found.1⟩
      rcases haside.mem_found.2 hmem with hbefore | hmem | hexcused
      · exact hbefore
      · exact absurd hmem hreported
      · exact absurd hexcused id
  | @attempt before after trace attempt _ ih =>
      have hheard := before.hears_define attempt.category attempt.name attempt.source
        attempt.allowRepeated
      rw [ih, Context.attempt, hheard.found, Diagnostics.mem_foldl_insertNew, or_assoc,
        List.exists_mem_cons_iff, ← Context.attempt, attempt_fst]
      refine or_congr_right (or_congr_left ?_)
      unfold Registry.definitionSayings
      cases hfind : before.registry.find? attempt.category (normalizeName attempt.name) with
      | none => simp
      | some owner =>
          cases hrepeated : attempt.allowRepeated with
          | true => simp
          | false => simp [Saying.warnings, Attempt.duplicate, eq_comm]

/-- A symbol that has an owner keeps it. -/
theorem find?_of_some (h : Course reported before trace after) {category : Category}
    {name owner : String} (howner : before.registry.find? category name = some owner) :
    after.registry.find? category name = some owner := by
  rw [h.find?_eq, howner, Option.some_or]

/-- A reference that means something keeps a meaning. -/
theorem lookup_ne_none (h : Course reported before trace after) {category : Category}
    {name : String} (hmeant : before.registry.lookup category name ≠ none) :
    after.registry.lookup category name ≠ none := by
  rw [ne_eq, Registry.lookup_eq_none_iff] at hmeant ⊢
  intro hnone
  refine hmeant fun target htarget => ?_
  have howner := hnone target htarget
  unfold Registry.owner? at howner
  rw [h.find?_eq, Option.or_eq_none_iff] at howner
  exact howner.1

/-- A reference that means something is never recorded as missing, unless that is reported from
outside. -/
theorem not_missing (h : Course reported before trace after) {category : Category}
    {name source : String} (hmeant : before.registry.lookup category name ≠ none)
    (hmissing : .missingDefinition category name source ∈ after.diagnostics.found) :
    .missingDefinition category name source ∈ before.diagnostics.found ∨
      .missingDefinition category name source ∈ reported := by
  induction h with
  | done => exact .inl hmissing
  | aside haside _ ih =>
      rw [haside.registry] at ih
      refine (ih hmeant hmissing).elim (fun hmem => ?_) .inr
      rcases haside.mem_found.2 hmem with hbefore | hreported | hexcused
      · exact .inl hbefore
      · exact .inr hreported
      · exact absurd hexcused hmeant
  | @attempt before after trace attempt _ ih =>
      have hstep : Course reported before [(attempt, _)] _ := .attempt attempt (.done _)
      have hkept := hstep.lookup_ne_none hmeant
      exact (ih hkept hmissing).imp_left missing_mem_found_attempt

end Course

/-- What a course of definitions leaves behind. -/
structure FirstWins (reported : List Warning) (before : Context) (trace : List (Attempt × Bool))
    (after : Context) : Prop where
  /-- No entry is removed, changed or moved, and each definition that succeeds adds one at the
  end. -/
  entries : after.registry.entries = before.registry.entries ++
    (trace.filter Prod.snd).map fun entry => entry.1.definition
  /-- A definition succeeds if it is the first one of a symbol that had no owner. -/
  added : ∀ front attempt added back, trace = front ++ (attempt, added) :: back →
    (added = true ↔
      before.registry.find? attempt.category (normalizeName attempt.name) = none ∧
        ∀ entry ∈ front, entry.1.symbol ≠ attempt.symbol)
  /-- A symbol keeps its owner, or else gets the source of the first definition for it. -/
  owner : ∀ category name, after.registry.find? category name =
    (before.registry.find? category name).or
      ((trace.find? fun entry => entry.1.symbol = (category, name)).map
        fun entry => entry.1.source)
  /-- There are as many new symbols as definitions that succeed. -/
  size : after.registry.size = before.registry.size + trace.countP Prod.snd
  /-- The definitions that do not succeed are recorded as duplicates, unless repetition is allowed,
  and nothing else is but what is reported from outside. -/
  duplicates : ∀ category name source, .duplicateDefinition category name source ∉ reported →
    (.duplicateDefinition category name source ∈ after.diagnostics.found ↔
      .duplicateDefinition category name source ∈ before.diagnostics.found ∨
        ∃ entry ∈ trace, entry.2 = false ∧ entry.1.allowRepeated = false ∧
          entry.1.duplicate = .duplicateDefinition category name source)

/-- In every course, the first definition of a symbol wins. -/
theorem Course.firstWins {trace : List (Attempt × Bool)} (h : Course reported before trace after) :
    FirstWins reported before trace after where
  entries := h.entries_eq
  added := fun front attempt added back htrace => (htrace ▸ h).added_iff
  owner := h.find?_eq
  size := by
    simp only [Registry.size, h.entries_eq, List.length_append, List.length_map,
      List.countP_eq_length_filter]
  duplicates := fun _ _ _ => h.duplicate_mem_found_iff

/-! ## Stretches of a run -/

/-- Some definitions are attempted in order, and nothing else is defined. -/
def Tries (reported : List Warning) (before : Context) (attempts : List Attempt)
    (after : Context) : Prop :=
  ∃ trace, Course reported before trace after ∧ trace.map Prod.fst = attempts

/-- Nothing is defined. -/
theorem Aside.tries (h : Aside reported before after) : Tries reported before [] after :=
  ⟨[], .aside h (.done _), rfl⟩

/-- One definition is attempted. -/
theorem tries_attempt (context : Context) (attempt : Attempt) :
    Tries [] context [attempt] (context.attempt attempt).2 :=
  ⟨_, .attempt attempt (.done _), rfl⟩

/-- One stretch after another. -/
theorem Tries.append {attempts more : List Attempt}
    (hfirst : Tries reported before attempts between)
    (hsecond : Tries reported between more after) :
    Tries reported before (attempts ++ more) after := by
  obtain ⟨trace, hcourse, rfl⟩ := hfirst
  obtain ⟨trace', hcourse', rfl⟩ := hsecond
  exact ⟨trace ++ trace', hcourse.append hcourse', List.map_append⟩

/-- Definitions are attempted, and then something happens that defines nothing. -/
theorem Tries.then_aside {attempts : List Attempt} (h : Tries reported before attempts between)
    (haside : Aside reported between after) : Tries reported before attempts after := by
  simpa using h.append haside.tries

/-- Something happens that defines nothing, and then definitions are attempted. -/
theorem Aside.then_tries {attempts : List Attempt} (haside : Aside reported before between)
    (h : Tries reported between attempts after) : Tries reported before attempts after :=
  haside.tries.append h

/-- A stretch may be told with more warnings that are reported from outside. -/
theorem Tries.mono {attempts : List Attempt} (h : Tries reported before attempts after)
    {others : List Warning} (hsubset : reported ⊆ others) : Tries others before attempts after := by
  obtain ⟨trace, hcourse, htrace⟩ := h
  exact ⟨trace, hcourse.mono hsubset, htrace⟩

/-- A loop attempts what its rounds attempt. -/
theorem tries_foldl {ι : Type} {round : Context → ι → Context} {attempts : ι → List Attempt}
    (h : ∀ context item, Tries reported context (attempts item) (round context item))
    (items : List ι) (context : Context) :
    Tries reported context (items.flatMap attempts) (items.foldl round context) := by
  induction items generalizing context with
  | nil => exact (Aside.refl reported context).tries
  | cons item rest ih => exact (h context item).append (ih _)

end Context

end ModuleGraph
