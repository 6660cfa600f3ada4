import ModuleGraph.Resolution

/-!
# What is said to the diagnostics

Whatever a step of a run has to say about warnings is a list of `Saying`s. The diagnostics hear them
in order (`Diagnostics.Hears`): every warning in them is recorded, and what surfaces depends on the
known warnings. Where all warnings are known only remarks surface (`flatMap_messages_of_known`), and
where more are known nothing new does (`flatMap_messages_eq_nil_of_subset`).
-/

namespace ModuleGraph

/-! ## Sayings -/

/-- Something that is said to the diagnostics of a run. -/
inductive Saying
  /-- A message that belongs to no kind of warning. -/
  | remark (message : String)
  /-- A warning, with the message that surfaces it. -/
  | report (warning : Warning) (message : String)
  /-- A warning that never surfaces. -/
  | evaluate (warning : Warning)
  /-- A symbol is missing in some files. -/
  | missing (category : Category) (name : String) (sources : List String)

namespace Saying

/-- The warnings that are evaluated, in order. -/
def warnings : Saying → List Warning
  | .remark _ => []
  | .report warning _ => [warning]
  | .evaluate warning => [warning]
  | .missing category name sources => sources.map (.missingDefinition category name)

/-- The files in which a missing symbol is not known to be missing. -/
def unknownSources (known : List Warning) (category : Category) (name : String)
    (sources : List String) : List String :=
  sources.filter fun source => .missingDefinition category name source ∉ known

/-- A symbol is known to be missing in all of some files. -/
theorem unknownSources_eq_nil {known : List Warning} {category : Category} {name : String}
    {sources : List String} :
    unknownSources known category name sources = [] ↔
      ∀ source ∈ sources, .missingDefinition category name source ∈ known := by
  simp [unknownSources]

/-- The message about a symbol that is missing in some files. -/
def missingMessage (category : Category) (name : String) (sources : List String) : String :=
  "Failed to find " ++ category.label ++ " " ++ name ++ ". Sources " ++
    String.intercalate ", " sources

/-- What surfaces where some warnings are known. -/
def messages (known : List Warning) : Saying → List String
  | .remark message => [message]
  | .report warning message => if warning ∈ known then [] else [message]
  | .evaluate _ => []
  | .missing category name sources =>
    match unknownSources known category name sources with
    | [] => []
    | unknown => [missingMessage category name unknown]

/-- The message, if it belongs to no kind of warning. -/
def remark? : Saying → Option String
  | .remark message => some message
  | _ => none

/-- Where all its warnings are known, only a remark surfaces. -/
theorem messages_of_known {known : List Warning} {saying : Saying}
    (h : ∀ warning ∈ saying.warnings, warning ∈ known) :
    saying.messages known = saying.remark?.toList := by
  cases saying with
  | remark message => rfl
  | report warning message => exact if_pos (h warning List.mem_cons_self)
  | evaluate warning => rfl
  | missing category name sources =>
      have hknown : unknownSources known category name sources = [] :=
        unknownSources_eq_nil.2 fun source hsource => h _ (List.mem_map_of_mem hsource)
      simp only [messages, hknown]
      rfl

/-- What does not surface where some warnings are known does not surface where more are. -/
theorem messages_eq_nil_of_subset {known more : List Warning} (hsubset : known ⊆ more)
    {saying : Saying} (h : saying.messages known = []) : saying.messages more = [] := by
  cases saying with
  | remark message => cases h
  | report warning message =>
      by_cases hwarning : warning ∈ known
      · exact if_pos (hsubset hwarning)
      · simp [messages, hwarning] at h
  | evaluate warning => rfl
  | missing category name sources =>
      have hknown : unknownSources known category name sources = [] := by
        simp only [messages] at h
        split at h
        · next heq => exact heq
        · cases h
      have hmore : unknownSources more category name sources = [] :=
        unknownSources_eq_nil.2 fun source hsource =>
          hsubset (unknownSources_eq_nil.1 hknown source hsource)
      simp only [messages, hmore]

/-- Where all their warnings are known, only the remarks among sayings surface. -/
theorem flatMap_messages_of_known {known : List Warning} {sayings : List Saying}
    (h : ∀ warning ∈ sayings.flatMap warnings, warning ∈ known) :
    sayings.flatMap (messages known) = sayings.filterMap remark? := by
  induction sayings with
  | nil => rfl
  | cons saying rest ih =>
      rw [List.flatMap_cons, List.forall_mem_append] at h
      rw [List.flatMap_cons, messages_of_known h.1, ih h.2, List.filterMap_cons]
      cases saying.remark? <;> rfl

/-- Sayings that surface nothing surface nothing where more warnings are known. -/
theorem flatMap_messages_eq_nil_of_subset {known more : List Warning} (hsubset : known ⊆ more)
    {sayings : List Saying} (h : sayings.flatMap (messages known) = []) :
    sayings.flatMap (messages more) = [] := by
  rw [List.flatMap_eq_nil_iff] at h ⊢
  intro saying hsaying
  exact messages_eq_nil_of_subset hsubset (h saying hsaying)

end Saying

/-! ## Hearing -/

namespace Diagnostics

/-- The diagnostics after some sayings were heard: each warning is recorded once, and the messages
that surface raise the flag. The journal is left open. -/
structure Hears (before : Diagnostics) (sayings : List Saying) (after : Diagnostics) : Prop where
  /-- The known warnings stay as they were. -/
  known : after.known = before.known
  /-- The warnings are recorded in order. -/
  found : after.found = (sayings.flatMap Saying.warnings).foldl insertNew before.found
  /-- The messages are those that surface. -/
  messages : after.messages =
    before.messages ++ sayings.flatMap (Saying.messages before.known)
  /-- The flag is raised if something surfaces. -/
  warned : after.warned =
    (before.warned || !(sayings.flatMap (Saying.messages before.known)).isEmpty)

/-- Nothing is heard. -/
theorem hears_nil (diagnostics : Diagnostics) : diagnostics.Hears [] diagnostics where
  known := rfl
  found := rfl
  messages := (List.append_nil _).symm
  warned := (Bool.or_false _).symm

/-- Some sayings are heard after others. -/
theorem Hears.append {before between after : Diagnostics} {first second : List Saying}
    (hfirst : before.Hears first between) (hsecond : between.Hears second after) :
    before.Hears (first ++ second) after where
  known := hsecond.known.trans hfirst.known
  found := by rw [hsecond.found, hfirst.found, List.flatMap_append, List.foldl_append]
  messages := by
    rw [hsecond.messages, hfirst.messages, hfirst.known, List.flatMap_append, List.append_assoc]
  warned := by
    rw [hsecond.warned, hfirst.warned, hfirst.known, List.flatMap_append, Bool.or_assoc]
    cases first.flatMap (Saying.messages before.known) <;> rfl

/-- The journal says nothing. -/
theorem hears_log (diagnostics : Diagnostics) (level : Level) (message : String) :
    diagnostics.Hears [] (diagnostics.log level message) :=
  ⟨rfl, rfl, (List.append_nil _).symm, (Bool.or_false _).symm⟩

/-- A remark is heard. -/
theorem hears_warn (diagnostics : Diagnostics) (message : String) :
    diagnostics.Hears [.remark message] (diagnostics.warn message) :=
  ⟨rfl, rfl, rfl, (Bool.or_true _).symm⟩

/-- A warning is evaluated. -/
theorem hears_evaluate (diagnostics : Diagnostics) (warning : Warning) :
    diagnostics.Hears [.evaluate warning] (diagnostics.evaluate warning).2 :=
  ⟨rfl, rfl, (List.append_nil _).symm, (Bool.or_false _).symm⟩

/-- A warning is reported. -/
theorem hears_report (diagnostics : Diagnostics) (warning : Warning) (message : String) :
    diagnostics.Hears [.report warning message] (diagnostics.report warning message).2 := by
  by_cases hknown : warning ∈ diagnostics.known
  · have hreport : (diagnostics.report warning message).2 =
        (diagnostics.evaluate warning).2.log .debug
          ("Suppressed known warning " ++ warning.describe) := by
      simp [report, evaluate, hknown]
    rw [hreport]
    exact ⟨rfl, rfl, by simp [Saying.messages, hknown, log, evaluate],
      by simp [Saying.messages, hknown, log, evaluate]⟩
  · have hreport : (diagnostics.report warning message).2 =
        (diagnostics.evaluate warning).2.warn message := by
      simp [report, evaluate, hknown]
    rw [hreport]
    exact ⟨rfl, rfl, by simp [Saying.messages, hknown, warn, log, evaluate],
      by simp [Saying.messages, hknown, warn, log]⟩

/-- What was recorded before and every warning evaluated since are recorded. -/
theorem mem_foldl_insertNew {warnings found : List Warning} {warning : Warning} :
    warning ∈ warnings.foldl insertNew found ↔ warning ∈ found ∨ warning ∈ warnings := by
  induction warnings generalizing found with
  | nil => simp
  | cons first rest ih =>
      rw [List.foldl_cons, ih, mem_insertNew, List.mem_cons, or_assoc]

/-- Where all recorded warnings are known, only remarks surface. -/
theorem Hears.messages_of_known {before after : Diagnostics} {sayings : List Saying}
    (h : before.Hears sayings after) (hknown : ∀ warning ∈ after.found, warning ∈ before.known) :
    after.messages = before.messages ++ sayings.filterMap Saying.remark? := by
  rw [h.messages, Saying.flatMap_messages_of_known]
  intro warning hwarning
  apply hknown
  rw [h.found]
  exact mem_foldl_insertNew.2 (.inr hwarning)

/-- Where more warnings are known, the same sayings raise the flag only if they raise it where
fewer are. -/
theorem Hears.warned_of_subset {before after before' after' : Diagnostics} {sayings : List Saying}
    (h : before.Hears sayings after) (h' : before'.Hears sayings after')
    (hwarned : before'.warned = before.warned) (hsubset : before.known ⊆ before'.known)
    (hflag : after'.warned = true) : after.warned = true := by
  rw [h'.warned, hwarned] at hflag
  rw [h.warned]
  cases hsurfaced : sayings.flatMap (Saying.messages before.known) with
  | cons message rest => exact Bool.or_true _
  | nil =>
      rw [Saying.flatMap_messages_eq_nil_of_subset hsubset hsurfaced] at hflag
      exact hflag

/-- The flag is raised together with the first message. -/
theorem Hears.warned_iff {before after : Diagnostics} {sayings : List Saying}
    (h : before.Hears sayings after) (hmessages : before.messages = [])
    (hwarned : before.warned = false) : after.warned = true ↔ after.messages ≠ [] := by
  rw [h.warned, h.messages, hmessages, hwarned]
  cases sayings.flatMap (Saying.messages before.known) <;> simp

end Diagnostics

/-! ## Missing symbols -/

namespace Context

/-- Evaluating a missing symbol lists the files in which it is not known. -/
theorem evaluateMissing_fst (category : Category) (name : String) (sources : List String)
    (diagnostics : Diagnostics) :
    (evaluateMissing category name sources diagnostics).1 =
      Saying.unknownSources diagnostics.known category name sources := by
  unfold Saying.unknownSources
  induction sources generalizing diagnostics with
  | nil => rfl
  | cons source rest ih =>
      simp only [evaluateMissing, ih, Diagnostics.evaluate, List.filter_cons]
      by_cases hknown : Warning.missingDefinition category name source ∈ diagnostics.known
      · simp [hknown]
      · simp [hknown]

/-- Evaluating a missing symbol records a warning for each file and surfaces nothing. -/
theorem evaluateMissing_snd (category : Category) (name : String) (sources : List String)
    (diagnostics : Diagnostics) :
    (evaluateMissing category name sources diagnostics).2 =
      { diagnostics with
        found := (sources.map (.missingDefinition category name)).foldl Diagnostics.insertNew
          diagnostics.found } := by
  induction sources generalizing diagnostics with
  | nil => rfl
  | cons source rest ih =>
      simp only [evaluateMissing]
      rw [ih]
      rfl

/-- The diagnostics after a reference that nothing defines was resolved. -/
theorem hears_resolveEntry {context : Context} {entry : Dependency}
    (h : context.registry.lookup entry.category entry.name = none) :
    context.diagnostics.Hears [.missing entry.category entry.name entry.sources]
      (context.resolveEntry entry).2.diagnostics := by
  have hlookup : context.lookup entry.category entry.name = (none, context) := by
    simp only [lookup, h]
  have hunknown := evaluateMissing_fst entry.category entry.name entry.sources context.diagnostics
  have hheard := evaluateMissing_snd entry.category entry.name entry.sources context.diagnostics
  simp only [resolveEntry, hlookup]
  rw [hunknown, hheard]
  have hfound : ([.missing entry.category entry.name entry.sources] : List Saying).flatMap
      Saying.warnings = entry.sources.map (.missingDefinition entry.category entry.name) :=
    List.append_nil _
  cases hsources : Saying.unknownSources context.diagnostics.known entry.category entry.name
      entry.sources with
  | nil =>
      have hsilent : ([.missing entry.category entry.name entry.sources] : List Saying).flatMap
          (Saying.messages context.diagnostics.known) = [] := by
        simp [Saying.messages, hsources]
      exact ⟨rfl, by rw [hfound]; rfl, by rw [hsilent, List.append_nil]; rfl,
        by rw [hsilent]; exact (Bool.or_false _).symm⟩
  | cons source rest =>
      have hsurfaced : ([.missing entry.category entry.name entry.sources] : List Saying).flatMap
          (Saying.messages context.diagnostics.known) =
            [Saying.missingMessage entry.category entry.name (source :: rest)] := by
        simp [Saying.messages, hsources]
      exact ⟨rfl, by rw [hfound]; rfl, by rw [hsurfaced]; rfl,
        by rw [hsurfaced]; exact (Bool.or_true _).symm⟩

end Context

end ModuleGraph
