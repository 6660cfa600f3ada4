import ModuleGraph.Proofs.Operations
import ModuleGraph.Proofs.Snapshots

/-!
# References that were gathered

A table of references is `Sourced` if every reference in it has a file, has no file twice, and is to
no variable that the compiler provides. Whatever enters references one by one keeps this: a single
reference, a file that is read, the plugin files. A record keeps it because it keeps the references.

`Gathered` describes the states of runs in which nothing else enters references. Every operation
keeps the tables of all modules `Sourced` (`sourced_apply`), and so they are in every such state
(`Gathered.sourced`).
-/

namespace ModuleGraph

/-! ## Tables of references -/

/-- A reference that some file accounts for. -/
structure Dependency.Sourced (entry : Dependency) : Prop where
  /-- Some file refers to it. -/
  sources_ne_nil : entry.sources ≠ []
  /-- No file is listed twice. -/
  sources_nodup : entry.sources.Nodup
  /-- It is to no variable that the compiler provides. -/
  not_reserved : entry.category = .classVariable →
    ¬ Dependencies.reservedNamespace.toList <+: entry.name.toList

namespace Dependencies

/-- All references are accounted for by files. -/
def Sourced (table : Dependencies) : Prop :=
  ∀ entry ∈ table, entry.Sourced

variable {table : Dependencies}

/-- No references are there at the beginning. -/
theorem sourced_nil : Sourced [] :=
  fun _ h => absurd h List.not_mem_nil

/-- The groups of a table hold the same references. -/
theorem Sourced.items (h : table.Sourced) : Sourced table.items :=
  fun entry hentry => h entry (mem_items.1 hentry)

/-- A file joins the sources of a reference, or is the only source of a new one. -/
theorem Sourced.insert (h : table.Sourced) {category : Category} {name : String}
    (hname : category = .classVariable → ¬ reservedNamespace.toList <+: name.toList)
    (source : String) : Sourced (table.insert category name source) := by
  induction table with
  | nil =>
      refine List.forall_mem_singleton.2 ⟨?_, ?_, hname⟩
      · exact List.cons_ne_nil _ _
      · exact List.nodup_singleton _
  | cons entry rest ih =>
      obtain ⟨hentry, hrest⟩ := List.forall_mem_cons.1 h
      simp only [Dependencies.insert]
      split
      · refine List.forall_mem_cons.2 ⟨?_, hrest⟩
        split
        · exact hentry
        · next hnew =>
            refine ⟨?_, ?_, hentry.not_reserved⟩
            · exact List.append_ne_nil_of_right_ne_nil _ (List.cons_ne_nil _ _)
            · rw [← List.concat_eq_append]
              exact hentry.sources_nodup.concat hnew
      · exact List.forall_mem_cons.2 ⟨hentry, ih hrest⟩

/-- A reference is added, unless it is to a variable that the compiler provides. -/
theorem Sourced.add (h : table.Sourced) (category : Category) (name source : String) :
    Sourced (table.add category name source) := by
  -- The check is about the name without a top scope marker, and that is the name that enters.
  have hplain (plain : String) : Sourced
      (if category = .classVariable ∧ reservedNamespace.toList.isPrefixOf plain.toList then table
        else table.insert category plain source) := by
    split
    · exact h
    · next hreserved =>
        refine h.insert (fun hcategory hprefix => hreserved ⟨hcategory, ?_⟩) source
        exact List.isPrefixOf_iff_prefix.2 hprefix
  exact hplain _

/-- Facts about a module are recorded. -/
theorem Sourced.recordAll {context : Context} (h : table.Sourced) (owner : String)
    (facts : List Fact) : Sourced (Fact.recordAll owner (context, table) facts).2 := by
  induction facts generalizing context table with
  | nil => exact h
  | cons fact rest ih =>
      cases fact with
      | refer category name source => exact ih (h.add category name source)
      | note | define | inherit | unhandled | warn | report => exact ih h

/-- A file is read, whether or not reading it fails. -/
theorem Sourced.readSource {context : Context} (h : table.Sourced) (owner : String)
    (file : SourceFile) (root : Node) :
    Sourced (readSource owner file root (context, table)).2.2 := by
  simp only [ModuleGraph.readSource]
  split
  · exact h.recordAll owner _
  · exact (h.recordAll owner _).recordAll owner _

end Dependencies

/-! ## Tables of modules -/

/-- The references of all modules are accounted for by files. -/
def ModulesSourced (modules : Table String Module) : Prop :=
  ∀ entry ∈ modules, entry.2.dependencies.Sourced

namespace ModulesSourced

variable {modules : Table String Module}

/-- A module is put into the table. -/
theorem put (h : ModulesSourced modules) {module : Module} (hmodule : module.dependencies.Sourced)
    (key : String) : ModulesSourced (modules.put key module) :=
  Table.forall_put (p := fun module : Module => module.dependencies.Sourced) h key hmodule

/-- Modules are put into the table as their records describe them. -/
theorem putRecords (h : ModulesSourced modules) {records : Table String ModuleRecord}
    (hrecords : ∀ entry ∈ records, (Module.ofRecord entry.2).dependencies.Sourced) :
    ModulesSourced (records.foldl
      (fun table entry => table.put entry.1 (Module.ofRecord entry.2)) modules) :=
  Table.forall_foldl_put (p := fun module : Module => module.dependencies.Sourced) h hrecords

/-- The modules of another table are restored from a snapshot of it. -/
theorem restore (h : ModulesSourced modules) {captured : Table String Module}
    (hcaptured : ModulesSourced captured) (before context : Context) (excluded : List String) :
    ModulesSourced
      ((Snapshot.capture before captured).restore excluded (context, modules)).2.2 := by
  refine h.putRecords fun entry hentry => ?_
  obtain ⟨kept, hkept, rfl⟩ := List.mem_map.1 (List.mem_filter.1 hentry).1
  rw [Module.dependencies_ofRecord_toRecord]
  exact (hcaptured kept hkept).items

end ModulesSourced

/-! ## Runs that gather references -/

/-- The operation enters references one by one, if at all: a module that it puts into the table has
none yet, and it restores no snapshot. -/
def Operation.Gathers : Operation → Prop
  | .addModule _ module => module.dependencies = []
  | .restore .. => False
  | _ => True

instance : DecidablePred Operation.Gathers
  | .addModule _ module => inferInstanceAs (Decidable (module.dependencies = []))
  | .restore .. => inferInstanceAs (Decidable False)
  | .define .. | .addBuiltins _ | .onModule .. | .aliasInherited | .resolve .. | .resolveKept _
  | .report .. | .evaluate _ | .warn _ => inferInstanceAs (Decidable True)

/-- The states of runs that begin without modules and gather references, one by one or from
snapshots of such states. -/
inductive Gathered : RunState → Prop
  | start (context : Context) (resolver : Resolver) : Gathered { context, resolver }
  | step {state : RunState} (h : Gathered state) {operation : Operation}
      (hgathers : operation.Gathers) : Gathered (operation.apply state).2
  | restore {state captured : RunState} (h : Gathered state) (hcaptured : Gathered captured)
      (excluded : List String) :
      Gathered ((Operation.restore (.capture captured.context captured.modules) excluded).apply
        state).2

/-- An operation on a module keeps its references accounted for. -/
theorem ModuleOperation.sourced_apply {state : RunState} (h : ModulesSourced state.modules)
    {module : Module} (hmodule : module.dependencies.Sourced) (key : String)
    (operation : ModuleOperation) :
    ModulesSourced (operation.apply key module state).2.modules := by
  cases operation with
  | refer category name source =>
      simp only [apply, Dependencies.add?]
      split
      · next hadd =>
          split at hadd
          · cases hadd
            exact h.put (hmodule.add category name source) key
          · cases hadd
      · exact h
  | walk file root => exact h.put (hmodule.readSource module.name file root) key
  | scanPlugins files relativeTo => exact h.put (hmodule.recordAll module.name _) key
  | checkMetadata files => exact h

/-- An operation that gathers references keeps those of all modules accounted for. -/
theorem Operation.sourced_apply {state : RunState} (h : ModulesSourced state.modules)
    {operation : Operation} (hgathers : operation.Gathers) :
    ModulesSourced (operation.apply state).2.modules := by
  cases operation with
  | addModule key module =>
      refine h.put ?_ key
      rw [show module.dependencies = [] from hgathers]
      exact Dependencies.sourced_nil
  | onModule key operation =>
      simp only [apply]
      split
      · next module hmodule =>
          exact operation.sourced_apply h (h _ (Table.mem_of_get? hmodule)) key
      · exact h
  | restore => exact hgathers.elim
  | define | addBuiltins | aliasInherited | resolve | resolveKept | report | evaluate | warn =>
      exact h

namespace Gathered

variable {state : RunState}

/-- In every state of such a run, the references of all modules are accounted for. -/
theorem sourced (h : Gathered state) : ModulesSourced state.modules := by
  induction h with
  | start => exact fun _ hentry => absurd hentry List.not_mem_nil
  | step _ hgathers ih => exact Operation.sourced_apply ih hgathers
  | @restore state captured _ _ excluded ih ihcaptured =>
      exact ih.restore ihcaptured captured.context state.context excluded

/-- A sequence of operations that gather references goes on with such a run. -/
theorem runAll (h : Gathered state) {operations : List Operation}
    (hgathers : ∀ operation ∈ operations, operation.Gathers) :
    Gathered (runAll operations state).2 := by
  induction operations generalizing state with
  | nil => exact h
  | cons operation rest ih =>
      obtain ⟨hoperation, hrest⟩ := List.forall_mem_cons.1 hgathers
      exact ih (h.step hoperation) hrest

end Gathered

end ModuleGraph
