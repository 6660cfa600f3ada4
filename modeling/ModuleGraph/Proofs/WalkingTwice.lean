import ModuleGraph.Proofs.Marks
import ModuleGraph.Proofs.Meetings
import ModuleGraph.Proofs.ScanOrder
import ModuleGraph.Proofs.StatedFacts

/-!
# Walking a tree twice

A walk writes into several tables, and each has its own rule: the first owner of a symbol stays,
the last parent of a class stays at the place of the first one, a file enters the sources of a
reference once, and warnings are recorded once. A walk may also stop at a failure in the middle.
`walking_twice` says that under each of these rules a second walk changes nothing: it states the
same facts again, and all that comes of them is that every definition that may not be repeated is
reported as a duplicate.

Read `Fact.Recorded` first. It says what is there after facts were recorded, and that this is all
that recording them again needs to find in order to change neither the registry nor the references.
The parents of classes are another matter (`Table.foldl_put_twice`): they go through the same
changes again and end where they were. The names that the first walk marked are on the tree when the
second one begins; `Node.reading_of_marks` says that it makes no difference.
-/

namespace ModuleGraph

/-! ## Entries that are put twice -/

namespace Table

variable {κ α : Type} [DecidableEq κ]

/-- The later one of two values for a key counts. -/
theorem put_put_same (table : Table κ α) (key : κ) (first second : α) :
    put (put table key first) key second = put table key second := by
  induction table with
  | nil => simp [put]
  | cons entry rest ih =>
      obtain ⟨k, value⟩ := entry
      by_cases hk : k = key <;> simp [put, hk, ih]

/-- Putting a key that is there commutes with putting another one. -/
theorem put_put_comm {table : Table κ α} {key other : κ} (hne : other ≠ key)
    (h : hasKey table other = true) (value new : α) :
    put (put table key value) other new = put (put table other new) key value := by
  induction table with
  | nil => cases h
  | cons entry rest ih =>
      obtain ⟨k, old⟩ := entry
      by_cases hkey : k = key
      · have hk : k ≠ other := fun heq => hne (heq.symm.trans hkey)
        simp [put, hkey, hkey ▸ hk]
      · by_cases hother : k = other
        · simp [put, hother, hne]
        · have hrest : hasKey rest other = true := by
            simpa [hasKey, get?, hother] using h
          simp [put, hkey, hother, ih hrest]

/-- A key that is put stays. -/
theorem hasKey_put {table : Table κ α} {key other : κ} (value : α) :
    hasKey (put table key value) other = true ↔ key = other ∨ hasKey table other = true := by
  rw [hasKey, hasKey, get?_put]
  split <;> simp [*]

/-- The keys that were put are there. -/
theorem hasKey_foldl_put (table : Table κ α) (entries : List (κ × α)) {key : κ} :
    hasKey (entries.foldl (fun table entry => put table entry.1 entry.2) table) key = true ↔
      (∃ entry ∈ entries, entry.1 = key) ∨ hasKey table key = true := by
  induction entries generalizing table with
  | nil => simp
  | cons entry rest ih =>
      rw [List.foldl_cons, ih, hasKey_put, List.exists_mem_cons_iff, or_assoc, or_left_comm]

/-- Of two values for a key the earlier one leaves no trace, even if entries whose keys are there
are put between them. -/
theorem put_foldl_put {table : Table κ α} {entries : List (κ × α)}
    (h : ∀ entry ∈ entries, hasKey table entry.1 = true) (key : κ) (value : α) :
    put (entries.foldl (fun table entry => put table entry.1 entry.2) (put table key value)) key
        value =
      put (entries.foldl (fun table entry => put table entry.1 entry.2) table) key value := by
  induction entries generalizing table with
  | nil => exact put_put_same table key value value
  | cons entry rest ih =>
      obtain ⟨hentry, hrest⟩ := List.forall_mem_cons.1 h
      rw [List.foldl_cons, List.foldl_cons]
      by_cases hsame : entry.1 = key
      · rw [hsame, put_put_same]
      · rw [put_put_comm hsame hentry]
        exact ih fun other hother => (hasKey_put entry.2).2 (Or.inr (hrest other hother))

/-- Entries that are put in order a second time change nothing, also if they give a key several
values. -/
theorem foldl_put_twice (table : Table κ α) (entries : List (κ × α)) :
    entries.foldl (fun table entry => put table entry.1 entry.2)
        (entries.foldl (fun table entry => put table entry.1 entry.2) table) =
      entries.foldl (fun table entry => put table entry.1 entry.2) table := by
  -- The last entry has the last word, so the others may be put before it once or twice.
  induction entries using List.reverseRecOn with
  | nil => rfl
  | append_singleton entries entry ih =>
      simp only [List.foldl_append, List.foldl_cons, List.foldl_nil]
      have hthere (other : κ × α) (hother : other ∈ entries) :
          hasKey (entries.foldl (fun table entry => put table entry.1 entry.2) table) other.1 =
            true :=
        (hasKey_foldl_put table entries).2 (Or.inl ⟨other, hother, rfl⟩)
      rw [put_foldl_put hthere, ih]

end Table

/-! ## References that are added twice -/

namespace Dependencies

variable {table : Dependencies} {category other : Category} {name target source file : String}

/-- The entry of a reference has the file among its sources. -/
def Holds (table : Dependencies) (category : Category) (name source : String) : Prop :=
  ∃ entry, table.find? (fun entry => entry.category = category ∧ entry.name = name) = some entry ∧
    source ∈ entry.sources

/-- A file that was added is among the sources. -/
theorem holds_insert (table : Dependencies) (category : Category) (name source : String) :
    Holds (table.insert category name source) category name source := by
  induction table with
  | nil => exact ⟨⟨category, name, [source]⟩, by simp [insert], List.mem_singleton_self source⟩
  | cons entry rest ih =>
      unfold insert
      split
      · next hsame =>
          split
          · next hmem => exact ⟨entry, by simp [hsame], hmem⟩
          · exact ⟨_, by simp [hsame]; rfl, List.mem_append_right _ List.mem_cons_self⟩
      · next hother =>
          obtain ⟨found, hfound, hsource⟩ := ih
          refine ⟨found, ?_, hsource⟩
          rw [List.find?_cons_of_neg (by simpa using hother)]
          exact hfound

/-- A file stays among the sources when another one is added. -/
theorem Holds.insert (h : table.Holds category name source) (other : Category)
    (target file : String) : Holds (table.insert other target file) category name source := by
  obtain ⟨found, hfound, hsource⟩ := h
  induction table with
  | nil => cases hfound
  | cons entry rest ih =>
      unfold Dependencies.insert
      by_cases hentry : entry.category = category ∧ entry.name = name
      · rw [List.find?_cons_of_pos (by simpa using hentry)] at hfound
        cases hfound
        split
        · split
          · exact ⟨found, by simp [hentry], hsource⟩
          · exact ⟨_, by simp [hentry]; rfl, List.mem_append_left _ hsource⟩
        · exact ⟨found, by simp [hentry], hsource⟩
      · rw [List.find?_cons_of_neg (by simpa using hentry)] at hfound
        split
        · refine ⟨found, ?_, hsource⟩
          rw [List.find?_cons_of_neg (by split <;> simpa using hentry)]
          exact hfound
        · obtain ⟨kept, hkept, hmem⟩ := ih hfound
          refine ⟨kept, ?_, hmem⟩
          rw [List.find?_cons_of_neg (by simpa using hentry)]
          exact hkept

/-- A file that is among the sources is not added again. -/
theorem Holds.insert_eq (h : table.Holds category name source) :
    table.insert category name source = table := by
  obtain ⟨found, hfound, hsource⟩ := h
  induction table with
  | nil => cases hfound
  | cons entry rest ih =>
      unfold Dependencies.insert
      by_cases hentry : entry.category = category ∧ entry.name = name
      · rw [List.find?_cons_of_pos (by simpa using hentry)] at hfound
        cases hfound
        rw [if_pos hentry, if_pos hsource]
      · rw [List.find?_cons_of_neg (by simpa using hentry)] at hfound
        rw [if_neg hentry, ih hfound]

end Dependencies

/-! ## Facts that are recorded twice -/

namespace Fact

variable {owner : String} {fact : Fact} {facts : List Fact} {state : Context × Dependencies}

/-- What a fact needs is there already: its symbol has an owner, or the entry of its reference has
the file, unless the compiler provides what it refers to. -/
def Recorded (state : Context × Dependencies) : Fact → Prop
  | .define category name _ => state.1.registry.find? category (normalizeName name) ≠ none
  | .refer category name source =>
    ¬ Dependencies.IsReserved category name →
      state.2.Holds category (normalizeName name) source
  | _ => True

/-- A fact that is recorded is there. -/
theorem recorded_record (owner : String) (state : Context × Dependencies) (fact : Fact) :
    fact.Recorded (record owner state fact) := by
  cases fact with
  | define category name allowRepeated =>
      show (record owner state (.define category name allowRepeated)).1.registry.find? _ _ ≠ none
      rw [find?_record, symbol?, if_pos rfl]
      simp
  | refer category name source =>
      intro hreserved
      show (state.2.add category name source).Holds _ _ _
      rw [Dependencies.add_eq, if_neg hreserved]
      exact Dependencies.holds_insert _ _ _ _
  | note | inherit | unhandled | warn | report => trivial

/-- A fact that is there stays when another one is recorded. -/
theorem Recorded.record (h : fact.Recorded state) (owner : String) (other : Fact) :
    fact.Recorded (Fact.record owner state other) := by
  cases fact with
  | define category name allowRepeated =>
      show (Fact.record owner state other).1.registry.find? _ _ ≠ none
      rw [find?_record]
      exact fun hnone => h (Option.or_eq_none_iff.1 hnone).1
  | refer category name source =>
      intro hreserved
      have hheld : state.2.Holds category (normalizeName name) source := h hreserved
      cases other with
      | refer category' target file =>
          show (state.2.add category' target file).Holds _ _ _
          rw [Dependencies.add_eq]
          split
          · exact hheld
          · exact hheld.insert category' _ file
      | note | define | inherit | unhandled | warn | report => exact hheld
  | note | inherit | unhandled | warn | report => trivial

/-- Facts that were recorded are all there. -/
theorem recorded_recordAll (owner : String) (state : Context × Dependencies) (facts : List Fact) :
    ∀ fact ∈ facts, fact.Recorded (recordAll owner state facts) := by
  have hstays {fact : Fact} {state : Context × Dependencies} (h : fact.Recorded state)
      (others : List Fact) : fact.Recorded (recordAll owner state others) := by
    induction others generalizing state with
    | nil => exact h
    | cons other rest ih => exact ih (h.record owner other)
  induction facts generalizing state with
  | nil => exact fun _ h => by cases h
  | cons fact rest ih =>
      exact List.forall_mem_cons.2 ⟨hstays (recorded_record owner state fact) rest, ih _⟩

/-- A fact that is there changes neither the registry nor the references when it is recorded. -/
theorem Recorded.record_eq (h : fact.Recorded state) (owner : String) :
    (Fact.record owner state fact).1.registry = state.1.registry ∧
      (Fact.record owner state fact).2 = state.2 := by
  cases fact with
  | define category name allowRepeated =>
      refine ⟨?_, rfl⟩
      rw [record_registry, registered, Registry.addNew, if_neg h]
  | refer category name source =>
      refine ⟨rfl, ?_⟩
      show state.2.add category name source = state.2
      rw [Dependencies.add_eq]
      split
      · rfl
      · next hreserved => exact (h hreserved).insert_eq
  | note | inherit | unhandled | warn | report => exact ⟨rfl, rfl⟩

/-- The warning that comes of a fact if it was recorded before. -/
def repeated? (owner : String) : Fact → Option Warning
  | .define category name false =>
    some (.duplicateDefinition category (normalizeName name) owner)
  | .report warning _ => some warning
  | _ => none

/-- The warnings in what is said when a fact is recorded that is there. -/
theorem Recorded.warnings_sayings (h : fact.Recorded state) (owner : String) :
    (fact.sayings owner state.1.registry).flatMap Saying.warnings =
      (fact.repeated? owner).toList := by
  cases fact with
  | define category name allowRepeated =>
      obtain ⟨first, hfirst⟩ := Option.ne_none_iff_exists'.1 h
      cases allowRepeated <;> simp [sayings, Registry.definitionSayings, hfirst, repeated?,
        Saying.warnings]
  | note | refer | inherit | unhandled | warn | report => rfl

/-- Facts that are there change neither the registry nor the references when they are recorded, and
the warnings of those that may not be repeated are evaluated. -/
theorem recordAll_of_recorded (owner : String) (h : ∀ fact ∈ facts, fact.Recorded state) :
    (recordAll owner state facts).1.registry = state.1.registry ∧
    (recordAll owner state facts).2 = state.2 ∧
    (recordAll owner state facts).1.diagnostics.found =
      (facts.filterMap (repeated? owner)).foldl Diagnostics.insertNew
        state.1.diagnostics.found := by
  induction facts generalizing state with
  | nil => exact ⟨rfl, rfl, rfl⟩
  | cons fact rest ih =>
      obtain ⟨hfact, hrest⟩ := List.forall_mem_cons.1 h
      obtain ⟨hregistry, hreferences⟩ := hfact.record_eq owner
      obtain ⟨hregistry', hreferences', hfound⟩ :=
        ih fun other hother => (hrest other hother).record owner fact
      refine ⟨hregistry'.trans hregistry, hreferences'.trans hreferences, hfound.trans ?_⟩
      rw [(hears_record owner state fact).found, hfact.warnings_sayings, ← List.foldl_append]
      congr 1
      cases hwarning : fact.repeated? owner <;> simp [hwarning]

/-- The parents that facts give to classes are put in order. -/
theorem recordAll_inherits (owner : String) (state : Context × Dependencies) (facts : List Fact) :
    (recordAll owner state facts).1.inherits =
      (facts.filterMap edge?).foldl (fun table edge => table.put edge.1 edge.2)
        state.1.inherits := by
  induction facts generalizing state with
  | nil => rfl
  | cons fact rest ih =>
      refine (ih (record owner state fact)).trans ?_
      rw [record_inherits, List.filterMap_cons]
      cases fact.edge? <;> rfl

/-- Facts that are recorded a second time change neither the registry, the parents of classes nor
the references, and the warnings of those that may not be repeated are evaluated. -/
theorem recordAll_twice (owner : String) (state : Context × Dependencies) (facts : List Fact) :
    let once := recordAll owner state facts
    let twice := recordAll owner once facts
    twice.1.registry = once.1.registry ∧ twice.1.inherits = once.1.inherits ∧
    twice.2 = once.2 ∧
    twice.1.diagnostics.found =
      (facts.filterMap (repeated? owner)).foldl Diagnostics.insertNew
        once.1.diagnostics.found := by
  intro once twice
  obtain ⟨hregistry, hreferences, hfound⟩ :=
    recordAll_of_recorded owner (recorded_recordAll owner state facts)
  refine ⟨hregistry, ?_, hreferences, hfound⟩
  rw [recordAll_inherits, recordAll_inherits, Table.foldl_put_twice]

end Fact

/-! ## Walks -/

namespace Reading

/-- What is recorded of a reading: its facts and, unless it failed, a message for each name that is
left open. -/
def entered (file : SourceFile) (reading : Reading) : List Fact :=
  .note ("Parsing " ++ file.name) :: reading.facts ++
    match reading.failure with
    | some _ => []
    | none => reading.pending.map fun name => .warn (unresolvedMessage file name)

/-- What comes of a reading that was recorded before comes of its facts. -/
theorem repeated_entered (owner : String) (file : SourceFile) (reading : Reading) :
    (reading.entered file).filterMap (Fact.repeated? owner) =
      reading.facts.filterMap (Fact.repeated? owner) := by
  unfold entered
  rw [List.cons_append, List.filterMap_cons_none rfl, List.filterMap_append]
  cases reading.failure with
  | some failure => simp
  | none => simp [Fact.repeated?]

end Reading

/-- What a walk through a tree leaves behind. -/
structure TreeWalk where
  /-- The names left open, or why the walk failed. -/
  outcome : Except Failure (List Node)
  /-- The marks on the tree, as ways from its root. -/
  marks : List Claim
  /-- The context, and the references of the module. -/
  state : Context × Dependencies

/-- Walks through a tree that may have marks on it. -/
def walkTree (owner : String) (file : SourceFile) (root : Node) (marks : List Claim)
    (state : Context × Dependencies) : TreeWalk :=
  let reading := root.reading file [] marks
  { outcome := reading.outcome
    marks := marks ++ (root.marking file []).claims
    state := Fact.recordAll owner state (reading.entered file) }

/-- A file is read by a walk through its tree, which has no marks yet. -/
theorem readSource_eq_walkTree (owner : String) (file : SourceFile) (root : Node)
    (state : Context × Dependencies) :
    readSource owner file root state =
      ((walkTree owner file root [] state).outcome, (walkTree owner file root [] state).state) := by
  unfold readSource walkTree Reading.outcome Reading.entered
  dsimp only
  cases (root.reading file [] []).failure with
  | some failure => simp
  | none => exact congrArg (Prod.mk _) List.foldl_append.symm

/-- What comes of the facts of a tree that were recorded before is that definitions are duplicates:
no tree reports a warning. -/
theorem Node.repeated_reading (owner : String) (file : SourceFile) (root : Node)
    (claims : List Claim) :
    ∀ warning ∈ (root.reading file [] claims).facts.filterMap (Fact.repeated? owner),
      ∃ category name, warning = .duplicateDefinition category name owner := by
  -- Every fact is one of a definition, or nothing comes of it.
  let allowed (fact : Fact) : Prop := ∀ warning, fact.repeated? owner = some warning →
    ∃ category name, warning = .duplicateDefinition category name owner
  have hplain (fact : Fact) (hfact : fact.isPlain = true) : allowed fact := by
    intro warning hwarning
    cases fact with
    | define | report => cases hfact
    | note | refer | inherit | unhandled | warn => cases hwarning
  have hdefine (category : Category) (name : String) (allowRepeated : Bool) :
      allowed (.define category name allowRepeated) := by
    intro warning hwarning
    cases allowRepeated with
    | true => cases hwarning
    | false =>
        cases hwarning
        exact ⟨_, _, rfl⟩
  have hwithin : (root.reading file [] claims).Within allowed := by
    refine Node.within_reading [] (fun place _ claimed => ?_) claims
    refine Node.within_ownReading hplain fun kind _ => ?_
    exact Reading.within_ofKind hplain hdefine _ _ _ _ _
  intro warning hwarning
  obtain ⟨fact, hfact, hrepeated⟩ := List.mem_filterMap.1 hwarning
  exact hwithin fact hfact warning hrepeated

/-- A second walk changes nothing. Whatever a tree says, whether it can be walked through or the
walk fails half-way, and whatever was recorded before: a walk that follows at once, on the same tree
with the marks that the first one left, or on the tree as it was, ends in the same way, with the
same failure or the same names left open. The registry, the parents of classes and the references of
the module stay as they are, the order of all entries included. All that is recorded is that the
definitions that may not be repeated are duplicates, and the module is the source. A tree without
marks is walked as files are read. Every decoded tree has distinct fields
(`Node.fieldsDistinct_of_parse`). -/
theorem walking_twice {owner : String} {file : SourceFile} {root : Node} {marks later : List Claim}
    {state : Context × Dependencies} (hdistinct : root.FieldsDistinct)
    (hkept : marks ⊆ later) (hleft : later ⊆ (walkTree owner file root marks state).marks) :
    let first := walkTree owner file root marks state
    let again := walkTree owner file root later first.state
    let duplicates := (root.reading file [] marks).facts.filterMap (Fact.repeated? owner)
    (marks = [] → readSource owner file root state = (first.outcome, first.state)) ∧
    again.outcome = first.outcome ∧
    again.state.1.registry = first.state.1.registry ∧
    again.state.1.inherits = first.state.1.inherits ∧
    again.state.2 = first.state.2 ∧
    again.state.1.diagnostics.found =
      duplicates.foldl Diagnostics.insertNew first.state.1.diagnostics.found ∧
    ∀ warning ∈ duplicates, ∃ category name,
      warning = .duplicateDefinition category name owner := by
  intro first again duplicates
  have hreading : root.reading file [] later = root.reading file [] marks :=
    Node.reading_of_marks hdistinct hkept fun way hway => List.mem_append.1 (hleft hway)
  have hagain : again = { first with
      marks := again.marks
      state := Fact.recordAll owner first.state ((root.reading file [] marks).entered file) } := by
    simp only [again, first, walkTree, hreading]
  obtain ⟨hregistry, hinherits, hreferences, hfound⟩ :=
    Fact.recordAll_twice owner state ((root.reading file [] marks).entered file)
  rw [Reading.repeated_entered] at hfound
  rw [hagain]
  refine ⟨?_, rfl, hregistry, hinherits, hreferences, hfound,
    root.repeated_reading owner file marks⟩
  rintro rfl
  exact readSource_eq_walkTree owner file root state

/-- A class that inherits from another one. -/
def classNode (name parent : String) : Node :=
  .mk (.str "HostClassDefinition")
    [("name", .scalar (.str name)), ("parent_class", .scalar (.str parent))] 0 0

/-- A program that gives a class two parents, mentions a variable, and ends with a variable that has
no name. -/
def tornProgram : Node :=
  .mk (.str "Program") [("body", .list [
    .node (classNode "app" "base"),
    .node (classNode "app" "core"),
    .node (.mk (.str "VariableExpression") [("expr", .node (word "web::port"))] 0 0),
    .node (.mk (.str "VariableExpression") [] 0 0)])] 0 0

/-- A walk through this program marks the name of the variable and fails. Another one finds the mark
and fails again, and the second parent stays. -/
theorem tornProgram_walked_twice :
    let first := walkTree "site" ⟨"init.pp", .null⟩ tornProgram [] ({}, [])
    let again := walkTree "site" ⟨"init.pp", .null⟩ tornProgram first.marks first.state
    first.marks = [[⟨"body", some 2⟩, ⟨"expr", none⟩]] ∧
    (∃ failure, again.outcome = .error failure) ∧
    again.state.1.inherits = [("app", "core")] ∧
    again.state.2 = [⟨.classVariable, "web::port", ["init.pp"]⟩] ∧
    again.state.1.diagnostics.found = [.duplicateDefinition .hostClass "app" "site"] := by
  intro first again
  have hdistinct : tornProgram.FieldsDistinct := by decide +kernel
  obtain ⟨-, houtcome, -, hinherits, hreferences, hfound, -⟩ :=
    walking_twice hdistinct (List.nil_subset first.marks) (List.Subset.refl first.marks)
  have hfailed : first.outcome = .error _ := rfl
  refine ⟨by decide +kernel, ⟨_, houtcome.trans hfailed⟩, ?_, ?_, ?_⟩
  · exact hinherits.trans (by decide +kernel)
  · exact hreferences.trans (by decide +kernel)
  · exact hfound.trans (by decide +kernel)

end ModuleGraph
