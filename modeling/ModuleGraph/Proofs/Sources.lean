import Mathlib.Data.List.Nodup
import Mathlib.Data.List.Perm.Subperm
import ModuleGraph.Proofs.Recording

/-!
# Scanning the sources of modules

A `ModuleSource` is a module before it is scanned: the syntax trees of its manifests and what its
plugins say. `ModuleSource.scan` reads it into the context of a run and puts the module into the
table.

`scanSources_eq_ok_iff` says that scanning succeeds exactly if every manifest can be read, and then
enters one source after another. The rest of the module says what is there afterwards: the owner of
every symbol, the parent of every class and the module of every name, each given by one of the
sources (`ownerOf`, `parentOf` and `moduleOf`) or by what was there before.
-/

namespace ModuleGraph

/-- A module before it is scanned. -/
structure ModuleSource where
  /-- The module, whose references are to be found. -/
  module : Module
  /-- The files of its manifests with their syntax trees, in order. -/
  manifests : List (SourceFile × Node)
  /-- What its plugins say. -/
  plugins : List Fact := []

namespace ModuleSource

/-- The name of the module. -/
def name (source : ModuleSource) : String :=
  source.module.name

/-- Reads manifests in turn. -/
def readManifests (owner : String) :
    List (SourceFile × Node) → Context × Dependencies → Except Failure (Context × Dependencies)
  | [], state => .ok state
  | (file, root) :: rest, state =>
    match readSource owner file root state with
    | (.ok _, state) => readManifests owner rest state
    | (.error failure, _) => .error failure

/-- Reads the manifests and plugins of a module and puts the module into the table. -/
def scan (source : ModuleSource) (state : Context × Table String Module) :
    Except Failure (Context × Table String Module) := do
  let read ← readManifests source.name source.manifests (state.1, [])
  let (context, dependencies) := Fact.recordAll source.name read source.plugins
  return (context, state.2.put source.name { source.module with dependencies })

/-- What a manifest says, with the messages about the names left open in it. -/
def manifestFacts (manifest : SourceFile × Node) : List Fact :=
  let reading := manifest.2.reading manifest.1 [] []
  .note ("Parsing " ++ manifest.1.name) :: reading.facts ++
    reading.pending.map fun name => .warn (unresolvedMessage manifest.1 name)

/-- What a module says. -/
def facts (source : ModuleSource) : List Fact :=
  source.manifests.flatMap manifestFacts ++ source.plugins

/-- Every manifest can be read to its end. -/
def Readable (source : ModuleSource) : Prop :=
  ∀ manifest ∈ source.manifests, (manifest.2.reading manifest.1 [] []).failure = none

instance (source : ModuleSource) : Decidable source.Readable :=
  inferInstanceAs (Decidable (∀ manifest ∈ source.manifests,
    (manifest.2.reading manifest.1 [] []).failure = none))

/-- The module with the references that are found in it. -/
def scanned (source : ModuleSource) : Module :=
  { source.module with
    dependencies := (Fact.recordAll source.name ({}, []) source.facts).2 }

/-- Records what a module says and puts it into the table. -/
def enter (state : Context × Table String Module) (source : ModuleSource) :
    Context × Table String Module :=
  ((Fact.recordAll source.name (state.1, []) source.facts).1,
    state.2.put source.name source.scanned)

/-- Reading a manifest to its end records what it says. -/
theorem readSource_eq_recordAll {owner : String} {file : SourceFile} {root : Node}
    (h : (root.reading file [] []).failure = none) (state : Context × Dependencies) :
    readSource owner file root state = (.ok (root.reading file [] []).pending,
      Fact.recordAll owner state (manifestFacts (file, root))) := by
  exact readSource_eq_ok_iff.2 ⟨h, rfl, rfl⟩

/-- Reading manifests succeeds exactly if each can be read, and records what they say. -/
theorem readManifests_eq_ok_iff {owner : String} {manifests : List (SourceFile × Node)}
    {state state' : Context × Dependencies} :
    readManifests owner manifests state = .ok state' ↔
      (∀ manifest ∈ manifests, (manifest.2.reading manifest.1 [] []).failure = none) ∧
        Fact.recordAll owner state (manifests.flatMap manifestFacts) = state' := by
  induction manifests generalizing state with
  | nil => simp [readManifests, Fact.recordAll]
  | cons manifest rest ih =>
      obtain ⟨file, root⟩ := manifest
      cases hroot : (root.reading file [] []).failure with
      | none =>
          simp only [readManifests, readSource_eq_recordAll hroot, ih, List.forall_mem_cons, hroot,
            true_and, List.flatMap_cons]
          simp only [Fact.recordAll, List.foldl_append]
      | some failure =>
          simp [readManifests, readSource, hroot]

/-- Manifests may be read in two parts. -/
theorem readManifests_append {owner : String} {first second : List (SourceFile × Node)}
    {state between : Context × Dependencies} (h : readManifests owner first state = .ok between) :
    readManifests owner (first ++ second) state = readManifests owner second between := by
  induction first generalizing state with
  | nil =>
      cases h
      rfl
  | cons manifest rest ih =>
      rw [List.cons_append, readManifests]
      rw [readManifests] at h
      split at h
      · exact ih h
      · cases h

/-- Scanning a module succeeds exactly if its manifests can be read, and enters it. -/
theorem scan_eq_ok_iff {source : ModuleSource} {state state' : Context × Table String Module} :
    source.scan state = .ok state' ↔ source.Readable ∧ enter state source = state' := by
  unfold scan Readable
  cases hread : readManifests source.name source.manifests (state.1, []) with
  | error failure =>
      have hnot : ¬ ∀ manifest ∈ source.manifests,
          (manifest.2.reading manifest.1 [] []).failure = none := fun hall => by
        rw [readManifests_eq_ok_iff.2 ⟨hall, rfl⟩] at hread
        cases hread
      constructor
      · intro h
        cases h
      · intro hgiven
        obtain ⟨hall, _⟩ := hgiven
        exact absurd hall hnot
  | ok read =>
      obtain ⟨hall, rfl⟩ := readManifests_eq_ok_iff.1 hread
      have henter : enter state source =
          ((Fact.recordAll source.name (Fact.recordAll source.name (state.1, [])
            (source.manifests.flatMap manifestFacts)) source.plugins).1,
            state.2.put source.name { source.module with
              dependencies := (Fact.recordAll source.name (Fact.recordAll source.name
                (state.1, []) (source.manifests.flatMap manifestFacts)) source.plugins).2 }) := by
        have hsplit : Fact.recordAll source.name (state.1, []) source.facts =
            Fact.recordAll source.name (Fact.recordAll source.name (state.1, [])
              (source.manifests.flatMap manifestFacts)) source.plugins := List.foldl_append ..
        unfold enter scanned
        -- References do not depend on what was known before.
        rw [Fact.recordAll_references source.name source.name {} state.1, hsplit]
      rw [henter]
      constructor
      · intro h
        exact ⟨hall, Except.ok.inj h⟩
      · intro hgiven
        obtain ⟨_, rfl⟩ := hgiven
        rfl

end ModuleSource

/-- Scans modules in turn. -/
def scanSources : List ModuleSource → Context × Table String Module →
    Except Failure (Context × Table String Module)
  | [], state => .ok state
  | source :: rest, state =>
    match source.scan state with
    | .ok state => scanSources rest state
    | .error failure => .error failure

/-- Scanning succeeds exactly if every manifest can be read, and enters the modules in turn. -/
theorem scanSources_eq_ok_iff {sources : List ModuleSource}
    {state state' : Context × Table String Module} :
    scanSources sources state = .ok state' ↔
      (∀ source ∈ sources, source.Readable) ∧ sources.foldl ModuleSource.enter state = state' := by
  induction sources generalizing state with
  | nil => simp [scanSources]
  | cons source rest ih =>
      simp only [scanSources]
      cases hscan : source.scan state with
      | ok next =>
          obtain ⟨hsource, rfl⟩ := ModuleSource.scan_eq_ok_iff.1 hscan
          simp only [ih, List.forall_mem_cons, hsource, true_and, List.foldl_cons]
      | error failure =>
          have hsource : ¬ source.Readable := fun hreadable => by
            rw [ModuleSource.scan_eq_ok_iff.2 ⟨hreadable, rfl⟩] at hscan
            cases hscan
          simp [hsource]

namespace ModuleSource

/-- The symbols that a module defines. -/
def symbols (source : ModuleSource) : List (Category × String) :=
  source.facts.filterMap Fact.symbol?

/-- The classes that a module lets inherit, with their parents. -/
def edges (source : ModuleSource) : List (String × String) :=
  source.facts.filterMap Fact.edge?

/-- The owner that a module gives to a symbol: itself, if it defines the symbol. -/
def ownerOf (category : Category) (target : String) (source : ModuleSource) : Option String :=
  if (category, target) ∈ source.symbols then some source.name else none

/-- The parent that a module gives to a class. -/
def parentOf (child : String) (source : ModuleSource) : Option String :=
  Fact.parentIn source.facts child

/-- The module that a source puts into the table under a name. -/
def moduleOf (target : String) (source : ModuleSource) : Option Module :=
  if source.name = target then some source.scanned else none

variable {sources : List ModuleSource} {state : Context × Table String Module}

/-- The first module that defines a symbol owns it, unless it had an owner before. -/
theorem find?_enterAll (sources : List ModuleSource) (state : Context × Table String Module)
    (category : Category) (target : String) :
    (sources.foldl enter state).1.registry.find? category target =
      (state.1.registry.find? category target).or
        (sources.findSome? (ownerOf category target)) := by
  induction sources generalizing state with
  | nil => simp
  | cons source rest ih =>
      have howner : (enter state source).1.registry.find? category target =
          (state.1.registry.find? category target).or (source.ownerOf category target) :=
        Fact.find?_recordAll ..
      rw [List.foldl_cons, ih, howner, Option.or_assoc, List.findSome?_cons]
      congr 1
      cases source.ownerOf category target <;> rfl

/-- The last module that gives a parent to a class decides. -/
theorem get?_enterAll_inherits (sources : List ModuleSource)
    (state : Context × Table String Module) (child : String) :
    (sources.foldl enter state).1.inherits.get? child =
      (sources.reverse.findSome? (parentOf child)).or (state.1.inherits.get? child) := by
  induction sources generalizing state with
  | nil => simp
  | cons source rest ih =>
      have hparent : (enter state source).1.inherits.get? child =
          (source.parentOf child).or (state.1.inherits.get? child) :=
        Fact.get?_recordAll_inherits ..
      rw [List.foldl_cons, ih, hparent, ← Option.or_assoc, List.reverse_cons,
        List.findSome?_append]
      congr 2
      cases hsource : source.parentOf child <;> simp [hsource]

/-- The last module of a name is in the table. -/
theorem get?_enterAll (sources : List ModuleSource) (state : Context × Table String Module)
    (target : String) :
    (sources.foldl enter state).2.get? target =
      (sources.reverse.findSome? (moduleOf target)).or (state.2.get? target) := by
  induction sources generalizing state with
  | nil => simp
  | cons source rest ih =>
      have hmodule : (enter state source).2.get? target =
          (source.moduleOf target).or (state.2.get? target) := by
        unfold enter moduleOf
        rw [Table.get?_put]
        split <;> simp
      rw [List.foldl_cons, ih, hmodule, ← Option.or_assoc, List.reverse_cons,
        List.findSome?_append]
      congr 2
      cases hsource : source.moduleOf target <;> simp [hsource]

/-- Scanning repeats no symbol. -/
theorem distinct_enterAll (h : state.1.registry.Distinct) (sources : List ModuleSource) :
    (sources.foldl enter state).1.registry.Distinct := by
  induction sources generalizing state with
  | nil => exact h
  | cons source rest ih => exact ih (Fact.distinct_recordAll h _)

/-- Scanning gives no class a second entry. -/
theorem distinct_enterAll_inherits (h : state.1.inherits.Distinct) (sources : List ModuleSource) :
    (sources.foldl enter state).1.inherits.Distinct := by
  induction sources generalizing state with
  | nil => exact h
  | cons source rest ih => exact ih (Fact.distinct_recordAll_inherits h _)

/-- Scanning gives no module name a second entry. -/
theorem distinct_enterAll_modules (h : state.2.Distinct) (sources : List ModuleSource) :
    (sources.foldl enter state).2.Distinct := by
  induction sources generalizing state with
  | nil => exact h
  | cons source rest ih => exact ih (h.put _ _)

end ModuleSource

/-! ## Sources that are apart -/

/-- If all elements of a list that have a value have the same one, it does not matter which comes
first. -/
theorem findSome?_eq_some_iff {α β : Type} {list : List α} {f : α → Option β} {value : β}
    (h : ∀ a ∈ list, ∀ b ∈ list, ∀ v w, f a = some v → f b = some w → v = w) :
    list.findSome? f = some value ↔ ∃ a ∈ list, f a = some value := by
  constructor
  · exact List.exists_of_findSome?_eq_some
  · intro hgiven
    obtain ⟨a, ha, hvalue⟩ := hgiven
    cases hfind : list.findSome? f with
    | none =>
        rw [List.findSome?_eq_none_iff.1 hfind a ha] at hvalue
        cases hvalue
    | some first =>
        obtain ⟨b, hb, hfirst⟩ := List.exists_of_findSome?_eq_some hfind
        rw [h b hb a ha first value hfirst hvalue]

/-- Which module has a name, where no two share one. -/
theorem ModuleSource.findSome?_moduleOf_of_nodup {sources : List ModuleSource}
    (hnames : (sources.map name).Nodup) {target : String} {module : Module} :
    sources.reverse.findSome? (moduleOf target) = some module ↔
      ∃ source ∈ sources, source.name = target ∧ source.scanned = module := by
  have hmodule {source : ModuleSource} {module : Module} :
      source.moduleOf target = some module ↔
        source.name = target ∧ source.scanned = module := by
    unfold moduleOf
    split <;> simp [*]
  rw [findSome?_eq_some_iff]
  · simp only [List.mem_reverse, hmodule]
  · intro source hsource other hother module module' hput hput'
    rw [List.mem_reverse] at hsource hother
    obtain ⟨hname, rfl⟩ := hmodule.1 hput
    obtain ⟨hname', rfl⟩ := hmodule.1 hput'
    rw [List.inj_on_of_nodup_map hnames hsource hother (hname.trans hname'.symm)]

/-- No two modules share a name or a class that inherits, and none has the name of the owner of the
builtin symbols. The same symbol may be defined by several of them. -/
structure SourcesDistinct (sources : List ModuleSource) : Prop where
  /-- No two modules have the same name. -/
  names : (sources.map ModuleSource.name).Nodup
  /-- No module is called like the owner of the builtin symbols. -/
  builtin : ∀ source ∈ sources, source.name ≠ builtinOwner
  /-- No two modules say from which class the same class inherits. -/
  edges : ∀ source ∈ sources, ∀ other ∈ sources, ∀ edge ∈ source.edges, ∀ edge' ∈ other.edges,
    edge.1 = edge'.1 → source.name = other.name

namespace SourcesDistinct

variable {sources : List ModuleSource}

/-- A name belongs to one module only. -/
theorem eq_of_name (h : SourcesDistinct sources) {source other : ModuleSource}
    (hsource : source ∈ sources) (hother : other ∈ sources) (hname : source.name = other.name) :
    source = other :=
  List.inj_on_of_nodup_map h.names hsource hother hname

/-- Fewer modules are distinct too, in any order. -/
theorem of_subperm (h : SourcesDistinct sources) {fewer : List ModuleSource}
    (hfewer : fewer.Subperm sources) : SourcesDistinct fewer where
  names := by
    obtain ⟨ordered, hperm, hsublist⟩ := hfewer
    exact (hperm.map _).nodup_iff.1 (h.names.sublist (hsublist.map _))
  builtin := fun source hsource => h.builtin source (hfewer.subset hsource)
  edges := fun source hsource other hother =>
    h.edges source (hfewer.subset hsource) other (hfewer.subset hother)

/-- Which parent a class has. -/
theorem findSome?_parentOf (h : SourcesDistinct sources) {child parent : String} :
    sources.reverse.findSome? (ModuleSource.parentOf child) = some parent ↔
      ∃ source ∈ sources, source.parentOf child = some parent := by
  rw [findSome?_eq_some_iff]
  · simp only [List.mem_reverse]
  · intro source hsource other hother parent parent' hparent hparent'
    rw [List.mem_reverse] at hsource hother
    obtain ⟨_, hedge⟩ := Fact.exists_parentIn_iff.1 ⟨parent, hparent⟩
    obtain ⟨_, hedge'⟩ := Fact.exists_parentIn_iff.1 ⟨parent', hparent'⟩
    have hname := h.edges source hsource other hother _ hedge _ hedge' rfl
    rw [h.eq_of_name hsource hother hname, hparent'] at hparent
    exact (Option.some.inj hparent).symm

/-- Which module has a name. -/
theorem findSome?_moduleOf (h : SourcesDistinct sources) {name : String} {module : Module} :
    sources.reverse.findSome? (ModuleSource.moduleOf name) = some module ↔
      ∃ source ∈ sources, source.name = name ∧ source.scanned = module :=
  ModuleSource.findSome?_moduleOf_of_nodup h.names

end SourcesDistinct

/-- No two modules share a name, a symbol or a class that inherits, and none has the name of the
owner of the builtin symbols. -/
structure SourcesApart (sources : List ModuleSource) : Prop where
  /-- No two modules have the same name. -/
  names : (sources.map ModuleSource.name).Nodup
  /-- No module is called like the owner of the builtin symbols. -/
  builtin : ∀ source ∈ sources, source.name ≠ builtinOwner
  /-- No two modules define the same symbol. -/
  symbols : ∀ source ∈ sources, ∀ other ∈ sources, ∀ symbol ∈ source.symbols,
    symbol ∈ other.symbols → source.name = other.name
  /-- No two modules say from which class the same class inherits. -/
  edges : ∀ source ∈ sources, ∀ other ∈ sources, ∀ edge ∈ source.edges, ∀ edge' ∈ other.edges,
    edge.1 = edge'.1 → source.name = other.name

namespace SourcesApart

variable {sources : List ModuleSource}

/-- Modules that are apart are distinct. -/
theorem distinct (h : SourcesApart sources) : SourcesDistinct sources :=
  ⟨h.names, h.builtin, h.edges⟩

/-- Fewer modules are apart too, in any order. -/
theorem of_subperm (h : SourcesApart sources) {fewer : List ModuleSource}
    (hfewer : fewer.Subperm sources) : SourcesApart fewer where
  names := (h.distinct.of_subperm hfewer).names
  builtin := (h.distinct.of_subperm hfewer).builtin
  symbols := fun source hsource other hother =>
    h.symbols source (hfewer.subset hsource) other (hfewer.subset hother)
  edges := (h.distinct.of_subperm hfewer).edges

/-- Who owns a symbol. -/
theorem findSome?_ownerOf (h : SourcesApart sources) {category : Category} {name owner : String} :
    sources.findSome? (ModuleSource.ownerOf category name) = some owner ↔
      ∃ source ∈ sources, (category, name) ∈ source.symbols ∧ source.name = owner := by
  have howner {source : ModuleSource} {owner : String} :
      source.ownerOf category name = some owner ↔
        (category, name) ∈ source.symbols ∧ source.name = owner := by
    unfold ModuleSource.ownerOf
    split <;> simp [*]
  rw [findSome?_eq_some_iff]
  · simp only [howner]
  · intro source hsource other hother owner owner' hown hown'
    obtain ⟨hsymbol, rfl⟩ := howner.1 hown
    obtain ⟨hsymbol', rfl⟩ := howner.1 hown'
    exact h.symbols source hsource other hother _ hsymbol hsymbol'

/-- Which parent a class has. -/
theorem findSome?_parentOf (h : SourcesApart sources) {child parent : String} :
    sources.reverse.findSome? (ModuleSource.parentOf child) = some parent ↔
      ∃ source ∈ sources, source.parentOf child = some parent :=
  h.distinct.findSome?_parentOf

/-- Which module has a name. -/
theorem findSome?_moduleOf (h : SourcesApart sources) {name : String} {module : Module} :
    sources.reverse.findSome? (ModuleSource.moduleOf name) = some module ↔
      ∃ source ∈ sources, source.name = name ∧ source.scanned = module :=
  h.distinct.findSome?_moduleOf

end SourcesApart

end ModuleGraph
