import ModuleGraph.Proofs.Accounting
import ModuleGraph.Proofs.Agreement
import ModuleGraph.Proofs.Sources
import ModuleGraph.Proofs.Walking

/-!
# Definitions and references that meet

A definition in a file of one module and a reference in a file of another one meet if resolving the
second module lists the first. On the way from the files to the list, each step has a lemma here:

* a tree that can be read states what its places state (`ModuleSource.mem_facts`),
* a reference that is stated is mentioned in the table of the module (`mentions_scanned`),
* a symbol that one module alone defines is owned by it (`find?_of_only`), and so is what a
  reference means, if nobody else owns anything that it may mean (`Registry.exists_lookup`),
* the owner of what a mentioned reference means is listed (`Scanned.lists`), and a reference is
  recorded as missing only if it means nothing (`Scanned.mem_found_missing_iff`).

The steps before the table are about syntax, and differ from construct to construct.
-/

namespace ModuleGraph

/-! ## What is stated in a place -/

namespace Reading

/-- The reading contains the fact, unless it fails. -/
def States (item : Fact) (reading : Reading) : Prop :=
  reading.failure = none → item ∈ reading.facts

variable {item : Fact} {first second : Reading}

/-- A fact states itself. -/
theorem states_fact : States item (fact item) :=
  fun _ => List.mem_singleton.2 rfl

/-- One reading after another states what the first one states. -/
theorem States.append_left (h : States item first) : States item (first ++ second) := by
  intro hfailure
  obtain ⟨hfirst, _⟩ := failure_append_eq_none.1 hfailure
  rw [facts_append hfirst]
  exact List.mem_append_left _ (h hfirst)

/-- One reading after another states what the second one states. -/
theorem States.append_right (h : States item second) : States item (first ++ second) := by
  intro hfailure
  obtain ⟨hfirst, hsecond⟩ := failure_append_eq_none.1 hfailure
  rw [facts_append hfirst]
  exact List.mem_append_right _ (h hsecond)

/-- What is read from the elements of a value states what is read from each of them. -/
theorem states_each {value element : Value} {read : Nat → Value → Reading} {index : Nat}
    (helement : value.element? index = some element) (h : States item (read index element)) :
    States item (each value read) := by
  intro hfailure
  have hread := h (failure_of_each hfailure helement)
  unfold each at hfailure ⊢
  unfold Value.element? at helement
  split
  · next elements helements =>
      rw [helements] at hfailure helement
      rw [facts_join hfailure]
      refine List.mem_flatMap.2 ⟨_, List.mem_map.2 ⟨(element, index), ?_, rfl⟩, hread⟩
      exact List.mem_zipIdx_iff_getElem?.2 helement
  · next failure helements =>
      rw [helements] at hfailure
      cases hfailure

/-- A reference is stated after the note about it. -/
theorem states_refer (file : SourceFile) (category : Category) (name : String) :
    States (.refer category name file.name) (refer file category name) :=
  states_fact.append_right

/-- A value refers to the name that it is. -/
theorem states_referTo {file : SourceFile} {category : Category} {value : Value} {name : String}
    (h : value.string? = some name) :
    States (.refer category name file.name) (referTo file category value) := by
  unfold referTo
  rw [h]
  exact states_refer file category name

end Reading

/-- A tree that can be read contains what its places say, each seen with or without a claim. -/
theorem Node.exists_ownReading {file : SourceFile} {node : Node} (above : List (Node × Claim))
    (claims : List Claim)
    (h : (node.reading file (above.map Prod.fst) claims).failure = none) {place : Place}
    (hplace : place ∈ node.places above) :
    ∃ claimed, (place.node.ownReading file place.ancestors claimed).failure = none ∧
      ∀ item ∈ (place.node.ownReading file place.ancestors claimed).facts,
        item ∈ (node.reading file (above.map Prod.fst) claims).facts := by
  induction node using Node.inductionOnChildren generalizing above claims with
  | h node ih =>
      rw [reading_eq_join] at h ⊢
      obtain ⟨hown, hjoin⟩ := Reading.failure_append_eq_none.1 h
      rw [Reading.facts_append hown, Reading.facts_join hjoin]
      rw [places_eq, List.mem_cons, List.mem_flatMap] at hplace
      rcases hplace with rfl | ⟨entry, hentry, hbelow⟩
      · exact ⟨_, hown, fun item hitem => List.mem_append_left _ hitem⟩
      · -- The place is below a child, and the tree contains what that child says.
        have hread := Reading.failure_join_eq_none.1 hjoin _ (List.mem_map_of_mem hentry)
        unfold readingAt at hread
        rw [← map_fst_stepDown node above entry.1] at hread
        obtain ⟨claimed, hfailure, hfacts⟩ := ih entry hentry _ _ hread hbelow
        refine ⟨claimed, hfailure, fun item hitem => List.mem_append_right _ ?_⟩
        refine List.mem_flatMap.2 ⟨_, List.mem_map_of_mem hentry, ?_⟩
        unfold readingAt
        rw [← map_fst_stepDown node above entry.1]
        exact hfacts item hitem

namespace ModuleSource

/-- The place is in a manifest of the module, whose file is given. -/
def HasPlace (source : ModuleSource) (file : SourceFile) (place : Place) : Prop :=
  ∃ root, (file, root) ∈ source.manifests ∧ place ∈ root.places []

/-- The first place of a manifest is its root. -/
theorem hasPlace_root {source : ModuleSource} {file : SourceFile} {root : Node}
    (h : (file, root) ∈ source.manifests) : source.HasPlace file ⟨root, []⟩ := by
  refine ⟨root, h, ?_⟩
  rw [Node.places_eq]
  exact List.mem_cons_self

/-- A module that can be read states what the constructs in its places state. -/
theorem mem_facts {source : ModuleSource} (hreadable : source.Readable) {file : SourceFile}
    {place : Place} (hplace : source.HasPlace file place) {kind : String}
    (hkind : place.node.kind = .str kind) {item : Fact}
    (hstates : ∀ claimed,
      (Reading.ofKind file place.ancestors claimed place.node kind).States item) :
    item ∈ source.facts := by
  obtain ⟨root, hmanifest, hplaces⟩ := hplace
  have hroot : (root.reading file [] []).failure = none := hreadable _ hmanifest
  obtain ⟨claimed, hfailure, hfacts⟩ := Node.exists_ownReading [] [] hroot hplaces
  have hitem : item ∈ (place.node.ownReading file place.ancestors claimed).facts := by
    unfold Node.ownReading at hfailure ⊢
    rw [hkind] at hfailure ⊢
    exact (hstates claimed).append_right hfailure
  refine List.mem_append_left _ (List.mem_flatMap.2 ⟨_, hmanifest, ?_⟩)
  exact List.mem_append_left _ (List.mem_cons_of_mem _ (hfacts item hitem))

end ModuleSource

/-! ## What is mentioned in a table of references -/

namespace Dependencies

/-- The table has a reference from the file. -/
def Mentions (table : Dependencies) (category : Category) (name source : String) : Prop :=
  ∃ entry ∈ table, entry.category = category ∧ entry.name = name ∧ source ∈ entry.sources

variable {table : Dependencies} {category other : Category} {name target source file : String}

/-- The reference that is added is there. -/
theorem mentions_insert (table : Dependencies) (category : Category) (name source : String) :
    (table.insert category name source).Mentions category name source := by
  induction table with
  | nil => exact ⟨_, List.mem_singleton.2 rfl, rfl, rfl, List.mem_singleton.2 rfl⟩
  | cons entry rest ih =>
      unfold insert
      split
      · next hsame =>
          refine ⟨_, List.mem_cons_self, ?_⟩
          split
          · next hmem => exact ⟨hsame.1, hsame.2, hmem⟩
          · exact ⟨hsame.1, hsame.2, List.mem_append_right _ (List.mem_singleton.2 rfl)⟩
      · obtain ⟨found, hfound, hmentions⟩ := ih
        exact ⟨found, List.mem_cons_of_mem _ hfound, hmentions⟩

/-- A reference stays when another one is added. -/
theorem Mentions.insert (h : table.Mentions category name source) (other : Category)
    (target file : String) :
    Mentions (table.insert other target file) category name source := by
  obtain ⟨found, hfound, hcategory, hname, hsource⟩ := h
  induction table with
  | nil => cases hfound
  | cons entry rest ih =>
      unfold Dependencies.insert
      rcases List.mem_cons.1 hfound with rfl | hrest
      · split
        · refine ⟨_, List.mem_cons_self, ?_⟩
          split
          · exact ⟨hcategory, hname, hsource⟩
          · exact ⟨hcategory, hname, List.mem_append_left _ hsource⟩
        · exact ⟨found, List.mem_cons_self, hcategory, hname, hsource⟩
      · split
        · exact ⟨found, List.mem_cons_of_mem _ hrest, hcategory, hname, hsource⟩
        · obtain ⟨kept, hkept, hmentions⟩ := ih hrest
          exact ⟨kept, List.mem_cons_of_mem _ hkept, hmentions⟩

/-- The compiler provides the variable. -/
def IsReserved (category : Category) (name : String) : Prop :=
  category = .classVariable ∧ reservedNamespace.toList.isPrefixOf (normalizeName name).toList = true

instance (category : Category) (name : String) : Decidable (IsReserved category name) :=
  inferInstanceAs (Decidable (_ ∧ _))

/-- A reference is added under its name without top scope marker, unless the compiler provides what
it refers to. -/
theorem add_eq (table : Dependencies) (category : Category) (name source : String) :
    table.add category name source =
      if IsReserved category name then table
      else table.insert category (normalizeName name) source :=
  rfl

/-- A reference stays when another one is recorded. -/
theorem Mentions.add (h : table.Mentions category name source) (other : Category)
    (target file : String) : Mentions (table.add other target file) category name source := by
  rw [add_eq]
  split
  · exact h
  · exact h.insert other _ file

/-- A reference stays when facts are recorded. -/
theorem Mentions.recordAll (h : table.Mentions category name source) (owner : String)
    (context : Context) (facts : List Fact) :
    Mentions (Fact.recordAll owner (context, table) facts).2 category name source := by
  induction facts generalizing context table with
  | nil => exact h
  | cons fact rest ih =>
      cases fact with
      | refer other target file => exact ih (h.add other target file) context
      | note | define | inherit | unhandled | warn | report => exact ih h _

/-- A reference among recorded facts is mentioned, unless the compiler provides what it refers
to. -/
theorem mentions_recordAll (owner : String) (context : Context) (table : Dependencies)
    {facts : List Fact} (hfact : .refer category name source ∈ facts)
    (hreserved : ¬ IsReserved category name) :
    Mentions (Fact.recordAll owner (context, table) facts).2 category (normalizeName name)
      source := by
  obtain ⟨before, after, rfl⟩ := List.append_of_mem hfact
  have hadded : Mentions (Fact.recordAll owner (context, table)
      (before ++ [.refer category name source])).2 category (normalizeName name) source := by
    unfold Fact.recordAll
    rw [List.foldl_append, List.foldl_cons, List.foldl_nil]
    simp only [Fact.record, add_eq, if_neg hreserved]
    exact mentions_insert _ _ _ _
  have hsplit : Fact.recordAll owner (context, table)
      (before ++ .refer category name source :: after) =
        Fact.recordAll owner (Fact.recordAll owner (context, table)
          (before ++ [.refer category name source])) after := by
    unfold Fact.recordAll
    rw [← List.foldl_append, List.append_assoc]
    rfl
  rw [hsplit]
  exact hadded.recordAll owner _ after

end Dependencies

/-- A reference that a module states is mentioned in its table. -/
theorem ModuleSource.mentions_scanned {source : ModuleSource} {category : Category}
    {name file : String} (hfact : .refer category name file ∈ source.facts)
    (hreserved : ¬ Dependencies.IsReserved category name) :
    source.scanned.dependencies.Mentions category (normalizeName name) file :=
  Dependencies.mentions_recordAll source.name {} [] hfact hreserved

/-! ## Who owns what is meant -/

/-- What a reference means is owned by the only owner among all that it may mean. -/
theorem Registry.exists_lookup {registry : Registry} {category : Category} {name owner : String}
    (hsome : ∃ target ∈ meanings category name, registry.owner? target.1 target.2 = some owner)
    (honly : ∀ target ∈ meanings category name, ∀ other,
      registry.owner? target.1 target.2 = some other → other = owner) :
    ∃ found, registry.lookup category name = some found ∧ found.owner = owner := by
  cases hlookup : registry.lookup category name with
  | none =>
      obtain ⟨target, htarget, howner⟩ := hsome
      rw [lookup_eq_none_iff.1 hlookup target htarget] at howner
      cases howner
  | some found =>
      obtain ⟨target, htarget, howner⟩ := owner_of_lookup hlookup
      exact ⟨found, rfl, honly target htarget found.owner howner⟩

/-- Resolving one module names the inherited variables and resolves the module, and nothing else. -/
theorem Resolver.resolve_single_context {modules : Table String Module} {name : String}
    {module : Module} (hmodule : modules.get? name = some module) {control : List String}
    {context : Context} :
    (resolve modules { names := [name] } { controlModules := control } context).2.2 =
      ((context.log .info "Resolving dependencies").aliasInherited.2.resolveDirect control name
        module).2 := by
  -- One step resolves the module, and the next one finds the queue empty.
  obtain ⟨steps, hsteps⟩ : ∃ steps, [name].length +
      (context.log .info "Resolving dependencies").aliasInherited.2.registry.size +
        edgeCount { controlModules := control } + 1 = steps + 2 :=
    ⟨_, by rw [List.length_singleton, Nat.add_assoc 1, Nat.add_comm 1]⟩
  simp only [resolve, List.isEmpty_cons, Bool.false_eq_true, if_false]
  rw [hsteps]
  simp only [explore, resolveModule, Table.get?, hmodule]
  rfl

/-- Resolving a module alone records a reference as missing if the module mentions it and it means
nothing. -/
theorem Resolver.missing_mem_found_iff {modules : Table String Module} {user : String}
    {module : Module} (hmodule : modules.get? user = some module) {control : List String}
    {context : Context} {category : Category} {name file : String} :
    .missingDefinition category name file ∈
        (resolve modules { names := [user] } { controlModules := control }
          context).2.2.diagnostics.found ↔
      .missingDefinition category name file ∈ context.diagnostics.found ∨
        module.dependencies.Mentions category name file ∧
          context.aliasInherited.2.registry.lookup category name = none := by
  have haliases := (context.log .info "Resolving dependencies").hears_aliasInherited.found
  have haccounted := (context.log .info "Resolving dependencies").aliasInherited.2
    |>.accounted_resolveDirect control user module
  have hcontrol (names : List String) : .missingDefinition category name file ∉
      (module.controlSayings control names).flatMap Saying.warnings := by
    unfold Module.controlSayings
    split
    · exact List.not_mem_nil
    · split <;> simp [Saying.warnings]
  rw [resolve_single_context hmodule, haccounted.mem_found_iff, haliases,
    Context.aliasInherited_log_registry]
  refine or_congr Iff.rfl ((or_iff_left (hcontrol _)).trans ?_)
  constructor
  · intro hgiven
    obtain ⟨entry, hentry, hlookup, source, hsource, hwarning⟩ := hgiven
    cases hwarning
    exact ⟨⟨entry, hentry, rfl, rfl, hsource⟩, hlookup⟩
  · intro hgiven
    obtain ⟨⟨entry, hentry, rfl, rfl, hsource⟩, hlookup⟩ := hgiven
    exact ⟨entry, hentry, hlookup, file, hsource, rfl⟩

/-- No module but the given one defines the symbol, and nobody else owned it before. -/
structure OnlyDefinedBy (owner : String) (sources : List ModuleSource) (registry : Registry)
    (category : Category) (name : String) : Prop where
  /-- Before scanning, the symbol has no owner or the given one. -/
  before : ∀ other, registry.find? category name = some other → other = owner
  /-- No module of another name defines the symbol. -/
  scanned : ∀ source ∈ sources, (category, name) ∈ source.symbols → source.name = owner

/-- Modules of different names were scanned one after another, from whatever was there before. -/
structure Scanned (sources : List ModuleSource) (start state : Context × Table String Module) :
    Prop where
  /-- No two modules have the same name. -/
  names : (sources.map ModuleSource.name).Nodup
  /-- All of them can be read, and they were entered. -/
  scanned : scanSources sources start = .ok state

namespace Scanned

variable {sources : List ModuleSource} {start state : Context × Table String Module}
variable {user : ModuleSource} {category : Category} {name owner : String}

/-- All modules could be read. -/
theorem readable (h : Scanned sources start state) (huser : user ∈ sources) : user.Readable :=
  (scanSources_eq_ok_iff.1 h.scanned).1 user huser

/-- The owner of a symbol is the one it had before, or else the first module that defines it. -/
theorem find?_eq (h : Scanned sources start state) (category : Category) (name : String) :
    state.1.registry.find? category name =
      (start.1.registry.find? category name).or
        (sources.findSome? (ModuleSource.ownerOf category name)) := by
  rw [← (scanSources_eq_ok_iff.1 h.scanned).2, ModuleSource.find?_enterAll]

/-- Each module is in the table as it was scanned. -/
theorem get?_eq (h : Scanned sources start state) (huser : user ∈ sources) :
    state.2.get? user.name = some user.scanned := by
  have hmodule := (ModuleSource.findSome?_moduleOf_of_nodup h.names).2 ⟨user, huser, rfl, rfl⟩
  rw [← (scanSources_eq_ok_iff.1 h.scanned).2, ModuleSource.get?_enterAll, hmodule]
  rfl

/-- Nobody but the only module that defines a symbol owns it. -/
theorem owner_of_only (h : Scanned sources start state)
    (honly : OnlyDefinedBy owner sources start.1.registry category name) {other : String}
    (hother : state.1.registry.find? category name = some other) : other = owner := by
  rw [h.find?_eq] at hother
  rcases Option.or_eq_some_iff.1 hother with hbefore | ⟨_, hscanned⟩
  · exact honly.before other hbefore
  · obtain ⟨source, hsource, howner⟩ := List.exists_of_findSome?_eq_some hscanned
    unfold ModuleSource.ownerOf at howner
    split at howner
    · next hsymbol =>
        cases howner
        exact honly.scanned source hsource hsymbol
    · cases howner

/-- A module owns a symbol that it alone defines. -/
theorem find?_of_only (h : Scanned sources start state) (huser : user ∈ sources)
    (hsymbol : (category, name) ∈ user.symbols)
    (honly : OnlyDefinedBy user.name sources start.1.registry category name) :
    state.1.registry.find? category name = some user.name := by
  cases hfind : state.1.registry.find? category name with
  | some other => rw [h.owner_of_only honly hfind]
  | none =>
      rw [h.find?_eq, Option.or_eq_none_iff, List.findSome?_eq_none_iff] at hfind
      have howner := hfind.2 user huser
      unfold ModuleSource.ownerOf at howner
      rw [if_pos hsymbol] at howner
      cases howner

/-- The owner of what a mentioned reference means is listed for the module, unless it is the module
itself or the symbol is a builtin one. -/
theorem lists (h : Scanned sources start state) (huser : user ∈ sources)
    {file : String} (hmentions : user.scanned.dependencies.Mentions category name file)
    {found : Match} (hfound : state.1.aliasInherited.2.registry.lookup category name = some found)
    (hbuiltin : found.owner ≠ builtinOwner) (hself : found.owner ≠ user.name)
    (control : List String) :
    ∃ resolution names,
      (Resolver.resolve state.2 { names := [user.name] } { controlModules := control }
        state.1).1 = .ok resolution ∧
      resolution.modules.get? user.name = some names ∧ found.owner ∈ names := by
  obtain ⟨resolution, names, hresolve, hnames, hmem⟩ :=
    exists_resolve_direct (h.get?_eq huser) control state.1
  obtain ⟨entry, hentry, rfl, rfl, _⟩ := hmentions
  exact ⟨resolution, names, hresolve, hnames, (hmem found.owner).2
    ⟨hbuiltin, hself, user.scanned, h.get?_eq huser, entry, hentry, found, hfound, rfl⟩⟩

/-- Resolving a module alone records a reference as missing if the module mentions it and it means
nothing. -/
theorem mem_found_missing_iff (h : Scanned sources start state) (huser : user ∈ sources)
    (control : List String) (category : Category) (name file : String) :
    .missingDefinition category name file ∈
        (Resolver.resolve state.2 { names := [user.name] } { controlModules := control }
          state.1).2.2.diagnostics.found ↔
      .missingDefinition category name file ∈ state.1.diagnostics.found ∨
        user.scanned.dependencies.Mentions category name file ∧
          state.1.aliasInherited.2.registry.lookup category name = none :=
  Resolver.missing_mem_found_iff (h.get?_eq huser)

end Scanned

end ModuleGraph
