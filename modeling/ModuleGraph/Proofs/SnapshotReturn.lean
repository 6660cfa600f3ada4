import ModuleGraph.Proofs.SnapshotText

/-!
# A run comes back from its text

A snapshot of a run is written as a text, and a run that has just begun loads the text and restores
what it holds. `load_restores_capture` follows all of it. What is restored is what there was, each
table in its order (`Brings`), without a word. It does not matter whether the builtin symbols are
added before the snapshot is restored or after it: adding them leaves everything else as it is
(`SameButBuiltins`).
-/

namespace ModuleGraph

namespace Registry

/-! ## Symbols that are not builtin -/

/-- The names of a category that are not builtin with their owners, in order. -/
def foreign (registry : Registry) (category : Category) : List (String × String) :=
  (registry.ofCategory category).filter fun entry => entry.2 ≠ builtinOwner

/-- Adding a symbol adds it at the end of its category. -/
theorem ofCategory_add (registry : Registry) (category other : Category) (name owner : String) :
    (registry.add category name owner).ofCategory other =
      registry.ofCategory other ++ if category = other then [(name, owner)] else [] := by
  unfold add ofCategory
  rw [List.filter_append, List.map_append]
  congr 1
  by_cases hcategory : category = other
  · simp [hcategory]
  · simp [hcategory]

/-- Adding a builtin symbol adds nothing else. -/
theorem foreign_addNew_builtinOwner (registry : Registry) (category other : Category)
    (name : String) :
    (registry.addNew category name builtinOwner).foreign other = registry.foreign other := by
  unfold addNew
  split
  · unfold foreign
    rw [ofCategory_add, List.filter_append]
    by_cases hcategory : category = other
    · simp [hcategory]
    · simp [hcategory]
  · rfl

/-- Adding new symbols with different names adds all of them, in their order. -/
theorem ofCategory_addAll {registry : Registry} {category : Category}
    {entries : List (String × String)} (hdistinct : Table.Distinct entries)
    (hnew : ∀ entry ∈ entries, registry.find? category entry.1 = none) (other : Category) :
    (registry.addAll category entries).ofCategory other =
      registry.ofCategory other ++ if category = other then entries else [] := by
  induction entries generalizing registry with
  | nil => simp [addAll]
  | cons entry rest ih =>
      obtain ⟨hentry, hrest⟩ := List.nodup_cons.1 hdistinct
      obtain ⟨hfirst, hothers⟩ := List.forall_mem_cons.1 hnew
      have hadd : registry.addNew category entry.1 entry.2 =
          registry.add category entry.1 entry.2 := if_pos hfirst
      have hlater : ∀ later ∈ rest,
          (registry.add category entry.1 entry.2).find? category later.1 = none := by
        intro later hlater
        have hne : ¬ (category = category ∧ entry.1 = later.1) :=
          fun hsame => hentry (hsame.2 ▸ List.mem_map_of_mem hlater)
        rw [find?_add, hothers later hlater, if_neg hne]
        rfl
      show ((registry.addNew category entry.1 entry.2).addAll category rest).ofCategory other = _
      rw [hadd, ih hrest hlater, ofCategory_add, List.append_assoc]
      congr 1
      split
      · rfl
      · rfl

end Registry

namespace Context

/-- Two contexts agree on everything that a snapshot brings back. -/
structure SameButBuiltins (before after : Context) : Prop where
  /-- The same symbols are not builtin, in the same order. -/
  symbols : ∀ category, after.registry.foreign category = before.registry.foreign category
  /-- Classes inherit in the same order. -/
  inherits : after.inherits = before.inherits

/-- Adding a catalogue adds nothing but builtin symbols. -/
theorem keptByBuiltins_sameButBuiltins (before : Context) :
    KeptByBuiltins (SameButBuiltins before) where
  log h _ _ := ⟨h.symbols, h.inherits⟩
  warn h _ := ⟨h.symbols, h.inherits⟩
  define {context} h category name :=
    { symbols := fun other => by
        rw [defineBuiltin_registry, Registry.foreign_addNew_builtinOwner, h.symbols other]
      inherits := by
        unfold defineBuiltin
        rw [define_inherits, h.inherits] }
  loaded h := ⟨h.symbols, h.inherits⟩

/-- After a catalogue was added, everything else is as before. -/
theorem sameButBuiltins_addBuiltins (context : Context) (catalogue : Builtins) :
    SameButBuiltins context (context.addBuiltins catalogue).2 :=
  (keptByBuiltins_sameButBuiltins context).addBuiltins ⟨fun _ => rfl, rfl⟩ catalogue

end Context

namespace Dependencies

/-- No symbol is referred to in two entries. -/
def Distinct (table : Dependencies) : Prop :=
  table.Pairwise fun a b => ¬(a.category = b.category ∧ a.name = b.name)

/-- References without repetitions list no name of a category twice. -/
theorem Distinct.distinct_ofCategory {table : Dependencies} (h : table.Distinct)
    (category : Category) :
    Table.Distinct ((table.ofCategory category).map fun entry => (entry.name, entry.sources)) := by
  unfold Table.Distinct Table.keys ofCategory
  rw [List.map_map, List.Nodup, List.pairwise_map]
  refine (List.Pairwise.filter _ h).imp_of_mem fun hfirst hsecond hapart hname => ?_
  have hcategory := of_decide_eq_true (List.mem_filter.1 hfirst).2
  have hcategory' := of_decide_eq_true (List.mem_filter.1 hsecond).2
  exact hapart ⟨hcategory.trans hcategory'.symm, hname⟩

end Dependencies

namespace Snapshot

/-! ## What is restored, in its order -/

/-- New symbols of some categories are restored in their order, behind those that were there. -/
theorem ofCategory_restoreCategories {skipped : List String}
    {tables : Category → Table String String} {categories : List Category} {context : Context}
    (hcategories : categories.Nodup)
    (hdistinct : ∀ category ∈ categories, (restorable skipped (tables category)).Distinct)
    (hnew : ∀ category ∈ categories, ∀ entry ∈ restorable skipped (tables category),
      context.registry.find? category entry.1 = none) (other : Category) :
    (restoreCategories skipped tables categories context).registry.ofCategory other =
      context.registry.ofCategory other ++
        if other ∈ categories then restorable skipped (tables other) else [] := by
  induction categories generalizing context with
  | nil => simp [restoreCategories]
  | cons category rest ih =>
      obtain ⟨hcategory, hrest⟩ := List.nodup_cons.1 hcategories
      obtain ⟨hnames, hothers⟩ := List.forall_mem_cons.1 hdistinct
      obtain ⟨hfirst, hlater⟩ := List.forall_mem_cons.1 hnew
      have hnext : ∀ later ∈ rest, ∀ entry ∈ restorable skipped (tables later),
          (restoreDefinitions skipped category (tables category) context).registry.find? later
            entry.1 = none := by
        intro later hmem entry hentry
        have hne : category ≠ later := fun heq => hcategory (heq ▸ hmem)
        rw [restoreDefinitions_registry, Registry.find?_addAll, if_neg hne, Option.or_none,
          hlater later hmem entry hentry]
      show (restoreCategories skipped tables rest
        (restoreDefinitions skipped category (tables category) context)).registry.ofCategory
          other = _
      rw [ih hrest hothers hnext, restoreDefinitions_registry,
        Registry.ofCategory_addAll hnames hfirst, List.append_assoc]
      congr 1
      by_cases hsame : category = other
      · subst hsame
        simp [hcategory]
      · simp [hsame, Ne.symm hsame]

/-- The symbols that are restored without exclusion are those that are not builtin. -/
theorem restorable_ofCategory {registry : Registry} (hplain : registry.Plain)
    (category : Category) :
    restorable [builtinOwner] (registry.ofCategory category) = registry.foreign category := by
  unfold restorable Registry.foreign
  simp only [List.mem_singleton]
  refine (List.map_congr_left fun entry hentry => ?_).trans (List.map_id _)
  have hlisted := Registry.mem_ofCategory.1 (List.mem_filter.1 hentry).1
  rw [normalizeName_eq_self (hplain _ hlisted)]
  rfl

/-- The modules that are restored without exclusion are the captured ones as their records
describe them. -/
theorem restore_modules {modules : Table String Module} (h : modules.Distinct)
    (hbuiltin : builtinOwner ∉ modules.keys) (context start : Context) :
    ((capture context modules).restore [] (start, [])).1 = modules.length ∧
      ((capture context modules).restore [] (start, [])).2.2 =
        modules.map fun entry => (entry.1, Module.ofRecord entry.2.toRecord) := by
  have hall : ((capture context modules).modules.filter fun entry => entry.1 ∉ [builtinOwner]) =
      modules.map fun entry => (entry.1, entry.2.toRecord) := by
    refine List.filter_eq_self.2 fun entry hentry => decide_eq_true fun hskipped => hbuiltin ?_
    obtain ⟨module, hmodule, rfl⟩ := List.mem_map.1 hentry
    rw [← List.mem_singleton.1 hskipped]
    exact List.mem_map_of_mem hmodule
  have hdistinct : Table.Distinct ([] ++ modules.map fun entry =>
      (entry.1, Module.ofRecord entry.2.toRecord)) := by
    unfold Table.Distinct Table.keys
    rw [List.nil_append, List.map_map]
    exact h
  unfold restore
  dsimp only
  rw [hall]
  refine ⟨List.length_map .., ?_⟩
  rw [List.foldl_map]
  have hput := Table.foldl_put_of_distinct hdistinct
  rw [List.foldl_map] at hput
  exact hput

/-! ## A run and its snapshot -/

/-- The tables of a run have no key twice, and the texts that a snapshot keeps of it are made of
characters. -/
structure Keepable (context : Context) (modules : Table String Module) : Prop where
  /-- No symbol is listed twice. -/
  symbols : context.registry.Distinct
  /-- No class is listed twice. -/
  classes : context.inherits.Distinct
  /-- No module is listed twice. -/
  keys : modules.Distinct
  /-- No module lists a reference twice. -/
  references : ∀ entry ∈ modules, entry.2.dependencies.Distinct
  /-- The texts are made of characters. -/
  texts : ∀ text ∈ (capture context modules).texts, Text.Whole text

/-- The snapshot of a run whose tables have no key twice is made of such tables. -/
theorem Keepable.distinct_capture {context : Context} {modules : Table String Module}
    (h : Keepable context modules) : (capture context modules).Distinct where
  definitions := by
    show (List.map Prod.fst (Category.all.map fun category =>
      (category, context.registry.ofCategory category))).Nodup
    rw [List.map_map]
    exact show Category.all.Nodup by decide
  symbols := List.forall_mem_map.2 fun category _ => h.symbols.distinct_ofCategory category
  modules := by
    show (List.map Prod.fst (modules.map fun entry => (entry.1, entry.2.toRecord))).Nodup
    rw [List.map_map]
    exact h.keys
  groups := by
    refine List.forall_mem_map.2 fun entry _ => ?_
    show (List.map Prod.fst entry.2.toRecord.dependencies).Nodup
    unfold Module.toRecord
    dsimp only
    rw [List.map_map]
    exact (List.map_id _).symm ▸ entry.2.dependencies.nodup_categories
  references := by
    refine List.forall_mem_map.2 fun entry hentry => List.forall_mem_map.2 fun category _ => ?_
    exact (h.references entry hentry).distinct_ofCategory category
  inherits := h.classes

/-- What is seen of a module in a listing: its key, its name, whether it is a control repository,
and its references in their order. -/
def listing (entry : String × Module) : String × String × Bool × List Dependency :=
  (entry.1, entry.2.name, entry.2.controlRepo, entry.2.dependencies.items)

/-- A run has what another one had: the symbols that are not builtin, the inheritance and the
modules, each in the same order. -/
structure Brings (context : Context) (modules : Table String Module)
    (state : Context × Table String Module) : Prop where
  /-- The symbols of each category have the same owners, in the same order. -/
  symbols : ∀ category, state.1.registry.foreign category = context.registry.foreign category
  /-- Classes inherit in the same order. -/
  inherits : state.1.inherits = context.inherits
  /-- The modules are listed alike. -/
  listed : state.2.map listing = modules.map listing

/-- A snapshot brings everything of one run into another one: all modules are counted, and no
warning is evaluated. -/
structure RestoresInto (snapshot : Snapshot) (context : Context) (modules : Table String Module)
    (start : Context) : Prop where
  /-- All modules are counted. -/
  count : (snapshot.restore [] (start, [])).1 = modules.length
  /-- No warning is evaluated, and nothing is said. -/
  silent : start.diagnostics.Hears [] (snapshot.restore [] (start, [])).2.1.diagnostics
  /-- Everything is there. -/
  brings : Brings context modules (snapshot.restore [] (start, [])).2

/-- A snapshot that is restored into a run without its symbols brings back what it was taken of,
without a word. -/
theorem restoresInto_capture {context start : Context} {modules : Table String Module}
    (h : Keepable context modules) (hplain : context.registry.Plain)
    (hbuiltin : builtinOwner ∉ modules.keys)
    (hnew : ∀ entry ∈ context.registry.entries, entry.owner ≠ builtinOwner →
      start.registry.find? entry.category entry.name = none)
    (hforeign : ∀ category, start.registry.foreign category = [])
    (hinherits : start.inherits = []) :
    (capture context modules).RestoresInto context modules start := by
  have howned : ∀ category name owner, context.registry.find? category name = some owner →
      owner ∉ [builtinOwner] → start.registry.find? category name = none := by
    intro category name owner howner hkept
    refine hnew ⟨category, name, owner⟩ (h.symbols.find?_eq_some.1 howner) fun heq => hkept ?_
    exact List.mem_singleton.2 heq
  obtain ⟨hcount, hmodules⟩ := restore_modules h.keys hbuiltin context start
  refine ⟨hcount, hears_restore h.symbols hplain howned modules [], ?_, ?_, ?_⟩
  · intro category
    show ((restoreCategories [builtinOwner] context.registry.ofCategory Category.all
      start).registry.ofCategory category).filter _ = _
    have hdistinct (category : Category) :=
      distinct_restorable h.symbols hplain [builtinOwner] category
    have hrestored : ∀ category ∈ Category.all,
        ∀ entry ∈ restorable [builtinOwner] (context.registry.ofCategory category),
          start.registry.find? category entry.1 = none := by
      intro category _ entry hentry
      have hvalue := (hdistinct category).mem_iff_get?.1 hentry
      rw [get?_restorable h.symbols hplain, Option.filter_eq_some_iff] at hvalue
      exact howned category entry.1 entry.2 hvalue.1 (of_decide_eq_true hvalue.2)
    rw [ofCategory_restoreCategories (by decide) (fun category _ => hdistinct category) hrestored,
      if_pos (Category.mem_all category), restorable_ofCategory hplain, List.filter_append]
    show start.registry.foreign category ++ (context.registry.foreign category).filter _ = _
    rw [hforeign, List.nil_append]
    exact List.filter_eq_self.2 fun entry hentry => (List.mem_filter.1 hentry).2
  · rw [restore_inherits, hinherits]
    exact Table.foldl_putNew_of_distinct h.classes
  · rw [hmodules, List.map_map]
    refine List.map_congr_left fun entry _ => ?_
    show (entry.1, entry.2.name, entry.2.controlRepo,
      Dependencies.items (Module.ofRecord entry.2.toRecord).dependencies) = _
    rw [Module.dependencies_ofRecord_toRecord, Dependencies.items_items]
    rfl

/-- A run comes back from the text of its snapshot. Let no symbol of the run have a top scope
marker, no module be called as the builtin owner, and no symbol that is not builtin be in the
catalogue. Then the snapshot has a text with bytes, and whatever file holds these bytes is loaded.
Restoring it into a run that has just begun counts all modules, evaluates no warning and brings back
the symbols that are not builtin, the inheritance and the modules, whether the catalogue is added
afterwards or was added before. -/
theorem load_restores_capture (catalogue : Builtins) {start context : Context}
    {modules : Table String Module} (hregistry : start.registry = {})
    (hinherits : start.inherits = []) (h : Keepable context modules)
    (hplain : context.registry.Plain) (hbuiltin : builtinOwner ∉ modules.keys)
    (hown : ∀ entry ∈ context.registry.entries, entry.owner ≠ builtinOwner →
      (start.addBuiltins catalogue).2.registry.find? entry.category entry.name = none) :
    ∃ text bytes, (capture context modules).toText = .ok text ∧
      Text.encode? text = some bytes ∧
      ∀ files path, FileSystem.readBytes files path = .ok bytes →
        ∃ snapshot, load files path = .ok snapshot ∧
          snapshot.RestoresInto context modules start ∧
          Brings context modules
            (((snapshot.restore [] (start, [])).2.1.addBuiltins catalogue).2,
              (snapshot.restore [] (start, [])).2.2) ∧
          snapshot.RestoresInto context modules (start.addBuiltins catalogue).2 := by
  obtain ⟨text, bytes, htext, hbytes, hload⟩ := load_of_toText h.distinct_capture h.texts
  have hempty (category : Category) : start.registry.foreign category = [] := by
    rw [hregistry]
    rfl
  have hnone : ∀ entry ∈ context.registry.entries, entry.owner ≠ builtinOwner →
      start.registry.find? entry.category entry.name = none := by
    rw [hregistry]
    exact fun _ _ _ => rfl
  have hafter := restoresInto_capture h hplain hbuiltin hnone hempty hinherits
  have hlater := Context.sameButBuiltins_addBuiltins
    ((capture context modules).restore [] (start, [])).2.1 catalogue
  have hearlier := start.sameButBuiltins_addBuiltins catalogue
  refine ⟨text, bytes, htext, hbytes, fun files path hfile =>
    ⟨_, hload files path hfile, hafter, ⟨fun category => ?_, ?_, hafter.brings.listed⟩, ?_⟩⟩
  · exact (hlater.symbols category).trans (hafter.brings.symbols category)
  · exact hlater.inherits.trans hafter.brings.inherits
  · refine restoresInto_capture h hplain hbuiltin hown (fun category => ?_) ?_
    · rw [hearlier.symbols, hempty]
    · rw [hearlier.inherits, hinherits]

/-- The catalogue of a run with one builtin function. -/
def smallCatalogue : Builtins where
  functions := ["abs"]

/-- The context of a run with a builtin symbol between its own ones. -/
def smallContext : Context where
  registry := ⟨[⟨.hostClass, "zeit", "zeit"⟩, ⟨.function, "abs", builtinOwner⟩,
    ⟨.function, "größe\n\"x\"", "zeit"⟩, ⟨.hostClass, "alt", "alt"⟩]⟩
  inherits := [("zeit::server", "zeit"), ("alt", "zeit")]

/-- The modules of that run, the first of which is a control repository. -/
def smallModules : Table String Module :=
  [("zeit",
    { name := "zeit"
      path := ⟨"/", ["srv", "zeit"]⟩
      controlRepo := true
      dependencies := [⟨.classVariable, "\\", ["b.pp", "a.pp"]⟩, ⟨.hostClass, "alt", ["b.pp"]⟩] }),
    ("alt", { name := "", path := ⟨"", []⟩ })]

/-- The texts and the order of that run come back. -/
theorem smallRun_returns :
    ∃ text bytes, (capture smallContext smallModules).toText = .ok text ∧
      Text.encode? text = some bytes ∧
      ∀ files path, FileSystem.readBytes files path = .ok bytes →
        ∃ snapshot, load files path = .ok snapshot ∧
          ((snapshot.restore [] ({}, [])).1 = 2 ∧
            (snapshot.restore [] ({}, [])).2.1.inherits =
              [("zeit::server", "zeit"), ("alt", "zeit")]) ∧
          (snapshot.restore [] (Context.seeded smallCatalogue, [])).2.1.registry.foreign .function =
            [("größe\n\"x\"", "zeit")] := by
  have htexts : ∀ text ∈ (capture smallContext smallModules).texts,
      text.toList.all (fun c => c.toNat < Text.firstStandIn) = true := by decide +kernel
  have hkeep : Keepable smallContext smallModules :=
    { symbols := show List.Pairwise _ _ by decide
      classes := show List.Nodup _ by decide
      keys := show List.Nodup _ by decide
      references := show ∀ entry ∈ smallModules, List.Pairwise _ entry.2.dependencies by decide
      texts := fun text htext => Text.whole_of_ordinary (htexts text htext) }
  have hempty : ({} : Context).registry = {} ∧ ({} : Context).inherits = [] := ⟨rfl, rfl⟩
  obtain ⟨text, bytes, htext, hbytes, hload⟩ :=
    load_restores_capture smallCatalogue hempty.1 hempty.2 hkeep (by decide) (by decide)
      (by decide +kernel)
  refine ⟨text, bytes, htext, hbytes, fun files path hfile => ?_⟩
  obtain ⟨snapshot, hsnapshot, hafter, _, hbefore⟩ := hload files path hfile
  exact ⟨snapshot, hsnapshot, ⟨hafter.count, hafter.brings.inherits⟩, hbefore.brings.symbols _⟩

end Snapshot

end ModuleGraph
