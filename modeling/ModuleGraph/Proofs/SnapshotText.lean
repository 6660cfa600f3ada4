import ModuleGraph.Proofs.JsonReading
import ModuleGraph.Proofs.Repetition

/-!
# Snapshots as texts

A snapshot is kept as a text. The readers of typed data give back the tables that a value was made
from, in their order (`toTable_obj`, `toCategoryTable_obj`), so a snapshot is read back from its
JSON (`ofJson_toJson`). `load_of_toText` takes it through a file: the text can be written, and the
file is loaded as the same snapshot.

The texts of a snapshot are made of characters. Half of a surrogate pair is no character, and a
text that holds one cannot be stored.
-/

namespace ModuleGraph

/-! ## Tables and lists as JSON -/

namespace Table

variable {κ α : Type} [DecidableEq κ]

/-- Putting a key that has no entry adds one at the end. -/
theorem put_of_hasKey_eq_false {table : Table κ α} {key : κ} (h : hasKey table key = false)
    (value : α) : put table key value = table ++ [(key, value)] := by
  induction table with
  | nil => rfl
  | cons entry rest ih =>
      obtain ⟨first, old⟩ := entry
      rw [Bool.eq_false_iff, ne_eq, hasKey_iff_mem_keys, keys, List.map_cons, List.mem_cons,
        not_or] at h
      obtain ⟨hfirst, hrest⟩ := h
      have hnone : hasKey rest key = false := by
        rwa [Bool.eq_false_iff, ne_eq, hasKey_iff_mem_keys]
      rw [put, if_neg (Ne.symm hfirst), ih hnone]
      rfl

/-- Putting entries with new keys, one after another, adds them. -/
theorem foldl_put_of_distinct {table entries : Table κ α}
    (h : Distinct (table ++ entries : Table κ α)) :
    entries.foldl (fun table entry => put table entry.1 entry.2) table = table ++ entries := by
  induction entries generalizing table with
  | nil => exact (List.append_nil _).symm
  | cons entry rest ih =>
      rw [List.foldl_cons, put_of_hasKey_eq_false h.hasKey_eq_false, ih (by simpa using h),
        List.append_assoc]
      rfl

/-- Entries with different keys are the table of themselves. -/
theorem ofEntries_eq_self {entries : Table κ α} (h : entries.Distinct) :
    ofEntries entries = entries :=
  foldl_put_of_distinct h

end Table

namespace Json

/-- What was written item by item is read back if each item is. -/
theorem mapM_map_eq_ok {α β : Type} {read : β → Except Failure α} {write : α → β} {list : List α}
    (h : ∀ item ∈ list, read (write item) = .ok item) : (list.map write).mapM read = .ok list := by
  induction list with
  | nil => rfl
  | cons item rest ih =>
      obtain ⟨hitem, hrest⟩ := List.forall_mem_cons.1 h
      rw [List.map_cons, List.mapM_cons, hitem, ih hrest]
      rfl

/-- A list of texts is read back. -/
theorem toList_toText_arr (texts : List String) :
    toList toText (.arr (texts.map .str)) = .ok texts :=
  mapM_map_eq_ok fun _ _ => rfl

/-- A table is read back from an object if each of its values is. -/
theorem toTable_obj {α : Type} {read : Json → Except Failure α} (write : α → Json)
    {table : Table String α} (h : table.Distinct)
    (hread : ∀ entry ∈ table, read (write entry.2) = .ok entry.2) :
    toTable read (.obj (table.map fun entry => (entry.1, write entry.2))) = .ok table := by
  unfold toTable
  dsimp only
  rw [mapM_map_eq_ok]
  · show Except.ok (Table.ofEntries table) = _
    rw [Table.ofEntries_eq_self h]
  · intro entry hentry
    dsimp only
    rw [hread entry hentry]
    rfl

/-- A table by category is read back from an object if each of its values is. -/
theorem toCategoryTable_obj {α : Type} {read : Json → Except Failure α} (write : α → Json)
    {table : Table Category α} (h : table.Distinct)
    (hread : ∀ entry ∈ table, read (write entry.2) = .ok entry.2) :
    toCategoryTable read (.obj (table.map fun entry => (entry.1.label, write entry.2))) =
      .ok table := by
  unfold toCategoryTable
  dsimp only
  rw [mapM_map_eq_ok]
  · show Except.ok (Table.ofEntries table) = _
    rw [Table.ofEntries_eq_self h]
  · intro entry hentry
    dsimp only
    rw [Category.ofLabel?_label]
    dsimp only
    rw [hread entry hentry]
    rfl

/-- The members of an object with different keys are found in it. -/
theorem toObject_obj {members : Table String Json} (h : members.Distinct) :
    toObject (.obj members) = .ok members := by
  rw [toObject, Table.ofEntries_eq_self h]

end Json

/-- The written form of a category is made of characters. -/
theorem Category.whole_label (category : Category) : Text.Whole category.label := by
  cases category <;> exact Text.whole_of_ordinary rfl

namespace ModuleRecord

/-- The files of a reference as JSON. -/
def sourcesJson (sources : List String) : Json :=
  .arr (sources.map .str)

/-- The references of one category as JSON. -/
def groupJson (table : Table String (List String)) : Json :=
  .obj (table.map fun entry => (entry.1, sourcesJson entry.2))

/-- The references of a module as JSON. -/
def dependenciesJson (groups : Table Category (Table String (List String))) : Json :=
  .obj (groups.map fun group => (group.1.label, groupJson group.2))

/-- The references of a module are read back from their JSON, if none is listed twice. -/
theorem toCategoryTable_dependenciesJson {groups : Table Category (Table String (List String))}
    (hgroups : groups.Distinct) (htables : ∀ group ∈ groups, group.2.Distinct) :
    Json.toCategoryTable (Json.toTable (Json.toList Json.toText)) (dependenciesJson groups) =
      .ok groups := by
  refine Json.toCategoryTable_obj groupJson hgroups fun group hgroup => ?_
  refine Json.toTable_obj sourcesJson (htables group hgroup) fun entry _ => ?_
  exact Json.toList_toText_arr entry.2

/-- The members of the JSON of a record. -/
def members (record : ModuleRecord) : Table String Json :=
  [("name", .str record.name), ("path", .str record.path),
    ("control_repo", .bool record.controlRepo), ("version", optionalText record.version),
    ("author", optionalText record.author),
    ("dependencies", dependenciesJson record.dependencies)]

/-- A record is written as an object of its members. -/
theorem toJson_eq (record : ModuleRecord) : record.toJson = .obj record.members := rfl

/-- A text that may be missing is read back. -/
theorem toText?_optionalText (text : Option String) :
    Json.toText? (optionalText text) = .ok text := by
  cases text <;> rfl

/-- The record of a module is read back from its JSON, if no reference is listed twice. -/
theorem ofJson_toJson {record : ModuleRecord} (hgroups : record.dependencies.Distinct)
    (htables : ∀ group ∈ record.dependencies, group.2.Distinct) :
    ofJson record.toJson = .ok record := by
  have hdistinct : record.members.Distinct :=
    show ["name", "path", "control_repo", "version", "author", "dependencies"].Nodup by decide
  have hdependencies := toCategoryTable_dependenciesJson hgroups htables
  unfold ofJson
  rw [toJson_eq, Json.toObject_obj hdistinct]
  simp [members, Json.required, Json.field, Table.get?, toText?_optionalText, hdependencies,
    Json.toText, Json.toFlag, bind, Except.bind, pure, Except.pure]

/-- The texts of a record. -/
def texts (record : ModuleRecord) : List String :=
  record.name :: record.path :: (record.version.toList ++ record.author.toList ++
    record.dependencies.flatMap fun group => group.2.flatMap fun entry => entry.1 :: entry.2)

/-- A text that may be missing can be stored. -/
theorem storable_optionalText {text : Option String} (h : ∀ value ∈ text.toList, Text.Whole value)
    {depth : Nat} : Json.Storable depth (optionalText text) := by
  cases text with
  | none => exact .null
  | some value => exact .str (h value List.mem_cons_self)

/-- References can be stored if their texts are made of characters. -/
theorem storable_dependenciesJson {groups : Table Category (Table String (List String))}
    (h : ∀ group ∈ groups, ∀ entry ∈ group.2, ∀ text ∈ entry.1 :: entry.2, Text.Whole text)
    {depth : Nat} : Json.Storable (depth + 3) (dependenciesJson groups) := by
  refine .obj_map _ groupJson (fun group _ => group.1.whole_label) fun group hgroup => ?_
  refine .obj_map id sourcesJson (fun entry hentry => ?_) fun entry hentry => .arr ?_
  · exact h group hgroup entry hentry _ List.mem_cons_self
  · refine List.forall_mem_map.2 fun source hsource => .str ?_
    exact h group hgroup entry hentry _ (List.mem_cons_of_mem _ hsource)

/-- A record can be stored if its texts are made of characters. -/
theorem storable_toJson {record : ModuleRecord} (h : ∀ text ∈ record.texts, Text.Whole text)
    {depth : Nat} : Json.Storable (depth + 4) record.toJson := by
  obtain ⟨hname, h⟩ := List.forall_mem_cons.1 h
  obtain ⟨hpath, h⟩ := List.forall_mem_cons.1 h
  obtain ⟨hoptions, hreferences⟩ := List.forall_mem_append.1 h
  obtain ⟨hversion, hauthor⟩ := List.forall_mem_append.1 hoptions
  have hdependencies : Json.Storable (depth + 3) (dependenciesJson record.dependencies) := by
    refine storable_dependenciesJson fun group hgroup entry hentry text htext => hreferences text ?_
    exact List.mem_flatMap.2 ⟨group, hgroup, List.mem_flatMap.2 ⟨entry, hentry, htext⟩⟩
  rw [toJson_eq]
  refine .obj ?_ ?_
  · simp only [members, List.forall_mem_cons]
    exact ⟨Text.whole_of_ordinary rfl, Text.whole_of_ordinary rfl, Text.whole_of_ordinary rfl,
      Text.whole_of_ordinary rfl, Text.whole_of_ordinary rfl, Text.whole_of_ordinary rfl,
      List.forall_mem_nil _⟩
  · simp only [members, List.forall_mem_cons]
    exact ⟨.str hname, .str hpath, .bool _, storable_optionalText hversion,
      storable_optionalText hauthor, hdependencies, List.forall_mem_nil _⟩

end ModuleRecord

namespace Snapshot

/-! ## A snapshot as text -/

/-- The texts of a table. -/
def tableTexts (table : Table String String) : List String :=
  table.flatMap fun entry => [entry.1, entry.2]

/-- The texts of a snapshot. -/
def texts (snapshot : Snapshot) : List String :=
  (snapshot.definitions.flatMap fun entry => tableTexts entry.2) ++
    (snapshot.modules.flatMap fun entry => entry.1 :: entry.2.texts) ++
    tableTexts snapshot.inherits

/-- No table of a snapshot has a key twice. -/
structure Distinct (snapshot : Snapshot) : Prop where
  /-- No category has two tables. -/
  definitions : snapshot.definitions.Distinct
  /-- No symbol is listed twice. -/
  symbols : ∀ entry ∈ snapshot.definitions, entry.2.Distinct
  /-- No module is listed twice. -/
  modules : snapshot.modules.Distinct
  /-- No module has two groups of references of a category. -/
  groups : ∀ entry ∈ snapshot.modules, entry.2.dependencies.Distinct
  /-- No module has a reference twice. -/
  references : ∀ entry ∈ snapshot.modules, ∀ group ∈ entry.2.dependencies, group.2.Distinct
  /-- No class is listed twice. -/
  inherits : snapshot.inherits.Distinct

/-- The members of the JSON of a snapshot. -/
def members (snapshot : Snapshot) : Table String Json :=
  [("definitions", .obj (snapshot.definitions.map fun entry =>
      (entry.1.label, textTable entry.2))),
    ("modules", .obj (snapshot.modules.map fun entry => (entry.1, entry.2.toJson))),
    ("inherits", textTable snapshot.inherits)]

/-- A snapshot is written as an object of its members. -/
theorem toJson_eq (snapshot : Snapshot) : snapshot.toJson = .obj snapshot.members := rfl

/-- A table of texts is read back from its JSON. -/
theorem toTable_textTable {table : Table String String} (h : table.Distinct) :
    Json.toTable Json.toText (textTable table) = .ok table :=
  Json.toTable_obj Json.str h fun _ _ => rfl

/-- A snapshot is read back from its JSON. -/
theorem ofJson_toJson {snapshot : Snapshot} (h : snapshot.Distinct) :
    ofJson snapshot.toJson = .ok snapshot := by
  have hdistinct : snapshot.members.Distinct :=
    show ["definitions", "modules", "inherits"].Nodup by decide
  have hdefinitions := Json.toCategoryTable_obj textTable h.definitions fun entry hentry =>
    toTable_textTable (h.symbols entry hentry)
  have hmodules := Json.toTable_obj ModuleRecord.toJson h.modules fun entry hentry =>
    ModuleRecord.ofJson_toJson (h.groups entry hentry) (h.references entry hentry)
  unfold ofJson
  rw [toJson_eq, Json.toObject_obj hdistinct]
  simp [members, Json.field, Table.get?, hdefinitions, hmodules, toTable_textTable h.inherits,
    bind, Except.bind, pure, Except.pure]

/-- A table of texts can be stored if they are made of characters. -/
theorem storable_textTable {table : Table String String}
    (h : ∀ text ∈ tableTexts table, Text.Whole text) {depth : Nat} :
    Json.Storable (depth + 1) (textTable table) := by
  have hentry {entry : String × String} (hentry : entry ∈ table) :
      ∀ text ∈ [entry.1, entry.2], Text.Whole text :=
    fun text htext => h text (List.mem_flatMap.2 ⟨entry, hentry, htext⟩)
  refine .obj_map id Json.str (fun entry hmem => ?_) fun entry hmem => .str ?_
  · exact hentry hmem _ List.mem_cons_self
  · exact hentry hmem _ (List.mem_cons_of_mem _ List.mem_cons_self)

/-- A snapshot can be stored if its texts are made of characters. -/
theorem storable_toJson {snapshot : Snapshot} (h : ∀ text ∈ snapshot.texts, Text.Whole text)
    {depth : Nat} : Json.Storable (depth + 6) snapshot.toJson := by
  obtain ⟨hfirst, hinherits⟩ := List.forall_mem_append.1 h
  obtain ⟨hdefinitions, hmodules⟩ := List.forall_mem_append.1 hfirst
  have hmodule {entry : String × ModuleRecord} (hentry : entry ∈ snapshot.modules) :
      ∀ text ∈ entry.1 :: entry.2.texts, Text.Whole text :=
    fun text htext => hmodules text (List.mem_flatMap.2 ⟨entry, hentry, htext⟩)
  rw [toJson_eq]
  refine .obj ?_ ?_
  · simp only [members, List.forall_mem_cons]
    exact ⟨Text.whole_of_ordinary rfl, Text.whole_of_ordinary rfl, Text.whole_of_ordinary rfl,
      List.forall_mem_nil _⟩
  · simp only [members, List.forall_mem_cons]
    refine ⟨?_, ?_, storable_textTable hinherits, List.forall_mem_nil _⟩
    · refine .obj_map _ textTable (fun entry _ => entry.1.whole_label) fun entry hentry => ?_
      exact storable_textTable fun text htext =>
        hdefinitions text (List.mem_flatMap.2 ⟨entry, hentry, htext⟩)
    · refine .obj_map id ModuleRecord.toJson (fun entry hentry => ?_) fun entry hentry => ?_
      · exact hmodule hentry _ List.mem_cons_self
      · exact ModuleRecord.storable_toJson fun text htext =>
          hmodule hentry text (List.mem_cons_of_mem _ htext)

/-- A snapshot whose texts are made of characters is written as a text with bytes, and a file that
holds these bytes is loaded as the same snapshot. -/
theorem load_of_toText {snapshot : Snapshot} (h : snapshot.Distinct)
    (htexts : ∀ text ∈ snapshot.texts, Text.Whole text) :
    ∃ text bytes, snapshot.toText = .ok text ∧ Text.encode? text = some bytes ∧
      ∀ files path, FileSystem.readBytes files path = .ok bytes →
        load files path = .ok snapshot := by
  have hstorable : Json.Storable Json.depthLimit snapshot.toJson := storable_toJson htexts
  have hkept : Text.KeptByFile snapshot.toJson.pretty.toList := hstorable.keptByFile 0
  have hdocument := hstorable.readDocument_pretty (Nat.le_succ _) true
  obtain ⟨bytes, hbytes⟩ : ∃ bytes, Text.encode? snapshot.toJson.pretty = some bytes := by
    refine Option.ne_none_iff_exists'.1 fun hnone => ?_
    exact Bool.false_ne_true (hkept.written.encode?_eq_none_iff.1 hnone)
  refine ⟨snapshot.toJson.pretty, bytes, ?_, hbytes, fun files path hfile => ?_⟩
  · rw [toText, hstorable.stored_eq]
    rfl
  · have hread := FileSystem.readText_of_keptByFile hkept hbytes hfile
    unfold load
    rw [hread]
    dsimp only [bind, Except.bind]
    rw [hdocument]
    dsimp only
    rw [Json.isBounded, hstorable.isBoundedTo_eq_true, if_pos rfl, ofJson_toJson h]
    rfl

end Snapshot

end ModuleGraph
