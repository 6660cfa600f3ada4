import ModuleGraph.Proofs.Lines
import ModuleGraph.Proofs.Snapshots

/-!
# What the record of a module keeps

A module is restored from its record. The record of the restored module should be the same one
again. `record_returns_unless_refilled` says what it is: the name, the directory, the mark of a
control repository and all references come back, but an empty version is filled in anew, and so is
the author if the name of the directory has one.

The author of a module stands in its full name, else in the name of its directory, else in the
metadata. A restored module has no full name any more, so the directory comes before the author that
its record kept.
-/

namespace ModuleGraph

/-! ## Paths that read as they are written -/

namespace Path

/-- A path as it comes from a text: the anchor is nothing, one slash or two, and the components are
names. -/
structure WellFormed (path : Path) : Prop where
  /-- The anchor is one of the three that a text can have. -/
  anchor_mem : path.anchor ∈ ["", "/", "//"]
  /-- A component has no slash in it. -/
  slash_not_mem : ∀ part ∈ path.parts, '/' ∉ part.toList
  /-- A component says something. -/
  part_ne : ∀ part ∈ path.parts, part ≠ "" ∧ part ≠ "."

/-- What is read from a text is well-formed. -/
theorem wellFormed_ofText (text : String) : (ofText text).WellFormed where
  anchor_mem := by
    simp only [ofText]
    split <;> decide
  slash_not_mem := by
    intro part hpart
    obtain ⟨chars, hchars, rfl⟩ := List.mem_map.1 (List.mem_filter.1 hpart).1
    rw [String.toList_ofList]
    exact Text.not_mem_of_mem_splitOn hchars
  part_ne := by
    intro part hpart
    simpa using (List.mem_filter.1 hpart).2

/-- A text that begins with an anchor is read as this anchor and the components behind it. -/
theorem ofText_of_toList {anchor text : String} {c : Char} {rest : List Char}
    (hanchor : anchor ∈ ["", "/", "//"]) (hc : c ≠ '/')
    (htext : text.toList = anchor.toList ++ c :: rest) :
    ofText text = ⟨anchor, (((c :: rest).splitOn '/').map String.ofList).filter fun part =>
      part != "" && part != "."⟩ := by
  have hcases : anchor = "" ∨ anchor = "/" ∨ anchor = "//" := by simpa using hanchor
  -- The slashes of an anchor divide off parts that are empty, and these are dropped.
  rcases hcases with rfl | rfl | rfl <;>
    simp [ofText, htext, List.splitOn_cons_eq_if_modifyHead, hc]

/-- A well-formed path is read from its written form as it is. -/
theorem ofText_toText {path : Path} (h : path.WellFormed) : ofText path.toText = path := by
  obtain ⟨anchor, parts⟩ := path
  cases parts with
  | nil =>
      have hcases : anchor = "" ∨ anchor = "/" ∨ anchor = "//" := by simpa using h.anchor_mem
      rcases hcases with rfl | rfl | rfl <;> decide
  | cons first rest =>
      have hsplit : (['/'].intercalate ((first :: rest).map String.toList)).splitOn '/' =
          (first :: rest).map String.toList := by
        refine List.splitOn_intercalate '/' ?_ (List.cons_ne_nil _ _)
        intro part hpart
        obtain ⟨name, hname, rfl⟩ := List.mem_map.1 hpart
        exact h.slash_not_mem name hname
      -- Behind the anchor there is a component, and it does not begin with a slash.
      obtain ⟨c, chars, hfirst⟩ : ∃ c chars, first.toList = c :: chars := by
        refine List.exists_cons_of_ne_nil fun hempty => ?_
        exact (h.part_ne first List.mem_cons_self).1 (String.toList_inj.1 hempty)
      have hc : c ≠ '/' := by
        rintro rfl
        exact h.slash_not_mem first List.mem_cons_self (hfirst ▸ List.mem_cons_self)
      obtain ⟨tail, htail⟩ : ∃ tail,
          ['/'].intercalate ((first :: rest).map String.toList) = c :: tail := by
        cases rest with
        | nil => exact ⟨chars, by simp [hfirst]⟩
        | cons next others =>
            rw [List.map_cons, List.map_cons, List.intercalate_cons_cons, hfirst]
            exact ⟨_, rfl⟩
      have htext : (toText ⟨anchor, first :: rest⟩).toList = anchor.toList ++ c :: tail := by
        simp [toText, ← htail, String.toList_intercalate]
      have hkept : (first :: rest).filter (fun part => part != "" && part != ".") =
          first :: rest := by
        refine List.filter_eq_self.2 fun part hpart => ?_
        simpa using h.part_ne part hpart
      rw [ofText_of_toList h.anchor_mem hc htext, ← htail, hsplit, List.map_map]
      simp only [Function.comp_def, String.ofList_toList, List.map_id', hkept]

end Path

/-! ## Authors -/

/-- The author that a name says, in front of the short name. -/
def ModuleName.author? (name : String) : Option String :=
  (splitAuthor? name).map Prod.fst

namespace Module

/-- The record of a module keeps its version. -/
theorem version_toRecord (module : Module) :
    module.toRecord.version = some module.metadata.version := rfl

/-- The record of a module keeps its author. -/
theorem author_toRecord (module : Module) : module.toRecord.author = module.author := rfl

/-- The author of a module: the one in its full name, else the one in the name of its directory,
else the one that the metadata name. -/
theorem author_eq (module : Module) :
    module.author = ((module.metadata.name.bind ModuleName.author?).or
      (ModuleName.author? module.path.name)).or module.metadata.author := by
  have hname : module.metadata.name.bind ModuleName.author? =
      (module.metadata.name.bind ModuleName.splitAuthor?).map Prod.fst :=
    (Option.map_bind ..).symm
  unfold author Metadata.authorAt
  rw [hname, ModuleName.author?]
  cases module.metadata.name.bind ModuleName.splitAuthor? with
  | some _ => rfl
  | none => cases ModuleName.splitAuthor? module.path.name <;> rfl

/-- A restored module has no full name: its author is the one in the name of its directory, else
the one that its record kept. -/
theorem author_ofRecord_toRecord {module : Module} (h : module.path.WellFormed) :
    (ofRecord module.toRecord).author =
      (ModuleName.author? module.path.name).or module.author := by
  rw [author_eq]
  simp only [ofRecord, toRecord, Path.ofText_toText h, Option.bind_none, Option.none_or]

/-- The version of a restored module: an empty one is filled in. -/
theorem version_ofRecord_toRecord (module : Module) :
    (ofRecord module.toRecord).metadata.version =
      if module.metadata.version = "" then Metadata.absent.version
      else module.metadata.version := by
  simp [ofRecord, toRecord]

end Module

/-- The metadata and the directory of a module do not name different authors. -/
def Module.AuthorSettled (module : Module) : Prop :=
  ∀ named placed, module.metadata.name.bind ModuleName.author? = some named →
    ModuleName.author? module.path.name = some placed → named = placed

/-- The author of a module comes back if the metadata and the directory do not name different
ones. -/
theorem Module.author_returns_iff {module : Module} (h : module.path.WellFormed) :
    (ofRecord module.toRecord).author = module.author ↔ module.AuthorSettled := by
  rw [author_ofRecord_toRecord h, author_eq, AuthorSettled]
  cases module.metadata.name.bind ModuleName.author? with
  | none => cases ModuleName.author? module.path.name <;> simp
  | some named =>
      cases ModuleName.author? module.path.name with
      | none => simp
      | some placed => simp [eq_comm]

attribute [ext] ModuleRecord

/-- The record of a restored module has a version and an author of its own, and all else from the
record that the module was restored from. -/
theorem Module.toRecord_ofRecord_toRecord {module : Module} (h : module.path.WellFormed) :
    (ofRecord module.toRecord).toRecord = { module.toRecord with
      version := some
        (if module.metadata.version = "" then Metadata.absent.version else module.metadata.version)
      author := (ModuleName.author? module.path.name).or module.toRecord.author } := by
  apply ModuleRecord.ext
  · rfl
  · exact congrArg Path.toText (Path.ofText_toText h)
  · rfl
  · rw [version_toRecord, version_ofRecord_toRecord]
  · rw [author_toRecord, author_ofRecord_toRecord h, author_toRecord]
  · exact module.toRecord_dependencies_ofRecord

/-- The record of a module comes back if its version is not empty and the metadata and the directory
do not name different authors. -/
theorem Module.toRecord_returns_iff {module : Module} (h : module.path.WellFormed) :
    (ofRecord module.toRecord).toRecord = module.toRecord ↔
      module.metadata.version ≠ "" ∧ module.AuthorSettled := by
  rw [← author_returns_iff h]
  constructor
  · intro hsame
    have hversion := congrArg ModuleRecord.version hsame
    have hauthor := congrArg ModuleRecord.author hsame
    rw [version_toRecord, version_toRecord, version_ofRecord_toRecord] at hversion
    rw [author_toRecord, author_toRecord] at hauthor
    refine ⟨fun hempty => ?_, hauthor⟩
    rw [if_pos hempty, hempty] at hversion
    exact absurd hversion (by decide)
  · intro hgiven
    obtain ⟨hversion, hauthor⟩ := hgiven
    rw [author_ofRecord_toRecord h] at hauthor
    rw [toRecord_ofRecord_toRecord h, if_neg hversion, author_toRecord, hauthor]
    rfl

/-- What the record of a restored module says. It is the record that the module was restored from,
with its name, directory, mark of a control repository and references in their order, but for two
attributes: an empty version is filled in, and an author in the name of the directory replaces the
one that the record kept. So the record is the same again if and only if the version is not empty
and the metadata and the directory do not name different authors. A module that is restored from
this second record keeps it from then on. -/
theorem record_returns_unless_refilled {module : Module} (h : module.path.WellFormed) :
    let first := module.toRecord
    let second := (Module.ofRecord first).toRecord
    second = { first with
      version := some
        (if module.metadata.version = "" then Metadata.absent.version else module.metadata.version)
      author := (ModuleName.author? module.path.name).or first.author } ∧
    (second = first ↔ module.metadata.version ≠ "" ∧ module.AuthorSettled) ∧
    (Module.ofRecord second).toRecord = second := by
  intro first second
  refine ⟨Module.toRecord_ofRecord_toRecord h, Module.toRecord_returns_iff h, ?_⟩
  -- A restored module has no full name, and its version was filled in.
  have hversion : (Module.ofRecord first).metadata.version ≠ "" := by
    rw [Module.version_ofRecord_toRecord]
    split
    · decide
    · assumption
  refine (Module.toRecord_returns_iff (Path.wellFormed_ofText _)).2 ⟨hversion, ?_⟩
  intro named placed hnamed
  cases hnamed

/-- A module in a directory that is named after another author than its metadata name. -/
def forkedModule : Module where
  name := "web"
  path := .ofText "modules/bob-web"
  metadata := { name := some "acme-web", version := "2.0.0" }

/-- The record of this module names the author in the metadata, and the record of the restored
module the other one. -/
theorem forkedModule_changes_author :
    forkedModule.path.WellFormed ∧ forkedModule.toRecord.author = some "acme" ∧
    (Module.ofRecord forkedModule.toRecord).toRecord =
      { forkedModule.toRecord with author := some "bob" } ∧
    (Module.ofRecord forkedModule.toRecord).toRecord ≠ forkedModule.toRecord := by
  have hpath : forkedModule.path.WellFormed := Path.wellFormed_ofText "modules/bob-web"
  obtain ⟨hrecord, hreturns, _⟩ := record_returns_unless_refilled hpath
  have hauthor : ModuleName.author? forkedModule.path.name = some "bob" := by decide +kernel
  refine ⟨hpath, by decide +kernel, ?_, fun hsame => ?_⟩
  · rw [hrecord, hauthor]
    rfl
  · have hnamed : forkedModule.metadata.name.bind ModuleName.author? = some "acme" := by
      decide +kernel
    exact absurd ((hreturns.1 hsame).2 "acme" "bob" hnamed hauthor) (by decide)

end ModuleGraph
