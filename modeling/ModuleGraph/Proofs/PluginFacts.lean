import Mathlib.Data.List.Basic
import ModuleGraph.Plugin.Files
import ModuleGraph.Proofs.StatedFacts

/-!
# What plugin files can state

The plugin files of a module are `Found` in directories below that of the plugins. Whatever they
state is a note, a message, a definition, or a reference or an error under the name of the file that
it stands in. This holds of what was read before a failure, too (`within_pluginFacts`).
-/

namespace ModuleGraph

/-! ## Filtering -/

section Filtering

variable {α : Type} {check : α → Except Failure Bool} {items kept : List α} {failure : Failure}

/-- Items are kept in front of those kept earlier, or one of them cannot be checked. -/
theorem filterAuxM_cases (check : α → Except Failure Bool) (items earlier : List α) :
    (∃ kept, items.filterAuxM check earlier = .ok (kept ++ earlier) ∧ kept ⊆ items) ∨
      ∃ item ∈ items, ∃ failure, check item = .error failure ∧
        items.filterAuxM check earlier = .error failure := by
  induction items generalizing earlier with
  | nil => exact .inl ⟨[], rfl, List.Subset.refl []⟩
  | cons first rest ih =>
      cases hcheck : check first with
      | error failure =>
          refine .inr ⟨first, List.mem_cons_self, failure, hcheck, ?_⟩
          simp only [List.filterAuxM, hcheck]
          rfl
      | ok keep =>
          have hstep : (first :: rest).filterAuxM check earlier =
              rest.filterAuxM check (cond keep (first :: earlier) earlier) := by
            simp only [List.filterAuxM, hcheck]
            rfl
          rw [hstep]
          obtain ⟨kept, hkept, hsubset⟩ | ⟨item, hitem, hfailure⟩ :=
            ih (cond keep (first :: earlier) earlier)
          · have hrest : kept ⊆ first :: rest := List.subset_cons_of_subset first hsubset
            cases keep with
            | true =>
                refine .inl ⟨kept ++ [first], ?_, ?_⟩
                · rw [hkept, List.append_assoc, List.singleton_append]
                  rfl
                · exact List.append_subset.2 ⟨hrest, by simp⟩
            | false => exact .inl ⟨kept, hkept, hrest⟩
          · exact .inr ⟨item, List.mem_cons_of_mem first hitem, hfailure⟩

/-- What a list is filtered to are items of it. -/
theorem mem_of_filterM_eq_ok (h : items.filterM check = .ok kept) {item : α}
    (hitem : item ∈ kept) : item ∈ items := by
  obtain ⟨reversed, hreversed, hkept⟩ := exceptBind_eq_ok.1 h
  cases hkept
  obtain ⟨found, hfound, hsubset⟩ | ⟨_, _, failure, _, hfailure⟩ := filterAuxM_cases check items []
  · rw [hfound, List.append_nil] at hreversed
    cases hreversed
    exact hsubset (List.mem_reverse.1 hitem)
  · rw [hfailure] at hreversed
    cases hreversed

/-- If a list cannot be filtered, then one of its items cannot be checked. -/
theorem exists_of_filterM_eq_error (h : items.filterM check = .error failure) :
    ∃ item ∈ items, check item = .error failure := by
  have haux : items.filterAuxM check [] = .error failure := by
    rcases exceptBind_eq_error.1 h with haux | ⟨_, _, hreverse⟩
    · exact haux
    · cases hreverse
  obtain ⟨found, hfound, _⟩ | ⟨item, hitem, found, hcheck, hfound⟩ :=
    filterAuxM_cases check items []
  · rw [hfound] at haux
    cases haux
  · rw [hfound] at haux
    cases haux
    exact ⟨item, hitem, hcheck⟩

end Filtering

/-! ## Below a directory -/

/-- What lies directly below a directory has the directory as its parent. -/
theorem FileSystem.exists_of_mem_children {files : FileSystem} {directory path : Path}
    (h : path ∈ files.children directory) : ∃ name, path = directory.child name := by
  unfold FileSystem.children at h
  split at h
  · obtain ⟨name, _, rfl⟩ := List.mem_map.1 (List.mem_mergeSort.1 h)
    exact ⟨name, rfl⟩
  · cases h

/-- The directories directly below a directory are among what lies there. -/
theorem FileSystem.mem_children_of_mem_subdirectories {files : FileSystem} {base path : Path}
    {directories : List Path} (h : files.subdirectories base = .ok directories)
    (hpath : path ∈ directories) : path ∈ files.children base := by
  obtain ⟨present, _, hlist⟩ := exceptBind_eq_ok.1 h
  split at hlist
  · exact mem_of_filterM_eq_ok hlist hpath
  · cases hlist
    cases hpath

namespace Plugin

variable {files : FileSystem} {location : Location} {path : Path}

/-- The path is that of a plugin file in a directory of plugins, or at any depth below it. -/
def Found (files : FileSystem) (location : Location) (path : Path) : Prop :=
  ∃ parts found, (files.matching (location.directory parts) ending = .ok found ∨
    files.matchingBelow (location.directory parts) ending = .ok found) ∧ path ∈ found

section Facts

variable {allowed : Fact → Prop}

/-- The facts of a text are those that are read from it, or a message. -/
theorem within_ofText (hwarn : ∀ message, allowed (.warn message)) {facts : String → List Fact}
    (h : ∀ text, ∀ fact ∈ facts text, allowed fact) :
    ∀ fact ∈ ofText files path facts, allowed fact := by
  unfold ofText
  split
  · exact h _
  · exact List.forall_mem_singleton.2 (hwarn _)

/-- What is found in files is what is found in each of them. -/
theorem within_flatMap {paths : List Path} {facts : Path → List Fact}
    (h : ∀ path ∈ paths, ∀ fact ∈ facts path, allowed fact) :
    ∀ fact ∈ paths.flatMap facts, allowed fact := by
  intro fact hfact
  obtain ⟨path, hpath, hmem⟩ := List.mem_flatMap.1 hfact
  exact h path hpath fact hmem

/-- Files directly in a directory of plugins state what each of them does. -/
theorem within_inDirectory {parts : List String} {facts : Path → List Fact}
    (h : ∀ path, Found files location path → ∀ fact ∈ facts path, allowed fact) :
    (inDirectory files (location.directory parts) facts).Within allowed :=
  Reading.within_given fun found hfound => Reading.within_ofFacts.2 <|
    within_flatMap fun path hpath => h path ⟨parts, found, .inl hfound, hpath⟩

/-- So do files at any depth below it. -/
theorem within_belowDirectory {parts : List String} {facts : Path → List Fact}
    (h : ∀ path, Found files location path → ∀ fact ∈ facts path, allowed fact) :
    (belowDirectory files (location.directory parts) facts).Within allowed :=
  Reading.within_given fun found hfound => Reading.within_ofFacts.2 <|
    within_flatMap fun path hpath => h path ⟨parts, found, .inr hfound, hpath⟩

/-- So do files in the directories directly below it. -/
theorem within_inSubdirectories {part : String} {facts : Path → Path → List Fact}
    (h : ∀ directory path, Found files location path →
      ∀ fact ∈ facts directory path, allowed fact) :
    (inSubdirectories files (location.directory [part]) facts).Within allowed := by
  refine Reading.within_given fun directories hlist =>
    Reading.within_join fun reading hreading => ?_
  obtain ⟨directory, hdirectory, rfl⟩ := List.mem_map.1 hreading
  have hchild := FileSystem.mem_children_of_mem_subdirectories hlist hdirectory
  obtain ⟨name, rfl⟩ := FileSystem.exists_of_mem_children hchild
  show (inDirectory files (location.directory [part, name]) _).Within allowed
  exact within_inDirectory fun path hpath => h _ path hpath

/-- The plugin files of a module state nothing else, also where reading them stops half-way. -/
theorem within_pluginFacts (hnote : ∀ message, allowed (.note message))
    (hwarn : ∀ message, allowed (.warn message))
    (hdefine : ∀ category name, allowed (.define category name false))
    (hrefer : ∀ category name path, Found files location path →
      allowed (.refer category name (location.sourceName path)))
    (herror : ∀ category error message path, Found files location path →
      allowed (.report (.typeError category error (location.sourceName path)) message)) :
    (pluginFacts files location).Within allowed := by
  have hdefined (category : Category) (name : String) (path : Path) :
      ∀ fact ∈ defined category name path, allowed fact :=
    List.forall_mem_cons.2 ⟨hnote _, List.forall_mem_singleton.2 (hdefine _ _)⟩
  have hlegacy (path : Path) : ∀ fact ∈ legacyFunctionFacts files path, allowed fact :=
    within_ofText hwarn fun _ => hdefined _ _ _
  have hfunctions (base path : Path) (hpath : Found files location path) :
      ∀ fact ∈ functionFacts location files base path, allowed fact := by
    refine within_ofText hwarn fun text => ?_
    split
    · exact List.forall_mem_singleton.2 (herror _ _ _ path hpath)
    · split
      · exact hdefined _ _ _
      · exact List.forall_mem_singleton.2 (herror _ _ _ path hpath)
  have hdata (base path : Path) (hpath : Found files location path) :
      ∀ fact ∈ dataTypeFacts location files base path, allowed fact := by
    refine within_ofText hwarn fun text => ?_
    split
    · exact List.forall_mem_singleton.2 (herror _ _ _ path hpath)
    · exact hdefined _ _ _
  have htypes (path : Path) : ∀ fact ∈ resourceTypeFacts files path, allowed fact := by
    refine within_ofText hwarn fun text => ?_
    split
    · exact List.forall_mem_singleton.2 (hwarn _)
    · exact hdefined _ _ _
  have hproviders (type : String) (path : Path) (hpath : Found files location path) :
      ∀ fact ∈ providerFacts location files type path, allowed fact := by
    refine within_ofText hwarn fun text => ?_
    split
    · exact List.forall_mem_singleton.2 (hwarn _)
    · rw [List.forall_mem_append, List.forall_mem_cons]
      refine ⟨hdefined _ _ _, hrefer _ _ path hpath, fun fact hfact => ?_⟩
      obtain ⟨parent, _, hparent⟩ := List.mem_flatMap.1 hfact
      rcases List.mem_pair.1 hparent with rfl | rfl
      · exact hnote _
      · exact hrefer _ _ path hpath
  refine Reading.within_given fun present _ => ?_
  split
  · refine Reading.within_join ?_
    simp only [List.forall_mem_cons]
    refine ⟨within_inDirectory fun path _ => hlegacy path, within_belowDirectory (hfunctions _),
      within_belowDirectory (hdata _), within_inDirectory fun path _ => htypes path,
      within_inDirectory fun _ _ => hdefined _ _ _,
      within_inSubdirectories fun type => hproviders type.name, List.forall_mem_nil _⟩
  · exact Reading.within_nothing

end Facts

end Plugin

end ModuleGraph
