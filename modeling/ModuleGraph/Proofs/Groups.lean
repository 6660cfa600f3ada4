import ModuleGraph.Proofs.DirectDependencies

/-!
# Grouping references

`Dependencies.items` lists the references of a module group by group. Grouping keeps each group
(`ofCategory_items`) and the order of the groups (`categories_items`), so a list that is grouped
already stays as it is.
-/

namespace ModuleGraph.Dependencies

/-- No category has two groups. -/
theorem nodup_categories (table : Dependencies) : table.categories.Nodup := by
  refine List.nodup_append.2 ⟨by decide, Text.nodup_eraseDups _, ?_⟩
  intro first hfirst second hsecond heq
  subst heq
  have hother := (List.mem_filter.1 (List.mem_eraseDups.1 hsecond)).2
  exact of_decide_eq_true hother hfirst

/-- Of the groups of some categories, only that of a category holds its references. -/
theorem ofCategory_flatMap (table : Dependencies) (category : Category)
    {categories : List Category} (h : categories.Nodup) :
    ofCategory (categories.flatMap (ofCategory table)) category =
      if category ∈ categories then table.ofCategory category else [] := by
  induction categories with
  | nil => rfl
  | cons first rest ih =>
      obtain ⟨hfirst, hrest⟩ := List.nodup_cons.1 h
      have hgroup : ofCategory (table.ofCategory first) category =
          if first = category then table.ofCategory category else [] := by
        unfold ofCategory
        rw [List.filter_filter]
        split
        · next heq =>
            subst heq
            simp
        · next hne =>
            rw [List.filter_eq_nil_iff]
            intro entry _ hboth
            simp only [Bool.and_eq_true, decide_eq_true_eq] at hboth
            exact hne (hboth.2.symm.trans hboth.1)
      have happend : ofCategory ((first :: rest).flatMap (ofCategory table)) category =
          ofCategory (table.ofCategory first) category ++
            ofCategory (rest.flatMap (ofCategory table)) category := List.filter_append ..
      rw [happend, hgroup, ih hrest]
      by_cases heq : first = category
      · subst heq
        simp [hfirst]
      · simp [heq, Ne.symm heq]

/-- Grouping references keeps each group. -/
theorem ofCategory_items (table : Dependencies) (category : Category) :
    ofCategory table.items category = table.ofCategory category := by
  rw [items, ofCategory_flatMap table category table.nodup_categories]
  split
  · rfl
  · next hcategory =>
      symm
      refine List.filter_eq_nil_iff.2 fun entry hentry heq => hcategory ?_
      rw [← of_decide_eq_true heq]
      exact category_mem_categories hentry

/-- All references of a group have its category. -/
theorem map_category_ofCategory (table : Dependencies) (category : Category) :
    (table.ofCategory category).map Dependency.category =
      List.replicate (table.ofCategory category).length category := by
  refine List.eq_replicate_iff.2 ⟨List.length_map .., fun found hfound => ?_⟩
  obtain ⟨entry, hentry, rfl⟩ := List.mem_map.1 hfound
  exact of_decide_eq_true (List.mem_filter.1 hentry).2

/-- Leaving out categories leaves out their groups. -/
theorem filter_map_category (table : Dependencies) (keep : Category → Bool)
    (categories : List Category) :
    ((categories.flatMap (ofCategory table)).map Dependency.category).filter keep =
      ((categories.filter keep).flatMap (ofCategory table)).map Dependency.category := by
  induction categories with
  | nil => rfl
  | cons first rest ih =>
      rw [List.flatMap_cons, List.map_append, List.filter_append, ih, map_category_ofCategory,
        List.filter_replicate]
      cases hkeep : keep first with
      | true => simp [hkeep, map_category_ofCategory]
      | false => simp [hkeep]

/-- The categories of groups that are not empty, in order. -/
theorem eraseDups_map_category (table : Dependencies) {categories : List Category}
    (h : categories.Nodup)
    (hfull : ∀ category ∈ categories, ∃ entry ∈ table, entry.category = category) :
    ((categories.flatMap (ofCategory table)).map Dependency.category).eraseDups = categories := by
  induction categories with
  | nil => rfl
  | cons first rest ih =>
      obtain ⟨hfirst, hrest⟩ := List.nodup_cons.1 h
      obtain ⟨⟨entry, hentry, hcategory⟩, hothers⟩ := List.forall_mem_cons.1 hfull
      obtain ⟨count, hcount⟩ : ∃ count, (table.ofCategory first).length = count + 1 := by
        refine Nat.exists_eq_succ_of_ne_zero fun hzero => ?_
        have hmem : entry ∈ table.ofCategory first :=
          List.mem_filter.2 ⟨hentry, decide_eq_true hcategory⟩
        rw [List.length_eq_zero_iff.1 hzero] at hmem
        cases hmem
      -- The categories of the other groups are different.
      have hforeign : ∀ category ∈ (rest.flatMap (ofCategory table)).map Dependency.category,
          (!category == first) = true := by
        intro category hmem
        obtain ⟨found, hfound, rfl⟩ := List.mem_map.1 hmem
        obtain ⟨other, hother, hfound⟩ := List.mem_flatMap.1 hfound
        have heq : found.category = other := of_decide_eq_true (List.mem_filter.1 hfound).2
        simp only [Bool.not_eq_true', beq_eq_false_iff_ne, heq]
        exact fun hsame => hfirst (hsame ▸ hother)
      rw [List.flatMap_cons, List.map_append, map_category_ofCategory, hcount,
        List.replicate_succ, List.cons_append, List.eraseDups_cons, List.filter_append,
        List.filter_eq_self.2 hforeign]
      simp [ih hrest hothers]

/-- Grouping references keeps the categories of the groups. -/
theorem categories_items (table : Dependencies) :
    categories table.items = table.categories := by
  let others := ((table.map Dependency.category).filter fun category =>
    category ∉ Category.referable).eraseDups
  have hothers {category : Category} : category ∈ others ↔
      category ∈ table.map Dependency.category ∧ category ∉ Category.referable := by
    rw [List.mem_eraseDups, List.mem_filter, decide_eq_true_eq]
  have hfilter : (table.categories.filter fun category => category ∉ Category.referable) =
      others := by
    have hreferable : (Category.referable.filter fun category =>
        category ∉ Category.referable) = [] := by decide
    have hkept : (others.filter fun category => category ∉ Category.referable) = others :=
      List.filter_eq_self.2 fun category hmem => decide_eq_true (hothers.1 hmem).2
    unfold categories
    rw [List.filter_append, hreferable, hkept, List.nil_append]
  have hfull : ∀ category ∈ others, ∃ entry ∈ table, entry.category = category :=
    fun category hmem => List.mem_map.1 (hothers.1 hmem).1
  have hmore : ((table.items.map Dependency.category).filter fun category =>
      category ∉ Category.referable).eraseDups = others := by
    rw [items, filter_map_category, hfilter]
    exact eraseDups_map_category table (Text.nodup_eraseDups _) hfull
  exact congrArg (Category.referable ++ ·) hmore

/-- Grouping references a second time changes nothing. -/
theorem items_items (table : Dependencies) : items table.items = table.items := by
  rw [items, categories_items]
  exact congrArg (fun groups => table.categories.flatMap groups)
    (funext fun category => table.ofCategory_items category)

end ModuleGraph.Dependencies
