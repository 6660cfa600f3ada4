import ModuleGraph.Text.Order

/-!
# Ascending lists of names

A list of names is `Ascending` if each name comes before all that follow it. Such a list holds no
name twice. `sortedSet_ascending` and `mem_sortedSet` say what `sortedSet` returns, and
`Ascending.ext` that nothing else could be returned: an ascending list is known by its members.
-/

namespace ModuleGraph.Text

/-- The order of names is strict. -/
theorem isBefore_irrefl (name : String) : isBefore name name = false := by
  simp [isBefore]

/-- The order of names is transitive. -/
theorem isBefore_trans {a b c : String} (hab : isBefore a b = true) (hbc : isBefore b c = true) :
    isBefore a c = true := by
  simp only [isBefore, decide_eq_true_eq] at *
  exact List.lt_trans hab hbc

/-- Of two different names one comes before the other. -/
theorem isBefore_or_isBefore {a b : String} (h : a ≠ b) :
    isBefore a b = true ∨ isBefore b a = true := by
  simp only [isBefore, decide_eq_true_eq]
  by_cases hab : rank a < rank b
  · exact Or.inl hab
  · rcases List.le_iff_lt_or_eq.1 (List.not_lt.1 hab) with hba | heq
    · exact Or.inr hba
    · exact absurd (rank_injective heq).symm h

/-- Each name comes before all that follow it. -/
def Ascending (names : List String) : Prop :=
  names.Pairwise fun a b => isBefore a b = true

instance (names : List String) : Decidable (Ascending names) :=
  inferInstanceAs (Decidable (names.Pairwise _))

/-- An ascending list holds no name twice. -/
theorem Ascending.nodup {names : List String} (h : Ascending names) : names.Nodup := by
  refine h.imp fun {a b} hab heq => ?_
  rw [heq, isBefore_irrefl] at hab
  exact Bool.noConfusion hab

/-- An ascending list is known by its members. -/
theorem Ascending.ext {first second : List String} (hfirst : Ascending first)
    (hsecond : Ascending second) (h : ∀ name, name ∈ first ↔ name ∈ second) : first = second := by
  have hperm : first.Perm second :=
    (List.perm_ext_iff_of_nodup hfirst.nodup hsecond.nodup).2 fun {name} => h name
  refine hperm.eq_of_pairwise ?_ hfirst hsecond
  intro a b _ _ hab hba
  have := isBefore_trans hab hba
  rw [isBefore_irrefl] at this
  exact Bool.noConfusion this

/-- Removing repetitions leaves every element once. -/
theorem nodup_eraseDups {α : Type} [BEq α] [LawfulBEq α] : (list : List α) → list.eraseDups.Nodup
  | [] => List.nodup_nil
  | first :: rest => by
      -- The recursion goes on with a filtered tail, so it is the length that goes down.
      rw [List.eraseDups_cons]
      refine List.nodup_cons.2 ⟨?_, nodup_eraseDups _⟩
      simp [List.mem_eraseDups]
termination_by list => list.length
decreasing_by exact Nat.lt_succ_of_le (List.length_filter_le _ _)

/-- A sorted set has the names that it is made of. -/
@[simp] theorem mem_sortedSet {name : String} {names : List String} :
    name ∈ sortedSet names ↔ name ∈ names := by
  simp [sortedSet, sortNames, List.mem_eraseDups]

/-- Sorting puts names in order. -/
theorem sortNames_pairwise (names : List String) :
    (sortNames names).Pairwise fun a b => atMost a b = true := by
  refine List.pairwise_mergeSort ?_ ?_ names
  · intro a b c hab hbc
    simp only [atMost, isBefore, Bool.not_eq_true', decide_eq_false_iff_not, List.not_lt] at *
    exact List.le_trans hab hbc
  · intro a b
    simp only [atMost, isBefore, Bool.or_eq_true, Bool.not_eq_true', decide_eq_false_iff_not,
      List.not_lt]
    exact List.le_total _ _

/-- A sorted set is ascending. -/
theorem sortedSet_ascending (names : List String) : Ascending (sortedSet names) := by
  have hnodup : (sortedSet names).Nodup :=
    (List.mergeSort_perm _ _).nodup_iff.2 (nodup_eraseDups names)
  refine ((sortNames_pairwise names.eraseDups).and hnodup).imp fun {a b} h => ?_
  rcases isBefore_or_isBefore h.2 with hab | hba
  · exact hab
  · have := h.1
    simp [atMost, hba] at this

end ModuleGraph.Text
