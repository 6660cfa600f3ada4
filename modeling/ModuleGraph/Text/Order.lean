import ModuleGraph.Text.CodePoint

/-!
# Texts in order

Texts are ordered by their code points, of which the first difference decides. It suffices to
compare the characters that they are written with, each by the code point it is written for: a mark
ranks just behind the reserved area that it announces. No two characters have the same rank, so
texts of the same rank are the same.

`sortNames` sorts a list of names, and `sortedSet` lists the distinct ones in ascending order.
-/

namespace ModuleGraph.Text

/-- What a text is compared by. -/
def rank (text : String) : List Nat :=
  text.toList.map pointOf

/-- A text comes before another one. -/
def isBefore (a b : String) : Bool :=
  decide (rank a < rank b)

/-- A text comes before another one or is the same. -/
def atMost (a b : String) : Bool :=
  !isBefore b a

/-- The names in ascending order, with repetitions. -/
def sortNames (names : List String) : List String :=
  names.mergeSort atMost

/-- The distinct names in ascending order. -/
def sortedSet (names : List String) : List String :=
  sortNames names.eraseDups

/-- Characters of the same rank are the same: no character lies where the halves are. -/
theorem pointOf_injective {c d : Char} (h : pointOf c = pointOf d) : c = d := by
  have first : firstHalf = 0xD800 := rfl
  have last : endOfHalves = 0xE000 := rfl
  have outside (e : Char) : e.toNat < 0xD800 ∨ 0xE000 ≤ e.toNat := by
    rcases e.valid with low | high
    · exact Or.inl low
    · exact Or.inr high.1
  have hc := outside c
  have hd := outside d
  apply Char.toNat_inj.1
  unfold pointOf half? at h
  split at h <;> split at h <;> rename_i hc' hd' <;>
    simp only [Bool.and_eq_true, decide_eq_true_iff, Option.getD_some, Option.getD_none] at * <;>
    omega

/-- Rows of characters of the same rank are the same. -/
theorem map_pointOf_injective {a b : List Char} (h : a.map pointOf = b.map pointOf) : a = b := by
  induction a generalizing b with
  | nil => simpa [eq_comm] using h
  | cons c rest ih =>
    cases b with
    | nil => simp at h
    | cons d more =>
      simp only [List.map_cons, List.cons.injEq] at h
      rw [pointOf_injective h.1, ih h.2]

/-- Texts of the same rank are the same. -/
theorem rank_injective {a b : String} (h : rank a = rank b) : a = b :=
  String.toList_inj.1 (map_pointOf_injective h)

end ModuleGraph.Text
