import Mathlib.Data.List.Nodup
import ModuleGraph.Table

/-!
# Tables as maps

The tables of a run are made by putting one entry after another, so no key has two entries. In such
a table the entries and the values of keys say the same (`mem_iff_get?`).
-/

namespace ModuleGraph.Table

variable {κ α : Type} [DecidableEq κ]

/-- No key has two entries. -/
def Distinct (table : Table κ α) : Prop :=
  (keys table).Nodup

/-- Only a key with an entry has a value. -/
theorem mem_of_get? {table : Table κ α} {key : κ} {value : α}
    (h : get? table key = some value) : (key, value) ∈ table := by
  induction table with
  | nil => cases h
  | cons entry rest ih =>
      obtain ⟨k, first⟩ := entry
      simp only [get?] at h
      split at h
      · next hk =>
          cases h
          rw [hk]
          exact List.mem_cons_self
      · exact List.mem_cons_of_mem _ (ih h)

/-- Every key among the keys has a value. -/
theorem get?_isSome_iff {table : Table κ α} {key : κ} :
    (get? table key).isSome = true ↔ key ∈ keys table :=
  hasKey_iff_mem_keys table key

/-- A key has its value in the first of two tables, or else in the second. -/
theorem get?_append (first second : Table κ α) (key : κ) :
    get? (first ++ second : Table κ α) key = (get? first key).or (get? second key) := by
  induction first with
  | nil => rfl
  | cons entry rest ih =>
      obtain ⟨k, value⟩ := entry
      by_cases hk : k = key
      · simp [get?, hk]
      · simpa [get?, hk] using ih

/-- Where the entries of a key agree, they give its value. -/
theorem get?_eq_some_iff_mem {table : Table κ α} {key : κ} {value : α}
    (h : ∀ first second, (key, first) ∈ table → (key, second) ∈ table → first = second) :
    get? table key = some value ↔ (key, value) ∈ table := by
  refine ⟨mem_of_get?, fun hmem => ?_⟩
  have hkey : key ∈ keys table := List.mem_map.2 ⟨_, hmem, rfl⟩
  obtain ⟨first, hfirst⟩ := Option.isSome_iff_exists.1 (get?_isSome_iff.2 hkey)
  rw [hfirst, h first value (mem_of_get? hfirst) hmem]

/-- Where no key has two entries, every entry gives the value of its key. -/
theorem Distinct.mem_iff_get? {table : Table κ α} (h : Distinct table) {key : κ} {value : α} :
    (key, value) ∈ table ↔ get? table key = some value := by
  refine (get?_eq_some_iff_mem fun first second hfirst hsecond => ?_).symm
  exact congrArg Prod.snd (List.inj_on_of_nodup_map h hfirst hsecond rfl)

/-- Where no key has two entries, the entries before one do not have its key. -/
theorem Distinct.hasKey_eq_false {before after : Table κ α} {entry : κ × α}
    (h : Distinct (before ++ entry :: after : Table κ α)) : hasKey before entry.1 = false := by
  rw [Bool.eq_false_iff, ne_eq, hasKey_iff_mem_keys]
  intro hmem
  unfold Distinct keys at h
  rw [List.map_append, List.map_cons, List.nodup_append] at h
  obtain ⟨_, _, happart⟩ := h
  exact happart entry.1 hmem entry.1 List.mem_cons_self rfl

/-- A table is given by its keys in their order and by their values. -/
theorem Distinct.ext {table table' : Table κ α} (h : Distinct table)
    (hkeys : keys table = keys table') (hvalues : ∀ key, get? table key = get? table' key) :
    table = table' := by
  induction table generalizing table' with
  | nil => exact (List.map_eq_nil_iff.1 hkeys.symm).symm
  | cons entry rest ih =>
      obtain ⟨key, value⟩ := entry
      obtain ⟨⟨key', value'⟩, rest', rfl, rfl, hrest⟩ := List.map_eq_cons_iff.1 hkeys.symm
      obtain ⟨hkey, hdistinct⟩ := List.nodup_cons.1 h
      obtain rfl : value = value' := by simpa [get?] using hvalues key'
      congr 1
      refine ih hdistinct hrest.symm fun other => ?_
      by_cases hother : key' = other
      · -- The rest of neither table has the first key.
        subst hother
        have hnone {table : Table κ α} (htable : keys table = keys rest) :
            get? table key' = none := by
          rw [← Option.not_isSome_iff_eq_none, get?_isSome_iff, htable]
          exact hkey
        rw [hnone rfl, hnone hrest]
      · simpa [get?, hother] using hvalues other

/-- A property of all values is kept if a value with it is put. -/
theorem forall_put {p : α → Prop} {table : Table κ α}
    (h : ∀ entry ∈ table, p entry.2) (key : κ) {value : α} (hvalue : p value) :
    ∀ entry ∈ put table key value, p entry.2 := by
  induction table with
  | nil => exact List.forall_mem_singleton.2 hvalue
  | cons entry rest ih =>
      obtain ⟨hentry, hrest⟩ := List.forall_mem_cons.1 h
      simp only [put]
      split
      · exact List.forall_mem_cons.2 ⟨hvalue, hrest⟩
      · exact List.forall_mem_cons.2 ⟨hentry, ih hrest⟩

/-- It is kept if values with it are put one after another. -/
theorem forall_foldl_put {ι : Type} {p : α → Prop} {table : Table κ α}
    (h : ∀ entry ∈ table, p entry.2) {items : List ι} {key : ι → κ} {value : ι → α}
    (hitems : ∀ item ∈ items, p (value item)) :
    ∀ entry ∈ items.foldl (fun table item => put table (key item) (value item)) table,
      p entry.2 := by
  induction items generalizing table with
  | nil => exact h
  | cons item rest ih =>
      obtain ⟨hitem, hrest⟩ := List.forall_mem_cons.1 hitems
      exact ih (forall_put h (key item) hitem) hrest

/-- Putting an entry gives no key a second one. -/
theorem Distinct.put {table : Table κ α} (h : Distinct table) (key : κ) (value : α) :
    Distinct (put table key value) := by
  unfold Distinct
  rw [keys_put]
  split
  · exact h
  · next hkey => exact List.concat_eq_append ▸ h.concat hkey

/-- Setting the value of a key that has none gives no key a second entry. -/
theorem Distinct.putNew {table : Table κ α} (h : Distinct table) (key : κ) (value : α) :
    Distinct (putNew table key value) := by
  unfold Table.putNew
  split
  · exact h
  · next hkey =>
      rw [hasKey_iff_mem_keys] at hkey
      unfold Distinct keys
      rw [List.map_append]
      exact List.concat_eq_append ▸ h.concat hkey

/-- Putting entries one after another gives no key a second one. -/
theorem Distinct.foldl_put {table : Table κ α} (h : Distinct table) (entries : List (κ × α)) :
    Distinct (entries.foldl (fun table entry => Table.put table entry.1 entry.2) table) := by
  induction entries generalizing table with
  | nil => exact h
  | cons entry rest ih => exact ih (h.put entry.1 entry.2)

/-- A key keeps the value it had, or else gets the first one that is set. -/
theorem get?_foldl_putNew (table entries : Table κ α) (key : κ) :
    get? (entries.foldl (fun table entry => putNew table entry.1 entry.2) table) key =
      (get? table key).or (get? entries key) := by
  induction entries generalizing table with
  | nil => simp [get?]
  | cons entry rest ih =>
      obtain ⟨k, value⟩ := entry
      have hput : get? (putNew table k value) key =
          (get? table key).or (if k = key then some value else none) := by
        unfold putNew
        split
        · next hkey =>
            obtain ⟨old, hold⟩ := Option.isSome_iff_exists.1 hkey
            by_cases hk : k = key
            · subst hk
              simp [hold]
            · simp [hk]
        · exact get?_append _ _ _
      rw [List.foldl_cons, ih, hput, Option.or_assoc]
      congr 1
      by_cases hk : k = key <;> simp [get?, hk]

/-- Setting the values of keys that have none, one after another, adds their entries. -/
theorem foldl_putNew_of_distinct {table entries : Table κ α}
    (h : Distinct (table ++ entries : Table κ α)) :
    entries.foldl (fun table entry => putNew table entry.1 entry.2) table = table ++ entries := by
  induction entries generalizing table with
  | nil => exact (List.append_nil _).symm
  | cons entry rest ih =>
      have hnew : putNew table entry.1 entry.2 = table ++ [entry] := by
        rw [putNew, h.hasKey_eq_false]
        rfl
      rw [List.foldl_cons, hnew, ih (by simpa using h), List.append_assoc]
      rfl

/-- Putting entries one after another: the last one of a key counts. -/
theorem get?_foldl_put (table entries : Table κ α) (key : κ) :
    get? (entries.foldl (fun table entry => put table entry.1 entry.2) table) key =
      (get? entries.reverse key).or (get? table key) := by
  induction entries generalizing table with
  | nil => rfl
  | cons entry rest ih =>
      obtain ⟨k, value⟩ := entry
      rw [List.foldl_cons, ih, get?_put, List.reverse_cons, get?_append, Option.or_assoc]
      congr 1
      by_cases hk : k = key <;> simp [get?, hk]

/-- A table of entries has no key twice. -/
theorem distinct_ofEntries (entries : List (κ × α)) : Distinct (ofEntries entries) :=
  (show Distinct ([] : Table κ α) from List.nodup_nil).foldl_put entries

/-- A table of entries has no others. -/
theorem mem_of_mem_ofEntries {entries : List (κ × α)} {entry : κ × α}
    (h : entry ∈ ofEntries entries) : entry ∈ entries := by
  have hvalue := (distinct_ofEntries entries).mem_iff_get?.1 h
  rw [ofEntries, get?_foldl_put, show get? ([] : Table κ α) entry.1 = none from rfl,
    Option.or_none] at hvalue
  exact List.mem_reverse.1 (mem_of_get? hvalue)

/-- A table that assigns to each of some keys its value under a function. -/
theorem get?_ofEntries_map (values : κ → α) (list : List κ) (key : κ) :
    get? (ofEntries (list.map fun k => (k, values k))) key =
      if key ∈ list then some (values key) else none := by
  have hmem {value : α} :
      (key, value) ∈ (list.map fun k => (k, values k)).reverse ↔
        key ∈ list ∧ values key = value := by
    simp only [List.mem_reverse, List.mem_map, Prod.mk.injEq]
    constructor
    · intro hgiven
      obtain ⟨k, hk, rfl, rfl⟩ := hgiven
      exact ⟨hk, rfl⟩
    · intro hgiven
      obtain ⟨hk, rfl⟩ := hgiven
      exact ⟨key, hk, rfl, rfl⟩
  unfold ofEntries
  rw [get?_foldl_put]
  ext value
  rw [show get? ([] : Table κ α) key = none from rfl, Option.or_none, get?_eq_some_iff_mem, hmem]
  · split <;> simp [*]
  · intro first second hfirst hsecond
    rw [← (hmem.1 hfirst).2, (hmem.1 hsecond).2]

/-- The entries of a table that assigns to each of some keys its value under a function. -/
theorem mem_ofEntries_map (values : κ → α) (list : List κ) {key : κ} {value : α} :
    (key, value) ∈ ofEntries (list.map fun k => (k, values k)) ↔
      key ∈ list ∧ value = values key := by
  rw [(distinct_ofEntries _).mem_iff_get?, get?_ofEntries_map]
  split
  · next hkey => simp [hkey, eq_comm]
  · next hkey => simp [hkey]

end ModuleGraph.Table
