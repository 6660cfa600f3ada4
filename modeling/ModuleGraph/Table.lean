/-!
# Tables that remember their order

A `Table` maps keys to values and lists its entries in the order in which the keys were first
put. Putting a key again keeps its position and replaces its value.
-/

namespace ModuleGraph

/-- Entries in the order of their first insertion. -/
abbrev Table (κ α : Type) := List (κ × α)

namespace Table

variable {κ α : Type} [DecidableEq κ]

/-- The value of a key. -/
def get? (table : Table κ α) (key : κ) : Option α :=
  match table with
  | [] => none
  | (k, value) :: rest => if k = key then some value else get? rest key

/-- The key has an entry. -/
def hasKey (table : Table κ α) (key : κ) : Bool :=
  (get? table key).isSome

/-- Sets the value of a key, at its old position or else at the end. -/
def put (table : Table κ α) (key : κ) (value : α) : Table κ α :=
  match table with
  | [] => [(key, value)]
  | (k, old) :: rest =>
    if k = key then (k, value) :: rest else (k, old) :: put rest key value

/-- Sets the value of a key that has none. -/
def putNew (table : Table κ α) (key : κ) (value : α) : Table κ α :=
  if hasKey table key then table else table ++ [(key, value)]

/-- The table of a list of entries; of repeated keys the last value counts. -/
def ofEntries (entries : List (κ × α)) : Table κ α :=
  entries.foldl (fun table entry => put table entry.1 entry.2) []

omit [DecidableEq κ] in
/-- The keys, in order. -/
def keys (table : Table κ α) : List κ :=
  table.map Prod.fst

/-- After putting a key, it has the new value and every other key its old one. -/
theorem get?_put (table : Table κ α) (key other : κ) (value : α) :
    get? (put table key value) other = if key = other then some value else get? table other := by
  induction table with
  | nil => simp [put, get?]
  | cons entry rest ih =>
    obtain ⟨k, old⟩ := entry
    by_cases hk : k = key
    · subst hk
      by_cases ho : k = other <;> simp [put, get?, ho]
    · by_cases ho : k = other
      · subst ho
        simp [put, get?, hk, Ne.symm hk]
      · simp [put, get?, hk, ho, ih]

/-- A key has an entry if it is among the keys. -/
theorem hasKey_iff_mem_keys (table : Table κ α) (key : κ) :
    hasKey table key = true ↔ key ∈ keys table := by
  induction table with
  | nil => simp [hasKey, get?, keys]
  | cons entry rest ih =>
    obtain ⟨k, value⟩ := entry
    by_cases hk : k = key
    · simp [hasKey, get?, keys, hk]
    · simpa [hasKey, get?, keys, hk, Ne.symm hk] using ih

/-- Putting a key keeps the order of the keys and adds a new one at the end. -/
theorem keys_put (table : Table κ α) (key : κ) (value : α) :
    keys (put table key value) =
      if key ∈ keys table then keys table else keys table ++ [key] := by
  induction table with
  | nil => simp [put, keys]
  | cons entry rest ih =>
    obtain ⟨k, old⟩ := entry
    by_cases hk : k = key
    · simp [put, keys, hk]
    · by_cases hr : key ∈ keys rest
      · simp only [hr, if_true] at ih
        have : key ∈ rest.map Prod.fst := hr
        simp only [keys] at ih
        simp [put, keys, hk, ih, this]
      · simp only [hr, if_false] at ih
        have : key ∉ rest.map Prod.fst := hr
        simp only [keys] at ih
        simp [put, keys, hk, ih, this, Ne.symm hk]

end Table

end ModuleGraph
