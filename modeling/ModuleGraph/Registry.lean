import ModuleGraph.Category

/-!
# The registry of definitions

The `Registry` lists which module owns which symbol, in the order in which the symbols were
defined. The first entry of a symbol counts, so the first definition wins. A name may be written
with a top scope marker, which is removed.
-/

namespace ModuleGraph

/-- The pseudo-module that owns the builtin symbols. -/
def builtinOwner : String := "builtin"

/-- Removes a leading top scope marker `::`. -/
def normalizeName (name : String) : String :=
  match name.toList with
  | ':' :: ':' :: rest => String.ofList rest
  | _ => name

/-- A symbol and the module that owns it. -/
structure Definition where
  /-- The category of the symbol. -/
  category : Category
  /-- The name of the symbol, without top scope marker. -/
  name : String
  /-- The module that defined it first. -/
  owner : String
deriving DecidableEq, Repr, Inhabited

/-- The definitions of a run, in the order in which they were made. -/
structure Registry where
  /-- The entries, one a symbol. -/
  entries : List Definition := []
deriving DecidableEq, Repr, Inhabited

namespace Registry

/-- The owner of a symbol whose name has no top scope marker. -/
def find? (registry : Registry) (category : Category) (name : String) : Option String :=
  (registry.entries.find? fun entry => entry.category = category ∧ entry.name = name).map (·.owner)

/-- The owner of a symbol. -/
def owner? (registry : Registry) (category : Category) (name : String) : Option String :=
  registry.find? category (normalizeName name)

/-- Adds a symbol with its owner. -/
def add (registry : Registry) (category : Category) (name owner : String) : Registry :=
  ⟨registry.entries ++ [⟨category, name, owner⟩]⟩

/-- The number of symbols. -/
def size (registry : Registry) : Nat :=
  registry.entries.length

/-- The names of a category with their owners, in order. -/
def ofCategory (registry : Registry) (category : Category) : List (String × String) :=
  (registry.entries.filter fun entry => entry.category = category).map fun entry =>
    (entry.name, entry.owner)

/-- Adding a symbol gives it an owner if it had none, and changes no other symbol. -/
theorem find?_add (registry : Registry) (category other : Category) (name target owner : String) :
    (registry.add category name owner).find? other target =
      (registry.find? other target).or
        (if category = other ∧ name = target then some owner else none) := by
  simp only [find?, add, List.find?_append, Option.map_or]
  congr 1
  by_cases h : category = other ∧ name = target
  · simp [h]
  · simp only [h, if_false]
    simp [h]

/-- Adding a symbol makes one more entry. -/
@[simp] theorem size_add (registry : Registry) (category : Category) (name owner : String) :
    (registry.add category name owner).size = registry.size + 1 := by
  simp [size, add]

end Registry

end ModuleGraph
