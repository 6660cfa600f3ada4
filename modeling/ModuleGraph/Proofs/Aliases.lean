import ModuleGraph.Resolution
import ModuleGraph.Proofs.Definitions
import ModuleGraph.Proofs.Searching

/-!
# The names of inherited variables

Before references are resolved, every variable of a parent class gets a name in each class that
inherits from it. `aliasesOf` lists these names with their owners in the order in which they are
made. `aliasInherited_registry` says that naming them adds exactly those to the registry that are
not there yet, so `find?_aliasInherited` gives the owner of every symbol afterwards. What the
diagnostics hold plays no part in it.
-/

namespace ModuleGraph

/-- Adds the symbols of a list that have no owner yet, in order. -/
def Registry.addAll (registry : Registry) (category : Category)
    (entries : List (String × String)) : Registry :=
  entries.foldl (fun registry entry => registry.addNew category entry.1 entry.2) registry

namespace Registry

/-- A symbol has the owner it had before, or else the first one in the list. -/
theorem find?_addAll (registry : Registry) (category other : Category)
    (entries : List (String × String)) (name : String) :
    (registry.addAll category entries).find? other name =
      (registry.find? other name).or
        (if category = other then Table.get? entries name else none) := by
  induction entries generalizing registry with
  | nil => simp [addAll, Table.get?]
  | cons entry rest ih =>
      obtain ⟨first, owner⟩ := entry
      have hrest := ih (registry.addNew category first owner)
      simp only [addAll, List.foldl_cons] at hrest ⊢
      rw [hrest, find?_addNew]
      by_cases hcategory : category = other
      · by_cases hname : first = name
        · simp [Table.get?, hcategory, hname]
        · simp [Table.get?, hcategory, hname]
      · simp [hcategory]

/-- Adding symbols that have no owner repeats none. -/
theorem Distinct.addAll {registry : Registry} (h : registry.Distinct) (category : Category)
    (entries : List (String × String)) : (registry.addAll category entries).Distinct := by
  induction entries generalizing registry with
  | nil => exact h
  | cons entry rest ih => exact ih (h.addNew category entry.1 entry.2)

/-- Adding two lists of symbols, one after the other. -/
theorem addAll_append (registry : Registry) (category : Category)
    (first second : List (String × String)) :
    registry.addAll category (first ++ second) =
      (registry.addAll category first).addAll category second :=
  List.foldl_append ..

end Registry

namespace Context

/-- The name of a variable in a class that inherits it. -/
def aliasName (child name : String) : String :=
  normalizeName (child ++ "::" ++ name)

/-- The names that the variables of a parent class get in one class that inherits from it. -/
def aliasesOfEdge (owned : List (String × String)) (child parent : String) :
    List (String × String) :=
  owned.filterMap fun entry =>
    (inheritedName? parent entry.1).map fun name => (aliasName child name, entry.2)

/-- The names that inherited variables get, with their owners, in order. -/
def aliasesOf (owned : List (String × String)) (edges : Table String String) :
    List (String × String) :=
  edges.flatMap fun edge => aliasesOfEdge owned edge.1 edge.2

/-- Naming the variables of one parent class adds the new ones of its names. -/
theorem aliasVariables_registry (child parent : String) (owned : List (String × String))
    (count : Nat) (context : Context) :
    (aliasVariables child parent owned (count, context)).2.registry =
      context.registry.addAll .classVariable (aliasesOfEdge owned child parent) := by
  induction owned generalizing count context with
  | nil => rfl
  | cons entry rest ih =>
      obtain ⟨variableName, owner⟩ := entry
      simp only [aliasVariables, aliasesOfEdge, List.filterMap_cons]
      cases hname : inheritedName? parent variableName with
      | none => exact ih count context
      | some name =>
          dsimp only
          rw [ih, define_registry]
          rfl

/-- Naming inherited variables adds the new ones of their names. -/
theorem aliasEdges_registry (owned : List (String × String)) (edges : Table String String)
    (state : Nat × Context) :
    (aliasEdges owned edges state).2.registry =
      state.2.registry.addAll .classVariable (aliasesOf owned edges) := by
  induction edges generalizing state with
  | nil => rfl
  | cons edge rest ih =>
      obtain ⟨child, parent⟩ := edge
      simp only [aliasEdges, aliasesOf, List.flatMap_cons]
      rw [ih, aliasVariables_registry, Registry.addAll_append]
      rfl

/-- The registry after all inherited variables were named. -/
theorem aliasInherited_registry (context : Context) :
    context.aliasInherited.2.registry = context.registry.addAll .classVariable
      (aliasesOf (context.registry.ofCategory .classVariable) context.inherits) :=
  aliasEdges_registry _ _ _

/-- A note in the journal makes no difference to the registry. -/
theorem aliasInherited_log_registry (context : Context) (level : Level) (message : String) :
    (context.log level message).aliasInherited.2.registry =
      context.aliasInherited.2.registry := by
  simp only [aliasInherited_registry, log_registry, log_inherits]

/-- The owner of a symbol after all inherited variables were named: the one it had before, or else
that of the first variable that gets its name. -/
theorem find?_aliasInherited (context : Context) (category : Category) (name : String) :
    context.aliasInherited.2.registry.find? category name =
      (context.registry.find? category name).or
        (if .classVariable = category then
          Table.get? (aliasesOf (context.registry.ofCategory .classVariable) context.inherits) name
        else none) := by
  rw [aliasInherited_registry, Registry.find?_addAll]

/-! ## Which variable a name stands for -/

/-- A variable is below a class if its name is that of the class, a separator and a name. -/
theorem inheritedName?_eq_some {parent variableName name : String} :
    inheritedName? parent variableName = some name ↔ variableName = parent ++ "::" ++ name := by
  simp only [inheritedName?, Option.map_eq_some_iff, Text.expect?_eq_some]
  constructor
  · intro hgiven
    obtain ⟨rest, htext, rfl⟩ := hgiven
    apply String.toList_inj.1
    simpa using htext
  · intro heq
    subst heq
    exact ⟨name.toList, by simp, String.ofList_toList⟩

/-- The name of a variable in a class ends with the name it has below its own class, and what
stands before depends on the class alone. -/
theorem exists_aliasName_toList (child : String) :
    ∃ front, ∀ name, (aliasName child name).toList = front ++ name.toList := by
  -- Whether a marker is removed is decided before the name begins.
  by_cases hmarker : "::".toList <+: (child ++ "::").toList
  · obtain ⟨front, hfront⟩ := hmarker
    refine ⟨front, fun name => ?_⟩
    have htext : (child ++ "::" ++ name).toList = ':' :: ':' :: (front ++ name.toList) := by
      rw [String.toList_append, ← hfront]
      rfl
    simp only [aliasName, normalizeName, htext, String.toList_ofList]
  · refine ⟨(child ++ "::").toList, fun name => ?_⟩
    have hplain : ¬ "::".toList <+: (child ++ "::" ++ name).toList := by
      intro hprefix
      rw [String.toList_append] at hprefix
      exact hmarker (List.prefix_of_prefix_length_le hprefix (List.prefix_append _ _) (by simp))
    rw [aliasName, normalizeName_eq_self hplain, String.toList_append]

/-- In one class, variables with different names below their own class have different names. -/
theorem aliasName_injective (child : String) : Function.Injective (aliasName child) := by
  intro first second h
  obtain ⟨front, hfront⟩ := exists_aliasName_toList child
  apply String.toList_inj.1
  apply List.append_cancel_left
  rw [← hfront, ← hfront, h]

/-- The names that a class inherits. -/
theorem mem_aliasesOfEdge {owned : List (String × String)} {child parent name owner : String} :
    (name, owner) ∈ aliasesOfEdge owned child parent ↔
      ∃ short, (parent ++ "::" ++ short, owner) ∈ owned ∧ aliasName child short = name := by
  simp only [aliasesOfEdge, List.mem_filterMap, Option.map_eq_some_iff, inheritedName?_eq_some,
    Prod.mk.injEq, Prod.exists]
  constructor
  · intro hgiven
    obtain ⟨_, _, hentry, short, rfl, rfl, rfl⟩ := hgiven
    exact ⟨short, hentry, rfl⟩
  · intro hgiven
    obtain ⟨short, hentry, rfl⟩ := hgiven
    exact ⟨_, _, hentry, short, rfl, rfl, rfl⟩

/-- A class inherits only one variable of a name. -/
theorem owner_unique_of_mem_aliasesOfEdge {registry : Registry} (h : registry.Distinct)
    {child parent name owner owner' : String}
    (hmem : (name, owner) ∈ aliasesOfEdge (registry.ofCategory .classVariable) child parent)
    (hmem' : (name, owner') ∈ aliasesOfEdge (registry.ofCategory .classVariable) child parent) :
    owner = owner' := by
  obtain ⟨short, hentry, hname⟩ := mem_aliasesOfEdge.1 hmem
  obtain ⟨short', hentry', hname'⟩ := mem_aliasesOfEdge.1 hmem'
  obtain rfl := aliasName_injective child (hname.trans hname'.symm)
  rw [Registry.mem_ofCategory, ← h.find?_eq_some] at hentry hentry'
  exact Option.some.inj (hentry.symm.trans hentry')

/-- The names that all classes inherit. -/
theorem mem_aliasesOf {owned : List (String × String)} {edges : Table String String}
    {name owner : String} :
    (name, owner) ∈ aliasesOf owned edges ↔
      ∃ child parent, (child, parent) ∈ edges ∧
        (name, owner) ∈ aliasesOfEdge owned child parent := by
  simp [aliasesOf, List.mem_flatMap]

end Context

end ModuleGraph
