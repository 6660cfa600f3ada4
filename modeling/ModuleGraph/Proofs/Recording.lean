import ModuleGraph.Reading.Tree
import ModuleGraph.Proofs.Definitions
import ModuleGraph.Proofs.Tables

/-!
# What recorded facts change

A fact defines a symbol (`Fact.symbol?`), says which class inherits from which (`Fact.edge?`) or
that a kind is unknown (`Fact.unhandled?`), adds a reference, or goes to the diagnostics.
`find?_recordAll`, `get?_recordAll_inherits`, `recordAll_unhandledKinds` and `recordAll_references`
give the owner of every symbol, the parent of every class, the unknown kinds and the references
after a list of facts was recorded. The first definition of a symbol counts, but the last parent of
a class.
-/

namespace ModuleGraph.Fact

/-- The symbol that a fact defines. -/
def symbol? : Fact → Option (Category × String)
  | .define category name _ => some (category, normalizeName name)
  | _ => none

/-- The class and its parent that a fact is about. -/
def edge? : Fact → Option (String × String)
  | .inherit child parent => some (child, parent)
  | _ => none

/-- The kind that a fact says nothing handles. -/
def unhandled? : Fact → Option Json
  | .unhandled kind => some kind
  | _ => none

/-- The parent that a list of facts gives to a class: the last one. -/
def parentIn (facts : List Fact) (child : String) : Option String :=
  Table.get? (facts.filterMap edge?).reverse child

variable {owner : String} {state : Context × Dependencies}

/-- One fact gives an owner at most to the symbol that it defines. -/
theorem find?_record (owner : String) (state : Context × Dependencies) (fact : Fact)
    (category : Category) (name : String) :
    (record owner state fact).1.registry.find? category name =
      (state.1.registry.find? category name).or
        (if fact.symbol? = some (category, name) then some owner else none) := by
  cases fact with
  | define other written allowRepeated =>
      simp only [record, Context.define_registry, Registry.find?_addNew, symbol?,
        Option.some.injEq, Prod.mk.injEq]
  | note | refer | inherit | unhandled | warn | report => simp [record, symbol?]

/-- A symbol has the owner it had before, or else that of a definition among the facts. -/
theorem find?_recordAll (owner : String) (state : Context × Dependencies) (facts : List Fact)
    (category : Category) (name : String) :
    (recordAll owner state facts).1.registry.find? category name =
      (state.1.registry.find? category name).or
        (if (category, name) ∈ facts.filterMap symbol? then some owner else none) := by
  induction facts generalizing state with
  | nil => simp [recordAll]
  | cons fact rest ih =>
      have hrest := ih (record owner state fact)
      simp only [recordAll, List.foldl_cons] at hrest ⊢
      rw [hrest, find?_record, Option.or_assoc]
      congr 1
      by_cases hfact : fact.symbol? = some (category, name)
      · simp [hfact]
      · have hmem : (category, name) ∈ (fact :: rest).filterMap symbol? ↔
            (category, name) ∈ rest.filterMap symbol? := by
          simp [hfact]
        simp only [hfact, hmem, if_false, Option.none_or]

/-- Recording facts repeats no symbol. -/
theorem distinct_recordAll (h : state.1.registry.Distinct) (facts : List Fact) :
    (recordAll owner state facts).1.registry.Distinct := by
  induction facts generalizing state with
  | nil => exact h
  | cons fact rest ih =>
      refine ih ?_
      cases fact with
      | define category name allowRepeated =>
          simp only [record, Context.define_registry]
          exact h.addNew _ _ _
      | note | refer | inherit | unhandled | warn | report => exact h

/-- One fact gives a parent at most to the class that it is about. -/
theorem record_inherits (owner : String) (state : Context × Dependencies) (fact : Fact) :
    (record owner state fact).1.inherits =
      match fact.edge? with
      | some (child, parent) => state.1.inherits.put child parent
      | none => state.1.inherits := by
  cases fact with
  | define category name allowRepeated => simp [record, edge?]
  | note | refer | inherit | unhandled | warn | report => rfl

/-- A class has the parent that the facts give to it, or else the one it had before. -/
theorem get?_recordAll_inherits (owner : String) (state : Context × Dependencies)
    (facts : List Fact) (child : String) :
    (recordAll owner state facts).1.inherits.get? child =
      (parentIn facts child).or (state.1.inherits.get? child) := by
  induction facts generalizing state with
  | nil => simp [recordAll, parentIn, Table.get?]
  | cons fact rest ih =>
      have hrest := ih (record owner state fact)
      simp only [recordAll, List.foldl_cons] at hrest ⊢
      rw [hrest, record_inherits]
      unfold parentIn
      cases hedge : fact.edge? with
      | none => simp [hedge]
      | some edge =>
          obtain ⟨target, parent⟩ := edge
          simp only [List.filterMap_cons, hedge, List.reverse_cons, Table.get?_append,
            Table.get?_put, Option.or_assoc]
          congr 1
          by_cases htarget : target = child <;> simp [Table.get?, htarget]

/-- Recording facts gives no class a second entry. -/
theorem distinct_recordAll_inherits (h : state.1.inherits.Distinct) (facts : List Fact) :
    (recordAll owner state facts).1.inherits.Distinct := by
  induction facts generalizing state with
  | nil => exact h
  | cons fact rest ih =>
      refine ih ?_
      rw [record_inherits]
      cases fact.edge? with
      | none => exact h
      | some edge => exact h.put edge.1 edge.2

/-- The unknown kinds among the facts are added in order. -/
theorem recordAll_unhandledKinds (owner : String) (state : Context × Dependencies)
    (facts : List Fact) :
    (recordAll owner state facts).1.unhandledKinds =
      state.1.unhandledKinds ++ facts.filterMap unhandled? := by
  induction facts generalizing state with
  | nil => simp [recordAll]
  | cons fact rest ih =>
      have hrest := ih (record owner state fact)
      simp only [recordAll, List.foldl_cons] at hrest ⊢
      rw [hrest]
      cases fact with
      | unhandled kind => simp [record, unhandled?]
      | define category name allowRepeated =>
          simp only [record, Context.define_unhandledKinds]
          rfl
      | note | refer | inherit | warn | report => rfl

/-- Which references the facts add depends on nothing else that was recorded. -/
theorem recordAll_references (owner other : String) (context context' : Context)
    (table : Dependencies) (facts : List Fact) :
    (recordAll owner (context, table) facts).2 = (recordAll other (context', table) facts).2 := by
  induction facts generalizing context context' table with
  | nil => rfl
  | cons fact rest ih =>
      cases fact with
      | note | define | refer | inherit | unhandled | warn | report => exact ih _ _ _

/-- A class has a parent in the facts if one of them is about it. -/
theorem exists_parentIn_iff {facts : List Fact} {child : String} :
    (∃ parent, parentIn facts child = some parent) ↔
      ∃ parent, (child, parent) ∈ facts.filterMap edge? := by
  rw [← Option.isSome_iff_exists, parentIn, Table.get?_isSome_iff]
  simp [Table.keys]

end ModuleGraph.Fact

namespace ModuleGraph

/-- A file that can be read is recorded in one go: what its nodes state, and then a message for
each name left open. -/
theorem readSource_eq_ok_iff {owner : String} {file : SourceFile} {root : Node}
    {state state' : Context × Dependencies} {names : List Node} :
    readSource owner file root state = (.ok names, state') ↔
      (root.reading file [] []).failure = none ∧
      names = (root.reading file [] []).pending ∧
      state' = Fact.recordAll owner state
        (.note ("Parsing " ++ file.name) :: (root.reading file [] []).facts ++
          names.map fun name => .warn (unresolvedMessage file name)) := by
  unfold readSource
  generalize root.reading file [] [] = reading
  dsimp only
  cases reading.failure with
  | some failure => simp
  | none =>
      constructor
      · intro h
        cases h
        exact ⟨rfl, rfl, List.foldl_append.symm⟩
      · intro h
        obtain ⟨_, rfl, rfl⟩ := h
        exact congrArg (Prod.mk _) List.foldl_append.symm

end ModuleGraph
