import ModuleGraph.Proofs.Courses
import ModuleGraph.Proofs.Operations

/-!
# What one pass over inherited variables adds

Before references are resolved, one pass goes through the inheriting classes and gives them the
variables that their parent classes had when the pass began. `Registry.InheritsAs` says that a class
gets a variable under a name from one parent, and `Registry.FirstInheritsAs` that this is the first
class in the order of inheritance that gets the name.

`aliasInherited_adds_exactly` is the effect of the pass: the names that are inherited and that
nothing owned before are added at the end, each once and with the owner of the first variable that
gets it, and nothing else changes. Which names are added, and for whom, does not depend on the order
of the variables.
-/

namespace ModuleGraph

/-! ## Adding symbols that have no owner -/

/-- Adding the symbols of a list appends those that had no owner, each once and with the first owner
that the list gives to it. -/
theorem Registry.exists_added (registry : Registry) (category : Category)
    (entries : List (String × String)) :
    ∃ added : Table String String, added.Distinct ∧
      (registry.addAll category entries).entries =
        registry.entries ++ added.map (fun entry => ⟨category, entry.1, entry.2⟩) ∧
      ∀ name owner, (name, owner) ∈ added ↔
        registry.find? category name = none ∧ Table.get? entries name = some owner := by
  induction entries generalizing registry with
  | nil => exact ⟨[], List.nodup_nil, by simp [addAll], by simp [Table.get?]⟩
  | cons entry rest ih =>
      obtain ⟨first, firstOwner⟩ := entry
      obtain ⟨added, hdistinct, hentries, hmem⟩ :=
        ih (registry.addNew category first firstOwner)
      simp only [find?_addNew, Option.or_eq_none_iff, true_and] at hmem
      have hstep : registry.addAll category ((first, firstOwner) :: rest) =
          (registry.addNew category first firstOwner).addAll category rest := rfl
      by_cases hfirst : registry.find? category first = none
      · refine ⟨(first, firstOwner) :: added, List.nodup_cons.2 ⟨?_, hdistinct⟩, ?_, ?_⟩
        · -- The first symbol is not added again.
          intro hkey
          obtain ⟨⟨_, owner⟩, hentry, rfl⟩ := List.mem_map.1 hkey
          have hnew := ((hmem _ owner).1 hentry).1.2
          simp at hnew
        · rw [hstep, hentries, addNew, if_pos hfirst]
          simp [add]
        · intro name owner
          rw [List.mem_cons, hmem, Table.get?]
          by_cases hname : first = name
          · subst hname
            simp [hfirst, eq_comm]
          · simp [hname, Ne.symm hname]
      · refine ⟨added, hdistinct, ?_, fun name owner => ?_⟩
        · rw [hstep, hentries, addNew, if_neg hfirst]
        · rw [hmem, Table.get?]
          by_cases hname : first = name
          · subst hname
            simp [hfirst]
          · simp [hname]

/-- Symbols of one category that are appended come to the end of its table, and the tables of the
other categories stay. -/
theorem Registry.ofCategory_appended {registry after : Registry} {added : Category}
    {entries : Table String String}
    (h : after.entries = registry.entries ++ entries.map fun entry => ⟨added, entry.1, entry.2⟩)
    (category : Category) :
    after.ofCategory category =
      registry.ofCategory category ++ if category = added then entries else [] := by
  unfold ofCategory
  rw [h, List.filter_append, List.map_append, List.filter_map, List.map_map]
  congr 1
  by_cases hcategory : category = added
  · subst hcategory
    simp [Function.comp_def]
  · simp [Function.comp_def, hcategory, Ne.symm hcategory]

/-- The table of a category gives the owners of its symbols. -/
theorem Registry.get?_ofCategory (registry : Registry) (category : Category) (name : String) :
    Table.get? (registry.ofCategory category) name = registry.find? category name := by
  obtain ⟨entries⟩ := registry
  induction entries with
  | nil => rfl
  | cons entry rest ih =>
      simp only [ofCategory, find?] at ih ⊢
      by_cases hcategory : entry.category = category
      · by_cases hname : entry.name = name
        · simp [hcategory, hname, Table.get?]
        · simpa [hcategory, hname, Table.get?] using ih
      · simpa [hcategory] using ih

/-! ## Names along the inheritance -/

/-- Along an edge of the inheritance, which is a class with its parent, a variable of the parent
that has an owner is known in the class by the name. -/
def Registry.InheritsAs (registry : Registry) (edge : String × String) (name owner : String) :
    Prop :=
  ∃ short, registry.find? .classVariable (edge.2 ++ "::" ++ short) = some owner ∧
    normalizeName (edge.1 ++ "::" ++ short) = name

/-- The first edge along which a variable is inherited under the name gives the owner. -/
def Registry.FirstInheritsAs (registry : Registry) (edges : Table String String)
    (name owner : String) : Prop :=
  ∃ front edge back, edges = front ++ edge :: back ∧ registry.InheritsAs edge name owner ∧
    ∀ earlier ∈ front, ∀ other, ¬ registry.InheritsAs earlier name other

namespace Context

/-- The names that one class inherits, with their owners. -/
theorem get?_aliasesOfEdge_eq_some_iff {owned : Table String String}
    {child parent name owner : String} :
    Table.get? (aliasesOfEdge owned child parent) name = some owner ↔
      ∃ short, Table.get? owned (parent ++ "::" ++ short) = some owner ∧
        aliasName child short = name := by
  induction owned with
  | nil => simp [aliasesOfEdge, Table.get?]
  | cons entry rest ih =>
      obtain ⟨variableName, first⟩ := entry
      simp only [aliasesOfEdge, List.filterMap_cons] at ih ⊢
      cases hname : inheritedName? parent variableName with
      | none =>
          -- The variable is not one of the parent.
          have hne (short : String) : variableName ≠ parent ++ "::" ++ short := by
            intro heq
            rw [inheritedName?_eq_some.2 heq] at hname
            cases hname
          simpa [Table.get?, hne] using ih
      | some own =>
          obtain rfl := inheritedName?_eq_some.1 hname
          have hsame (short : String) :
              parent ++ "::" ++ own = parent ++ "::" ++ short ↔ own = short :=
            String.append_right_inj _
          simp only [Option.map_some, Table.get?, hsame]
          by_cases halias : aliasName child own = name
          · rw [if_pos halias]
            constructor
            · intro howner
              exact ⟨own, by simpa using howner, halias⟩
            · intro hgiven
              obtain ⟨short, howner, hshort⟩ := hgiven
              obtain rfl := aliasName_injective child (halias.trans hshort.symm)
              simpa using howner
          · rw [if_neg halias]
            refine ih.trans (exists_congr fun short => and_congr_left fun hshort => ?_)
            have hother : own ≠ short := fun heq => halias (heq ▸ hshort)
            rw [if_neg hother]

/-- Along one edge, the registry gives the inherited names their owners. -/
theorem get?_aliasesOfEdge_iff_inheritsAs {registry : Registry} {edge : String × String}
    {name owner : String} :
    Table.get? (aliasesOfEdge (registry.ofCategory .classVariable) edge.1 edge.2) name =
      some owner ↔ registry.InheritsAs edge name owner := by
  simp only [get?_aliasesOfEdge_eq_some_iff, Registry.get?_ofCategory]
  rfl

/-- Of all edges, the first one that gives a name decides about its owner. -/
theorem get?_aliasesOf_iff_firstInheritsAs {registry : Registry} {edges : Table String String}
    {name owner : String} :
    Table.get? (aliasesOf (registry.ofCategory .classVariable) edges) name = some owner ↔
      registry.FirstInheritsAs edges name owner := by
  have hfind : Table.get? (aliasesOf (registry.ofCategory .classVariable) edges) name =
      edges.findSome? fun edge =>
        Table.get? (aliasesOfEdge (registry.ofCategory .classVariable) edge.1 edge.2) name := by
    induction edges with
    | nil => rfl
    | cons edge rest ih =>
        simp only [aliasesOf, List.flatMap_cons] at ih ⊢
        rw [Table.get?_append, ih, List.findSome?_cons]
        cases Table.get? (aliasesOfEdge (registry.ofCategory .classVariable) edge.1 edge.2) name <;>
          rfl
  rw [hfind, List.findSome?_eq_some_iff]
  simp only [get?_aliasesOfEdge_iff_inheritsAs, Option.eq_none_iff_forall_not_mem, Option.mem_def]
  rfl

/-! ## The effect of a pass -/

/-- A definition that succeeds adds one symbol. -/
theorem size_attempt (context : Context) (attempt : Attempt) :
    (context.attempt attempt).2.registry.size =
      context.registry.size + if (context.attempt attempt).1 then 1 else 0 := by
  unfold Registry.size
  rw [attempt_entries]
  cases (context.attempt attempt).1 <;> simp

/-- Naming the variables of one parent class counts the symbols that it adds. -/
theorem count_aliasVariables (child parent : String) (owned : List (String × String)) (count : Nat)
    (context : Context) :
    (aliasVariables child parent owned (count, context)).1 + context.registry.size =
      count + (aliasVariables child parent owned (count, context)).2.registry.size := by
  induction owned generalizing count context with
  | nil => rfl
  | cons entry rest ih =>
      obtain ⟨variableName, owner⟩ := entry
      cases hname : inheritedName? parent variableName with
      | none =>
          simp only [aliasVariables, hname]
          exact ih count context
      | some name =>
          have hsize := context.size_attempt ⟨.classVariable, child ++ "::" ++ name, owner, true⟩
          dsimp only [Context.attempt] at hsize
          simp only [aliasVariables, hname]
          cases hadded : (context.define .classVariable (child ++ "::" ++ name) owner true).1 with
          | true =>
              have hrest := ih (count + 1)
                (context.define .classVariable (child ++ "::" ++ name) owner true).2
              simp only [hadded, if_true] at hsize ⊢
              omega
          | false =>
              have hrest := ih count
                (context.define .classVariable (child ++ "::" ++ name) owner true).2
              simp only [hadded, Bool.false_eq_true, if_false] at hsize ⊢
              omega

/-- A pass counts the symbols that it adds. -/
theorem count_aliasInherited (context : Context) :
    context.aliasInherited.1 + context.registry.size =
      context.aliasInherited.2.registry.size := by
  have hedges (owned : List (String × String)) (edges : Table String String) (count : Nat)
      (context : Context) :
      (aliasEdges owned edges (count, context)).1 + context.registry.size =
        count + (aliasEdges owned edges (count, context)).2.registry.size := by
    induction edges generalizing count context with
    | nil => rfl
    | cons edge rest ih =>
        have hfirst := count_aliasVariables edge.1 edge.2 owned count context
        have hrest := ih (aliasVariables edge.1 edge.2 owned (count, context)).1
          (aliasVariables edge.1 edge.2 owned (count, context)).2
        simp only [Prod.mk.eta] at hrest
        simp only [aliasEdges]
        omega
  have hpass := hedges (context.registry.ofCategory .classVariable) context.inherits 0 context
  rwa [Nat.zero_add] at hpass

/-- What no definition changes, no pass changes. -/
theorem aliasInherited_keeps {α : Type} {part : Context → α}
    (hdefine : ∀ (context : Context) (name source : String),
      part (context.define .classVariable name source true).2 = part context)
    (context : Context) : part context.aliasInherited.2 = part context := by
  have hvariables (child parent : String) (owned : List (String × String))
      (state : Nat × Context) :
      part (aliasVariables child parent owned state).2 = part state.2 := by
    induction owned generalizing state with
    | nil => rfl
    | cons entry rest ih =>
        simp only [aliasVariables]
        split
        · exact ih _
        · exact (ih _).trans (hdefine _ _ _)
  have hedges (owned : List (String × String)) (edges : Table String String)
      (state : Nat × Context) : part (aliasEdges owned edges state).2 = part state.2 := by
    induction edges generalizing state with
    | nil => rfl
    | cons edge rest ih => exact (ih _).trans (hvariables _ _ _ _)
  exact hedges _ _ (0, context)

/-- A definition adds no builtin symbols. -/
theorem define_builtinsLoaded (context : Context) (category : Category) (name source : String)
    (allowRepeated : Bool) :
    (context.define category name source allowRepeated).2.builtinsLoaded =
      context.builtinsLoaded := by
  unfold define
  dsimp only
  split
  · rfl
  · split <;> rfl

/-- Some variables are added at the end of the registry, and nothing else changes but the
journal. -/
structure OnlyVariablesAdded (added : Table String String) (before after : Context) : Prop where
  /-- Every symbol keeps its owner and its position, and the variables follow. -/
  symbols : ∀ category, after.registry.ofCategory category =
    before.registry.ofCategory category ++ if category = .classVariable then added else []
  /-- The same warnings are known. -/
  known : after.diagnostics.known = before.diagnostics.known
  /-- No warning is evaluated. -/
  found : after.diagnostics.found = before.diagnostics.found
  /-- Nothing surfaces. -/
  messages : after.diagnostics.messages = before.diagnostics.messages
  /-- The flag stays. -/
  warned : after.diagnostics.warned = before.diagnostics.warned
  /-- The same classes inherit, in the same order. -/
  inherits : after.inherits = before.inherits
  /-- No kind is met. -/
  unhandledKinds : after.unhandledKinds = before.unhandledKinds
  /-- Whether builtin symbols were added stays. -/
  builtinsLoaded : after.builtinsLoaded = before.builtinsLoaded

/-- A pass adds the names that are inherited and that nothing owned. -/
theorem exists_added_aliasInherited (context : Context) :
    ∃ added : Table String String, added.Distinct ∧
      (∀ name owner, (name, owner) ∈ added ↔
        context.registry.find? .classVariable name = none ∧
          context.registry.FirstInheritsAs context.inherits name owner) ∧
      context.aliasInherited.1 = added.length ∧
      OnlyVariablesAdded added context context.aliasInherited.2 := by
  obtain ⟨added, hdistinct, hentries, hmem⟩ := context.registry.exists_added .classVariable
    (aliasesOf (context.registry.ofCategory .classVariable) context.inherits)
  rw [← aliasInherited_registry] at hentries
  have hheard := hears_aliasInherited context
  have hcount : context.aliasInherited.1 = added.length := by
    have hsize := count_aliasInherited context
    simp only [Registry.size, hentries, List.length_append, List.length_map] at hsize
    omega
  refine ⟨added, hdistinct, fun name owner => ?_, hcount, ?_⟩
  · rw [hmem, get?_aliasesOf_iff_firstInheritsAs]
  · exact {
      symbols := Registry.ofCategory_appended hentries
      known := hheard.known
      found := hheard.found
      messages := hheard.messages.trans (List.append_nil _)
      warned := hheard.warned.trans (Bool.or_false _)
      inherits := aliasInherited_keeps (fun c _ _ => c.define_inherits _ _ _ _) context
      unhandledKinds :=
        aliasInherited_keeps (fun c _ _ => c.define_unhandledKinds _ _ _ _) context
      builtinsLoaded :=
        aliasInherited_keeps (fun c _ _ => c.define_builtinsLoaded _ _ _ _) context }

/-- The owners after a pass follow from the owners before. -/
theorem owners_aliasInherited_congr {context other : Context}
    (hinherits : other.inherits = context.inherits)
    (howners : ∀ name, other.registry.find? .classVariable name =
      context.registry.find? .classVariable name) (name : String) :
    other.aliasInherited.2.registry.find? .classVariable name =
      context.aliasInherited.2.registry.find? .classVariable name := by
  have hfirst (owner : String) :
      Table.get? (aliasesOf (other.registry.ofCategory .classVariable) other.inherits) name =
        some owner ↔
      Table.get? (aliasesOf (context.registry.ofCategory .classVariable) context.inherits) name =
        some owner := by
    simp only [get?_aliasesOf_iff_firstInheritsAs, Registry.FirstInheritsAs,
      Registry.InheritsAs, howners, hinherits]
  rw [find?_aliasInherited, find?_aliasInherited, howners, Option.ext hfirst]

end Context

/-- A name is inherited first along some edge if it is inherited along any. -/
theorem Registry.exists_firstInheritsAs_iff {registry : Registry} {edges : Table String String}
    {name : String} :
    (∃ owner, registry.FirstInheritsAs edges name owner) ↔
      ∃ edge ∈ edges, ∃ owner, registry.InheritsAs edge name owner := by
  constructor
  · intro hgiven
    obtain ⟨owner, front, edge, back, rfl, hinherits, -⟩ := hgiven
    exact ⟨edge, by simp, owner, hinherits⟩
  · intro hgiven
    induction edges with
    | nil => simp at hgiven
    | cons first rest ih =>
        by_cases hfirst : ∃ owner, registry.InheritsAs first name owner
        · obtain ⟨owner, hinherits⟩ := hfirst
          exact ⟨owner, [], first, rest, rfl, hinherits, by simp⟩
        · rw [List.exists_mem_cons_iff] at hgiven
          obtain ⟨owner, front, edge, back, rfl, hinherits, hnone⟩ :=
            ih (hgiven.resolve_left hfirst)
          refine ⟨owner, first :: front, edge, back, rfl, hinherits, ?_⟩
          exact List.forall_mem_cons.2 ⟨fun other hother => hfirst ⟨other, hother⟩, hnone⟩

/-- Naming the inherited variables adds exactly the names that some class inherits and that nothing
owned, at the end of the table, with the owner that the first such edge gives, and counts them. No
other symbol, no diagnostics, no inheritance and no module changes, and the order of the variables
makes no difference. -/
theorem aliasInherited_adds_exactly (state : RunState) :
    let registry := state.context.registry
    let outcome := Operation.aliasInherited.apply state
    ∃ added : Table String String, added.Distinct ∧
      Context.OnlyVariablesAdded added state.context outcome.2.context ∧
      (∀ name, name ∈ added.keys ↔ registry.find? .classVariable name = none ∧
        ∃ edge ∈ state.context.inherits, ∃ owner, registry.InheritsAs edge name owner) ∧
      (∀ name owner, (name, owner) ∈ added ↔ registry.find? .classVariable name = none ∧
        registry.FirstInheritsAs state.context.inherits name owner) ∧
      outcome.1 = .count added.length ∧
      outcome.2.modules = state.modules ∧ outcome.2.resolver = state.resolver ∧
      ∀ other : RunState, other.context.inherits = state.context.inherits →
        (∀ name, other.context.registry.find? .classVariable name =
          registry.find? .classVariable name) →
        (Operation.aliasInherited.apply other).1 = outcome.1 ∧
          ∀ name, (Operation.aliasInherited.apply other).2.context.registry.find?
            .classVariable name = outcome.2.context.registry.find? .classVariable name := by
  intro registry outcome
  obtain ⟨added, hdistinct, hmem, hcount, hadded⟩ := state.context.exists_added_aliasInherited
  refine ⟨added, hdistinct, hadded, fun name => ?_, hmem, congrArg Answer.count hcount, rfl, rfl,
    fun other hinherits howners => ⟨?_, ?_⟩⟩
  · rw [← Registry.exists_firstInheritsAs_iff, ← exists_and_left]
    simp only [Table.keys, List.mem_map, Prod.exists, exists_and_right, exists_eq_right, hmem]
    rfl
  · -- The same names are added, so there are as many.
    obtain ⟨added', hdistinct', hmem', hcount', -⟩ := other.context.exists_added_aliasInherited
    have hperm : added'.Perm added := by
      refine (List.perm_ext_iff_of_nodup hdistinct'.of_map hdistinct.of_map).2 fun entry => ?_
      rw [hmem', hmem]
      simp only [Registry.FirstInheritsAs, Registry.InheritsAs, howners, hinherits]
      rfl
    exact congrArg Answer.count ((hcount'.trans hperm.length_eq).trans hcount.symm)
  · exact Context.owners_aliasInherited_congr hinherits howners

/-- A class and a class within it inherit variables under one name, of which the first edge decides
about the owner; another inherited name has an owner. -/
theorem aliasInherited_nested_class :
    let inherits := [("app", "base"), ("app::web", "site")]
    let entries : List Definition := [⟨.classVariable, "base::web::port", "base"⟩,
      ⟨.classVariable, "site::port", "site"⟩, ⟨.classVariable, "site::user", "site"⟩,
      ⟨.classVariable, "app::web::user", "app"⟩]
    let state : RunState := { context := { registry := ⟨entries⟩, inherits } }
    let turned : RunState := { context := { registry := ⟨entries.reverse⟩, inherits } }
    let outcome := Operation.aliasInherited.apply state
    outcome.1 = .count 1 ∧
      outcome.2.context.registry.entries =
        entries ++ [⟨.classVariable, "app::web::port", "base"⟩] ∧
      (Operation.aliasInherited.apply turned).1 = .count 1 ∧
      (Operation.aliasInherited.apply turned).2.context.registry.find? .classVariable
        "app::web::port" = some "base" := by
  intro inherits entries state turned outcome
  have howners (name : String) : turned.context.registry.find? .classVariable name =
      state.context.registry.find? .classVariable name := by
    have hturned : turned.context.registry.Distinct := by
      unfold Registry.Distinct
      decide
    have hstate : state.context.registry.Distinct := by
      unfold Registry.Distinct
      decide
    refine Option.ext fun owner => ?_
    rw [hturned.find?_eq_some, hstate.find?_eq_some]
    exact List.mem_reverse
  obtain ⟨-, -, -, -, -, -, -, -, hsame⟩ := aliasInherited_adds_exactly state
  obtain ⟨hcount, hafter⟩ := hsame turned rfl howners
  have hone : state.context.aliasInherited.1 = 1 := by decide +kernel
  have houtcome : outcome.1 = .count 1 := congrArg Answer.count hone
  have hadded : outcome.2.context.registry.entries =
      entries ++ [⟨.classVariable, "app::web::port", "base"⟩] := by decide +kernel
  have howner : outcome.2.context.registry.find? .classVariable "app::web::port" = some "base" := by
    decide +kernel
  exact ⟨houtcome, hadded, hcount.trans houtcome, (hafter "app::web::port").trans howner⟩

end ModuleGraph
