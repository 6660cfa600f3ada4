import ModuleGraph.Proofs.Meetings
import ModuleGraph.Proofs.StatedFacts

/-!
# The parent and the owner of a class

A class definition defines its class and, if it names a parent, says what the class inherits from.
The registry keeps the first module that defines a class, but every class definition puts its parent
in the place of the one before. So the two may come from different modules.

`parent_is_the_last_named` says what is known of a class after files of any modules were walked
through in any order: it is owned by the module of the first walk that defines it, and its parent is
the one that was named last, whichever module did so. The parent is named by the owner if no other
module names one.
-/

namespace ModuleGraph

/-! ## What a class definition says -/

/-- The node is a definition of the class that names the parent. -/
def Node.DeclaresParent (node : Node) (child parent : String) : Prop :=
  node.kind = .str "HostClassDefinition" ∧ node.definedName = child ∧
    (node.field "parent_class").isTruthy = true ∧
    symbolName (node.field "parent_class").display = parent

namespace Reading

variable {first second : Reading}

/-- The parents that a reading names belong to classes that it defines. -/
def ParentsDefined (declares : String → String → Prop) (reading : Reading) : Prop :=
  ∀ child parent, .inherit child parent ∈ reading.facts →
    declares child parent ∧ .define .hostClass child false ∈ reading.facts

/-- One reading after another defines the classes whose parents both of them name. -/
theorem ParentsDefined.append {declares : String → String → Prop}
    (hfirst : ParentsDefined declares first) (hsecond : ParentsDefined declares second) :
    ParentsDefined declares (first ++ second) := by
  intro child parent hitem
  cases hfailure : first.failure with
  | none =>
      rw [facts_append hfailure, List.mem_append] at hitem ⊢
      rcases hitem with hitem | hitem
      · exact ⟨(hfirst child parent hitem).1, .inl (hfirst child parent hitem).2⟩
      · exact ⟨(hsecond child parent hitem).1, .inr (hsecond child parent hitem).2⟩
  | some failure =>
      rw [append_of_failure hfailure] at hitem ⊢
      exact hfirst child parent hitem

end Reading

namespace Node

/-- A node names a parent only as a class definition. -/
theorem within_declaresParent (file : SourceFile) (ancestors : List Node) (claimed : Bool)
    (node : Node) :
    (node.ownReading file ancestors claimed).Within fun item =>
      ∀ child parent, item = .inherit child parent → node.DeclaresParent child parent := by
  have hminor (item : Fact) (hitem : item.isMinor = true) (child parent : String)
      (heq : item = .inherit child parent) : node.DeclaresParent child parent := by
    subst heq
    cases hitem
  refine within_ownReading_of_minor hminor fun kind hkind => ?_
  by_cases hdefining : kind ∈ Reading.definingKinds
  · simp only [Reading.definingKinds, List.mem_cons, List.not_mem_nil, or_false] at hdefining
    rcases hdefining with rfl | rfl | rfl | rfl | rfl
    · refine Reading.within_hostClass_of_minor hminor ?_ ?_ ?_ file
      · exact fun _ _ heq => Fact.noConfusion heq
      · exact fun _ _ _ _ _ _ _ heq => Fact.noConfusion heq
      · intro htruthy child parent heq
        cases heq
        exact ⟨hkind, rfl, htruthy, rfl⟩
    · exact Reading.within_fact.2 fun _ _ heq => Fact.noConfusion heq
    · exact Reading.within_fact.2 fun _ _ heq => Fact.noConfusion heq
    · exact Reading.within_fact.2 fun _ _ heq => Fact.noConfusion heq
    · exact Reading.within_assignment (fun _ _ _ _ _ _ _ _ _ heq => Fact.noConfusion heq) file
  · exact Reading.within_ofKind_of_minor hminor hdefining _ _ _ _

/-- A class definition defines its class, also where reading it fails. -/
theorem define_mem_ownReading (file : SourceFile) (ancestors : List Node) (claimed : Bool)
    {node : Node} (hkind : node.kind = .str "HostClassDefinition") :
    .define .hostClass node.definedName false ∈ (node.ownReading file ancestors claimed).facts := by
  unfold ownReading
  rw [hkind, Reading.facts_append rfl]
  refine List.mem_append_right _ ?_
  show _ ∈ (Reading.hostClass file node).facts
  unfold Reading.hostClass
  exact Reading.mem_facts_append_left (Reading.mem_facts_append_left (List.mem_singleton.2 rfl))

/-- The parents that a tree names are those of class definitions in it, and these define their
classes. -/
theorem parentsDefined_reading (file : SourceFile) (root : Node) :
    (root.reading file [] []).ParentsDefined fun child parent =>
      ∃ place ∈ root.places [], place.node.DeclaresParent child parent := by
  refine reading_induction ?_ Reading.ParentsDefined.append [] (fun place hplace claimed => ?_) []
  · intro child parent hitem
    cases hitem
  · intro child parent hitem
    have hdeclares := within_declaresParent _ _ _ _ _ hitem child parent rfl
    have hdefined := define_mem_ownReading file (place.above.map Prod.fst) claimed hdeclares.1
    rw [hdeclares.2.1] at hdefined
    exact ⟨⟨place, hplace, hdeclares⟩, hdefined⟩

/-- A tree that can be read names the parents of all class definitions in it. -/
theorem inherit_mem_reading {file : SourceFile} {root : Node}
    (hroot : (root.reading file [] []).failure = none) {place : Place}
    (hplace : place ∈ root.places []) {child parent : String}
    (h : place.node.DeclaresParent child parent) :
    .inherit child parent ∈ (root.reading file [] []).facts := by
  obtain ⟨claimed, hfailure, hfacts⟩ := exists_ownReading [] [] hroot hplace
  obtain ⟨hkind, rfl, htruthy, rfl⟩ := h
  refine hfacts _ ?_
  have hstates : (place.node.ownReading file place.ancestors claimed).States
      (.inherit place.node.definedName
        (symbolName (place.node.field "parent_class").display)) := by
    unfold ownReading
    rw [hkind]
    refine Reading.States.append_right ?_
    show (Reading.hostClass file place.node).States _
    unfold Reading.hostClass
    refine Reading.States.append_right ?_
    rw [if_pos htruthy]
    exact Reading.states_fact.append_right
  exact hstates hfailure

end Node

/-! ## Walks -/

/-- A walk through a file of a module. -/
structure Walk where
  /-- The name of the module. -/
  owner : String
  /-- What the module refers to before the walk. -/
  references : Dependencies := []
  /-- The file. -/
  file : SourceFile
  /-- The tree of the file. -/
  root : Node

namespace Walk

/-- The context after a walk. -/
def enter (context : Context) (walk : Walk) : Context :=
  (readSource walk.owner walk.file walk.root (context, walk.references)).2.1

/-- What a walk says, up to the place where it fails, if it does. -/
def facts (walk : Walk) : List Fact :=
  let reading := walk.root.reading walk.file [] []
  .note ("Parsing " ++ walk.file.name) :: reading.facts ++
    match reading.failure with
    | some _ => []
    | none => reading.pending.map fun name => .warn (unresolvedMessage walk.file name)

/-- The walk comes to its end. -/
def Completes (walk : Walk) : Prop :=
  (walk.root.reading walk.file [] []).failure = none

/-- The parent that the walk gives to a class: the last one that it meets. -/
def parent? (walk : Walk) (child : String) : Option String :=
  Fact.parentIn walk.facts child

/-- The walk meets a definition of the class. -/
def Defines (walk : Walk) (name : String) : Prop :=
  (.hostClass, normalizeName name) ∈ walk.facts.filterMap Fact.symbol?

instance (walk : Walk) (name : String) : Decidable (walk.Defines name) :=
  inferInstanceAs (Decidable (_ ∈ _))

/-- There is a definition of the class in the file that names the parent. -/
def Declares (walk : Walk) (child parent : String) : Prop :=
  ∃ place ∈ walk.root.places [], place.node.DeclaresParent child parent

/-- A walk records what it says, also where it fails. -/
theorem enter_eq (context : Context) (walk : Walk) :
    walk.enter context = (Fact.recordAll walk.owner (context, walk.references) walk.facts).1 := by
  unfold enter readSource facts
  dsimp only
  cases (walk.root.reading walk.file [] []).failure with
  | none =>
      unfold Fact.recordAll
      rw [List.foldl_append]
  | some failure => rw [List.append_nil]

/-- After a walk, a class has the parent that the walk gives to it, or else the one it had. -/
theorem get?_inherits_enter (walk : Walk) (context : Context) (child : String) :
    (walk.enter context).inherits.get? child =
      (walk.parent? child).or (context.inherits.get? child) := by
  rw [enter_eq, Fact.get?_recordAll_inherits]
  rfl

/-- After a walk, a class has the owner that it had, or else the module whose walk defines it. -/
theorem owner?_enter (walk : Walk) (context : Context) (name : String) :
    (walk.enter context).registry.owner? .hostClass name =
      (context.registry.owner? .hostClass name).or
        (if walk.Defines name then some walk.owner else none) := by
  unfold Registry.owner?
  rw [enter_eq, Fact.find?_recordAll]
  rfl

/-- What a walk says about a parent, its tree states. -/
theorem inherit_mem_facts_iff {walk : Walk} {child parent : String} :
    (child, parent) ∈ walk.facts.filterMap Fact.edge? ↔
      .inherit child parent ∈ (walk.root.reading walk.file [] []).facts := by
  have hedge {item : Fact} : item.edge? = some (child, parent) ↔ item = .inherit child parent := by
    cases item with
    | inherit => simp [Fact.edge?]
    | note | define | refer | unhandled | warn | report => simp [Fact.edge?]
  simp only [List.mem_filterMap, hedge, exists_eq_right, facts, List.mem_cons, List.cons_append,
    List.mem_append, reduceCtorEq, false_or, or_iff_left_iff_imp]
  split
  · exact List.not_mem_nil.elim
  · simp

/-- A parent that a walk gives to a class is named by a definition of the class in the file, and the
walk defines the class. -/
theorem declares_of_parent? {walk : Walk} {child parent : String}
    (h : walk.parent? child = some parent) : walk.Declares child parent ∧ walk.Defines child := by
  have hedge : (child, parent) ∈ walk.facts.filterMap Fact.edge? :=
    List.mem_reverse.1 (Table.mem_of_get? h)
  obtain ⟨hdeclares, hdefined⟩ :=
    Node.parentsDefined_reading walk.file walk.root child parent (inherit_mem_facts_iff.1 hedge)
  refine ⟨hdeclares, List.mem_filterMap.2 ⟨.define .hostClass child false, ?_, rfl⟩⟩
  exact List.mem_append_left _ (List.mem_cons_of_mem _ hdefined)

/-- A walk that comes to its end gives a parent to the classes for which the file names one. -/
theorem exists_parent?_iff {walk : Walk} (h : walk.Completes) {child : String} :
    (∃ parent, walk.parent? child = some parent) ↔ ∃ parent, walk.Declares child parent := by
  constructor
  · intro hgiven
    obtain ⟨parent, hparent⟩ := hgiven
    exact ⟨parent, (declares_of_parent? hparent).1⟩
  · intro hgiven
    obtain ⟨parent, place, hplace, hdeclares⟩ := hgiven
    refine Fact.exists_parentIn_iff.2 ⟨parent, inherit_mem_facts_iff.2 ?_⟩
    exact Node.inherit_mem_reading h hplace hdeclares

/-! ## One walk after another -/

/-- The context after walks in order. -/
def enterAll (walks : List Walk) (context : Context) : Context :=
  walks.foldl enter context

/-- A class has the parent that was named last, or else the one that it had. -/
theorem get?_inherits_enterAll (walks : List Walk) (context : Context) (child : String) :
    (enterAll walks context).inherits.get? child =
      (walks.reverse.findSome? fun walk => walk.parent? child).or
        (context.inherits.get? child) := by
  induction walks generalizing context with
  | nil => rfl
  | cons walk rest ih =>
      have hrest := ih (walk.enter context)
      simp only [enterAll, List.foldl_cons] at hrest ⊢
      rw [hrest, get?_inherits_enter, List.reverse_cons, List.findSome?_append, Option.or_assoc]
      cases hparent : walk.parent? child <;> simp [hparent]

/-- A class has the owner that it had, or else the module of the first walk that defines it. -/
theorem owner?_enterAll (walks : List Walk) (context : Context) (name : String) :
    (enterAll walks context).registry.owner? .hostClass name =
      (context.registry.owner? .hostClass name).or
        ((walks.find? fun walk => walk.Defines name).map Walk.owner) := by
  induction walks generalizing context with
  | nil => exact (Option.or_none).symm
  | cons walk rest ih =>
      have hrest := ih (walk.enter context)
      simp only [enterAll, List.foldl_cons] at hrest ⊢
      rw [hrest, owner?_enter, Option.or_assoc, List.find?_cons]
      by_cases hdefines : walk.Defines name <;> simp [hdefines]

end Walk

/-- The parent of a class is the one that was named last, and its owner is the module that defined
it first. Files of any modules are walked through in order, from a context in which the class is not
known; a walk may fail half-way, and then counts as far as it came. A class that has a parent has an
owner, and some walk through a file with a definition that names this parent. Where only the owner
names parents, this is a walk of the owner. A later walk leaves the parent as it is if it names
none, or names the same one last, whichever module it belongs to. -/
theorem parent_is_the_last_named {context : Context} {child : String}
    (hinherits : context.inherits.get? child = none)
    (howner : context.registry.owner? .hostClass child = none) (walks : List Walk) :
    let after := Walk.enterAll walks context
    after.inherits.get? child = (walks.reverse.findSome? fun walk => walk.parent? child) ∧
    after.registry.owner? .hostClass child =
      (walks.find? fun walk => walk.Defines child).map Walk.owner ∧
    (∀ walk : Walk, walk.Completes →
      ((∃ parent, walk.parent? child = some parent) ↔ ∃ parent, walk.Declares child parent)) ∧
    (∀ parent, after.inherits.get? child = some parent →
      (∃ owner, after.registry.owner? .hostClass child = some owner) ∧
      (∃ walk ∈ walks, walk.Declares child parent) ∧
      ((∀ walk ∈ walks, walk.parent? child ≠ none →
          after.registry.owner? .hostClass child = some walk.owner) →
        ∃ walk ∈ walks, after.registry.owner? .hostClass child = some walk.owner ∧
          walk.Declares child parent)) ∧
    ∀ walk : Walk, (walk.enter after).inherits.get? child = after.inherits.get? child ↔
      walk.parent? child = none ∨ walk.parent? child = after.inherits.get? child := by
  intro after
  have hparent : after.inherits.get? child =
      walks.reverse.findSome? fun walk => walk.parent? child := by
    rw [Walk.get?_inherits_enterAll, hinherits, Option.or_none]
  have hfirst : after.registry.owner? .hostClass child =
      (walks.find? fun walk => walk.Defines child).map Walk.owner := by
    rw [Walk.owner?_enterAll, howner, Option.none_or]
  refine ⟨hparent, hfirst, fun walk hcompletes => Walk.exists_parent?_iff hcompletes, ?_, ?_⟩
  · intro parent hgiven
    rw [hparent] at hgiven
    obtain ⟨last, hlast, hnamed⟩ := List.exists_of_findSome?_eq_some hgiven
    have hmem := List.mem_reverse.1 hlast
    obtain ⟨hdeclares, hdefines⟩ := Walk.declares_of_parent? hnamed
    refine ⟨?_, ⟨last, hmem, hdeclares⟩, fun honly => ⟨last, hmem, ?_, hdeclares⟩⟩
    · rw [hfirst, ← Option.isSome_iff_exists, Option.isSome_map, List.find?_isSome]
      exact ⟨last, hmem, decide_eq_true hdefines⟩
    · refine honly last hmem ?_
      rw [hnamed]
      exact Option.some_ne_none parent
  · intro walk
    rw [Walk.get?_inherits_enter]
    cases walk.parent? child with
    | none => simp
    | some parent => simp

/-- The tree of a file with one class, which names its parent. -/
def childTree (child parent : String) : Node :=
  .mk (.str "HostClassDefinition") [("name", .scalar (.str child)),
    ("parent_class", .scalar (.str parent))] 0 0

/-- A module that is walked through later takes the class of another one away from its parent. -/
theorem parent_from_later_module :
    let web : Walk :=
      { owner := "web", file := ⟨"web/init.pp", .null⟩, root := childTree "app" "base" }
    let site : Walk :=
      { owner := "site", file := ⟨"site/app.pp", .null⟩, root := childTree "app" "core" }
    let after := Walk.enterAll [web, site] {}
    after.inherits.get? "app" = some "core" ∧
      after.registry.owner? .hostClass "app" = some "web" ∧
      ¬ ∃ walk ∈ [web, site], walk.owner = "web" ∧ walk.Declares "app" "core" := by
  intro web site after
  have hparentless : ({} : Context).inherits.get? "app" = none := rfl
  have hunowned : ({} : Context).registry.owner? .hostClass "app" = none := rfl
  obtain ⟨hparent, howner, -, -, -⟩ :=
    parent_is_the_last_named hparentless hunowned [web, site]
  refine ⟨hparent.trans (by decide +kernel), howner.trans (by decide +kernel), ?_⟩
  intro hgiven
  obtain ⟨walk, hwalk, hweb, hdeclares⟩ := hgiven
  rcases List.mem_pair.1 hwalk with rfl | rfl
  · have hcompletes : web.Completes := by
      unfold Walk.Completes
      decide +kernel
    obtain ⟨place, hplace, hplaced⟩ := hdeclares
    have hedge : ("app", "core") ∈ web.facts.filterMap Fact.edge? :=
      Walk.inherit_mem_facts_iff.2 (Node.inherit_mem_reading hcompletes hplace hplaced)
    revert hedge
    decide +kernel
  · exact absurd hweb (by decide)

end ModuleGraph
