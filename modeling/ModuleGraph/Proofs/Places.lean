import ModuleGraph.Reading.Tree
import ModuleGraph.Proofs.Readings

/-!
# Places in a tree

`Node.preorder` lists the nodes of a tree, each before its children. A `Place` is a node of a tree
together with its ancestors and the way down from each of them; `Node.places` lists the places in
the same order (`map_node_places`).

Reading a tree goes through the fields of a node and the items of its lists.
`Node.reading_eq_join` brings it into the form of a loop over the children, each of which sees the
claims that lead through the step to it.
-/

namespace ModuleGraph

/-! ## Children and the steps to them -/

/-- The nodes in a list of values with the steps to them, counted from the given position. -/
def Value.itemSteps (name : String) (index : Nat) : List Value → List (Step × Node)
  | [] => []
  | .node child :: rest => (⟨name, some index⟩, child) :: itemSteps name (index + 1) rest
  | _ :: rest => itemSteps name (index + 1) rest

/-- The nodes in a field with the steps to them. -/
def Value.steps (name : String) : Value → List (Step × Node)
  | .scalar _ => []
  | .node child => [(⟨name, none⟩, child)]
  | .list items => itemSteps name 0 items

/-- The children of a node with the steps to them. -/
def Node.steps (node : Node) : List (Step × Node) :=
  node.fields.flatMap fun field => field.2.steps field.1

/-- The nodes in a list of values are found by steps. -/
theorem Value.map_snd_itemSteps (name : String) (index : Nat) (items : List Value) :
    (itemSteps name index items).map Prod.snd = nodesOf items := by
  induction items generalizing index with
  | nil => rfl
  | cons item rest ih =>
      cases item with
      | node child => simpa [itemSteps, nodesOf, node?] using ih (index + 1)
      | scalar | list => exact ih (index + 1)

/-- The children of a node are found by steps. -/
theorem Node.map_snd_steps (node : Node) : node.steps.map Prod.snd = node.children := by
  unfold steps children
  rw [List.map_flatMap]
  congr 1
  funext field
  obtain ⟨name, value⟩ := field
  cases value with
  | scalar => rfl
  | node => rfl
  | list items => exact Value.map_snd_itemSteps name 0 items

/-- A child is smaller than its node. -/
theorem Node.sizeOf_lt_of_mem_children {node child : Node} (h : child ∈ node.children) :
    sizeOf child < sizeOf node := by
  obtain ⟨kind, fields, offset, length⟩ := node
  obtain ⟨⟨name, value⟩, hfield, hchild⟩ := List.mem_flatMap.1 h
  have hvalue : sizeOf value < sizeOf fields := by
    have hpair := List.sizeOf_lt_of_mem (show (name, value) ∈ fields from hfield)
    simp only [Prod.mk.sizeOf_spec] at hpair
    omega
  have hless : sizeOf child < sizeOf value := by
    cases value with
    | scalar => cases hchild
    | node tree =>
        rw [List.mem_singleton.1 hchild]
        simp
    | list items =>
        obtain ⟨item, hitem, hnode⟩ := List.mem_filterMap.1 hchild
        have hsize := List.sizeOf_lt_of_mem hitem
        cases item with
        | node tree =>
            cases hnode
            simp only [Value.node.sizeOf_spec, Value.list.sizeOf_spec] at hsize ⊢
            omega
        | scalar | list => cases hnode
  simp only [Node.mk.sizeOf_spec]
  omega

/-- A child reached by a step is smaller than its node. -/
theorem Node.sizeOf_lt_of_mem_steps {node : Node} {entry : Step × Node} (h : entry ∈ node.steps) :
    sizeOf entry.2 < sizeOf node := by
  refine sizeOf_lt_of_mem_children ?_
  rw [← map_snd_steps]
  exact List.mem_map_of_mem h

/-- What holds of a node if it holds of its children, holds of all nodes. -/
theorem Node.inductionOnChildren {motive : Node → Prop}
    (h : ∀ node, (∀ entry ∈ Node.steps node, motive entry.2) → motive node) (node : Node) :
    motive node :=
  h node fun entry _ => inductionOnChildren h entry.2
termination_by sizeOf node
decreasing_by exact sizeOf_lt_of_mem_steps ‹_›

/-! ## The order of a walk -/

/-- The nodes of a tree, each before its children. -/
def Node.preorder (node : Node) : List Node :=
  node :: node.children.attach.flatMap fun child => child.1.preorder
termination_by sizeOf node
decreasing_by exact sizeOf_lt_of_mem_children child.2

/-- The nodes of a tree: its root, and then those below its children in order. -/
theorem Node.preorder_eq (node : Node) :
    node.preorder = node :: node.children.flatMap Node.preorder := by
  rw [preorder]
  simp

/-- A node of a tree with its ancestors, nearest first, and the way down from each of them. -/
structure Place where
  /-- The node. -/
  node : Node
  /-- The ancestors with the ways from them. -/
  above : List (Node × Claim)

/-- The ancestors of a child, with the ways down to it, given those of its parent. -/
def stepDown (node : Node) (above : List (Node × Claim)) (step : Step) : List (Node × Claim) :=
  (node, [step]) :: above.map fun entry => (entry.1, entry.2 ++ [step])

/-- The places in a tree in the order of a walk, given the ancestors of its root. -/
def Node.places (above : List (Node × Claim)) (node : Node) : List Place :=
  ⟨node, above⟩ :: node.steps.attach.flatMap fun entry =>
    entry.1.2.places (stepDown node above entry.1.1)
termination_by sizeOf node
decreasing_by exact sizeOf_lt_of_mem_steps entry.2

/-- The places in a tree: its root, and then those below its children in order. -/
theorem Node.places_eq (above : List (Node × Claim)) (node : Node) :
    node.places above = ⟨node, above⟩ :: node.steps.flatMap fun entry =>
      entry.2.places (stepDown node above entry.1) := by
  rw [places]
  simp only [List.flatMap_def]
  congr 2
  exact List.attach_map_val (f := fun entry : Step × Node =>
    entry.2.places (stepDown node above entry.1))

/-- What the places in a tree yield: what its root yields, and then the places below its
children. -/
theorem Node.flatMap_places {α : Type} (yield : Place → List α) (above : List (Node × Claim))
    (node : Node) :
    (node.places above).flatMap yield =
      yield ⟨node, above⟩ ++ node.steps.flatMap fun entry =>
        (entry.2.places (stepDown node above entry.1)).flatMap yield := by
  rw [places_eq, List.flatMap_cons, List.flatMap_assoc]

/-- Each node of a tree has one place, and the order is the same. -/
theorem Node.map_node_places (above : List (Node × Claim)) (node : Node) :
    (node.places above).map Place.node = node.preorder := by
  induction node using Node.inductionOnChildren generalizing above with
  | h node ih =>
      rw [places_eq, preorder_eq, List.map_cons, ← map_snd_steps, List.map_flatMap,
        List.flatMap_map]
      congr 1
      simp only [List.flatMap_def]
      congr 1
      exact List.map_congr_left fun entry hentry => ih entry hentry _

/-! ## Reading child by child -/

/-- What a child says, given the ancestors and the claims on its parent. -/
def Node.readingAt (file : SourceFile) (ancestors : List Node) (claims : List Claim)
    (entry : Step × Node) : Reading :=
  entry.2.reading file ancestors (claimsBelow entry.1 claims)

/-- The items of a list are read node by node. -/
theorem itemsReading_eq_join (file : SourceFile) (ancestors : List Node) (claims : List Claim)
    (name : String) (index : Nat) (items : List Value) :
    itemsReading file ancestors claims name index items =
      .join ((Value.itemSteps name index items).map (Node.readingAt file ancestors claims)) := by
  induction items generalizing index with
  | nil => simp [itemsReading, Value.itemSteps, Reading.join]
  | cons item rest ih =>
      cases item with
      | node child =>
          simp only [itemsReading, Value.itemSteps, List.map_cons, Reading.join, ih]
          rfl
      | scalar | list => simp only [itemsReading, Value.itemSteps, ih]

/-- A field is read node by node. -/
theorem fieldReading_eq_join (file : SourceFile) (ancestors : List Node) (claims : List Claim)
    (name : String) (value : Value) :
    fieldReading file ancestors claims name value =
      .join ((value.steps name).map (Node.readingAt file ancestors claims)) := by
  cases value with
  | scalar => simp [fieldReading, Value.steps, Reading.join]
  | node child =>
      simp only [fieldReading, Value.steps, List.map_cons, List.map_nil, Reading.join,
        Reading.append_nothing]
      rfl
  | list items =>
      rw [fieldReading, itemsReading_eq_join]
      rfl

/-- The fields of a node are read node by node. -/
theorem fieldsReading_eq_join (file : SourceFile) (ancestors : List Node) (claims : List Claim)
    (fields : List (String × Value)) :
    fieldsReading file ancestors claims fields =
      .join ((fields.flatMap fun field => field.2.steps field.1).map
        (Node.readingAt file ancestors claims)) := by
  induction fields with
  | nil => simp [fieldsReading, Reading.join]
  | cons field rest ih =>
      obtain ⟨name, value⟩ := field
      rw [fieldsReading, fieldReading_eq_join, ih, List.flatMap_cons, List.map_append,
        Reading.join_append]

/-- A tree is read node by node: its root, and then its children in order. A child sees the claims
on its parent and those that its parent makes. -/
theorem Node.reading_eq_join (file : SourceFile) (ancestors : List Node) (claims : List Claim)
    (node : Node) :
    node.reading file ancestors claims =
      node.ownReading file ancestors (claims.contains []) ++
        .join (node.steps.map (Node.readingAt file (node :: ancestors)
          (claims ++ (node.ownReading file ancestors (claims.contains [])).claims))) := by
  obtain ⟨kind, fields, offset, length⟩ := node
  rw [reading, fieldsReading_eq_join]
  rfl

end ModuleGraph
