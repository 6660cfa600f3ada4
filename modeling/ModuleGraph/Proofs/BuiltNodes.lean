import ModuleGraph.Proofs.Places
import ModuleGraph.Syntax.Decode

/-!
# Nodes that are built and nodes that are visited

A tree is built from JSON by one recursion and walked by another. Both should have the same nodes in
them. `walk_visits_all_unless_nested` says how far they agree: the walk visits the nodes that were
built, in the order of the document, apart from those on whose way down a list stands in a list.
Such a list is built with all its nodes, but the nodes in it are nobody's children.

`Json.described` lists the objects that describe nodes and `Node.built` the nodes of a tree, lists
in lists included. Either gives each entry its `Address`, which says where in the document it is.
Read `builds_value` first: the two listings agree entry by entry.
-/

namespace ModuleGraph

/-- Where a node of a tree is: for each step down to it, the field, and the positions in the list
there and in the lists within. -/
abbrev Address := List (String × List Nat)

/-- No step goes through a list in a list. -/
def Address.isFlat (address : Address) : Bool :=
  address.all fun step => decide (step.2.length ≤ 1)

/-- An entry that is found below a step. -/
def below {α : Type} (field : String) (positions : List Nat) (entry : Address × α) : Address × α :=
  ((field, positions) :: entry.1, entry.2)

/-! ## The two listings -/

mutual
/-- The objects that describe nodes in the value of a field, which is at the given positions. -/
def Json.describedAt (field : String) (positions : List Nat) : Json → List (Address × Json)
  | .obj members =>
    if Table.hasKey members "kind" then
      (([], .obj members) :: describedAmong members).map (below field positions)
    else []
  | .arr items => describedItems field positions 0 items
  | _ => []

/-- The objects that describe nodes in a list, counted from the given position. -/
def describedItems (field : String) (positions : List Nat) (position : Nat) :
    List Json → List (Address × Json)
  | [] => []
  | item :: rest =>
    item.describedAt field (positions ++ [position]) ++
      describedItems field positions (position + 1) rest

/-- The objects that describe nodes in the member `fields`, if it is there. -/
def describedAmong : List (String × Json) → List (Address × Json)
  | [] => []
  | (key, value) :: rest => if key = "fields" then value.describedFields else describedAmong rest

/-- The objects that describe nodes in the fields of a node. -/
def Json.describedFields : Json → List (Address × Json)
  | .obj members => describedMembers members
  | _ => []

/-- The objects that describe nodes in the fields that members give. -/
def describedMembers : List (String × Json) → List (Address × Json)
  | [] => []
  | (field, value) :: rest => value.describedAt field [] ++ describedMembers rest
end

/-- The objects that describe the nodes of a tree, in the order of the document. -/
def Json.described : Json → List (Address × Json)
  | .obj members => ([], .obj members) :: describedAmong members
  | _ => []

mutual
/-- The nodes of a tree, each before what is in its fields. -/
def Node.built : Node → List (Address × Node)
  | .mk kind fields offset length => ([], .mk kind fields offset length) :: builtFields fields

/-- The nodes in some fields. -/
def builtFields : List (String × Value) → List (Address × Node)
  | [] => []
  | (field, value) :: rest => value.builtAt field [] ++ builtFields rest

/-- The nodes in the value of a field, which is at the given positions. -/
def Value.builtAt (field : String) (positions : List Nat) : Value → List (Address × Node)
  | .scalar _ => []
  | .node tree => tree.built.map (below field positions)
  | .list items => builtItems field positions 0 items

/-- The nodes in a list, counted from the given position. -/
def builtItems (field : String) (positions : List Nat) (position : Nat) :
    List Value → List (Address × Node)
  | [] => []
  | item :: rest =>
    item.builtAt field (positions ++ [position]) ++ builtItems field positions (position + 1) rest
end

/-! ## What is described is built -/

/-- The node was built from the object, and is where the object was. -/
def Builds (object : Address × Json) (entry : Address × Node) : Prop :=
  object.1 = entry.1 ∧ Value.ofJson object.2 = .ok (.node entry.2)

/-- A node is as it was described, wherever that is. -/
theorem Builds.below {object : Address × Json} {entry : Address × Node} (h : Builds object entry)
    (field : String) (positions : List Nat) :
    Builds (below field positions object) (below field positions entry) :=
  ⟨congrArg _ h.1, h.2⟩

/-- A node has the fields that it was put together from. -/
theorem fields_of_assembleNode {members : List (String × Json)} {fields : List (String × Value)}
    {node : Node} (h : assembleNode members fields = .ok node) : node.fields = fields := by
  obtain ⟨span, _, hnode⟩ := exceptBind_eq_ok.1 h
  cases hnode
  rfl

/-- The nodes of a tree: its root, and those in its fields. -/
theorem Node.built_eq (node : Node) : node.built = ([], node) :: builtFields node.fields := by
  obtain ⟨kind, fields, offset, length⟩ := node
  rw [built]
  rfl

/-- The nodes of a tree were built as they are described if this holds of those in its fields. -/
theorem builds_node {members : List (String × Json)} {fields : List (String × Value)} {node : Node}
    (hkind : Table.hasKey members "kind" = true) (hfields : fieldsAmong members = .ok fields)
    (hnode : assembleNode members fields = .ok node)
    (h : List.Forall₂ Builds (describedAmong members) (builtFields fields)) :
    List.Forall₂ Builds (([], .obj members) :: describedAmong members) node.built := by
  rw [Node.built_eq, fields_of_assembleNode hnode]
  refine .cons ⟨rfl, ?_⟩ h
  rw [Value.ofJson, if_pos hkind, hfields]
  exact exceptBind_eq_ok.2 ⟨fields, rfl, exceptBind_eq_ok.2 ⟨node, hnode, rfl⟩⟩

mutual
/-- The nodes in the value of a field were built as they are described. -/
theorem builds_value (field : String) : ∀ (value : Json) (positions : List Nat) {read : Value},
    Value.ofJson value = .ok read →
      List.Forall₂ Builds (value.describedAt field positions) (read.builtAt field positions)
  | .null, positions, _, h | .bool _, positions, _, h | .int _, positions, _, h
  | .float _, positions, _, h | .str _, positions, _, h => by
      cases h
      exact .nil
  | .arr items, positions, _, h => by
      rw [Value.ofJson] at h
      obtain ⟨values, hvalues, hread⟩ := exceptBind_eq_ok.1 h
      cases hread
      exact builds_items field items positions 0 hvalues
  | .obj members, positions, _, h => by
      rw [Value.ofJson] at h
      rw [Json.describedAt]
      split at h
      · next hkind =>
          obtain ⟨fields, hfields, hrest⟩ := exceptBind_eq_ok.1 h
          obtain ⟨node, hnode, hread⟩ := exceptBind_eq_ok.1 hrest
          cases hread
          have hbuilt := builds_node hkind hfields hnode (builds_among members hfields)
          rw [if_pos hkind, Value.builtAt]
          refine List.forall₂_map_left_iff.2 (List.forall₂_map_right_iff.2 ?_)
          exact hbuilt.imp fun _ _ hbuilds => hbuilds.below field positions
      · next hkind =>
          cases h
          rw [if_neg hkind]
          exact .nil

/-- The nodes in a list were built as they are described. -/
theorem builds_items (field : String) : ∀ (items : List Json) (positions : List Nat)
    (position : Nat) {read : List Value}, valuesOfItems items = .ok read →
      List.Forall₂ Builds (describedItems field positions position items)
        (builtItems field positions position read)
  | [], _, _, _, h => by
      cases h
      exact .nil
  | item :: rest, positions, position, _, h => by
      rw [valuesOfItems] at h
      obtain ⟨value, hvalue, hrest⟩ := exceptBind_eq_ok.1 h
      obtain ⟨values, hvalues, hread⟩ := exceptBind_eq_ok.1 hrest
      cases hread
      exact List.rel_append (builds_value field item _ hvalue)
        (builds_items field rest positions (position + 1) hvalues)

/-- The nodes in the fields of a node were built as they are described. -/
theorem builds_among : ∀ (members : List (String × Json)) {read : List (String × Value)},
    fieldsAmong members = .ok read →
      List.Forall₂ Builds (describedAmong members) (builtFields read)
  | [], _, h => by
      cases h
      exact .nil
  | (key, value) :: rest, _, h => by
      rw [fieldsAmong] at h
      rw [describedAmong]
      split at h
      · next hkey =>
          rw [if_pos hkey]
          exact builds_fields value h
      · next hkey =>
          rw [if_neg hkey]
          exact builds_among rest h

/-- The nodes in the member that holds the fields were built as they are described. -/
theorem builds_fields : ∀ (value : Json) {read : List (String × Value)},
    fieldsOf value = .ok read → List.Forall₂ Builds value.describedFields (builtFields read)
  | .obj members, _, h => builds_members members h
  | .null, _, h | .bool _, _, h | .int _, _, h | .float _, _, h | .str _, _, h | .arr _, _, h => by
      simp only [fieldsOf] at h
      split at h
      · cases h
      · cases h
        exact .nil

/-- The nodes in the fields that members give were built as they are described. -/
theorem builds_members : ∀ (members : List (String × Json)) {read : List (String × Value)},
    fieldsOfMembers members = .ok read →
      List.Forall₂ Builds (describedMembers members) (builtFields read)
  | [], _, h => by
      cases h
      exact .nil
  | (field, value) :: rest, _, h => by
      rw [fieldsOfMembers] at h
      obtain ⟨first, hfirst, hrest⟩ := exceptBind_eq_ok.1 h
      obtain ⟨others, hothers, hread⟩ := exceptBind_eq_ok.1 hrest
      cases hread
      exact List.rel_append (builds_value field value [] hfirst) (builds_members rest hothers)
end

/-- The nodes of a tree were built as they are described. -/
theorem Node.builds_ofJson {levels : Nat} {data : Json} {root : Node}
    (h : ofJson levels data = .ok root) : List.Forall₂ Builds data.described root.built := by
  cases data with
  | obj members =>
      rw [ofJson] at h
      split at h
      · next hkind =>
          dsimp only at h
          split at h
          · cases h
          · obtain ⟨fields, hfields, hnode⟩ := exceptBind_eq_ok.1 h
            exact builds_node hkind hfields hnode (builds_among members hfields)
      · cases h
  | null | bool | int | float | str | arr => cases h

/-! ## What is built is visited -/

/-- The nodes that are not in lists within lists. -/
def flatNodes (entries : List (Address × Node)) : List Node :=
  (entries.filter fun entry => entry.1.isFlat).map Prod.snd

/-- The flat nodes of two listings in a row. -/
theorem flatNodes_append (front back : List (Address × Node)) :
    flatNodes (front ++ back) = flatNodes front ++ flatNodes back := by
  simp [flatNodes]

/-- A step into a field or a list in it leaves flat what is flat. -/
theorem flatNodes_below (field : String) {positions : List Nat} (h : positions.length ≤ 1)
    (entries : List (Address × Node)) :
    flatNodes (entries.map (below field positions)) = flatNodes entries := by
  have hflat (entry : Address × Node) :
      (below field positions entry).1.isFlat = entry.1.isFlat := by
    simp [below, Address.isFlat, h]
  unfold flatNodes
  rw [List.filter_map, List.map_map]
  simp only [Function.comp_def, hflat]
  rfl

/-- A step into a list in a list leaves nothing flat. -/
theorem flatNodes_below_nested (field : String) {positions : List Nat} (h : 1 < positions.length)
    (entries : List (Address × Node)) : flatNodes (entries.map (below field positions)) = [] := by
  have hnested (entry : Address × Node) : (below field positions entry).1.isFlat = false := by
    simp [below, Address.isFlat, Nat.not_le.2 h]
  unfold flatNodes
  rw [List.filter_map]
  simp [Function.comp_def, hnested]

mutual
/-- No node in a list within a list is flat. -/
theorem flatNodes_nested (field : String) : ∀ (value : Value) {positions : List Nat},
    1 < positions.length → flatNodes (value.builtAt field positions) = []
  | .scalar _, _, _ => rfl
  | .node tree, _, h => flatNodes_below_nested field h tree.built
  | .list items, _, h => flatNodes_nestedItems field items 0 (Nat.lt_of_succ_lt h)

/-- No node in an item of a list within a list is flat. -/
theorem flatNodes_nestedItems (field : String) : ∀ (items : List Value) {positions : List Nat}
    (position : Nat), 0 < positions.length →
      flatNodes (builtItems field positions position items) = []
  | [], _, _, _ => rfl
  | item :: rest, positions, position, h => by
      have hdeeper : 1 < (positions ++ [position]).length := by
        simp only [List.length_append, List.length_singleton]
        omega
      rw [builtItems, flatNodes_append, flatNodes_nested field item hdeeper,
        flatNodes_nestedItems field rest (position + 1) h]
      rfl
end

mutual
/-- The nodes of a tree that are flat are those that a walk visits. -/
theorem flatNodes_node : ∀ node : Node, flatNodes node.built = node.preorder
  | .mk kind fields offset length => by
      rw [Node.preorder_eq]
      exact congrArg (Node.mk kind fields offset length :: ·) (flatNodes_fields fields)

/-- The flat nodes in some fields are those below the children there. -/
theorem flatNodes_fields : ∀ fields : List (String × Value),
    flatNodes (builtFields fields) =
      (fields.flatMap fun field => field.2.childNodes).flatMap Node.preorder
  | [] => rfl
  | (field, value) :: rest => by
      rw [builtFields, flatNodes_append, flatNodes_value field value, flatNodes_fields rest,
        List.flatMap_cons, List.flatMap_append]

/-- The flat nodes in a field are those below the children there. -/
theorem flatNodes_value (field : String) : ∀ value : Value,
    flatNodes (value.builtAt field []) = value.childNodes.flatMap Node.preorder
  | .scalar _ => rfl
  | .node tree => by
      have hbelow := flatNodes_below field (show [].length ≤ 1 by decide) tree.built
      rw [Value.builtAt, hbelow, flatNodes_node tree]
      simp [Value.childNodes]
  | .list items => flatNodes_items field 0 items

/-- The flat nodes in the list of a field are those below the nodes among its items. -/
theorem flatNodes_items (field : String) (position : Nat) : ∀ items : List Value,
    flatNodes (builtItems field [] position items) =
      (Value.nodesOf items).flatMap Node.preorder
  | [] => rfl
  | .node tree :: rest => by
      have hbelow := flatNodes_below field (show [position].length ≤ 1 by simp) tree.built
      rw [builtItems, flatNodes_append, flatNodes_items field (position + 1) rest, Value.builtAt,
        List.nil_append, hbelow, flatNodes_node tree]
      rfl
  | .scalar _ :: rest => by
      rw [builtItems, flatNodes_append, flatNodes_items field (position + 1) rest]
      rfl
  | .list items :: rest => by
      have hnested := flatNodes_nestedItems field items 0 (show 0 < [position].length by simp)
      rw [builtItems, flatNodes_append, flatNodes_items field (position + 1) rest, Value.builtAt,
        List.nil_append, hnested]
      rfl
end

/-- A walk visits everything that is built if nothing is in a list within a list. -/
theorem Node.preorder_eq_built_iff (root : Node) :
    root.preorder = root.built.map Prod.snd ↔ ∀ entry ∈ root.built, entry.1.isFlat = true := by
  rw [← flatNodes_node, flatNodes]
  constructor
  · intro hsame
    have hlength := congrArg List.length hsame
    rw [List.length_map, List.length_map] at hlength
    exact List.length_filter_eq_length_iff.1 hlength
  · intro hflat
    rw [List.filter_eq_self.2 hflat]

/-- A tree that is built has a node for each object that describes one, list within list included,
at its address and in the order of the document. A walk visits the flat ones of these nodes, in that
order; it visits all of them, each once, exactly if no object that describes a node is in a list
within a list. -/
theorem Node.walk_visits_all_unless_nested {levels : Nat} {data : Json} {root : Node}
    (h : ofJson levels data = .ok root) :
    List.Forall₂ (fun object entry =>
        object.1 = entry.1 ∧ Value.ofJson object.2 = .ok (.node entry.2))
      data.described root.built ∧
    (root.places []).map Place.node = root.preorder ∧
    root.preorder = (root.built.filter fun entry => entry.1.isFlat).map Prod.snd ∧
    (root.preorder = root.built.map Prod.snd ↔
      ∀ object ∈ data.described, object.1.isFlat = true) := by
  have hbuilds := builds_ofJson h
  refine ⟨hbuilds, map_node_places [] root, (flatNodes_node root).symm, ?_⟩
  -- The addresses are the same on both sides.
  have haddresses : data.described.map Prod.fst = root.built.map Prod.fst :=
    List.forall₂_eq_eq_eq ▸ List.rel_map (fun _ _ hentry => hentry.1) hbuilds
  rw [preorder_eq_built_iff]
  have hboth {α : Type} (entries : List (Address × α)) :
      (∀ entry ∈ entries, entry.1.isFlat = true) ↔
        ∀ address ∈ entries.map Prod.fst, Address.isFlat address = true := by
    simp
  rw [hboth, hboth, haddresses]

/-- A program with one name in a list within a list and another one beside it. -/
def nestedProgram : Json :=
  .obj [("kind", .str "Program"), ("fields", .obj [("body", .arr [
    .arr [.obj [("kind", .str "QualifiedReference"), ("fields", .obj [("value", .str "Foo")])]],
    .obj [("kind", .str "QualifiedReference"), ("fields", .obj [("value", .str "Bar")])]])])]

/-- The name in the list within the list is built, but no walk visits it. -/
theorem nestedProgram_hides_name : ∃ root,
    Node.ofJson 12 nestedProgram = .ok root ∧
      root.built.map Prod.fst = [[], [("body", [0, 0])], [("body", [1])]] ∧
      root.preorder ≠ root.built.map Prod.snd := by
  have hread : Node.ofJson 12 nestedProgram = .ok _ := rfl
  obtain ⟨_, _, _, hiff⟩ := Node.walk_visits_all_unless_nested hread
  exact ⟨_, hread, rfl, fun hsame => absurd (hiff.1 hsame) (by decide +kernel)⟩

end ModuleGraph
