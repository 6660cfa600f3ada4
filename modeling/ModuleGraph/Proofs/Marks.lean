import ModuleGraph.Json.Reader
import ModuleGraph.Proofs.BuiltNodes
import ModuleGraph.Proofs.Tables
import ModuleGraph.Proofs.Walking

/-!
# The marks that a walk leaves on a tree

A walk marks the names whose meaning it has recognised. The marks are on the tree itself, so they
are still there if it is walked again. `Node.marking` gives them as ways from the root, as far as
the walk comes.

`Node.reading_of_marks` says that such marks make no difference: a name that is marked is claimed by
one of its ancestors anyway, as often as it is met. A way leads to one node only as long as no node
has two fields of a name (`Node.FieldsDistinct`). Every tree that was decoded from a text is of this
kind (`Node.fieldsDistinct_of_parse`).
-/

namespace ModuleGraph

/-! ## One child for each step -/

/-- No node of a tree has two fields of one name. -/
def Node.FieldsDistinct (root : Node) : Prop :=
  ∀ node ∈ root.preorder, Table.Distinct node.fields

instance (root : Node) : Decidable root.FieldsDistinct :=
  inferInstanceAs (Decidable (∀ node ∈ root.preorder, (Table.keys node.fields).Nodup))

/-- The node in the value of a field, or in a list there. -/
def Value.child? : Value → Option Nat → Option Node
  | .node child, none => some child
  | .list items, some index => items[index]?.bind node?
  | _, _ => none

/-- The steps into a list lead to the nodes in it. -/
theorem Value.mem_itemSteps {name : String} {start : Nat} {items : List Value} {step : Step}
    {child : Node} (h : (step, child) ∈ itemSteps name start items) :
    step.field = name ∧ ∃ index, step.index = some (start + index) ∧
      items[index]? = some (.node child) := by
  induction items generalizing start with
  | nil => cases h
  | cons item rest ih =>
      have hrest (hmem : (step, child) ∈ itemSteps name (start + 1) rest) :
          step.field = name ∧ ∃ index, step.index = some (start + index) ∧
            (item :: rest)[index]? = some (.node child) := by
        obtain ⟨hfield, index, hindex, hitem⟩ := ih hmem
        exact ⟨hfield, index + 1, by rw [hindex, Nat.add_assoc, Nat.add_comm 1], hitem⟩
      cases item with
      | node first =>
          rcases List.mem_cons.1 h with heq | hmem
          · cases heq
            exact ⟨rfl, 0, rfl, rfl⟩
          · exact hrest hmem
      | scalar | list => exact hrest h

/-- A step leads to the node at its place in its field. -/
theorem Value.mem_steps {name : String} {value : Value} {step : Step} {child : Node}
    (h : (step, child) ∈ value.steps name) :
    step.field = name ∧ value.child? step.index = some child := by
  cases value with
  | scalar => cases h
  | node first =>
      cases List.mem_singleton.1 h
      exact ⟨rfl, rfl⟩
  | list items =>
      obtain ⟨hfield, index, hindex, hitem⟩ := mem_itemSteps h
      rw [Nat.zero_add] at hindex
      refine ⟨hfield, ?_⟩
      rw [hindex]
      simp [child?, hitem, node?]

namespace Node

/-- A step leads to one child. -/
theorem eq_of_mem_steps {node : Node} (h : Table.Distinct node.fields) {step : Step}
    {first second : Node} (hfirst : (step, first) ∈ node.steps)
    (hsecond : (step, second) ∈ node.steps) : first = second := by
  obtain ⟨⟨name, value⟩, hvalue, hsteps⟩ := List.mem_flatMap.1 hfirst
  obtain ⟨⟨name', value'⟩, hvalue', hsteps'⟩ := List.mem_flatMap.1 hsecond
  obtain ⟨rfl, hchild⟩ := Value.mem_steps hsteps
  obtain ⟨rfl, hchild'⟩ := Value.mem_steps hsteps'
  obtain rfl : value = value' :=
    Option.some.inj ((h.mem_iff_get?.1 hvalue).symm.trans (h.mem_iff_get?.1 hvalue'))
  exact Option.some.inj (hchild.symm.trans hchild')

/-- The trees below a node have distinct fields if its tree has. -/
theorem FieldsDistinct.child {node : Node} (h : node.FieldsDistinct) {entry : Step × Node}
    (hentry : entry ∈ node.steps) : entry.2.FieldsDistinct := by
  intro other hother
  refine h other ?_
  have hchild : entry.2 ∈ node.children := map_snd_steps node ▸ List.mem_map_of_mem hentry
  rw [preorder_eq]
  exact List.mem_cons_of_mem _ (List.mem_flatMap.2 ⟨entry.2, hchild, hother⟩)

end Node

/-! ## Decoded trees -/

namespace Json

/-- No object in the value has a key twice. -/
inductive KeysDistinct : Json → Prop
  /-- Neither an array nor an object. -/
  | plain {value : Json} (harr : ∀ items, value ≠ .arr items)
      (hobj : ∀ members, value ≠ .obj members) : KeysDistinct value
  /-- An array of such items. -/
  | arr {items : List Json} (h : ∀ item ∈ items, KeysDistinct item) : KeysDistinct (.arr items)
  /-- An object of such members. -/
  | obj {members : List (String × Json)} (hkeys : Table.Distinct members)
      (h : ∀ member ∈ members, KeysDistinct member.2) : KeysDistinct (.obj members)

/-- The items of an array without repeated keys have none either. -/
theorem KeysDistinct.items {items : List Json} (h : KeysDistinct (.arr items)) :
    ∀ item ∈ items, KeysDistinct item := by
  cases h with
  | plain harr => exact absurd rfl (harr items)
  | arr h => exact h

/-- An object without repeated keys has each of its own once, and its members have none either. -/
theorem KeysDistinct.members {members : List (String × Json)} (h : KeysDistinct (.obj members)) :
    Table.Distinct members ∧ ∀ member ∈ members, KeysDistinct member.2 := by
  cases h with
  | plain _ hobj => exact absurd rfl (hobj members)
  | obj hkeys h => exact ⟨hkeys, h⟩

mutual
/-- Merging leaves no key twice. -/
theorem keysDistinct_merged : ∀ value : Json, KeysDistinct (merged value)
  | .null | .bool _ | .int _ | .float _ | .str _ => by
      rw [merged]
      · exact .plain (fun _ h => by cases h) fun _ h => by cases h
      all_goals intro _ h; cases h
  | .arr items => by
      rw [merged]
      exact .arr (keysDistinct_mergedItems items)
  | .obj members => by
      rw [merged]
      exact .obj (Table.distinct_ofEntries _) fun member hmember =>
        keysDistinct_mergedMembers members member (Table.mem_of_mem_ofEntries hmember)

/-- Merging leaves no key twice in the items of a list. -/
theorem keysDistinct_mergedItems : ∀ items : List Json, ∀ item ∈ mergedItems items,
    KeysDistinct item
  | [] => fun _ h => by cases h
  | item :: rest =>
    List.forall_mem_cons.2 ⟨keysDistinct_merged item, keysDistinct_mergedItems rest⟩

/-- Merging leaves no key twice in the values of members. -/
theorem keysDistinct_mergedMembers : ∀ members : List (String × Json),
    ∀ member ∈ mergedMembers members, KeysDistinct member.2
  | [] => fun _ h => by cases h
  | (_, value) :: rest =>
    List.forall_mem_cons.2 ⟨keysDistinct_merged value, keysDistinct_mergedMembers rest⟩
end

/-- A value that was read from a text has no key twice. -/
theorem keysDistinct_parse {depth : Nat} {text : List Char} {data : Json}
    (h : parse depth text = .ok data) : KeysDistinct data := by
  unfold parse at h
  cases hread : readDocument false depth text with
  | error fault => simp [hread, bind, Except.bind] at h
  | ok value =>
      simp only [hread, bind, Except.bind, pure, Except.pure, Except.ok.injEq] at h
      exact h ▸ keysDistinct_merged value

end Json

mutual
/-- In a value without repeated keys, the objects that describe nodes have none. -/
theorem keysDistinct_describedAt (field : String) : ∀ (value : Json) (positions : List Nat),
    value.KeysDistinct → ∀ entry ∈ value.describedAt field positions, entry.2.KeysDistinct
  | .null, _, _ | .bool _, _, _ | .int _, _, _ | .float _, _, _ | .str _, _, _ =>
    fun _ hentry => by cases hentry
  | .arr items, positions, h => keysDistinct_describedItems field items positions 0 h.items
  | .obj members, positions, h => by
      rw [Json.describedAt]
      split
      · refine List.forall_mem_map.2 (List.forall_mem_cons.2 ⟨h, ?_⟩)
        exact keysDistinct_describedAmong members h.members.2
      · exact fun _ hentry => by cases hentry

/-- The same of the items of a list. -/
theorem keysDistinct_describedItems (field : String) : ∀ (items : List Json) (positions : List Nat)
    (position : Nat), (∀ item ∈ items, item.KeysDistinct) →
      ∀ entry ∈ describedItems field positions position items, entry.2.KeysDistinct
  | [], _, _, _ => fun _ hentry => by cases hentry
  | item :: rest, positions, position, h => by
      obtain ⟨hitem, hrest⟩ := List.forall_mem_cons.1 h
      exact List.forall_mem_append.2 ⟨keysDistinct_describedAt field item _ hitem,
        keysDistinct_describedItems field rest positions (position + 1) hrest⟩

/-- The same of the member that holds the fields. -/
theorem keysDistinct_describedAmong : ∀ members : List (String × Json),
    (∀ member ∈ members, member.2.KeysDistinct) →
      ∀ entry ∈ describedAmong members, entry.2.KeysDistinct
  | [], _ => fun _ hentry => by cases hentry
  | (key, value) :: rest, h => by
      obtain ⟨hvalue, hrest⟩ := List.forall_mem_cons.1 h
      rw [describedAmong]
      split
      · exact keysDistinct_describedFields value hvalue
      · exact keysDistinct_describedAmong rest hrest

/-- The same of the fields of a node. -/
theorem keysDistinct_describedFields : ∀ value : Json, value.KeysDistinct →
    ∀ entry ∈ value.describedFields, entry.2.KeysDistinct
  | .null, _ | .bool _, _ | .int _, _ | .float _, _ | .str _, _ | .arr _, _ =>
    fun _ hentry => by cases hentry
  | .obj members, h => keysDistinct_describedMembers members h.members.2

/-- The same of the fields that members give. -/
theorem keysDistinct_describedMembers : ∀ members : List (String × Json),
    (∀ member ∈ members, member.2.KeysDistinct) →
      ∀ entry ∈ describedMembers members, entry.2.KeysDistinct
  | [], _ => fun _ hentry => by cases hentry
  | (field, value) :: rest, h => by
      obtain ⟨hvalue, hrest⟩ := List.forall_mem_cons.1 h
      exact List.forall_mem_append.2 ⟨keysDistinct_describedAt field value [] hvalue,
        keysDistinct_describedMembers rest hrest⟩
end

/-- The fields of a node have the names of the members that describe them. -/
theorem keys_fieldsOfMembers {members : List (String × Json)} {fields : List (String × Value)}
    (h : fieldsOfMembers members = .ok fields) : Table.keys fields = Table.keys members := by
  induction members generalizing fields with
  | nil =>
      cases h
      rfl
  | cons member rest ih =>
      rw [fieldsOfMembers] at h
      obtain ⟨value, _, hrest⟩ := exceptBind_eq_ok.1 h
      obtain ⟨others, hothers, hfields⟩ := exceptBind_eq_ok.1 hrest
      cases hfields
      exact congrArg (member.1 :: ·) (ih hothers)

/-- An object without repeated keys describes distinct fields. -/
theorem distinct_fieldsAmong {members : List (String × Json)} {fields : List (String × Value)}
    (h : ∀ member ∈ members, member.2.KeysDistinct) (hfields : fieldsAmong members = .ok fields) :
    Table.Distinct fields := by
  induction members with
  | nil =>
      cases hfields
      exact List.nodup_nil
  | cons member rest ih =>
      obtain ⟨hvalue, hrest⟩ := List.forall_mem_cons.1 h
      obtain ⟨key, value⟩ := member
      rw [fieldsAmong] at hfields
      split at hfields
      · cases value with
        | obj inner =>
            unfold Table.Distinct
            rw [keys_fieldsOfMembers hfields]
            exact hvalue.members.1
        | null | bool | int | float | str | arr =>
            simp only [fieldsOf] at hfields
            split at hfields
            · cases hfields
            · cases hfields
              exact List.nodup_nil
      · exact ih hrest hfields

namespace Node

/-- The fields of a node are distinct if the object that describes it has no repeated keys. -/
theorem distinct_of_builds {object : Address × Json} {entry : Address × Node}
    (h : Builds object entry) (hkeys : object.2.KeysDistinct) : Table.Distinct entry.2.fields := by
  obtain ⟨address, data⟩ := object
  have hread : Value.ofJson data = .ok (.node entry.2) := h.2
  cases data with
  | obj members =>
      rw [Value.ofJson] at hread
      split at hread
      · obtain ⟨fields, hfields, hrest⟩ := exceptBind_eq_ok.1 hread
        obtain ⟨node, hnode, hsame⟩ := exceptBind_eq_ok.1 hrest
        cases hsame
        rw [fields_of_assembleNode hnode]
        exact distinct_fieldsAmong hkeys.members.2 hfields
      · cases hread
  | arr items =>
      rw [Value.ofJson] at hread
      obtain ⟨_, _, hsame⟩ := exceptBind_eq_ok.1 hread
      cases hsame
  | null | bool | int | float | str => cases hread

/-- A tree that was decoded from a text has distinct fields, however deep the text may go. -/
theorem fieldsDistinct_of_parse {depth levels : Nat} {text : List Char} {data : Json} {root : Node}
    (hparse : Json.parse depth text = .ok data) (hread : ofJson levels data = .ok root) :
    root.FieldsDistinct := by
  have hkeys : ∀ entry ∈ data.described, entry.2.KeysDistinct := by
    have hdata := Json.keysDistinct_parse hparse
    cases data with
    | obj members =>
        exact List.forall_mem_cons.2 ⟨hdata, keysDistinct_describedAmong members hdata.members.2⟩
    | null | bool | int | float | str | arr => exact fun _ hentry => by cases hentry
  have hbuilt : ∀ entry ∈ root.built, Table.Distinct entry.2.fields := by
    -- Every node was built from one of the objects.
    have hbuilds := (List.forall₂_and_left _ _).2 ⟨hkeys, builds_ofJson hread⟩
    have hdistinct : List.Forall₂ (fun entry (_ : Address × Json) =>
        Table.Distinct entry.2.fields ∧ True) root.built data.described :=
      (hbuilds.imp fun _ _ h => ⟨distinct_of_builds h.2 h.1, trivial⟩).flip
    exact ((List.forall₂_and_left _ _).1 hdistinct).1
  intro node hnode
  rw [← flatNodes_node] at hnode
  obtain ⟨entry, hentry, rfl⟩ := List.mem_map.1 hnode
  exact hbuilt entry (List.mem_filter.1 hentry).1

end Node

/-! ## The marks -/

namespace Reading

/-- A reading whose claims are seen from above a step. -/
def seenAbove (step : Step) (reading : Reading) : Reading :=
  { reading with claims := reading.claims.map (step :: ·) }

/-- One reading after another claims only what one of them does. -/
theorem mem_claims_append {first second : Reading} {way : Claim}
    (h : way ∈ (first ++ second).claims) : way ∈ first.claims ∨ way ∈ second.claims := by
  cases hfailure : first.failure with
  | none =>
      rw [claims_append hfailure] at h
      exact List.mem_append.1 h
  | some failure =>
      rw [append_of_failure hfailure] at h
      exact Or.inl h

/-- Readings in order claim only what one of them does. -/
theorem mem_claims_join {readings : List Reading} {way : Claim} (h : way ∈ (join readings).claims) :
    ∃ reading ∈ readings, way ∈ reading.claims := by
  induction readings with
  | nil => cases h
  | cons reading rest ih =>
      rcases mem_claims_append h with hreading | hrest
      · exact ⟨reading, List.mem_cons_self, hreading⟩
      · obtain ⟨other, hother, hway⟩ := ih hrest
        exact ⟨other, List.mem_cons_of_mem _ hother, hway⟩

end Reading

namespace Node

/-- What a tree says, with the marks that a walk leaves on it as claims: the ways from its root to
the names that its nodes claim. -/
def marking (file : SourceFile) (ancestors : List Node) (node : Node) : Reading :=
  node.ownReading file ancestors false ++
    .join (node.steps.attach.map fun entry =>
      (entry.1.2.marking file (node :: ancestors)).seenAbove entry.1.1)
termination_by sizeOf node
decreasing_by exact sizeOf_lt_of_mem_steps entry.2

/-- The marks of a tree: those of its root, and those below its children. -/
theorem marking_eq (file : SourceFile) (ancestors : List Node) (node : Node) :
    node.marking file ancestors =
      node.ownReading file ancestors false ++
        .join (node.steps.map fun entry =>
          (entry.2.marking file (node :: ancestors)).seenAbove entry.1) := by
  rw [marking]
  congr 2
  exact List.attach_map_val (f := fun entry : Step × Node =>
    (entry.2.marking file (node :: ancestors)).seenAbove entry.1)

/-- A mark comes from the node itself or from a tree below it. -/
theorem mem_claims_marking {file : SourceFile} {ancestors : List Node} {node : Node} {way : Claim}
    (h : way ∈ (node.marking file ancestors).claims) :
    way ∈ (node.ownReading file ancestors false).claims ∨
      ∃ entry ∈ node.steps, ∃ rest ∈ (entry.2.marking file (node :: ancestors)).claims,
        way = entry.1 :: rest := by
  rw [marking_eq] at h
  refine (Reading.mem_claims_append h).imp_right fun hbelow => ?_
  obtain ⟨reading, hreading, hway⟩ := Reading.mem_claims_join hbelow
  obtain ⟨entry, hentry, rfl⟩ := List.mem_map.1 hreading
  obtain ⟨rest, hrest, rfl⟩ := List.mem_map.1 hway
  exact ⟨entry, hentry, rest, hrest, rfl⟩

/-- Whether a node is claimed matters only to a name, and a name claims nothing. -/
theorem ownReading_eq_or (file : SourceFile) (ancestors : List Node) (node : Node) :
    (∀ claimed, node.ownReading file ancestors claimed = node.ownReading file ancestors false) ∨
      ∀ claimed, (node.ownReading file ancestors claimed).claims = [] := by
  unfold ownReading
  cases hkind : node.kind with
  | str kind =>
      by_cases hstring : kind = "LiteralString"
      · subst hstring
        exact Or.inr fun claimed => Reading.claims_openName ancestors claimed _ node
      · by_cases hword : kind = "QualifiedName"
        · subst hword
          exact Or.inr fun claimed => Reading.claims_openName ancestors claimed _ node
        · refine Or.inl fun claimed => ?_
          dsimp only
          congr 1
          unfold Reading.ofKind
          split <;> first | rfl | contradiction
  | null | bool | int | float | arr | obj => exact Or.inl fun _ => rfl

/-- A node claims the same names, claimed or not. -/
theorem claims_ownReading (file : SourceFile) (ancestors : List Node) (node : Node)
    (claimed : Bool) :
    (node.ownReading file ancestors claimed).claims =
      (node.ownReading file ancestors false).claims := by
  rcases node.ownReading_eq_or file ancestors with hsame | hnone
  · rw [hsame]
  · rw [hnone, hnone]

/-- Marks that a walk left make no difference: a tree says the same with those claims on it that it
had and with more of them, if these are marks of its nodes. -/
theorem reading_of_marks {file : SourceFile} {node : Node} (hdistinct : node.FieldsDistinct)
    {ancestors : List Node} {claims later : List Claim} (hkept : claims ⊆ later)
    (hleft : ∀ way ∈ later, way ∈ claims ∨ way ∈ (node.marking file ancestors).claims) :
    node.reading file ancestors later = node.reading file ancestors claims := by
  -- By induction on the tree, for all ancestors and claims.
  induction node using Node.inductionOnChildren generalizing ancestors claims later with
  | h node ih =>
      have hown : node.ownReading file ancestors (later.contains []) =
          node.ownReading file ancestors (claims.contains []) := by
        rcases node.ownReading_eq_or file ancestors with hsame | hnone
        · rw [hsame, hsame (claims.contains [])]
        · -- A name has no mark on itself: the marks of its own tree all begin with a step.
          have hroot : [] ∈ later ↔ [] ∈ claims := by
            refine ⟨fun hlater => (hleft [] hlater).elim id fun hmark => ?_, fun h => hkept h⟩
            rcases mem_claims_marking hmark with hmark | ⟨_, _, _, _, hway⟩
            · rw [hnone] at hmark
              cases hmark
            · cases hway
          congr 1
          rw [Bool.eq_iff_iff, List.contains_iff_mem, List.contains_iff_mem, hroot]
      rw [reading_eq_join, reading_eq_join, hown]
      generalize hflag : claims.contains [] = claimed
      congr 2
      refine List.map_congr_left fun entry hentry => ?_
      unfold readingAt
      refine ih entry hentry (hdistinct.child hentry) ?_ ?_
      · intro way hway
        rw [mem_claimsBelow, List.mem_append] at hway ⊢
        exact hway.imp_left fun h => hkept h
      · intro way hway
        rw [mem_claimsBelow, List.mem_append] at hway ⊢
        rcases hway with hlater | hclaimed
        · rcases hleft _ hlater with hclaims | hmark
          · exact Or.inl (Or.inl hclaims)
          · rcases mem_claims_marking hmark with hmark | ⟨other, hother, rest, hrest, hway⟩
            · exact Or.inl (Or.inr ((claims_ownReading file ancestors node _).symm ▸ hmark))
            · -- The mark is below the child to which the step leads, and there is only this one.
              obtain ⟨hstep, rfl⟩ := List.cons_eq_cons.1 hway
              have hroot : Table.Distinct node.fields :=
                hdistinct node (preorder_eq node ▸ List.mem_cons_self)
              have hsame : entry.2 = other.2 := eq_of_mem_steps hroot hentry (hstep ▸ hother)
              exact Or.inr (hsame ▸ hrest)
        · exact Or.inl (Or.inr hclaimed)

end Node

end ModuleGraph
