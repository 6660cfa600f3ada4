import ModuleGraph.Builtins
import ModuleGraph.Module.Basic
import ModuleGraph.Syntax.Dump

/-!
# Shapes of data

A reader of a file should give a result or fail with a cause that the user is told. The outcome is
then `Contained`; any other failure ends the program. For the readers of JSON this depends on the
shape of the value: `Json.IsMetadata`, `Json.IsCatalogue` and `Json.AnswersAsDump` say what has to
be where, the last of them for syntax trees of any depth (`Json.IsFieldValue`).

Read `Requires` first: every reader gives a result exactly under a condition on the value, and
otherwise fails without telling why. `Metadata.reads_ofJson`, `Builtins.reads_ofJson` and
`SourceTree.contained_ofJson_iff` are the results about whole values.
-/

namespace ModuleGraph

/-! ## Outcomes -/

/-- The user is told the cause. -/
def Failure.IsTold (failure : Failure) : Prop :=
  failure.message?.isSome = true

instance (failure : Failure) : Decidable failure.IsTold :=
  inferInstanceAs (Decidable (_ = true))

section Outcomes

variable {α β : Type} {condition other : Prop} {outcome : Except Failure α} {failure : Failure}

/-- There is a result, or the user is told why there is none. -/
def Contained (outcome : Except Failure α) : Prop :=
  ∀ failure, outcome = .error failure → failure.IsTold

/-- A result is contained. -/
@[simp] theorem contained_ok (value : α) : Contained (.ok value : Except Failure α) := by
  intro failure h
  cases h

/-- A failure is contained if the user is told. -/
@[simp] theorem contained_error :
    Contained (.error failure : Except Failure α) ↔ failure.IsTold := by
  simp [Contained]

/-- There is a result exactly under the condition, and otherwise a failure that nobody is told. -/
structure Requires (condition : Prop) (outcome : Except Failure α) : Prop where
  /-- The condition is enough. -/
  succeeds : condition → ∃ value, outcome = .ok value
  /-- Without it there is a failure. -/
  escapes : ¬ condition → ∃ failure, outcome = .error failure ∧ ¬ failure.IsTold

/-- The condition is what decides whether the outcome is contained. -/
theorem Requires.contained_iff (h : Requires condition outcome) :
    Contained outcome ↔ condition := by
  by_cases hcondition : condition
  · obtain ⟨value, rfl⟩ := h.succeeds hcondition
    simp [hcondition]
  · obtain ⟨failure, rfl, hfailure⟩ := h.escapes hcondition
    simp [hcondition, hfailure]

/-- The condition may be put in other words. -/
theorem Requires.congr (h : Requires condition outcome) (hiff : condition ↔ other) :
    Requires other outcome :=
  ⟨fun hother => h.succeeds (hiff.2 hother), fun hother => h.escapes (mt hiff.1 hother)⟩

/-- A result requires nothing. -/
theorem requires_ok (value : α) : Requires True (.ok value : Except Failure α) :=
  ⟨fun _ => ⟨value, rfl⟩, fun h => absurd trivial h⟩

/-- A failure that nobody is told is not avoided by any condition. -/
theorem requires_error (h : ¬ failure.IsTold) :
    Requires False (.error failure : Except Failure α) :=
  ⟨False.elim, fun _ => ⟨failure, rfl, h⟩⟩

/-- One reader after another requires what both do. -/
theorem Requires.and {next : α → Except Failure β} (h : Requires condition outcome)
    (hnext : ∀ value, outcome = .ok value → Requires other (next value)) :
    Requires (condition ∧ other) (outcome >>= next) := by
  refine ⟨fun hboth => ?_, fun hnot => ?_⟩
  · obtain ⟨value, rfl⟩ := h.succeeds hboth.1
    exact (hnext value rfl).succeeds hboth.2
  · by_cases hcondition : condition
    · obtain ⟨value, rfl⟩ := h.succeeds hcondition
      exact (hnext value rfl).escapes fun hother => hnot ⟨hcondition, hother⟩
    · obtain ⟨failure, rfl, hfailure⟩ := h.escapes hcondition
      exact ⟨failure, rfl, hfailure⟩

/-- A result that is put in another form requires the same. -/
theorem Requires.map (h : Requires condition outcome) (change : α → β) :
    Requires condition (outcome >>= fun value => pure (change value)) :=
  (h.and fun value _ => requires_ok (change value)).congr (and_iff_left trivial)

/-- A check that ends in a failure requires that it is passed. -/
theorem Requires.unless {check : Prop} [Decidable check] (h : Requires condition outcome)
    (hfailure : ¬ failure.IsTold) :
    Requires (¬ check ∧ condition) (if check then .error failure else outcome) := by
  by_cases hcheck : check
  · rw [if_pos hcheck]
    exact (requires_error hfailure).congr (by simp [hcheck])
  · rw [if_neg hcheck]
    exact h.congr (by simp [hcheck])

/-- Reading a list requires what its items do. -/
theorem requires_mapM {item : α → Prop} {read : α → Except Failure β} {list : List α}
    (h : ∀ value ∈ list, Requires (item value) (read value)) :
    Requires (∀ value ∈ list, item value) (list.mapM read) := by
  induction list with
  | nil => exact (requires_ok []).congr (by simp)
  | cons value rest ih =>
      obtain ⟨hvalue, hrest⟩ := List.forall_mem_cons.1 h
      rw [List.mapM_cons]
      refine (hvalue.and fun first _ => (ih hrest).map (first :: ·)).congr ?_
      rw [List.forall_mem_cons]

end Outcomes

/-! ## Typed data -/

namespace Json

/-- A string. -/
def IsText : Json → Prop
  | .str _ => True
  | _ => False

/-- A string or nothing. -/
def IsOptionalText : Json → Prop
  | .null | .str _ => True
  | _ => False

/-- A list of values of a shape. -/
def IsListOf (shape : Json → Prop) : Json → Prop
  | .arr items => ∀ item ∈ items, shape item
  | _ => False

/-- An object with values of a shape. -/
def IsTableOf (shape : Json → Prop) : Json → Prop
  | .obj members => ∀ member ∈ members, shape member.2
  | _ => False

/-- A member is absent or has a shape. Of a repeated key the last value counts. -/
def MemberHas (members : List (String × Json)) (key : String) (shape : Json → Prop) : Prop :=
  ∀ value, Table.get? (Table.ofEntries members) key = some value → shape value

variable {α : Type} {shape : Json → Prop} {read : Json → Except Failure α}

/-- A reader of the values of a shape. -/
def Reads (read : Json → Except Failure α) (shape : Json → Prop) : Prop :=
  ∀ value, Requires (shape value) (read value)

/-- Data of a wrong type are not told. -/
theorem requires_invalidData : Requires False (.error .invalidData : Except Failure α) :=
  requires_error (by decide)

/-- Texts are read from strings. -/
theorem reads_toText : Reads toText IsText := by
  intro value
  cases value with
  | str text => exact requires_ok text
  | null | bool | int | float | arr | obj => exact requires_invalidData

/-- An optional text is read from a string or from nothing. -/
theorem reads_toText? : Reads toText? IsOptionalText := by
  intro value
  cases value with
  | null => exact requires_ok none
  | str text => exact requires_ok (some text)
  | bool | int | float | arr | obj => exact requires_invalidData

/-- A list is read if each of its items is. -/
theorem Reads.toList (h : Reads read shape) : Reads (toList read) (IsListOf shape) := by
  intro value
  cases value with
  | arr items => exact requires_mapM fun item _ => h item
  | null | bool | int | float | str | obj => exact requires_invalidData

/-- A table is read if each of its members is. -/
theorem Reads.toTable (h : Reads read shape) : Reads (toTable read) (IsTableOf shape) := by
  intro value
  cases value with
  | obj members =>
      have hmembers := requires_mapM fun (member : String × Json) (_ : member ∈ members) =>
        (h member.2).map fun result => (member.1, result)
      exact hmembers.map Table.ofEntries
  | null | bool | int | float | str | arr => exact requires_invalidData

/-- A value that is taken as it is. -/
theorem reads_ok : Reads (Except.ok : Json → Except Failure Json) fun _ => True :=
  fun value => requires_ok value

/-- A member that may be absent is read. -/
theorem Reads.field (h : Reads read shape) (members : List (String × Json)) (key : String)
    (default : α) :
    Requires (MemberHas members key shape)
      (field (Table.ofEntries members) key read default) := by
  unfold Json.field MemberHas
  cases Table.get? (Table.ofEntries members) key with
  | none => exact (requires_ok default).congr (by simp)
  | some value => exact (h value).congr (by simp)

end Json

/-! ## Metadata and catalogues -/

namespace Json

/-- An object without halves of surrogate pairs in its keys. The name and the author are texts or
null, the version is a text, and the dependencies are a list of objects, as far as they are
there. -/
def IsMetadata : Json → Prop
  | .obj members =>
    (∀ member ∈ Table.ofEntries members, Text.hasHalf member.1 = false) ∧
      MemberHas members "name" IsOptionalText ∧ MemberHas members "version" IsText ∧
      MemberHas members "author" IsOptionalText ∧
      MemberHas members "dependencies" (IsListOf (IsTableOf fun _ => True))
  | _ => False

/-- An object whose version is a text, whose resource types are an object of lists of texts, and
whose other symbols are lists of texts, as far as they are there. -/
def IsCatalogue : Json → Prop
  | .obj members =>
    MemberHas members "puppet_version" IsText ∧
      MemberHas members "resource_types" (IsTableOf (IsListOf IsText)) ∧
      MemberHas members "provider_classes" (IsListOf IsText) ∧
      MemberHas members "data_types" (IsListOf IsText) ∧
      MemberHas members "type_aliases" (IsListOf IsText) ∧
      MemberHas members "functions" (IsListOf IsText) ∧
      MemberHas members "legacy_functions" (IsListOf IsText)
  | _ => False

end Json

/-- Metadata are read if they have their shape. -/
theorem Metadata.reads_ofJson : Json.Reads ofJson Json.IsMetadata := by
  intro value
  cases value with
  | obj members =>
      have htable : Json.toTable Except.ok (.obj members) = .ok (Table.ofEntries members) := by
        show ((members.mapM fun member => (pure member : Except Failure _)) >>= fun entries =>
          pure (Table.ofEntries entries)) = _
        rw [List.mapM_pure, List.map_id']
        rfl
      have hfields := (Json.reads_toText?.field members "name" none).and fun name _ =>
        (Json.reads_toText.field members "version" absent.version).and fun version _ =>
          (Json.reads_toText?.field members "author" none).and fun author _ =>
            (Json.reads_ok.toTable.toList.field members "dependencies" []).map fun _ =>
              ({ name, version, author } : Metadata)
      unfold ofJson
      rw [htable]
      exact (hfields.unless (by decide)).congr (and_congr_left' (by simp))
  | null | bool | int | float | str | arr => exact requires_error (by decide)

/-- A catalogue is read if it has its shape. -/
theorem Builtins.reads_ofJson : Json.Reads ofJson Json.IsCatalogue := by
  intro value
  cases value with
  | obj members =>
      have hnames := Json.reads_toText.toList
      exact (Json.reads_toText.field members "puppet_version" "").and fun _ _ =>
        (hnames.toTable.field members "resource_types" []).and fun _ _ =>
          (hnames.field members "provider_classes" []).and fun _ _ =>
            (hnames.field members "data_types" []).and fun _ _ =>
              (hnames.field members "type_aliases" []).and fun _ _ =>
                (hnames.field members "functions" []).and fun _ _ =>
                  (hnames.field members "legacy_functions" []).map _
  | null | bool | int | float | str | arr => exact requires_error (by decide)

/-! ## Syntax trees -/

namespace Json

/-- An integer, or a number, flag or text that denotes one. -/
def DenotesInteger : Json → Prop
  | .int _ | .bool _ => True
  | .float value => value.truncate? ≠ none
  | .str text => Text.readInt? text ≠ none
  | _ => False

/-- The entries of a list or a text by position. -/
def spanEntries : Json → List Json
  | .arr items => items
  | .str text => (Text.characters text).map .str
  | _ => []

/-- A span that counts as present starts with two integers. -/
def IsSpan (span : Json) : Prop :=
  span.isTruthy = true → ∃ offset length rest, span.spanEntries = offset :: length :: rest ∧
    offset.DenotesInteger ∧ length.DenotesInteger

/-- Data on which an operation is not defined are not told. -/
theorem requires_undefinedOperation {α : Type} :
    Requires False (.error .undefinedOperation : Except Failure α) :=
  requires_error (by decide)

/-- A text that denotes nothing is not told. -/
theorem requires_badValue {α : Type} : Requires False (.error .badValue : Except Failure α) :=
  requires_error (by decide)

/-- An integer is read if the value denotes one. -/
theorem reads_toInteger : Reads toInteger DenotesInteger := by
  intro value
  cases value with
  | int value => exact requires_ok value
  | bool value => exact requires_ok (if value then 1 else 0)
  | float value =>
      cases value with
      | nan => exact requires_badValue.congr (by simp [DenotesInteger, Binary64.truncate?])
      | infinite negative =>
          exact requires_undefinedOperation.congr (by simp [DenotesInteger, Binary64.truncate?])
      | finite negative mantissa exponent =>
          exact (requires_ok _).congr (by simp [DenotesInteger, Binary64.truncate?])
  | str text =>
      simp only [toInteger, DenotesInteger]
      cases Text.readInt? text with
      | some integer => exact (requires_ok integer).congr (by simp)
      | none => exact requires_badValue.congr (by simp)
  | null | arr | obj => exact requires_undefinedOperation

/-- An entry is found by its position among the entries. -/
theorem spanEntry_eq (span : Json) (position : Nat) :
    span.spanEntry position =
      match span.spanEntries[position]? with
      | some entry => .ok entry
      | none => .error .undefinedOperation := by
  cases span with
  | arr items => rfl
  | str text =>
      simp only [spanEntry, spanEntries, List.getElem?_map]
      cases (Text.characters text)[position]? <;> rfl
  | null | bool | int | float | obj => rfl

/-- A span is read if it is one. -/
theorem reads_toSpan : Reads toSpan IsSpan := by
  intro span
  unfold toSpan IsSpan
  cases span.isTruthy with
  | false => exact (requires_ok ((0, 0) : Int × Int)).congr (by simp)
  | true =>
      rw [if_pos rfl, spanEntry_eq, spanEntry_eq]
      match span.spanEntries with
      | [] => exact requires_undefinedOperation.congr (by simp)
      | [offset] =>
          have hlength : Requires False (.error .undefinedOperation : Except Failure (Int × Int)) :=
            requires_undefinedOperation
          exact ((reads_toInteger offset).and fun _ _ => hlength).congr (by simp)
      | offset :: length :: rest =>
          have hboth := (reads_toInteger offset).and fun first _ =>
            (reads_toInteger length).map fun second => (first, second)
          refine hboth.congr ⟨fun h _ => ⟨offset, length, rest, rfl, h⟩, fun h => ?_⟩
          obtain ⟨_, _, _, hentries, h⟩ := h rfl
          cases hentries
          exact h

/-- What a field of a syntax tree may hold: any scalar, any object without a kind, a list of such
values, or a node. A node has a span, and its fields hold such values; fields that are no object
have to count as absent. -/
inductive IsFieldValue : Json → Prop
  /-- Neither a list nor an object. -/
  | scalar {value : Json} (hitems : ∀ items, value ≠ .arr items)
    (hmembers : ∀ members, value ≠ .obj members) : IsFieldValue value
  /-- An object that is no node. -/
  | plain {members : List (String × Json)} (hkind : Table.hasKey members "kind" = false) :
    IsFieldValue (.obj members)
  /-- A list. -/
  | list {items : List Json} (hitems : ∀ item ∈ items, IsFieldValue item) :
    IsFieldValue (.arr items)
  /-- A node without fields. -/
  | bare {members : List (String × Json)} (hspan : ((Table.get? members "span").getD .null).IsSpan)
    (hfields : ((Table.get? members "fields").getD .null).isTruthy = false) :
    IsFieldValue (.obj members)
  /-- A node with fields. -/
  | node {members fields : List (String × Json)}
    (hspan : ((Table.get? members "span").getD .null).IsSpan)
    (hfields : Table.get? members "fields" = some (.obj fields))
    (hvalues : ∀ field ∈ fields, IsFieldValue field.2) : IsFieldValue (.obj members)

/-- What the member `fields` of a node may hold. -/
def IsFieldTable (value : Json) : Prop :=
  value.isTruthy = false ∨ ∃ fields, value = .obj fields ∧ ∀ field ∈ fields, IsFieldValue field.2

/-- The items of a list are values of fields. -/
theorem isFieldValue_arr_iff {items : List Json} :
    IsFieldValue (.arr items) ↔ ∀ item ∈ items, IsFieldValue item := by
  refine ⟨fun h => ?_, .list⟩
  cases h with
  | scalar hitems => exact absurd rfl (hitems items)
  | list hitems => exact hitems

/-- A node has a span and fields. -/
theorem isFieldValue_obj_iff {members : List (String × Json)}
    (hkind : Table.hasKey members "kind" = true) :
    IsFieldValue (.obj members) ↔
      ((Table.get? members "fields").getD .null).IsFieldTable ∧
        ((Table.get? members "span").getD .null).IsSpan := by
  constructor
  · intro h
    cases h with
    | scalar _ hmembers => exact absurd rfl (hmembers members)
    | plain hplain => rw [hkind] at hplain; cases hplain
    | bare hspan hfields => exact ⟨.inl hfields, hspan⟩
    | node hspan hfields hvalues =>
        rw [hfields]
        exact ⟨.inr ⟨_, rfl, hvalues⟩, hspan⟩
  · rintro ⟨hfalsy | ⟨fields, hfields, hvalues⟩, hspan⟩
    · exact .bare hspan hfalsy
    · cases hget : Table.get? members "fields" with
      | none => rw [hget] at hfields; cases hfields
      | some value =>
          rw [hget] at hfields
          cases hfields
          exact .node hspan hget hvalues

end Json

/-- A node is put together if its span is one. -/
theorem requires_assembleNode (members : List (String × Json)) (fields : List (String × Value)) :
    Requires ((Table.get? members "span").getD .null).IsSpan (assembleNode members fields) :=
  (Json.reads_toSpan _).map _

/-- A node is read if its fields and its span are. -/
theorem requires_node {members : List (String × Json)}
    (hfields : Requires ((Table.get? members "fields").getD .null).IsFieldTable
      (fieldsAmong members)) (hkind : Table.hasKey members "kind" = true) :
    Requires (Json.obj members).IsFieldValue
      (fieldsAmong members >>= fun fields => assembleNode members fields) :=
  (hfields.and fun fields _ => requires_assembleNode members fields).congr
    (Json.isFieldValue_obj_iff hkind).symm

mutual
/-- The value of a field is read if it is one. -/
theorem requires_value : ∀ value : Json, Requires value.IsFieldValue (Value.ofJson value)
  | .null | .bool _ | .int _ | .float _ | .str _ => by
      rw [Value.ofJson]
      · exact (requires_ok _).congr
          (iff_of_true trivial (.scalar (fun _ h => by cases h) fun _ h => by cases h))
      all_goals intro _ h; cases h
  | .arr items => by
      rw [Value.ofJson]
      exact ((requires_items items).map Value.list).congr Json.isFieldValue_arr_iff.symm
  | .obj members => by
      rw [Value.ofJson]
      cases hkind : Table.hasKey members "kind" with
      | false => exact (requires_ok _).congr (iff_of_true trivial (.plain hkind))
      | true =>
          have hnode := (requires_node (requires_fieldsAmong members) hkind).map Value.node
          rw [bind_assoc] at hnode
          exact hnode

/-- The items of a list are read if they are values of fields. -/
theorem requires_items : ∀ items : List Json,
    Requires (∀ item ∈ items, item.IsFieldValue) (valuesOfItems items)
  | [] => (requires_ok []).congr (by simp)
  | item :: rest => by
      have hitems := (requires_value item).and fun value _ => (requires_items rest).map (value :: ·)
      exact hitems.congr List.forall_mem_cons.symm

/-- The fields of a node are read if the member that holds them is well-formed. -/
theorem requires_fieldsAmong : ∀ members : List (String × Json),
    Requires ((Table.get? members "fields").getD .null).IsFieldTable (fieldsAmong members)
  | [] => (requires_ok []).congr (iff_of_true trivial (.inl rfl))
  | (key, value) :: rest => by
      unfold fieldsAmong Table.get?
      split
      · exact requires_fieldsOf value
      · exact requires_fieldsAmong rest

/-- The member that holds the fields of a node is read if it is well-formed. -/
theorem requires_fieldsOf : ∀ value : Json, Requires value.IsFieldTable (fieldsOf value)
  | .obj fields => by
      rw [fieldsOf]
      refine (requires_members fields).congr ⟨fun h => .inr ⟨fields, rfl, h⟩, ?_⟩
      rintro (hempty | ⟨_, hsame, h⟩)
      · have hnone : fields = [] := by simpa [Json.isTruthy] using hempty
        simp [hnone]
      · cases hsame
        exact h
  | .null | .bool _ | .int _ | .float _ | .str _ | .arr _ => by
      rw [fieldsOf]
      · split
        · next htruthy =>
            exact Json.requires_undefinedOperation.congr (by simp [Json.IsFieldTable, htruthy])
        · next hfalsy => exact (requires_ok []).congr (by simp [Json.IsFieldTable, hfalsy])
      · intro _ h
        cases h

/-- The fields of a node are read if their values are. -/
theorem requires_members : ∀ fields : List (String × Json),
    Requires (∀ field ∈ fields, field.2.IsFieldValue) (fieldsOfMembers fields)
  | [] => (requires_ok []).congr (by simp)
  | (name, value) :: rest => by
      have hfields := (requires_value value).and fun read _ =>
        (requires_members rest).map ((name, read) :: ·)
      exact hfields.congr (by rw [List.forall_mem_cons])
end

namespace Json

/-- What is answered where a tree of a number of levels is expected: an object, and if it has a
kind, then a node of a tree that is not deeper. An object without a kind is told to be no node. -/
def AnswersAsTree (levels : Nat) : Json → Prop
  | .obj members =>
    Table.hasKey members "kind" = true → treeDepth members ≤ levels ∧ IsFieldValue (.obj members)
  | _ => False

/-- What is answered where a dump with a tree of a number of levels is expected. The entry for the
tree is looked for in every text, list or object, and a missing one is told; it can be read from an
object only. -/
def AnswersAsDump (levels : Nat) : Json → Prop
  | .str text => Text.hasInfix "tree".toList text.toList = false
  | .arr items => ∀ item ∈ items, item.sameValue (.str "tree") = false
  | .obj members => ∀ tree, Table.get? members "tree" = some tree → tree.AnswersAsTree levels
  | _ => False

end Json

/-- A result that is put in another form is contained if the result is. -/
theorem contained_map {α β : Type} {outcome : Except Failure α} (change : α → β) :
    Contained (outcome >>= fun value => pure (change value)) ↔ Contained outcome := by
  cases outcome with
  | ok value => exact iff_of_true (contained_ok _) (contained_ok _)
  | error failure => exact contained_error.trans contained_error.symm

/-- Reading a tree is contained if the value is answered as one. -/
theorem Node.contained_ofJson_iff (levels : Nat) (value : Json) :
    Contained (Node.ofJson levels value) ↔ value.AnswersAsTree levels := by
  cases value with
  | obj members =>
      simp only [Node.ofJson, Json.AnswersAsTree]
      cases hkind : Table.hasKey members "kind" with
      | false => exact iff_of_true (contained_error.2 rfl) fun h => by cases h
      | true =>
          have hnode := requires_node (requires_fieldsAmong members) hkind
          rw [if_pos rfl, ← Nat.not_lt]
          exact (hnode.unless (by decide)).contained_iff.trans ⟨fun h _ => h, fun h => h rfl⟩
  | null | bool | int | float | str | arr => exact Json.requires_undefinedOperation.contained_iff

/-- Reading a dump is contained if the value is answered as one. -/
theorem SourceTree.contained_ofJson_iff (levels : Nat) (dump : String) (value : Json) :
    Contained (ofJson levels dump value) ↔ value.AnswersAsDump levels := by
  cases value with
  | str text =>
      simp only [ofJson, mentionsTree, Json.AnswersAsDump]
      cases Text.hasInfix "tree".toList text.toList with
      | false => exact iff_of_true (contained_error.2 rfl) rfl
      | true => exact Json.requires_undefinedOperation.contained_iff.trans (by simp)
  | arr items =>
      simp only [ofJson, mentionsTree, Json.AnswersAsDump]
      cases hany : items.any fun item => item.sameValue (.str "tree") with
      | false => exact iff_of_true (contained_error.2 rfl) (by simpa using hany)
      | true =>
          refine Json.requires_undefinedOperation.contained_iff.trans
            (iff_of_false id fun hall => ?_)
          obtain ⟨item, hitem, hsame⟩ := List.any_eq_true.1 hany
          rw [hall item hitem] at hsame
          cases hsame
  | obj members =>
      simp only [ofJson, mentionsTree, Json.AnswersAsDump, Table.hasKey]
      cases Table.get? members "tree" with
      | none => exact iff_of_true (contained_error.2 rfl) fun _ h => by cases h
      | some tree =>
          refine (contained_map _).trans ((Node.contained_ofJson_iff levels tree).trans ?_)
          simp
  | null | bool | int | float => exact Json.requires_undefinedOperation.contained_iff

end ModuleGraph
