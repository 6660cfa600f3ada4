import ModuleGraph.Proofs.Routes

/-!
# Which names a construct designates

Reading a construct claims the names whose meaning it settles. `mem_claims_iff_designates` says
that the claims of a node that can be read are the ways along its routes, and nothing else.

There is one lemma a construct, which follows its definition. It compares the claims made on the way
through the fields with the routes of its kind.
-/

namespace ModuleGraph

namespace Reading

/-! ## The claims of each construct -/

/-- A reference to a name settles the meaning of no node. -/
@[simp] theorem claims_refer (file : SourceFile) (category : Category) (name : String) :
    (refer file category name).claims = [] := rfl

/-- Where nothing is read, nothing is claimed. -/
@[simp] theorem claims_nothing : nothing.claims = [] := rfl

/-- A reference claims nothing. -/
theorem claims_referTo (file : SourceFile) (category : Category) (value : Value) :
    (referTo file category value).claims = [] := by
  unfold referTo
  split <;> rfl

/-- A construct that is not supported ends the reading. -/
@[simp] theorem failure_unsupported_ne (file : SourceFile) (node : Node)
    (construct found : String) : (unsupported file node construct found).failure ≠ none := by
  unfold unsupported
  split <;> exact Option.some_ne_none _

variable {file : SourceFile} {ancestors : List Node} {node : Node} {way : Claim}

/-- A claim with something that claims nothing. -/
theorem mem_claims_claim_append {front : Claim} {reading : Reading} (h : reading.claims = []) :
    way ∈ (claim front ++ reading).claims ↔ way = front := by
  rw [claims_append rfl, h, List.append_nil]
  exact List.mem_singleton

/-- Claims on all elements of a field that can name a symbol. -/
theorem mem_claims_each_symbol {name : String} {read : Nat → Value → Reading}
    (h : (each (node.field name) read).failure = none)
    (hread : ∀ index value, way ∈ (read index value).claims ↔
      ∃ symbol, value.nodeOf? symbolKinds = some symbol ∧ way = [⟨name, some index⟩]) :
    way ∈ (each (node.field name) read).claims ↔
      node.follows [.any name symbolKinds] way = true := by
  simp only [mem_claims_each h, hread, follows_any, follows_nil]
  constructor
  · intro hgiven
    obtain ⟨index, value, hvalue, symbol, hsymbol, rfl⟩ := hgiven
    exact ⟨index, _, value, symbol, rfl, hvalue, hsymbol, rfl⟩
  · intro hgiven
    obtain ⟨index, _, value, symbol, rfl, hvalue, hsymbol, rfl⟩ := hgiven
    exact ⟨index, value, hvalue, symbol, hsymbol, rfl⟩

/-- The target of an assignment is a variable with a name, and the name is claimed. -/
theorem assignmentTarget_claims {target : Value}
    (h : (assignmentTarget file ancestors node way target).failure = none) :
    ∃ found name, target.nodeOf? ["VariableExpression"] = some found ∧
      (found.field "expr").nodeOf? ["QualifiedName"] = some name ∧
      (assignmentTarget file ancestors node way target).claims = [way ++ [⟨"expr", none⟩]] := by
  unfold assignmentTarget at h ⊢
  split at h
  · exact absurd h (failure_unsupported_ne _ _ _ _)
  · next found hfound =>
      split at h
      · exact absurd h (failure_unsupported_ne _ _ _ _)
      · next name hname =>
          refine ⟨found, name, hfound, hname, ?_⟩
          rw [claims_append rfl]
          split
          · split <;> rfl
          · rfl

/-- The claims of an assignment. -/
theorem mem_claims_assignment (h : (assignment file ancestors node).failure = none) :
    way ∈ (assignment file ancestors node).claims ↔
      ∃ route ∈ node.routesOfKind "AssignmentExpression", node.follows route way = true := by
  simp only [Node.routesOfKind, List.mem_cons, List.not_mem_nil, or_false, exists_eq_or_imp,
    exists_eq_left, follows_field, follows_any, follows_nil]
  unfold assignment at h ⊢
  dsimp only at h ⊢
  split at h
  · next list hlist =>
      -- A list of targets is no single one, so only the second route is left.
      have hsingle := Value.nodeOf?_eq_none ["VariableExpression"] hlist (by decide)
      simp only [hlist, hsingle, mem_claims_each h]
      constructor
      · intro hgiven
        obtain ⟨index, target, htarget, hway⟩ := hgiven
        obtain ⟨found, name, hfound, hname, hclaims⟩ :=
          assignmentTarget_claims (failure_of_each h htarget)
        rw [hclaims, List.mem_singleton] at hway
        refine Or.inr ⟨_, list, hway, rfl, index, _, target, found, rfl, htarget, hfound, _, name,
          rfl, hname, rfl⟩
      · intro hcases
        rcases hcases with ⟨_, _, _, hnone, _⟩ |
          ⟨_, next, rfl, hnext, index, _, target, found, rfl, htarget, hfound, _, name, rfl, hname,
            rfl⟩
        · cases hnone
        · cases hnext
          obtain ⟨_, _, _, _, hclaims⟩ := assignmentTarget_claims (failure_of_each h htarget)
          exact ⟨index, target, htarget, by rw [hclaims]; exact List.mem_singleton_self _⟩
  · next hlist =>
      obtain ⟨found, name, hfound, hname, hclaims⟩ := assignmentTarget_claims h
      simp only [hlist, hclaims, hfound, List.mem_singleton]
      constructor
      · intro heq
        subst heq
        exact Or.inl ⟨_, found, rfl, rfl, _, name, rfl, hname, rfl⟩
      · intro hcases
        rcases hcases with ⟨_, _, rfl, _, _, _, rfl, _, rfl⟩ | ⟨_, _, _, hnone, _⟩
        · rfl
        · cases hnone

/-- The claims of a variable. -/
theorem mem_claims_variableUse (h : (variableUse file node).failure = none) :
    way ∈ (variableUse file node).claims ↔
      ∃ route ∈ node.routesOfKind "VariableExpression", node.follows route way = true := by
  simp only [Node.routesOfKind, List.mem_singleton, exists_eq_left]
  unfold variableUse at h ⊢
  dsimp only at h ⊢
  split at h
  · next name hname =>
      rw [follows_field_only hname, mem_claims_claim_append]
      split
      · simp only [apply_ite Reading.claims, claims_nothing, claims_refer, ite_self]
      · rfl
  · next hname =>
      split at h
      · simp [follows_field_none hname]
      · exact absurd h (failure_unsupported_ne _ _ _ _)

/-- The claim on a name that may stand for a class. -/
theorem mem_claims_className {refers : Bool} {front : Claim} {entry : Value} :
    way ∈ (className file refers front entry).claims ↔
      ∃ name, entry.nodeOf? symbolKinds = some name ∧ way = front := by
  unfold className
  cases hentry : entry.nodeOf? symbolKinds with
  | none => simp
  | some name =>
      rw [mem_claims_claim_append]
      · simp
      · cases refers <;> rfl

/-- The claims on the names in a list that may stand for classes. -/
theorem mem_claims_classNames {refers : Bool} {front : Claim} {list : Node}
    (h : (each (list.field "values") fun position entry =>
      className file refers (front ++ [⟨"values", some position⟩]) entry).failure = none) :
    way ∈ (each (list.field "values") fun position entry =>
        className file refers (front ++ [⟨"values", some position⟩]) entry).claims ↔
      ∃ rest, way = front ++ rest ∧ list.follows [.any "values" symbolKinds] rest = true := by
  simp only [mem_claims_each h, mem_claims_className, follows_any, follows_nil]
  constructor
  · intro hgiven
    obtain ⟨position, entry, hentry, name, hname, rfl⟩ := hgiven
    exact ⟨_, rfl, position, _, entry, name, rfl, hentry, hname, rfl⟩
  · intro hgiven
    obtain ⟨_, rfl, position, _, entry, name, rfl, hentry, hname, rfl⟩ := hgiven
    exact ⟨position, entry, hentry, name, hname, rfl⟩

/-- The claims of a resource body. -/
theorem mem_claims_bodyTitles {ofClass : Bool} {index : Nat} {body : Value}
    (h : (bodyTitles file ofClass index body).failure = none) :
    way ∈ (bodyTitles file ofClass index body).claims ↔
      ∃ rest, way = ⟨"bodies", some index⟩ :: rest ∧ ∃ next, body.node? = some next ∧
        (next.follows [.field "title" symbolKinds] rest = true ∨
          next.follows [.field "title" ["LiteralList"], .any "values" symbolKinds] rest =
            true) := by
  unfold bodyTitles at h ⊢
  cases hbody : body.node? with
  | none => simp [nothing]
  | some next =>
      simp only [hbody, Option.bind_some] at h ⊢
      simp only [Option.some.injEq, exists_eq_left', follows_field, follows_nil]
      cases htitle : next.field "title" with
      | scalar | list => simp [Value.nodeOf?, Value.node?, nothing]
      | node title =>
          simp only [htitle, Value.node?, Value.nodeOf?_node] at h ⊢
          -- A title is a list of names or a name; each excludes the other route.
          by_cases hlist : title.isKind "LiteralList" = true
          · have hname : title.isOneOf symbolKinds = false :=
              title.isOneOf_eq_false hlist (by decide)
            have hkind : title.isOneOf ["LiteralList"] = true := by simp [Node.isOneOf, hlist]
            simp only [hlist, if_true] at h ⊢
            rw [mem_claims_classNames h]
            simp only [hname, hkind, Bool.false_eq_true, if_false, if_true, Option.some.injEq]
            constructor
            · intro hgiven
              obtain ⟨rest, rfl, hrest⟩ := hgiven
              exact ⟨_, rfl, Or.inr ⟨rest, title, rfl, rfl, hrest⟩⟩
            · intro hgiven
              obtain ⟨_, rfl, ⟨_, _, _, hnone, _⟩ | ⟨rest, _, rfl, rfl, hrest⟩⟩ := hgiven
              · cases hnone
              · exact ⟨rest, rfl, hrest⟩
          · have hkind : title.isOneOf ["LiteralList"] = false := by simp [Node.isOneOf, hlist]
            simp only [hlist, Bool.false_eq_true, if_false] at h ⊢
            rw [mem_claims_className]
            simp only [Value.nodeOf?_node, hkind, Bool.false_eq_true, if_false]
            constructor
            · intro hgiven
              obtain ⟨name, hname, rfl⟩ := hgiven
              exact ⟨_, rfl, Or.inl ⟨_, name, rfl, hname, rfl⟩⟩
            · intro hgiven
              obtain ⟨_, rfl, ⟨_, name, rfl, hname, rfl⟩ | ⟨_, _, _, hnone, _⟩⟩ := hgiven
              · exact ⟨name, hname, rfl⟩
              · cases hnone

/-- The claims of the bodies of a resource. -/
theorem mem_claims_bodies {ofClass : Bool}
    (h : (each (node.field "bodies") (bodyTitles file ofClass)).failure = none) :
    way ∈ (each (node.field "bodies") (bodyTitles file ofClass)).claims ↔
      node.follows [.anyNode "bodies", .field "title" symbolKinds] way = true ∨
        node.follows [.anyNode "bodies", .field "title" ["LiteralList"], .any "values" symbolKinds]
          way = true := by
  rw [mem_claims_each h, follows_anyNode, follows_anyNode]
  constructor
  · intro hgiven
    obtain ⟨index, body, hbody, hway⟩ := hgiven
    obtain ⟨rest, rfl, next, hnext, htitle | htitles⟩ :=
      (mem_claims_bodyTitles (failure_of_each h hbody)).1 hway
    · exact Or.inl ⟨index, rest, body, next, rfl, hbody, hnext, htitle⟩
    · exact Or.inr ⟨index, rest, body, next, rfl, hbody, hnext, htitles⟩
  · intro hcases
    rcases hcases with ⟨index, rest, body, next, rfl, hbody, hnext, htitle⟩ |
      ⟨index, rest, body, next, rfl, hbody, hnext, htitles⟩
    · exact ⟨index, body, hbody, (mem_claims_bodyTitles (failure_of_each h hbody)).2
        ⟨rest, rfl, next, hnext, Or.inl htitle⟩⟩
    · exact ⟨index, body, hbody, (mem_claims_bodyTitles (failure_of_each h hbody)).2
        ⟨rest, rfl, next, hnext, Or.inr htitles⟩⟩

/-- The claims of a resource declaration. -/
theorem mem_claims_resource (h : (resource file node).failure = none) :
    way ∈ (resource file node).claims ↔
      ∃ route ∈ node.routesOfKind "ResourceExpression", node.follows route way = true := by
  simp only [Node.routesOfKind, List.mem_cons, List.not_mem_nil, or_false, exists_eq_or_imp,
    exists_eq_left]
  unfold resource at h ⊢
  dsimp only at h ⊢
  split at h
  · next name hname =>
      obtain ⟨hname', hbodies⟩ := failure_append_eq_none.1 h
      rw [claims_append hname', List.mem_append, mem_claims_bodies hbodies,
        follows_field_only hname, mem_claims_claim_append]
      simp only [apply_ite Reading.claims, claims_nothing, claims_referTo, ite_self]
  · next hname =>
      split at h
      · rw [mem_claims_bodies h, follows_field_none hname]
        simp
      · exact absurd h (failure_unsupported_ne _ _ _ _)

/-- The claims of a call in method form. -/
theorem mem_claims_methodCall (h : (methodCall file node).failure = none) :
    way ∈ (methodCall file node).claims ↔
      ∃ route ∈ node.routesOfKind "CallMethodExpression", node.follows route way = true := by
  simp only [Node.routesOfKind, List.mem_singleton, exists_eq_left]
  unfold methodCall at h ⊢
  dsimp only at h ⊢
  split at h
  · exact absurd h (failure_unsupported_ne _ _ _ _)
  · next access haccess =>
      split at h
      · exact absurd h (failure_unsupported_ne _ _ _ _)
      · next name hname =>
          rw [claims_append rfl, claims_referTo, List.append_nil, follows_field]
          constructor
          · intro hway
            rw [List.mem_singleton.1 hway]
            exact ⟨_, access, rfl, haccess, (follows_field_only hname).2 rfl⟩
          · intro hgiven
            obtain ⟨_, next, rfl, hnext, hrest⟩ := hgiven
            rw [haccess] at hnext
            cases hnext
            rw [(follows_field_only hname).1 hrest]
            exact List.mem_singleton_self _

/-- The claims of an access by key. -/
theorem mem_claims_access (h : (access file node).failure = none) :
    way ∈ (access file node).claims ↔
      ∃ route ∈ node.routesOfKind "AccessExpression", node.follows route way = true := by
  simp only [Node.routesOfKind]
  unfold access at h ⊢
  dsimp only at h ⊢
  split at h
  · next target htarget =>
      simp only [htarget, Option.isSome_some, if_true, List.mem_singleton, exists_eq_left]
      refine mem_claims_each_symbol h fun index key => ?_
      cases key.nodeOf? symbolKinds with
      | none => simp
      | some name =>
          rw [mem_claims_claim_append]
          · simp
          · simp only [apply_ite Reading.claims, claims_nothing, claims_refer, ite_self]
  · next hleft =>
      split at h
      · simp [hleft]
      · exact absurd h (failure_unsupported_ne _ _ _ _)

/-- The claim on the argument that names a resource type. -/
theorem mem_claims_resourceTypeArgument {argument : Value}
    (h : (resourceTypeArgument file node argument).failure = none) :
    way ∈ (resourceTypeArgument file node argument).claims ↔
      ∃ name, argument.nodeOf? symbolKinds = some name ∧ way = [⟨"arguments", some 0⟩] := by
  unfold resourceTypeArgument at h ⊢
  dsimp only at h ⊢
  split at h
  · rw [mem_claims_claim_append (claims_refer _ _ _)]
    simp [*]
  · split at h
    · simp [*]
    · exact absurd h (failure_unsupported_ne _ _ _ _)

/-- The claims on an argument that names classes. -/
theorem mem_claims_classArgument {index : Nat} {argument : Value}
    (h : (classArgument file node index argument).failure = none) :
    way ∈ (classArgument file node index argument).claims ↔
      ∃ rest next, way = ⟨"arguments", some index⟩ :: rest ∧
        (argument.nodeOf? symbolKinds = some next ∧ rest = [] ∨
          argument.nodeOf? ["LiteralList"] = some next ∧
            next.follows [.any "values" symbolKinds] rest = true) := by
  unfold classArgument at h ⊢
  dsimp only at h ⊢
  split at h
  · next name hname =>
      have hlist := Value.nodeOf?_eq_none ["LiteralList"] hname (by decide)
      rw [mem_claims_className, hname, hlist]
      constructor
      · intro hgiven
        obtain ⟨_, _, rfl⟩ := hgiven
        exact ⟨_, name, rfl, Or.inl ⟨rfl, rfl⟩⟩
      · intro hgiven
        obtain ⟨_, _, rfl, ⟨_, rfl⟩ | ⟨hnone, _⟩⟩ := hgiven
        · exact ⟨name, rfl, rfl⟩
        · cases hnone
  · next hname =>
      split at h
      · next list hlist =>
          rw [mem_claims_classNames h, hname, hlist]
          constructor
          · intro hgiven
            obtain ⟨rest, rfl, hrest⟩ := hgiven
            exact ⟨rest, list, rfl, Or.inr ⟨rfl, hrest⟩⟩
          · intro hgiven
            obtain ⟨rest, _, rfl, ⟨hnone, _⟩ | ⟨hsome, hrest⟩⟩ := hgiven
            · cases hnone
            · cases hsome
              exact ⟨rest, rfl, hrest⟩
      · next hlist =>
          split at h
          · simp [hname, hlist]
          · exact absurd h (failure_unsupported_ne _ _ _ _)

/-- The claims on arguments that name classes. -/
theorem mem_claims_classArguments
    (h : (each (node.field "arguments") (classArgument file node)).failure = none) :
    way ∈ (each (node.field "arguments") (classArgument file node)).claims ↔
      node.follows [.any "arguments" symbolKinds] way = true ∨
        node.follows [.any "arguments" ["LiteralList"], .any "values" symbolKinds] way = true := by
  rw [mem_claims_each h, follows_any, follows_any]
  constructor
  · intro hgiven
    obtain ⟨index, argument, hargument, hway⟩ := hgiven
    obtain ⟨rest, next, rfl, ⟨hname, hrest⟩ | ⟨hlist, hrest⟩⟩ :=
      (mem_claims_classArgument (failure_of_each h hargument)).1 hway
    · exact Or.inl ⟨index, rest, argument, next, rfl, hargument, hname, follows_nil.2 hrest⟩
    · exact Or.inr ⟨index, rest, argument, next, rfl, hargument, hlist, hrest⟩
  · intro hcases
    rcases hcases with ⟨index, rest, argument, next, rfl, hargument, hname, hrest⟩ |
      ⟨index, rest, argument, next, rfl, hargument, hlist, hrest⟩
    · exact ⟨index, argument, hargument, (mem_claims_classArgument (failure_of_each h hargument)).2
        ⟨rest, next, rfl, Or.inl ⟨hname, follows_nil.1 hrest⟩⟩⟩
    · exact ⟨index, argument, hargument, (mem_claims_classArgument (failure_of_each h hargument)).2
        ⟨rest, next, rfl, Or.inr ⟨hlist, hrest⟩⟩⟩

/-- The first element of a value is the one at the front. -/
theorem element?_zero_of_firstElement {value element : Value}
    (h : firstElement value = .ok element) :
    value.element? 0 = some element := by
  unfold firstElement at h
  split at h
  · cases h
    rfl
  · next text =>
      split at h
      · next c rest htext =>
          cases h
          simp [Value.element?, Value.elements, htext]
      · cases h
  · cases h

/-- A value that counts as absent has no elements. -/
theorem element?_of_not_isTruthy {value : Value} (h : ¬ value.isTruthy = true) (index : Nat) :
    value.element? index = none := by
  cases value with
  | node => exact absurd rfl h
  | list items =>
      have hitems : items = [] := by simpa [Value.isTruthy] using h
      simp [Value.element?, Value.elements, hitems]
  | scalar value =>
      cases value with
      | str text =>
          have htext : text = "" := by simpa [Value.isTruthy, Json.isTruthy] using h
          subst htext
          rfl
      | obj members =>
          have hmembers : members = [] := by simpa [Value.isTruthy, Json.isTruthy] using h
          subst hmembers
          rfl
      | null | bool | int | float | arr => simp [Value.element?, Value.elements, h]

/-- The claims on the arguments of a function that creates resources. -/
theorem mem_claims_creating {name : String}
    (h : (if name ∈ creatingFunctions ∧ (node.field "arguments").isTruthy then
        match firstElement (node.field "arguments") with
        | .ok argument => resourceTypeArgument file node argument
        | .error failure => fail failure
      else nothing).failure = none) :
    way ∈ (if name ∈ creatingFunctions ∧ (node.field "arguments").isTruthy then
        match firstElement (node.field "arguments") with
        | .ok argument => resourceTypeArgument file node argument
        | .error failure => fail failure
      else nothing).claims ↔
      name ∈ creatingFunctions ∧ node.follows [.first "arguments" symbolKinds] way = true := by
  simp only [follows_first, follows_nil]
  split at h
  · next hname =>
      rw [if_pos hname]
      cases hfirst : firstElement (node.field "arguments") with
      | error failure =>
          rw [hfirst] at h
          cases h
      | ok argument =>
          rw [hfirst] at h
          simp only [mem_claims_resourceTypeArgument h, hname.1, true_and,
            element?_zero_of_firstElement hfirst, Option.some.injEq]
          constructor
          · intro hgiven
            obtain ⟨found, hfound, rfl⟩ := hgiven
            exact ⟨_, argument, found, rfl, rfl, hfound, rfl⟩
          · intro hgiven
            obtain ⟨_, _, found, rfl, rfl, hfound, rfl⟩ := hgiven
            exact ⟨found, hfound, rfl⟩
  · next hname =>
      rw [if_neg hname]
      simp only [claims_nothing, List.not_mem_nil, false_iff]
      intro hgiven
      obtain ⟨hcreating, _, argument, _, _, hargument, _⟩ := hgiven
      -- Arguments that count as absent have no first element.
      have habsent : ¬ (node.field "arguments").isTruthy = true := fun htruthy =>
        hname ⟨hcreating, htruthy⟩
      rw [element?_of_not_isTruthy habsent] at hargument
      cases hargument

/-- The routes to the names among the arguments of a call. -/
theorem exists_argumentRoutes {name : String} :
    (∃ route ∈ argumentRoutes name, node.follows route way = true) ↔
      (name ∈ creatingFunctions ∧ node.follows [.first "arguments" symbolKinds] way = true) ∨
        (name ∈ includingFunctions ∧
          (node.follows [.any "arguments" symbolKinds] way = true ∨
            node.follows [.any "arguments" ["LiteralList"], .any "values" symbolKinds] way =
              true)) := by
  unfold argumentRoutes
  by_cases hcreating : name ∈ creatingFunctions <;>
    by_cases hincluding : name ∈ includingFunctions <;>
    simp [hcreating, hincluding]

/-- The claims of a call in function form. -/
theorem mem_claims_functionCall (h : (functionCall file node).failure = none) :
    way ∈ (functionCall file node).claims ↔
      ∃ route ∈ node.routesOfKind "CallNamedFunctionExpression", node.follows route way = true := by
  simp only [Node.routesOfKind, List.mem_cons, exists_eq_or_imp]
  unfold functionCall at h ⊢
  dsimp only at h ⊢
  split at h
  · next hreference =>
      have hname := Value.nodeOf?_eq_none ["QualifiedName"] hreference (by decide)
      simp [follows_field_none hname, Node.calledName?, hname]
  · split at h
    · exact absurd h (failure_unsupported_ne _ _ _ _)
    · next function hfunction =>
        obtain ⟨hfirst, hincluding⟩ := failure_append_eq_none.1 h
        obtain ⟨hname, hcreating⟩ := failure_append_eq_none.1 hfirst
        rw [claims_append hfirst, claims_append hname, List.mem_append, List.mem_append,
          mem_claims_claim_append (claims_referTo _ _ _), follows_field_only hfunction,
          Node.calledName?, hfunction, Option.map_some, Option.map_some, Option.getD_some,
          exists_argumentRoutes, or_assoc]
        refine or_congr_right (or_congr (mem_claims_creating hcreating) ?_)
        split at hincluding
        · next hmember =>
            rw [if_pos hmember, mem_claims_classArguments hincluding]
            simp [hmember]
        · next hmember => simp [hmember]

/-! ## All constructs -/

/-- Two readings that claim nothing. -/
theorem claims_append_eq_nil {first second : Reading} (hfirst : first.claims = [])
    (hsecond : second.claims = []) : (first ++ second).claims = [] := by
  show (andThen first second).claims = []
  unfold andThen
  split
  · exact hfirst
  · show first.claims ++ second.claims = []
    rw [hfirst, hsecond]
    rfl

/-- Readings that claim nothing, in order. -/
theorem claims_each_eq_nil {value : Value} {read : Nat → Value → Reading}
    (h : ∀ index element, (read index element).claims = []) : (each value read).claims = [] := by
  unfold each
  split
  · next elements _ =>
      induction elements.zipIdx with
      | nil => rfl
      | cons entry rest ih => exact claims_append_eq_nil (h _ _) ih
  · rfl

/-- A construct that is not covered claims nothing. -/
theorem claims_unsupported (file : SourceFile) (node : Node) (construct found : String) :
    (unsupported file node construct found).claims = [] := by
  unfold unsupported
  split <;> rfl

/-- A class claims nothing. -/
theorem claims_hostClass (file : SourceFile) (node : Node) :
    (hostClass file node).claims = [] := by
  unfold hostClass
  refine claims_append_eq_nil
    (claims_append_eq_nil rfl (claims_each_eq_nil fun _ parameter => ?_)) ?_
  · split
    · rfl
    · exact claims_unsupported _ _ _ _
  · split <;> rfl

/-- Defaults of a resource type claim nothing. -/
theorem claims_resourceDefaults (file : SourceFile) (node : Node) :
    (resourceDefaults file node).claims = [] := by
  unfold resourceDefaults
  dsimp only
  split
  · rfl
  · exact claims_unsupported _ _ _ _

/-- An attribute claims nothing. -/
theorem claims_attributeOperation (file : SourceFile) (ancestors : List Node) (node : Node) :
    (attributeOperation file ancestors node).claims = [] := by
  unfold attributeOperation
  split
  · split
    · rfl
    · dsimp only
      split
      · split
        · rfl
        · split
          · rfl
          · exact claims_unsupported _ _ _ _
      · split
        · rfl
        · exact claims_unsupported _ _ _ _
  · rfl

/-- An open name claims nothing. -/
theorem claims_openName (ancestors : List Node) (claimed : Bool) (dataKinds : List String)
    (node : Node) : (openName ancestors claimed dataKinds node).claims = [] := by
  unfold openName
  split <;> rfl

/-- A node of a named kind claims what it designates. -/
theorem mem_claims_ofKind {claimed : Bool} {kind : String}
    (h : (ofKind file ancestors claimed node kind).failure = none) :
    way ∈ (ofKind file ancestors claimed node kind).claims ↔
      ∃ route ∈ node.routesOfKind kind, node.follows route way = true := by
  have hnone {reading : Reading} (hreading : reading.claims = []) :
      way ∈ reading.claims ↔
        ∃ route ∈ ([] : List (List Hop)), node.follows route way = true := by
    simp [hreading]
  -- The cases come in the order in which the constructs are listed.
  unfold ofKind at h ⊢
  split at h
  · exact hnone (claims_openName _ _ _ _)
  · exact hnone (claims_openName _ _ _ _)
  · exact hnone (claims_hostClass _ _)
  · exact hnone rfl
  · exact hnone rfl
  · exact hnone rfl
  · exact mem_claims_assignment h
  · exact hnone rfl
  · exact mem_claims_variableUse h
  · exact hnone (claims_resourceDefaults _ _)
  · exact mem_claims_resource h
  · exact mem_claims_methodCall h
  · exact mem_claims_functionCall h
  · exact mem_claims_access h
  · exact hnone (claims_attributeOperation _ _ _)
  · have hroutes : node.routesOfKind kind = [] := by
      unfold Node.routesOfKind
      split <;> first | rfl | contradiction
    rw [hroutes]
    refine hnone ?_
    split <;> rfl

end Reading

/-- A node that can be read claims what it designates. -/
theorem Node.mem_claims_iff_designates {file : SourceFile} {ancestors : List Node} {claimed : Bool}
    {node : Node} (h : (node.ownReading file ancestors claimed).failure = none) {way : Claim} :
    way ∈ (node.ownReading file ancestors claimed).claims ↔ node.Designates way := by
  unfold ownReading at h ⊢
  obtain ⟨_, hrest⟩ := Reading.failure_append_eq_none.1 h
  rw [Reading.claims_append rfl]
  show way ∈ [] ++ _ ↔ _
  rw [List.nil_append]
  unfold Designates routes
  cases hkind : node.kind with
  | str kind =>
      rw [hkind] at hrest
      exact Reading.mem_claims_ofKind hrest
  | arr | obj =>
      rw [hkind] at hrest
      cases hrest
  | null | bool | int | float => simp [Reading.fact]

end ModuleGraph
