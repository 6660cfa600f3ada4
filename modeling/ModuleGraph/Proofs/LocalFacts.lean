import ModuleGraph.Reading.Construct
import ModuleGraph.Proofs.Readings

/-!
# What a node says by itself

`Node.localFacts` are the facts that a node states, and its arguments are all that they depend on:
the node with what is below it, the nearest class around it, and the nearest resource around it. An
assignment looks only at the class and an attribute only at the resource.

`facts_ownReading` says that reading a node yields these facts after the note that it was met,
whatever other ancestors it has and whether it is claimed. `pending_ownReading` says when a node is
left open, and `unhandled_localFacts` which kinds are met that nothing handles.
-/

namespace ModuleGraph

/-- The kinds for which there is a construct. -/
def handledKinds : List String :=
  ["LiteralString", "QualifiedName", "HostClassDefinition", "ResourceTypeDefinition",
    "FunctionDefinition", "TypeAlias", "AssignmentExpression", "QualifiedReference",
    "VariableExpression", "ResourceDefaultsExpression", "ResourceExpression",
    "CallMethodExpression", "CallNamedFunctionExpression", "AccessExpression",
    "AttributeOperation"]

namespace Reading

/-! ## Constructs are settled -/

/-- A class is settled, with its parameters and its parent. -/
theorem settled_hostClass (file : SourceFile) (node : Node) : Settled (hostClass file node) := by
  unfold hostClass
  refine ((settled_define _ _).append (settled_each _ fun _ parameter => ?_)).append ?_
  · split
    · exact settled_define _ _
    · exact settled_unsupported _ _ _ _
  · split
    · exact (settled_fact rfl).append (settled_fact rfl)
    · exact settled_nothing

/-- The target of an assignment is claimed at once. -/
theorem settled_assignmentTarget (file : SourceFile) (ancestors : List Node) (node : Node)
    (way : Claim) (target : Value) :
    Settled (assignmentTarget file ancestors node way target) := by
  unfold assignmentTarget
  split
  · exact settled_unsupported _ _ _ _
  · split
    · exact settled_unsupported _ _ _ _
    · refine (settled_claim _).append ?_
      split
      · split
        · exact settled_nothing
        · exact settled_fact rfl
      · exact settled_nothing

/-- An assignment is settled, to one variable as to a list of them. -/
theorem settled_assignment (file : SourceFile) (ancestors : List Node) (node : Node) :
    Settled (assignment file ancestors node) := by
  unfold assignment
  dsimp only
  split
  · exact settled_each _ fun _ _ => settled_assignmentTarget _ _ _ _ _
  · exact settled_assignmentTarget _ _ _ _ _

/-- The use of a variable claims the name behind the dollar. -/
theorem settled_variableUse (file : SourceFile) (node : Node) :
    Settled (variableUse file node) := by
  unfold variableUse
  dsimp only
  split
  · refine (settled_claim _).append ?_
    split
    · split
      · exact settled_refer _ _ _
      · exact settled_nothing
    · exact settled_fail _
  · split
    · exact settled_nothing
    · exact settled_unsupported _ _ _ _

/-- Defaults of a resource type are settled: their type is a reference of its own. -/
theorem settled_resourceDefaults (file : SourceFile) (node : Node) :
    Settled (resourceDefaults file node) := by
  unfold resourceDefaults
  dsimp only
  split
  · exact settled_nothing
  · exact settled_unsupported _ _ _ _

/-- The name of a class is claimed or is no name. -/
theorem settled_className (file : SourceFile) (refers : Bool) (way : Claim) (entry : Value) :
    Settled (className file refers way entry) := by
  unfold className
  split
  · refine (settled_claim _).append ?_
    split
    · exact settled_refer _ _ _
    · exact settled_nothing
  · exact settled_nothing

/-- The titles of a body are settled, one or several. -/
theorem settled_bodyTitles (file : SourceFile) (ofClass : Bool) (index : Nat) (body : Value) :
    Settled (bodyTitles file ofClass index body) := by
  unfold bodyTitles
  split
  · exact settled_nothing
  · dsimp only
    split
    · exact settled_each _ fun _ _ => settled_className _ _ _ _
    · exact settled_className _ _ _ _

/-- A resource is settled with all its bodies. -/
theorem settled_resource (file : SourceFile) (node : Node) : Settled (resource file node) := by
  have hbodies (ofClass : Bool) : Settled (each (node.field "bodies") (bodyTitles file ofClass)) :=
    settled_each _ fun _ _ => settled_bodyTitles _ _ _ _
  unfold resource
  dsimp only
  split
  · refine ((settled_claim _).append ?_).append (hbodies _)
    split
    · exact settled_nothing
    · exact settled_referTo _ _ _
  · split
    · exact hbodies _
    · exact settled_unsupported _ _ _ _

/-- A call of a method claims the name of the method. -/
theorem settled_methodCall (file : SourceFile) (node : Node) : Settled (methodCall file node) := by
  unfold methodCall
  dsimp only
  split
  · exact settled_unsupported _ _ _ _
  · split
    · exact settled_unsupported _ _ _ _
    · exact (settled_claim _).append (settled_referTo _ _ _)

/-- The argument that names a resource type is claimed. -/
theorem settled_resourceTypeArgument (file : SourceFile) (call : Node) (argument : Value) :
    Settled (resourceTypeArgument file call argument) := by
  unfold resourceTypeArgument
  dsimp only
  split
  · exact (settled_claim _).append (settled_refer _ _ _)
  · split
    · exact settled_nothing
    · exact settled_unsupported _ _ _ _

/-- An argument that names classes is settled, one class or a list of them. -/
theorem settled_classArgument (file : SourceFile) (call : Node) (index : Nat) (argument : Value) :
    Settled (classArgument file call index argument) := by
  unfold classArgument
  dsimp only
  split
  · exact settled_className _ _ _ _
  · split
    · exact settled_each _ fun _ _ => settled_className _ _ _ _
    · split
      · exact settled_nothing
      · exact settled_unsupported _ _ _ _

/-- A call is settled with the arguments that its function reads as names. -/
theorem settled_functionCall (file : SourceFile) (node : Node) :
    Settled (functionCall file node) := by
  unfold functionCall
  dsimp only
  split
  · exact settled_nothing
  · split
    · exact settled_unsupported _ _ _ _
    · refine (((settled_claim _).append (settled_referTo _ _ _)).append ?_).append ?_
      · split
        · split
          · exact settled_resourceTypeArgument _ _ _
          · exact settled_fail _
        · exact settled_nothing
      · split
        · exact settled_each _ fun _ _ => settled_classArgument _ _ _ _
        · exact settled_nothing

/-- The keys of an access are claimed one by one. -/
theorem settled_access (file : SourceFile) (node : Node) : Settled (access file node) := by
  unfold access
  dsimp only
  split
  · refine settled_each _ fun _ _ => ?_
    split
    · refine (settled_claim _).append ?_
      repeat' split
      all_goals first | exact settled_refer _ _ _ | exact settled_nothing
    · exact settled_nothing
  · split
    · exact settled_nothing
    · exact settled_unsupported _ _ _ _

/-- An attribute is settled by the resource around it. -/
theorem settled_attributeOperation (file : SourceFile) (ancestors : List Node) (node : Node) :
    Settled (attributeOperation file ancestors node) := by
  unfold attributeOperation
  split
  · split
    · exact settled_fact rfl
    · dsimp only
      split
      · split
        · exact settled_refer _ _ _
        · split
          · exact settled_nothing
          · exact settled_unsupported _ _ _ _
      · split
        · exact settled_nothing
        · exact settled_unsupported _ _ _ _
  · exact settled_nothing

/-- All constructs other than names are settled. -/
theorem settled_ofKind {file : SourceFile} {ancestors : List Node} {claimed : Bool} {node : Node}
    {kind : String} (h : kind ∈ handledKinds) (hstring : kind ≠ "LiteralString")
    (hword : kind ≠ "QualifiedName") : Settled (ofKind file ancestors claimed node kind) := by
  simp only [handledKinds, List.mem_cons, List.not_mem_nil, or_false] at h
  rcases h with rfl | rfl | rfl | rfl | rfl | rfl | rfl | rfl | rfl | rfl | rfl | rfl | rfl | rfl |
    rfl
  · exact absurd rfl hstring
  · exact absurd rfl hword
  · exact settled_hostClass _ _
  · exact settled_define _ _
  · exact settled_define _ _
  · exact settled_define _ _
  · exact settled_assignment _ _ _
  · exact settled_refer _ _ _
  · exact settled_variableUse _ _
  · exact settled_resourceDefaults _ _
  · exact settled_resource _ _
  · exact settled_methodCall _ _
  · exact settled_functionCall _ _
  · exact settled_access _ _
  · exact settled_attributeOperation _ _ _

/-- A node of a kind without construct says nothing, or that its kind is unknown. -/
theorem ofKind_of_not_mem {file : SourceFile} {ancestors : List Node} {claimed : Bool}
    {node : Node} {kind : String} (h : kind ∉ handledKinds) :
    ofKind file ancestors claimed node kind =
      if kind ∈ inertKinds then nothing else fact (.unhandled (.str kind)) := by
  unfold ofKind
  split
  case h_16 => rfl
  all_goals exact absurd (by decide) h

end Reading

/-! ## Facts -/

/-- The kind of a node, if it is neither that of a construct nor one that says nothing. -/
def Node.unhandledKind? (node : Node) : Option Json :=
  match node.kind with
  | .str kind => if kind ∈ handledKinds ∨ kind ∈ inertKinds then none else some (.str kind)
  | kind => some kind

/-- The facts that a node states, given the nearest class and the nearest resource around it. -/
def Node.localFacts (file : SourceFile) (host resource : Option Node) (node : Node) : List Fact :=
  match node.kind with
  | .str "AssignmentExpression" => (Reading.assignment file host.toList node).facts
  | .str "AttributeOperation" => (Reading.attributeOperation file resource.toList node).facts
  | .str kind => (Reading.ofKind file [] false node kind).facts
  | kind => [.unhandled kind]

/-- The nearest class among the ancestors of a node. -/
def hostOf (ancestors : List Node) : Option Node :=
  nearestOf ancestors [.str "HostClassDefinition"]

/-- The nearest resource among the ancestors of a node. -/
def resourceOf (ancestors : List Node) : Option Node :=
  nearestOf ancestors (resourceKinds.map .str)

/-- The nearest of some kinds is also the nearest if there is no other ancestor. -/
theorem nearestOf_nearestOf (ancestors : List Node) (kinds : List Json) :
    nearestOf (nearestOf ancestors kinds).toList kinds = nearestOf ancestors kinds := by
  cases hnearest : nearestOf ancestors kinds with
  | none => rfl
  | some node =>
      have hkind := List.find?_some hnearest
      simp only [Option.toList_some, nearestOf, List.find?_cons, hkind]

/-- An assignment sees no ancestor but the nearest class. -/
theorem Reading.assignment_hostOf (file : SourceFile) (ancestors : List Node) (node : Node) :
    assignment file (hostOf ancestors).toList node = assignment file ancestors node := by
  have hclass : enclosingClass (hostOf ancestors).toList = enclosingClass ancestors :=
    congrArg (Option.map Node.definedName) (nearestOf_nearestOf ancestors _)
  unfold assignment assignmentTarget
  rw [hclass]

/-- An attribute sees no ancestor but the nearest resource. -/
theorem Reading.attributeOperation_resourceOf (file : SourceFile) (ancestors : List Node)
    (node : Node) :
    attributeOperation file (resourceOf ancestors).toList node =
      attributeOperation file ancestors node := by
  unfold attributeOperation resourceOf
  rw [nearestOf_nearestOf]

/-- An open name states nothing. -/
theorem Reading.facts_openName (ancestors : List Node) (claimed : Bool) (dataKinds : List String)
    (node : Node) : (openName ancestors claimed dataKinds node).facts = [] := by
  unfold openName
  split <;> rfl

/-- Other constructs see no ancestor at all. -/
theorem Node.localFacts_eq_ofKind {file : SourceFile} {host resource : Option Node} {node : Node}
    {kind : String} (hkind : node.kind = .str kind) (hassignment : kind ≠ "AssignmentExpression")
    (hattribute : kind ≠ "AttributeOperation") :
    node.localFacts file host resource = (Reading.ofKind file [] false node kind).facts := by
  unfold localFacts
  rw [hkind]
  split
  · next heq => exact absurd (Json.str.inj heq) hassignment
  · next heq => exact absurd (Json.str.inj heq) hattribute
  · next heq => rw [Json.str.inj heq]
  · next hother => exact absurd rfl (hother kind)

/-- Reading a node that can be read yields the note that it was met and its local facts. -/
theorem Node.facts_ownReading {file : SourceFile} {ancestors : List Node} {claimed : Bool}
    {node : Node} (h : (node.ownReading file ancestors claimed).failure = none) :
    (node.ownReading file ancestors claimed).facts =
      .note (node.foundNote ancestors.length) ::
        node.localFacts file (hostOf ancestors) (resourceOf ancestors) := by
  unfold ownReading at h ⊢
  obtain ⟨_, hrest⟩ := Reading.failure_append_eq_none.1 h
  rw [Reading.facts_append rfl]
  refine congrArg (List.cons _) ?_
  cases hkind : node.kind with
  | str kind =>
      -- Only assignments and attributes look at their ancestors.
      by_cases hassignment : kind = "AssignmentExpression"
      · subst hassignment
        unfold localFacts
        rw [hkind]
        exact congrArg Reading.facts (Reading.assignment_hostOf file ancestors node).symm
      · by_cases hattribute : kind = "AttributeOperation"
        · subst hattribute
          unfold localFacts
          rw [hkind]
          exact congrArg Reading.facts
            (Reading.attributeOperation_resourceOf file ancestors node).symm
        · rw [localFacts_eq_ofKind hkind hassignment hattribute]
          dsimp only
          unfold Reading.ofKind
          split
          all_goals first
            | rfl
            | exact (Reading.facts_openName _ _ _ _).trans (Reading.facts_openName _ _ _ _).symm
            | contradiction
  | arr | obj =>
      rw [hkind] at hrest
      cases hrest
  | null | bool | int | float =>
      unfold localFacts
      rw [hkind]
      rfl

/-- The unknown kinds among the facts that a node states are its own kind, if nothing handles
it. -/
theorem Node.unhandled_localFacts (file : SourceFile) (host resource : Option Node) (node : Node) :
    (node.localFacts file host resource).filterMap Fact.unhandled? =
      node.unhandledKind?.toList := by
  cases hkind : node.kind with
  | str kind =>
      by_cases hhandled : kind ∈ handledKinds
      · have hnone : node.unhandledKind? = none := by
          unfold unhandledKind?
          rw [hkind]
          exact if_pos (Or.inl hhandled)
        rw [hnone]
        by_cases hassignment : kind = "AssignmentExpression"
        · subst hassignment
          unfold localFacts
          rw [hkind]
          exact (Reading.settled_assignment _ _ _).handled
        · by_cases hattribute : kind = "AttributeOperation"
          · subst hattribute
            unfold localFacts
            rw [hkind]
            exact (Reading.settled_attributeOperation _ _ _).handled
          · rw [localFacts_eq_ofKind hkind hassignment hattribute]
            by_cases hstring : kind = "LiteralString"
            · subst hstring
              exact congrArg (List.filterMap _) (Reading.facts_openName [] false stringDataKinds _)
            · by_cases hword : kind = "QualifiedName"
              · subst hword
                exact congrArg (List.filterMap _) (Reading.facts_openName [] false wordDataKinds _)
              · exact (Reading.settled_ofKind hhandled hstring hword).handled
      · have hassignment : kind ≠ "AssignmentExpression" := by
          intro heq
          subst heq
          exact hhandled (by decide)
        have hattribute : kind ≠ "AttributeOperation" := by
          intro heq
          subst heq
          exact hhandled (by decide)
        rw [localFacts_eq_ofKind hkind hassignment hattribute,
          Reading.ofKind_of_not_mem hhandled, unhandledKind?, hkind]
        by_cases hinert : kind ∈ inertKinds
        · simp [hinert, Reading.nothing]
        · simp [hinert, hhandled, Reading.fact, Fact.unhandled?]
  | null | bool | int | float | arr | obj =>
      unfold localFacts unhandledKind?
      rw [hkind]
      rfl

/-! ## Names left open -/

/-- A node is a name that does not stand where such names are mere data. -/
def Node.isNameBelow (ancestors : List Node) (node : Node) : Bool :=
  (node.isKind "LiteralString" && !ancestors.any fun a => a.isOneOf stringDataKinds) ||
    (node.isKind "QualifiedName" && !ancestors.any fun a => a.isOneOf wordDataKinds)

/-- Reading a node leaves it open if it is such a name and is not claimed. -/
theorem Node.pending_ownReading (file : SourceFile) (ancestors : List Node) (claimed : Bool)
    (node : Node) :
    (node.ownReading file ancestors claimed).pending =
      if node.isNameBelow ancestors && !claimed then [node] else [] := by
  unfold ownReading
  rw [Reading.pending_append rfl]
  show [] ++ _ = _
  rw [List.nil_append]
  cases hkind : node.kind with
  | str kind =>
      -- Only the two kinds of names are ever left open; all other constructs are settled.
      by_cases hstring : kind = "LiteralString"
      · subst hstring
        show (Reading.openName ancestors claimed stringDataKinds node).pending = _
        unfold Reading.openName
        cases claimed <;> cases hdata : ancestors.any fun a => a.isOneOf stringDataKinds <;>
          simp [isNameBelow, isKind, hkind, hdata, Reading.nothing]
      · by_cases hword : kind = "QualifiedName"
        · subst hword
          show (Reading.openName ancestors claimed wordDataKinds node).pending = _
          unfold Reading.openName
          cases claimed <;> cases hdata : ancestors.any fun a => a.isOneOf wordDataKinds <;>
            simp [isNameBelow, isKind, hkind, hdata, Reading.nothing]
        · have hname : node.isNameBelow ancestors = false := by
            simp [isNameBelow, isKind, hkind, hstring, hword]
          rw [hname]
          dsimp only
          by_cases hhandled : kind ∈ handledKinds
          · exact (Reading.settled_ofKind hhandled hstring hword).pending
          · rw [Reading.ofKind_of_not_mem hhandled]
            split <;> rfl
  | null | bool | int | float | arr | obj =>
      simp [isNameBelow, isKind, hkind, Reading.fact, Reading.fail]

end ModuleGraph
