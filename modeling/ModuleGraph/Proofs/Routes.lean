import ModuleGraph.Reading.Construct
import ModuleGraph.Proofs.Readings

/-!
# Routes to the names that a construct settles

A construct settles the meaning of some names below it. `Node.routes` lists, for each kind of node,
the routes to these names: the target of an assignment, the name of a variable, the type and the
titles of a resource, the name of a call, the arguments that name classes or a resource type, and
the keys of an access. A route is a row of hops, each into a field or to an element of one, and
only to nodes of some kinds.

`Node.Designates` says that a way from a node is one along its routes. The lemmas `follows_*` open
a route hop by hop.
-/

namespace ModuleGraph

/-- One part of a route: into a field, to its first element, or to any of its elements. -/
inductive Hop
  /-- To the node in a field, of one of the kinds. -/
  | field (name : String) (kinds : List String)
  /-- To the first element of a field, of one of the kinds. -/
  | first (name : String) (kinds : List String)
  /-- To any element of a field, of one of the kinds. -/
  | any (name : String) (kinds : List String)
  /-- To any element of a field that is a node. -/
  | anyNode (name : String)
deriving DecidableEq, Repr

/-- The node to which a hop leads by a step. -/
def Hop.target? (node : Node) (step : Step) : Hop → Option Node
  | .field name kinds =>
    if step = ⟨name, none⟩ then (node.field name).nodeOf? kinds else none
  | .first name kinds =>
    if step = ⟨name, some 0⟩ then
      ((node.field name).element? 0).bind fun value => value.nodeOf? kinds
    else none
  | .any name kinds =>
    if step.field = name then
      (step.index.bind (node.field name).element?).bind fun value => value.nodeOf? kinds
    else none
  | .anyNode name =>
    if step.field = name then (step.index.bind (node.field name).element?).bind Value.node?
    else none

/-- The way from a node is one along the route. -/
def Node.follows (node : Node) : List Hop → Claim → Bool
  | [], way => way.isEmpty
  | _ :: _, [] => false
  | hop :: hops, step :: way =>
    match hop.target? node step with
    | some next => next.follows hops way
    | none => false

/-- The function that a call names. -/
def Node.calledName? (node : Node) : Option String :=
  ((node.field "functor_expr").nodeOf? ["QualifiedName"]).map fun function =>
    function.value.string?.getD ""

/-- The routes from a call to the names among its arguments. -/
def argumentRoutes (function : String) : List (List Hop) :=
  (if function ∈ creatingFunctions then [[.first "arguments" symbolKinds]] else []) ++
    if function ∈ includingFunctions then
      [[.any "arguments" symbolKinds],
        [.any "arguments" ["LiteralList"], .any "values" symbolKinds]]
    else []

/-- The routes from a node of a named kind to the names that it designates. -/
def Node.routesOfKind (node : Node) : String → List (List Hop)
  | "AssignmentExpression" =>
    [[.field "left_expr" ["VariableExpression"], .field "expr" ["QualifiedName"]],
      [.field "left_expr" ["LiteralList"], .any "values" ["VariableExpression"],
        .field "expr" ["QualifiedName"]]]
  | "VariableExpression" => [[.field "expr" ["QualifiedName"]]]
  | "ResourceExpression" =>
    [[.field "type_name" ["QualifiedName"]],
      [.anyNode "bodies", .field "title" symbolKinds],
      [.anyNode "bodies", .field "title" ["LiteralList"], .any "values" symbolKinds]]
  | "CallMethodExpression" =>
    [[.field "functor_expr" ["NamedAccessExpression"], .field "right_expr" ["QualifiedName"]]]
  | "CallNamedFunctionExpression" =>
    [.field "functor_expr" ["QualifiedName"]] ::
      (node.calledName?.map argumentRoutes).getD []
  | "AccessExpression" =>
    if ((node.field "left_expr").nodeOf? ["QualifiedReference", "VariableExpression"]).isSome then
      [[.any "keys" symbolKinds]]
    else []
  | _ => []

/-- The routes from a node to the names that it designates. -/
def Node.routes (node : Node) : List (List Hop) :=
  match node.kind with
  | .str kind => node.routesOfKind kind
  | _ => []

/-- A node settles the meaning of the name at the end of a way. -/
def Node.Designates (node : Node) (way : Claim) : Prop :=
  ∃ route ∈ node.routes, node.follows route way = true

instance (node : Node) (way : Claim) : Decidable (node.Designates way) :=
  inferInstanceAs (Decidable (∃ route ∈ node.routes, node.follows route way = true))

/-! ## Along a route -/

section Routes

variable {node : Node} {hops : List Hop} {way : Claim} {name : String} {kinds : List String}

/-- A route without hops leads to the node itself. -/
@[simp] theorem follows_nil : node.follows [] way = true ↔ way = [] := by
  simp [Node.follows]

/-- A route that begins with a hop. -/
theorem follows_cons {hop : Hop} :
    node.follows (hop :: hops) way = true ↔
      ∃ step rest next, way = step :: rest ∧ hop.target? node step = some next ∧
        next.follows hops rest = true := by
  cases way with
  | nil => simp [Node.follows]
  | cons step rest =>
      simp only [Node.follows, List.cons.injEq]
      cases htarget : hop.target? node step with
      | none =>
          simp only [Bool.false_eq_true, false_iff]
          intro hgiven
          obtain ⟨_, _, next, ⟨rfl, rfl⟩, hnext, _⟩ := hgiven
          rw [htarget] at hnext
          cases hnext
      | some target =>
          constructor
          · intro h
            exact ⟨step, rest, target, ⟨rfl, rfl⟩, htarget, h⟩
          · intro hgiven
            obtain ⟨_, _, next, ⟨rfl, rfl⟩, hnext, h⟩ := hgiven
            rw [htarget] at hnext
            cases hnext
            exact h

/-- A route that begins with a hop into a field. -/
@[simp] theorem follows_field :
    node.follows (.field name kinds :: hops) way = true ↔
      ∃ rest next, way = ⟨name, none⟩ :: rest ∧ (node.field name).nodeOf? kinds = some next ∧
        next.follows hops rest = true := by
  rw [follows_cons]
  constructor
  · intro hgiven
    obtain ⟨step, rest, next, rfl, htarget, h⟩ := hgiven
    simp only [Hop.target?] at htarget
    split at htarget
    · next hstep => exact ⟨rest, next, by rw [hstep], htarget, h⟩
    · cases htarget
  · intro hgiven
    obtain ⟨rest, next, rfl, htarget, h⟩ := hgiven
    exact ⟨_, rest, next, rfl, by simp [Hop.target?, htarget], h⟩

/-- A route of one hop into a field. -/
theorem follows_field_only {next : Node}
    (h : (node.field name).nodeOf? kinds = some next) :
    node.follows [.field name kinds] way = true ↔ way = [⟨name, none⟩] := by
  simp only [follows_field, follows_nil, h, Option.some.injEq]
  constructor
  · intro hgiven
    obtain ⟨_, _, rfl, _, rfl⟩ := hgiven
    rfl
  · intro heq
    subst heq
    exact ⟨_, next, rfl, rfl, rfl⟩

/-- No route begins with a hop into a field that holds no node of its kinds. -/
theorem follows_field_none (h : (node.field name).nodeOf? kinds = none) :
    node.follows (.field name kinds :: hops) way = false := by
  rw [Bool.eq_false_iff]
  intro hfollows
  obtain ⟨_, _, _, hnext, _⟩ := follows_field.1 hfollows
  rw [h] at hnext
  cases hnext

/-- A route that begins with a hop to the first element of a field. -/
@[simp] theorem follows_first :
    node.follows (.first name kinds :: hops) way = true ↔
      ∃ rest value next, way = ⟨name, some 0⟩ :: rest ∧
        (node.field name).element? 0 = some value ∧ value.nodeOf? kinds = some next ∧
        next.follows hops rest = true := by
  rw [follows_cons]
  constructor
  · intro hgiven
    obtain ⟨step, rest, next, rfl, htarget, h⟩ := hgiven
    simp only [Hop.target?] at htarget
    split at htarget
    · next hstep =>
        obtain ⟨value, hvalue, hnext⟩ := Option.bind_eq_some_iff.1 htarget
        exact ⟨rest, value, next, by rw [hstep], hvalue, hnext, h⟩
    · cases htarget
  · intro hgiven
    obtain ⟨rest, value, next, rfl, hvalue, hnext, h⟩ := hgiven
    exact ⟨_, rest, next, rfl, by simp [Hop.target?, hvalue, hnext], h⟩

/-- A route that begins with a hop to an element. -/
theorem follows_element {hop : Hop} {pick : Value → Option Node}
    (hhop : ∀ step, hop.target? node step =
      if step.field = name then (step.index.bind (node.field name).element?).bind pick else none) :
    node.follows (hop :: hops) way = true ↔
      ∃ index rest value next, way = ⟨name, some index⟩ :: rest ∧
        (node.field name).element? index = some value ∧ pick value = some next ∧
        next.follows hops rest = true := by
  rw [follows_cons]
  constructor
  · intro hgiven
    obtain ⟨⟨field, position⟩, rest, next, rfl, htarget, h⟩ := hgiven
    rw [hhop] at htarget
    split at htarget
    · next hstep =>
        obtain ⟨value, hvalue, hnext⟩ := Option.bind_eq_some_iff.1 htarget
        obtain ⟨index, hindex, hvalue⟩ := Option.bind_eq_some_iff.1 hvalue
        obtain rfl : field = name := hstep
        obtain rfl : position = some index := hindex
        exact ⟨index, rest, value, next, rfl, hvalue, hnext, h⟩
    · cases htarget
  · intro hgiven
    obtain ⟨index, rest, value, next, rfl, hvalue, hnext, h⟩ := hgiven
    exact ⟨_, rest, next, rfl, by simp [hhop, hvalue, hnext], h⟩

/-- A route that begins with a hop to some element of a field. -/
@[simp] theorem follows_any :
    node.follows (.any name kinds :: hops) way = true ↔
      ∃ index rest value next, way = ⟨name, some index⟩ :: rest ∧
        (node.field name).element? index = some value ∧ value.nodeOf? kinds = some next ∧
        next.follows hops rest = true :=
  follows_element fun _ => rfl

/-- A route that begins with a hop to some element, whatever its kind. -/
@[simp] theorem follows_anyNode :
    node.follows (.anyNode name :: hops) way = true ↔
      ∃ index rest value next, way = ⟨name, some index⟩ :: rest ∧
        (node.field name).element? index = some value ∧ value.node? = some next ∧
        next.follows hops rest = true :=
  follows_element fun _ => rfl

end Routes

/-- A node of a kind is of none of some others. -/
theorem Node.isOneOf_eq_false (node : Node) {kind : String} {others : List String}
    (h : node.isKind kind = true) (hkind : kind ∉ others) : node.isOneOf others = false := by
  rw [Bool.eq_false_iff]
  intro hothers
  obtain ⟨other, hother, hnode⟩ := List.any_eq_true.1 hothers
  unfold isKind at h hnode
  split at h
  · next text htext =>
      rw [htext] at hnode
      rw [beq_iff_eq] at h hnode
      exact hkind (h ▸ hnode ▸ hother)
  · cases h

/-- A node is one of some kinds if its own kind is among them. -/
@[simp] theorem Value.nodeOf?_node (node : Node) (kinds : List String) :
    (Value.node node).nodeOf? kinds = if node.isOneOf kinds = true then some node else none := by
  simp [nodeOf?, node?, Option.filter]

/-- A value that is a node of one of some kinds. -/
theorem Value.nodeOf?_eq_some {value : Value} {kinds : List String} {node : Node} :
    value.nodeOf? kinds = some node ↔ value = .node node ∧ node.isOneOf kinds = true := by
  cases value with
  | node tree =>
      rw [nodeOf?_node]
      constructor
      · intro h
        split at h
        · next hkind =>
            cases h
            exact ⟨rfl, hkind⟩
        · cases h
      · intro hgiven
        obtain ⟨h, hkind⟩ := hgiven
        cases h
        rw [if_pos hkind]
  | scalar | list => simp [nodeOf?, node?]

/-- A node of one of some kinds is of none of some others. -/
theorem Value.nodeOf?_eq_none {value : Value} {kinds : List String} (others : List String)
    {node : Node} (h : value.nodeOf? kinds = some node) (hkinds : ∀ kind ∈ kinds, kind ∉ others) :
    value.nodeOf? others = none := by
  obtain ⟨rfl, hnode⟩ := nodeOf?_eq_some.1 h
  obtain ⟨kind, hkind, hnode⟩ := List.any_eq_true.1 hnode
  rw [nodeOf?_node, node.isOneOf_eq_false hnode (hkinds kind hkind)]
  rfl

end ModuleGraph
