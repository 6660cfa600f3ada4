import ModuleGraph.Proofs.Places
import ModuleGraph.Proofs.LocalFacts

/-!
# What a tree can state

A fact is plain if it neither defines a symbol nor reports a warning, and minor if it does not say
which class inherits either. A reading is `Within` some facts if it states no others, which holds of
joined readings if it holds of their parts, whether or not one of them fails. Most constructs state
minor facts only (`within_ofKind_of_minorFrom`), and what the others define is said by one lemma
each.

`Node.within_reading` carries this to whole trees: a tree states what its places state, even where
reading it fails half-way. It is a case of `Node.reading_induction`.
-/

namespace ModuleGraph

/-- The fact neither defines a symbol nor reports a warning. -/
def Fact.isPlain : Fact → Bool
  | .define .. | .report .. => false
  | .note .. | .refer .. | .inherit .. | .unhandled .. | .warn .. => true

/-- The fact says nothing about symbols and classes of the module itself. -/
def Fact.isMinor : Fact → Bool
  | .define .. | .inherit .. | .report .. => false
  | .note .. | .refer .. | .unhandled .. | .warn .. => true

/-- The fact is minor, and if it is a reference, then one from the given file. -/
def Fact.isMinorFrom (source : String) : Fact → Bool
  | .refer _ _ file => file == source
  | fact => fact.isMinor

/-- Wherever a minor fact comes from, it is minor. -/
theorem Fact.isMinor_of_isMinorFrom {source : String} {fact : Fact}
    (h : fact.isMinorFrom source = true) : fact.isMinor = true := by
  cases fact with
  | refer => rfl
  | note | define | inherit | unhandled | warn | report => exact h

/-- A minor fact is plain. -/
theorem Fact.isPlain_of_isMinor {fact : Fact} (h : fact.isMinor = true) : fact.isPlain = true := by
  cases fact with
  | note | refer | unhandled | warn => rfl
  | define | inherit | report => cases h

namespace Reading

/-- All facts of the reading are allowed. -/
def Within (allowed : Fact → Prop) (reading : Reading) : Prop :=
  ∀ fact ∈ reading.facts, allowed fact

variable {allowed : Fact → Prop} {first second : Reading}

/-! ## Parts of readings -/

/-- Where nothing is read, nothing is stated. -/
@[simp] theorem within_nothing : Within allowed nothing := by
  intro fact hfact
  cases hfact

/-- A claim states no fact. -/
@[simp] theorem within_claim (way : Claim) : Within allowed (claim way) := by
  intro fact hfact
  cases hfact

/-- A failure states no fact. -/
@[simp] theorem within_fail (failure : Failure) : Within allowed (fail failure) := by
  intro fact hfact
  cases hfact

/-- A fact states itself and no other. -/
@[simp] theorem within_fact {item : Fact} : Within allowed (fact item) ↔ allowed item := by
  simp [Within, fact]

/-- A construct that is not supported states no fact. -/
@[simp] theorem within_unsupported (file : SourceFile) (node : Node) (construct found : String) :
    Within allowed (unsupported file node construct found) := by
  unfold unsupported
  split <;> exact within_fail _

/-- Facts are all that they state. -/
theorem within_ofFacts {facts : List Fact} :
    Within allowed (ofFacts facts) ↔ ∀ fact ∈ facts, allowed fact :=
  Iff.rfl

/-- A failed outcome states nothing. -/
theorem within_given {α : Type} {outcome : Except Failure α} {read : α → Reading}
    (h : ∀ value, outcome = .ok value → Within allowed (read value)) :
    Within allowed (given outcome read) := by
  cases outcome with
  | ok value => exact h value rfl
  | error failure => exact within_fail failure

/-- One reading after another states no more than both of them. -/
@[simp] theorem Within.append (hfirst : Within allowed first) (hsecond : Within allowed second) :
    Within allowed (first ++ second) := by
  cases hfailure : first.failure with
  | none =>
      intro fact hfact
      rw [facts_append hfailure, List.mem_append] at hfact
      exact hfact.elim (hfirst fact) (hsecond fact)
  | some failure =>
      rw [append_of_failure hfailure]
      exact hfirst

/-- Readings in order state no more than all of them. -/
theorem within_join {readings : List Reading} (h : ∀ reading ∈ readings, Within allowed reading) :
    Within allowed (join readings) := by
  induction readings with
  | nil => exact within_nothing
  | cons reading rest ih =>
      obtain ⟨hreading, hrest⟩ := List.forall_mem_cons.1 h
      exact hreading.append (ih hrest)

/-- What is read from the elements of a value states no more than what is read from each. -/
theorem within_each {value : Value} {read : Nat → Value → Reading}
    (h : ∀ index element, value.element? index = some element →
      Within allowed (read index element)) : Within allowed (each value read) := by
  unfold each
  unfold Value.element? at h
  split
  · next elements helements =>
      rw [helements] at h
      refine within_join fun reading hreading => ?_
      obtain ⟨⟨element, index⟩, hmem, rfl⟩ := List.mem_map.1 hreading
      exact h index element (List.mem_zipIdx_iff_getElem?.1 hmem)
  · exact within_fail _

/-! ## Constructs that define nothing -/

section Minor

variable {file : SourceFile}
  (hminor : ∀ fact : Fact, fact.isMinorFrom file.name = true → allowed fact)
include hminor

/-- A minor fact is allowed. -/
theorem within_minor {item : Fact} (hitem : item.isMinorFrom file.name = true) :
    Within allowed (fact item) :=
  within_fact.2 (hminor item hitem)

/-- A reference states a note and itself. -/
theorem within_refer (category : Category) (name : String) :
    Within allowed (refer file category name) :=
  (within_minor hminor rfl).append (within_minor hminor (beq_self_eq_true file.name))

/-- A reference to what a value names states no more than a reference to a name. -/
theorem within_referTo (category : Category) (value : Value) :
    Within allowed (referTo file category value) := by
  unfold referTo
  split
  · exact within_refer hminor _ _
  · exact (within_minor hminor rfl).append (within_fail _)

omit hminor in
/-- A name that is left open states no fact yet. -/
theorem within_openName (ancestors : List Node) (claimed : Bool) (dataKinds : List String)
    (node : Node) : Within allowed (openName ancestors claimed dataKinds node) := by
  intro fact hfact
  rw [facts_openName] at hfact
  cases hfact

/-- The use of a variable refers to it or states nothing. -/
theorem within_variableUse (node : Node) : Within allowed (variableUse file node) := by
  unfold variableUse
  dsimp only
  repeat' split
  all_goals simp [within_refer hminor]

omit hminor in
/-- Defaults of a resource type state nothing themselves. -/
theorem within_resourceDefaults (node : Node) : Within allowed (resourceDefaults file node) := by
  unfold resourceDefaults
  dsimp only
  split <;> simp

/-- The name of a class refers to the class or states nothing. -/
theorem within_className (refers : Bool) (way : Claim) (entry : Value) :
    Within allowed (className file refers way entry) := by
  unfold className
  repeat' split
  all_goals simp [within_refer hminor]

/-- The titles of a body refer to classes. -/
theorem within_bodyTitles (ofClass : Bool) (index : Nat) (body : Value) :
    Within allowed (bodyTitles file ofClass index body) := by
  unfold bodyTitles
  dsimp only
  repeat' split
  · exact within_nothing
  · exact within_each fun _ _ _ => within_className hminor _ _ _
  · exact within_className hminor _ _ _

/-- A resource refers to its type and, if it is a class, to its titles. -/
theorem within_resource (node : Node) : Within allowed (resource file node) := by
  have hbodies (ofClass : Bool) :
      Within allowed (each (node.field "bodies") (bodyTitles file ofClass)) :=
    within_each fun _ _ _ => within_bodyTitles hminor _ _ _
  unfold resource
  dsimp only
  repeat' split
  all_goals simp [within_referTo hminor, hbodies]

/-- A call of a method refers to the function. -/
theorem within_methodCall (node : Node) : Within allowed (methodCall file node) := by
  unfold methodCall
  dsimp only
  repeat' split
  all_goals simp [within_referTo hminor]

/-- The argument that names a resource type refers to it. -/
theorem within_resourceTypeArgument (call : Node) (argument : Value) :
    Within allowed (resourceTypeArgument file call argument) := by
  unfold resourceTypeArgument
  dsimp only
  repeat' split
  all_goals simp [within_refer hminor]

/-- An argument that names classes refers to each of them. -/
theorem within_classArgument (call : Node) (index : Nat) (argument : Value) :
    Within allowed (classArgument file call index argument) := by
  unfold classArgument
  dsimp only
  repeat' split
  · exact within_className hminor _ _ _
  · exact within_each fun _ _ _ => within_className hminor _ _ _
  · exact within_nothing
  · exact within_unsupported _ _ _ _

/-- A call refers to the function and to what its arguments name. -/
theorem within_functionCall (node : Node) : Within allowed (functionCall file node) := by
  unfold functionCall
  dsimp only
  split
  · exact within_nothing
  · split
    · exact within_unsupported _ _ _ _
    · refine (((within_claim _).append (within_referTo hminor _ _)).append ?_).append ?_
      · repeat' split
        all_goals simp [within_resourceTypeArgument hminor]
      · split
        · exact within_each fun _ _ _ => within_classArgument hminor _ _ _
        · exact within_nothing

/-- An access refers to the classes or resource types that its keys name. -/
theorem within_access (node : Node) : Within allowed (access file node) := by
  unfold access
  dsimp only
  split
  · refine within_each fun _ key _ => ?_
    cases key.nodeOf? symbolKinds with
    | none => exact within_nothing
    | some name =>
        refine (within_claim _).append ?_
        repeat' split
        all_goals first | exact within_refer hminor _ _ | exact within_nothing
  · split <;> simp

/-- An attribute refers to a provider, or warns that no resource is around it. -/
theorem within_attributeOperation (ancestors : List Node) (node : Node) :
    Within allowed (attributeOperation file ancestors node) := by
  unfold attributeOperation
  dsimp only
  repeat' split
  all_goals simp [within_refer hminor, hminor (.warn _) rfl]

end Minor

/-- The kinds of the constructs that define symbols. -/
def definingKinds : List String :=
  ["HostClassDefinition", "ResourceTypeDefinition", "FunctionDefinition", "TypeAlias",
    "AssignmentExpression"]

/-- A construct that defines no symbol states minor facts, and refers from its file only. -/
theorem within_ofKind_of_minorFrom {file : SourceFile}
    (hminor : ∀ fact : Fact, fact.isMinorFrom file.name = true → allowed fact)
    {kind : String} (hkind : kind ∉ definingKinds) (ancestors : List Node) (claimed : Bool)
    (node : Node) : Within allowed (ofKind file ancestors claimed node kind) := by
  unfold ofKind
  split
  · exact within_openName _ _ _ _
  · exact within_openName _ _ _ _
  · exact absurd (by decide) hkind
  · exact absurd (by decide) hkind
  · exact absurd (by decide) hkind
  · exact absurd (by decide) hkind
  · exact absurd (by decide) hkind
  · exact within_refer hminor _ _
  · exact within_variableUse hminor _
  · exact within_resourceDefaults _
  · exact within_resource hminor _
  · exact within_methodCall hminor _
  · exact within_functionCall hminor _
  · exact within_access hminor _
  · exact within_attributeOperation hminor _ _
  · split
    · exact within_nothing
    · exact within_minor hminor rfl

/-- The same where all minor facts are allowed. -/
theorem within_ofKind_of_minor (hminor : ∀ fact : Fact, fact.isMinor = true → allowed fact)
    {kind : String} (hkind : kind ∉ definingKinds) (file : SourceFile) (ancestors : List Node)
    (claimed : Bool) (node : Node) : Within allowed (ofKind file ancestors claimed node kind) :=
  within_ofKind_of_minorFrom (fun _ hfact => hminor _ (Fact.isMinor_of_isMinorFrom hfact)) hkind
    ancestors claimed node

/-- A construct that defines no symbol states plain facts. -/
theorem within_ofKind_of_plain (hplain : ∀ fact : Fact, fact.isPlain = true → allowed fact)
    {kind : String} (hkind : kind ∉ definingKinds) (file : SourceFile) (ancestors : List Node)
    (claimed : Bool) (node : Node) : Within allowed (ofKind file ancestors claimed node kind) :=
  within_ofKind_of_minor (fun _ hfact => hplain _ (Fact.isPlain_of_isMinor hfact)) hkind _ _ _ _

/-! ## Constructs that define symbols -/

/-- A class defines itself and the variables of its parameters, and may name its parent. -/
theorem within_hostClass_of_minorFrom {file : SourceFile}
    (hminor : ∀ fact : Fact, fact.isMinorFrom file.name = true → allowed fact) {node : Node}
    (hclass : allowed (.define .hostClass node.definedName false))
    (hparameter : ∀ index element parameter,
      (node.field "parameters").element? index = some element →
      element.nodeOf? ["Parameter"] = some parameter →
        allowed (.define .classVariable
          (node.definedName ++ "::" ++ Text.lower (parameter.fieldText "name")) false))
    (hparent : (node.field "parent_class").isTruthy = true →
      allowed (.inherit node.definedName (symbolName (node.field "parent_class").display))) :
    Within allowed (hostClass file node) := by
  unfold hostClass
  dsimp only
  refine ((within_fact.2 hclass).append (within_each fun index element helement => ?_)).append ?_
  · -- Each parameter defines a variable, or is none.
    split
    · next parameter hnode =>
        exact within_fact.2 (hparameter index element parameter helement hnode)
    · exact within_unsupported _ _ _ _
  · split
    · next htruthy => exact (within_minor hminor rfl).append (within_fact.2 (hparent htruthy))
    · exact within_nothing

/-- The same where all minor facts are allowed. -/
theorem within_hostClass_of_minor (hminor : ∀ fact : Fact, fact.isMinor = true → allowed fact)
    {node : Node} (hclass : allowed (.define .hostClass node.definedName false))
    (hparameter : ∀ index element parameter,
      (node.field "parameters").element? index = some element →
      element.nodeOf? ["Parameter"] = some parameter →
        allowed (.define .classVariable
          (node.definedName ++ "::" ++ Text.lower (parameter.fieldText "name")) false))
    (hparent : (node.field "parent_class").isTruthy = true →
      allowed (.inherit node.definedName (symbolName (node.field "parent_class").display)))
    (file : SourceFile) : Within allowed (hostClass file node) :=
  within_hostClass_of_minorFrom (fun _ hfact => hminor _ (Fact.isMinor_of_isMinorFrom hfact)) hclass
    hparameter hparent

/-- The same where all plain facts are allowed. -/
theorem within_hostClass (hplain : ∀ fact : Fact, fact.isPlain = true → allowed fact) {node : Node}
    (hclass : allowed (.define .hostClass node.definedName false))
    (hparameter : ∀ index element parameter,
      (node.field "parameters").element? index = some element →
      element.nodeOf? ["Parameter"] = some parameter →
        allowed (.define .classVariable
          (node.definedName ++ "::" ++ Text.lower (parameter.fieldText "name")) false))
    (file : SourceFile) : Within allowed (hostClass file node) :=
  within_hostClass_of_minor (fun _ hfact => hplain _ (Fact.isPlain_of_isMinor hfact)) hclass
    hparameter (fun _ => hplain _ rfl) file

/-- The value is a variable, and the text of its name is as given. -/
def IsVariable (target : Value) (text : String) : Prop :=
  ∃ variableNode name, target.nodeOf? ["VariableExpression"] = some variableNode ∧
    (variableNode.field "expr").nodeOf? ["QualifiedName"] = some name ∧ name.value.display = text

/-- A target of the assignment: what stands on its left, or an element of the list there. -/
def IsTarget (node : Node) (target : Value) : Prop :=
  node.field "left_expr" = target ∨
    ∃ list index, (node.field "left_expr").nodeOf? ["LiteralList"] = some list ∧
      (list.field "values").element? index = some target

/-- One target of an assignment defines at most a variable of the class around it. -/
theorem within_assignmentTarget {ancestors : List Node} {target : Value}
    (hvariable : ∀ className text, enclosingClass ancestors = some className → className ≠ "" →
      IsVariable target text → allowed (.define .classVariable (className ++ "::" ++ text) true))
    (file : SourceFile) (node : Node) (way : Claim) :
    Within allowed (assignmentTarget file ancestors node way target) := by
  unfold assignmentTarget
  split
  · exact within_unsupported _ _ _ _
  · next variableNode htarget =>
      split
      · exact within_unsupported _ _ _ _
      · next name hname =>
          refine (within_claim _).append ?_
          split
          · next className hclass =>
              split
              · exact within_nothing
              · next hnamed =>
                  exact within_fact.2
                    (hvariable className _ hclass hnamed ⟨variableNode, name, htarget, hname, rfl⟩)
          · exact within_nothing

/-- An assignment defines at most variables of the class around it, one for each target. -/
theorem within_assignment {ancestors : List Node} {node : Node}
    (hvariable : ∀ className target text, enclosingClass ancestors = some className →
      className ≠ "" → IsTarget node target → IsVariable target text →
        allowed (.define .classVariable (className ++ "::" ++ text) true))
    (file : SourceFile) : Within allowed (assignment file ancestors node) := by
  unfold assignment
  dsimp only
  split
  · next list hlist =>
      refine within_each fun index target htarget => within_assignmentTarget ?_ _ _ _
      intro className text hclass hnamed
      exact hvariable className target text hclass hnamed (.inr ⟨list, index, hlist, htarget⟩)
  · refine within_assignmentTarget ?_ _ _ _
    intro className text hclass hnamed
    exact hvariable className _ text hclass hnamed (.inl rfl)

/-- A construct states minor facts, definitions and parents, and refers from its file only. -/
theorem within_ofKind_from {file : SourceFile}
    (hminor : ∀ fact : Fact, fact.isMinorFrom file.name = true → allowed fact)
    (hdefine : ∀ category name allowRepeated, allowed (.define category name allowRepeated))
    (hinherit : ∀ child parent, allowed (.inherit child parent)) (ancestors : List Node)
    (claimed : Bool) (node : Node) (kind : String) :
    Within allowed (ofKind file ancestors claimed node kind) := by
  by_cases hkind : kind ∈ definingKinds
  · simp only [definingKinds, List.mem_cons, List.not_mem_nil, or_false] at hkind
    rcases hkind with rfl | rfl | rfl | rfl | rfl
    · exact within_hostClass_of_minorFrom hminor (hdefine _ _ _) (fun _ _ _ _ _ => hdefine _ _ _)
        fun _ => hinherit _ _
    · exact within_fact.2 (hdefine _ _ _)
    · exact within_fact.2 (hdefine _ _ _)
    · exact within_fact.2 (hdefine _ _ _)
    · exact within_assignment (fun _ _ _ _ _ _ _ => hdefine _ _ _) file
  · exact within_ofKind_of_minorFrom hminor hkind ancestors claimed node

/-- A construct states plain facts and definitions. -/
theorem within_ofKind (hplain : ∀ fact : Fact, fact.isPlain = true → allowed fact)
    (hdefine : ∀ category name allowRepeated, allowed (.define category name allowRepeated))
    (file : SourceFile) (ancestors : List Node) (claimed : Bool) (node : Node) (kind : String) :
    Within allowed (ofKind file ancestors claimed node kind) :=
  within_ofKind_from
    (fun _ hfact => hplain _ (Fact.isPlain_of_isMinor (Fact.isMinor_of_isMinorFrom hfact)))
    hdefine (fun _ _ => hplain _ rfl) ancestors claimed node kind

end Reading

/-! ## Trees -/

namespace Node

variable {allowed : Fact → Prop}

/-- A node of a kind that is no text states that it is unknown, if anything. -/
theorem within_ownReading_of_minorFrom {file : SourceFile}
    (hminor : ∀ fact : Fact, fact.isMinorFrom file.name = true → allowed fact)
    {ancestors : List Node} {claimed : Bool} {node : Node}
    (hkind : ∀ kind, node.kind = .str kind →
      (Reading.ofKind file ancestors claimed node kind).Within allowed) :
    (node.ownReading file ancestors claimed).Within allowed := by
  unfold ownReading
  refine (Reading.within_minor hminor rfl).append ?_
  cases hnode : node.kind with
  | str kind => exact hkind kind hnode
  | arr | obj => exact Reading.within_fail _
  | null | bool | int | float => exact Reading.within_minor hminor rfl

/-- The same where all minor facts are allowed. -/
theorem within_ownReading_of_minor (hminor : ∀ fact : Fact, fact.isMinor = true → allowed fact)
    {file : SourceFile} {ancestors : List Node} {claimed : Bool} {node : Node}
    (hkind : ∀ kind, node.kind = .str kind →
      (Reading.ofKind file ancestors claimed node kind).Within allowed) :
    (node.ownReading file ancestors claimed).Within allowed :=
  within_ownReading_of_minorFrom (fun _ hfact => hminor _ (Fact.isMinor_of_isMinorFrom hfact)) hkind

/-- The same where all plain facts are allowed. -/
theorem within_ownReading (hplain : ∀ fact : Fact, fact.isPlain = true → allowed fact)
    {file : SourceFile} {ancestors : List Node} {claimed : Bool} {node : Node}
    (hkind : ∀ kind, node.kind = .str kind →
      (Reading.ofKind file ancestors claimed node kind).Within allowed) :
    (node.ownReading file ancestors claimed).Within allowed :=
  within_ownReading_of_minor (fun _ hfact => hplain _ (Fact.isPlain_of_isMinor hfact)) hkind

/-- What holds of the readings of single nodes, and of one reading after another if it holds of
both, holds of trees, also where reading them fails. -/
theorem reading_induction {motive : Reading → Prop} (hnothing : motive .nothing)
    (happend : ∀ {first second : Reading}, motive first → motive second → motive (first ++ second))
    {file : SourceFile} {node : Node} (above : List (Node × Claim))
    (h : ∀ place ∈ node.places above, ∀ claimed,
      motive (place.node.ownReading file (place.above.map Prod.fst) claimed))
    (claims : List Claim) : motive (node.reading file (above.map Prod.fst) claims) := by
  have hjoin (readings : List Reading) (hall : ∀ reading ∈ readings, motive reading) :
      motive (Reading.join readings) := by
    induction readings with
    | nil => exact hnothing
    | cons reading rest ih =>
        obtain ⟨hreading, hrest⟩ := List.forall_mem_cons.1 hall
        exact happend hreading (ih hrest)
  induction node using Node.inductionOnChildren generalizing above claims with
  | h node ih =>
      rw [reading_eq_join]
      rw [places_eq] at h
      obtain ⟨hnode, hchildren⟩ := List.forall_mem_cons.1 h
      refine happend (hnode _) (hjoin _ fun reading hreading => ?_)
      obtain ⟨entry, hentry, rfl⟩ := List.mem_map.1 hreading
      have hbelow := ih entry hentry (stepDown node above entry.1) fun place hplace =>
        hchildren place (List.mem_flatMap.2 ⟨entry, hentry, hplace⟩)
      have hancestors :
          (stepDown node above entry.1).map Prod.fst = node :: above.map Prod.fst := by
        simp [stepDown]
      rw [hancestors] at hbelow
      exact hbelow _

/-- A tree states what its nodes state, also where reading it fails. -/
theorem within_reading {file : SourceFile} {node : Node} (above : List (Node × Claim))
    (h : ∀ place ∈ node.places above, ∀ claimed,
      (place.node.ownReading file (place.above.map Prod.fst) claimed).Within allowed)
    (claims : List Claim) : (node.reading file (above.map Prod.fst) claims).Within allowed :=
  reading_induction Reading.within_nothing Reading.Within.append above h claims

/-- A tree states no errors, and refers from its file only. -/
theorem within_reading_from {file : SourceFile}
    (hminor : ∀ fact : Fact, fact.isMinorFrom file.name = true → allowed fact)
    (hdefine : ∀ category name allowRepeated, allowed (.define category name allowRepeated))
    (hinherit : ∀ child parent, allowed (.inherit child parent)) (root : Node) :
    (root.reading file [] []).Within allowed :=
  within_reading [] (fun _ _ _ => within_ownReading_of_minorFrom hminor fun _ _ =>
    Reading.within_ofKind_from hminor hdefine hinherit _ _ _ _) []

end Node

end ModuleGraph
