import ModuleGraph.Proofs.LetterCase
import ModuleGraph.Proofs.Meetings
import ModuleGraph.Proofs.Rescanning
import ModuleGraph.Proofs.Routes

/-!
# Forms of definitions and references

A manifest defines classes, resource types, functions and type aliases in one form each
(`DefinitionForm`), and refers to them in nine forms (`ReferenceForm`). Each form of reference is
recorded in a category and spelled in a way of its own: most bring the name to lower case, but
resource declarations and calls take it as it is written.

Read `references_meet_definitions` first: whatever the forms are, a reference in one module is
resolved to the only module that defines what is spelled. The lemmas before it say what each form
states (`Node.Defines.states`, `Node.Refers.states`), that the spellings meet
(`ReferenceForm.Spells.normalizeName_written`) and that what is defined is among the things that the
reference may mean (`ReferenceForm.mem_meanings`).
-/

namespace ModuleGraph

/-! ## Forms -/

/-- The constructs that define a symbol other than a variable. -/
inductive DefinitionForm
  | hostClass
  | definedType
  | function
  | typeAlias
deriving DecidableEq, Repr

namespace DefinitionForm

/-- The kind of the nodes that define. -/
def kind : DefinitionForm → String
  | .hostClass => "HostClassDefinition"
  | .definedType => "ResourceTypeDefinition"
  | .function => "FunctionDefinition"
  | .typeAlias => "TypeAlias"

/-- The category of what is defined. -/
def category : DefinitionForm → Category
  | .hostClass => .hostClass
  | .definedType => .definedType
  | .function => .function
  | .typeAlias => .typeAlias

end DefinitionForm

/-- The node defines something under the name that is written. -/
def Node.Defines (node : Node) (form : DefinitionForm) (name : String) : Prop :=
  node.kind = .str form.kind ∧ node.fieldText "name" = name

/-- The ways in which a manifest names a class, a type or a function. -/
inductive ReferenceForm
  /-- An argument of a function that includes classes. -/
  | classArgument
  /-- A title of a resource that declares classes. -/
  | classTitle
  /-- A key of the reference `Class`. -/
  | classKey
  /-- The first argument of a function that creates resources. -/
  | typeArgument
  /-- A key of the reference `Resource`. -/
  | typeKey
  /-- A capitalised type name. -/
  | typeReference
  /-- The type of a resource. -/
  | declaration
  /-- A call in function form. -/
  | functionCall
  /-- A call in method form. -/
  | methodCall
deriving DecidableEq, Repr

namespace ReferenceForm

/-- The category in which the reference is recorded. -/
def category : ReferenceForm → Category
  | .classArgument | .classTitle | .classKey => .hostClass
  | .typeArgument | .typeKey | .declaration => .resourceType
  | .typeReference => .dataType
  | .functionCall | .methodCall => .function

/-- The name under which a written name is recorded. -/
def written (form : ReferenceForm) (text : String) : String :=
  match form with
  | .classArgument | .classTitle | .classKey | .typeArgument | .typeKey => symbolName text
  | .typeReference => Text.lower text
  | .declaration | .functionCall | .methodCall => text

/-- The written text is meant to be the defined name: up to a top scope marker, and up to letter
case unless the form takes names as they are written, which is then in lower case. -/
def Spells (form : ReferenceForm) (text name : String) : Prop :=
  match form with
  | .classArgument | .classTitle | .classKey | .typeArgument | .typeKey | .typeReference =>
    symbolName text = symbolName name
  | .declaration | .functionCall | .methodCall => normalizeName text = symbolName name

/-- The form is meant for what the other form defines. -/
def reaches : ReferenceForm → DefinitionForm → Bool
  | .classArgument, .hostClass | .classTitle, .hostClass | .classKey, .hostClass => true
  | .typeArgument, .definedType | .typeKey, .definedType | .declaration, .definedType => true
  | .typeReference, .definedType | .typeReference, .typeAlias => true
  | .functionCall, .function | .methodCall, .function => true
  | _, _ => false

/-- What a form is meant for is among the things that it may mean. -/
theorem mem_meanings {form : ReferenceForm} {definition : DefinitionForm}
    (h : form.reaches definition = true) (name : String) :
    (definition.category, name) ∈ Registry.meanings form.category name := by
  cases form <;> cases definition <;>
    simp [reaches, Registry.meanings, alternatives, category, DefinitionForm.category] at h ⊢

/-- Everything that a form may mean has the name that is recorded. -/
theorem name_of_mem_meanings {form : ReferenceForm} {name : String} {target : Category × String}
    (h : target ∈ Registry.meanings form.category name) :
    target.1 ≠ .classVariable ∧ target.2 = name := by
  cases form <;>
    simp only [Registry.meanings, alternatives, category, List.mem_cons, List.not_mem_nil,
      or_false] at h
  all_goals
    rcases h with rfl | rfl | rfl | rfl <;> exact ⟨Category.noConfusion, rfl⟩

/-- A spelling is recorded under the name that is defined. -/
theorem Spells.normalizeName_written {form : ReferenceForm} {text name : String}
    (h : form.Spells text name) (hname : ¬ HasMarker (normalizeName name)) :
    normalizeName (form.written text) = symbolName name := by
  cases form with
  | classArgument | classTitle | classKey | typeArgument | typeKey =>
      exact (congrArg normalizeName h).trans (normalizeName_symbolName hname)
  | typeReference => exact (normalizeName_lower text).trans h
  | declaration | functionCall | methodCall => exact h

end ReferenceForm

/-! ## Where the forms stand -/

/-- The value is a literal or bare word of the given text. -/
def Value.Names (value : Value) (text : String) : Prop :=
  ∃ name, value.nodeOf? symbolKinds = some name ∧ name.value.display = text

/-- The value is a list, and one of its elements is a literal or bare word of the given text. -/
def Value.Lists (value : Value) (text : String) : Prop :=
  ∃ list index element, value.nodeOf? ["LiteralList"] = some list ∧
    (list.field "values").element? index = some element ∧ element.Names text

namespace Node

/-- The node calls a function in function form. -/
def Calls (node : Node) (function : String) : Prop :=
  node.kind = .str "CallNamedFunctionExpression" ∧
    ∃ functor, (node.field "functor_expr").nodeOf? ["QualifiedName"] = some functor ∧
      functor.value.string? = some function

/-- The node declares resources of a type. -/
def Declares (node : Node) (type : String) : Prop :=
  node.kind = .str "ResourceExpression" ∧
    ∃ name, (node.field "type_name").nodeOf? ["QualifiedName"] = some name ∧
      name.value.string? = some type

/-- The node looks up keys of a type, whose name is given in lower case. -/
def LooksUp (node : Node) (type : String) : Prop :=
  node.kind = .str "AccessExpression" ∧
    ∃ reference, (node.field "left_expr").nodeOf? ["QualifiedReference"] = some reference ∧
      Text.lower reference.value.display = type

/-- The node refers to something by a text in the given form. -/
inductive Refers (node : Node) : ReferenceForm → String → Prop
  | classArgument {function text : String} {index : Nat} {argument : Value} :
      node.Calls function → function ∈ includingFunctions →
      (node.field "arguments").element? index = some argument →
      argument.Names text ∨ argument.Lists text → Refers node .classArgument text
  | classTitle {text : String} {index : Nat} {body : Node} :
      node.Declares "class" → (node.field "bodies").element? index = some (.node body) →
      (body.field "title").Names text ∨ (body.field "title").Lists text →
      Refers node .classTitle text
  | classKey {text : String} {index : Nat} {key : Value} :
      node.LooksUp "class" → (node.field "keys").element? index = some key → key.Names text →
      Refers node .classKey text
  | typeArgument {function text : String} {argument : Value} :
      node.Calls function → function ∈ creatingFunctions →
      (node.field "arguments").element? 0 = some argument → argument.Names text →
      Refers node .typeArgument text
  | typeKey {text : String} {index : Nat} {key : Value} :
      node.LooksUp "resource" → (node.field "keys").element? index = some key → key.Names text →
      Refers node .typeKey text
  | typeReference {text : String} :
      node.kind = .str "QualifiedReference" → node.value.display = text →
      Refers node .typeReference text
  | declaration {text : String} : node.Declares text → Refers node .declaration text
  | functionCall {text : String} : node.Calls text → Refers node .functionCall text
  | methodCall {text : String} {access name : Node} :
      node.kind = .str "CallMethodExpression" →
      (node.field "functor_expr").nodeOf? ["NamedAccessExpression"] = some access →
      (access.field "right_expr").nodeOf? ["QualifiedName"] = some name →
      name.value.string? = some text → Refers node .methodCall text

end Node

/-! ## What the forms state -/

/-- A definition is stated. -/
theorem Node.Defines.states {node : Node} {form : DefinitionForm} {name : String}
    (h : node.Defines form name) (file : SourceFile) (ancestors : List Node) (claimed : Bool) :
    (Reading.ofKind file ancestors claimed node form.kind).States
      (.define form.category (symbolName name) false) := by
  obtain ⟨_, rfl⟩ := h
  cases form with
  | hostClass => exact (Reading.states_fact.append_left).append_left
  | definedType | function | typeAlias => exact Reading.states_fact

namespace Reading

variable {file : SourceFile} {node : Node} {text : String}

/-- A name of a class refers to it. -/
theorem states_className {value : Value} (h : value.Names text) (way : Claim) :
    (className file true way value).States (.refer .hostClass (symbolName text) file.name) := by
  obtain ⟨name, hname, rfl⟩ := h
  unfold className
  rw [hname]
  exact (states_refer file .hostClass name.symbol).append_right

/-- An argument refers to the classes that it names. -/
theorem states_classArgument {argument : Value} (h : argument.Names text ∨ argument.Lists text)
    (index : Nat) : (classArgument file node index argument).States
      (.refer .hostClass (symbolName text) file.name) := by
  unfold classArgument
  rcases h with hnames | ⟨list, position, element, hlist, helement, hnames⟩
  · obtain ⟨name, hname, _⟩ := id hnames
    simp only [hname]
    exact states_className hnames _
  · simp only [Value.nodeOf?_eq_none symbolKinds hlist (by decide), hlist]
    exact states_each helement (states_className hnames _)

/-- A resource body that declares classes refers to those in its titles. -/
theorem states_bodyTitles {body : Node}
    (h : (body.field "title").Names text ∨ (body.field "title").Lists text) (index : Nat) :
    (bodyTitles file true index (.node body)).States
      (.refer .hostClass (symbolName text) file.name) := by
  unfold bodyTitles
  rcases h with hnames | ⟨list, position, element, hlist, helement, hnames⟩
  · obtain ⟨title, htitle, _⟩ := id hnames
    obtain ⟨hnode, hkind⟩ := Value.nodeOf?_eq_some.1 htitle
    have hlist : title.isKind "LiteralList" = false := by
      have hnone := Value.nodeOf?_eq_none ["LiteralList"] htitle (by decide)
      rw [hnode, Value.nodeOf?_node] at hnone
      simpa [Node.isOneOf] using hnone
    rw [hnode] at hnames
    simp only [Value.node?, Option.bind_some, hnode, hlist, Bool.false_eq_true, if_false]
    exact states_className hnames _
  · obtain ⟨hnode, hkind⟩ := Value.nodeOf?_eq_some.1 hlist
    have htitle : list.isKind "LiteralList" = true := by simpa [Node.isOneOf] using hkind
    simp only [Value.node?, Option.bind_some, hnode, htitle, if_true]
    exact states_each helement (states_className hnames _)

/-- A call states what its function, its creating arguments and its including arguments state. -/
theorem states_functionCall {function : String} (h : node.Calls function) {item : Fact}
    (hitem : States item (refer file .function function) ∨
      (function ∈ creatingFunctions ∧ ∃ argument,
        (node.field "arguments").element? 0 = some argument ∧
        States item (resourceTypeArgument file node argument)) ∨
      (function ∈ includingFunctions ∧ ∃ index argument,
        (node.field "arguments").element? index = some argument ∧
        States item (classArgument file node index argument))) :
    States item (functionCall file node) := by
  obtain ⟨_, functor, hfunctor, hname⟩ := h
  unfold functionCall
  simp only [Value.nodeOf?_eq_none ["QualifiedReference"] hfunctor (by decide), hfunctor, referTo,
    hname, Option.getD_some]
  rcases hitem with hrefer | ⟨hcreating, argument, hargument, hstates⟩ |
    ⟨hincluding, index, argument, hargument, hstates⟩
  · exact ((hrefer.append_right).append_left).append_left
  · have htruthy : (node.field "arguments").isTruthy = true := by
      by_contra habsent
      rw [element?_of_not_isTruthy habsent] at hargument
      cases hargument
    rw [if_pos ⟨hcreating, htruthy⟩]
    refine (States.append_right ?_).append_left
    cases hfirst : firstElement (node.field "arguments") with
    | ok first =>
        obtain rfl : first = argument :=
          Option.some.inj ((element?_zero_of_firstElement hfirst).symm.trans hargument)
        exact hstates
    | error failure =>
        intro hfailure
        cases hfailure
  · rw [if_pos hincluding]
    exact (states_each hargument hstates).append_right

/-- The first argument of a function that creates resources refers to their type. -/
theorem states_resourceTypeArgument {argument : Value} (h : argument.Names text) :
    (resourceTypeArgument file node argument).States
      (.refer .resourceType (symbolName text) file.name) := by
  obtain ⟨name, hname, rfl⟩ := h
  unfold resourceTypeArgument
  simp only [hname]
  exact (states_refer file .resourceType name.symbol).append_right

/-- An access by keys refers to what each of them names. -/
theorem states_access {type : String} (h : node.LooksUp type) {index : Nat} {key : Value}
    (hkey : (node.field "keys").element? index = some key) (hnames : key.Names text) {item : Fact}
    (hitem : States item
      (if type = "class" then refer file .hostClass (symbolName text)
      else if type = "resource" then refer file .resourceType (symbolName text)
      else nothing)) :
    States item (access file node) := by
  obtain ⟨_, reference, hreference, rfl⟩ := h
  obtain ⟨name, hname, rfl⟩ := hnames
  obtain ⟨hnode, hkind⟩ := Value.nodeOf?_eq_some.1 hreference
  have hisKind : reference.isKind "QualifiedReference" = true := by
    simpa [Node.isOneOf] using hkind
  have hleft : (node.field "left_expr").nodeOf? ["QualifiedReference", "VariableExpression"] =
      some reference := by
    rw [hnode, Value.nodeOf?_node]
    simp [Node.isOneOf, hisKind]
  unfold access
  simp only [hleft, hisKind, if_true]
  refine states_each hkey ?_
  simp only [hname]
  exact hitem.append_right

/-- The type of a resource is referred to, unless it declares classes. -/
theorem states_resource (h : node.Declares text) (hclass : text ≠ "class") :
    (resource file node).States (.refer .resourceType text file.name) := by
  obtain ⟨_, name, hname, htext⟩ := h
  unfold resource
  simp only [hname, htext, Option.some_beq_some, beq_eq_false_iff_ne.2 hclass, Bool.false_eq_true,
    if_false]
  exact ((states_referTo htext).append_right).append_left

/-- A resource that declares classes refers to those in its titles. -/
theorem states_classes (h : node.Declares "class") {index : Nat} {body : Node}
    (hbody : (node.field "bodies").element? index = some (.node body))
    (htitle : (body.field "title").Names text ∨ (body.field "title").Lists text) :
    (resource file node).States (.refer .hostClass (symbolName text) file.name) := by
  obtain ⟨_, name, hname, htext⟩ := h
  unfold resource
  simp only [hname, htext, BEq.rfl, if_true]
  exact (states_each hbody (states_bodyTitles htitle index)).append_right

end Reading

/-- A reference is stated in the category of its form, under the name in which the form writes
it. The word `class` in the place of a resource type is none. -/
theorem Node.Refers.states {node : Node} {form : ReferenceForm} {text : String}
    (h : node.Refers form text) (hclass : form = .declaration → text ≠ "class") :
    ∃ kind, node.kind = .str kind ∧ ∀ file ancestors claimed,
      (Reading.ofKind file ancestors claimed node kind).States
        (.refer form.category (form.written text) file.name) := by
  cases h with
  | classArgument hcalls hincluding hargument hnames =>
      exact ⟨_, hcalls.1, fun _ _ _ => Reading.states_functionCall hcalls (.inr (.inr
        ⟨hincluding, _, _, hargument, Reading.states_classArgument hnames _⟩))⟩
  | classTitle hdeclares hbody htitle =>
      exact ⟨_, hdeclares.1, fun _ _ _ => Reading.states_classes hdeclares hbody htitle⟩
  | classKey hlooks hkey hnames =>
      exact ⟨_, hlooks.1, fun _ _ _ =>
        Reading.states_access hlooks hkey hnames (Reading.states_refer _ _ _)⟩
  | typeArgument hcalls hcreating hargument hnames =>
      exact ⟨_, hcalls.1, fun _ _ _ => Reading.states_functionCall hcalls (.inr (.inl
        ⟨hcreating, _, hargument, Reading.states_resourceTypeArgument hnames⟩))⟩
  | typeKey hlooks hkey hnames =>
      exact ⟨_, hlooks.1, fun _ _ _ =>
        Reading.states_access hlooks hkey hnames (Reading.states_refer _ _ _)⟩
  | typeReference hkind hvalue =>
      subst hvalue
      exact ⟨_, hkind, fun _ _ _ => Reading.states_refer _ _ _⟩
  | declaration hdeclares =>
      exact ⟨_, hdeclares.1, fun _ _ _ => Reading.states_resource hdeclares (hclass rfl)⟩
  | functionCall hcalls =>
      exact ⟨_, hcalls.1, fun _ _ _ =>
        Reading.states_functionCall hcalls (.inl (Reading.states_refer _ _ _))⟩
  | @methodCall _ access name hkind haccess hname htext =>
      refine ⟨_, hkind, fun file _ _ => ?_⟩
      show (Reading.methodCall file node).States _
      unfold Reading.methodCall
      simp only [haccess, hname]
      exact (Reading.states_referTo htext).append_right

/-! ## Definitions and references meet -/

/-- In a file of the module, a node defines the name in the given form. -/
def ModuleSource.Defines (source : ModuleSource) (form : DefinitionForm) (name : String) : Prop :=
  ∃ file place, source.HasPlace file place ∧ place.node.Defines form name

/-- In a file of the module, a node refers to something by the text in the given form. -/
def ModuleSource.Refers (source : ModuleSource) (form : ReferenceForm) (text : String) : Prop :=
  ∃ file place, source.HasPlace file place ∧ place.node.Refers form text

/-- What a module defines is among its symbols. -/
theorem ModuleSource.Defines.mem_symbols {source : ModuleSource} {form : DefinitionForm}
    {name : String} (h : source.Defines form name) (hreadable : source.Readable)
    (hname : ¬ HasMarker (normalizeName name)) :
    (form.category, symbolName name) ∈ source.symbols := by
  obtain ⟨file, place, hplace, hdefines⟩ := h
  have hfact := mem_facts hreadable hplace hdefines.1 (hdefines.states file place.ancestors)
  refine List.mem_filterMap.2 ⟨_, hfact, ?_⟩
  rw [Fact.symbol?, normalizeName_symbolName hname]

/-- Definitions and references meet in every form. If one module alone defines a name as a class, a
resource type, a function or a type alias, and another one spells it in a form that is meant for
that, then resolving the other module lists the first one. -/
theorem references_meet_definitions {sources : List ModuleSource}
    {start state : Context × Table String Module} (hscanned : Scanned sources start state)
    {definer user : ModuleSource} (hdefiner : definer ∈ sources) (huser : user ∈ sources)
    (hother : definer.name ≠ user.name) (hbuiltin : definer.name ≠ builtinOwner)
    {name text : String} (hmarker : ¬ HasMarker (normalizeName name))
    (hclass : symbolName name ≠ "class")
    {definition : DefinitionForm} (hdefines : definer.Defines definition name)
    (honly : ∀ category,
      OnlyDefinedBy definer.name sources start.1.registry category (symbolName name))
    {reference : ReferenceForm} (hreaches : reference.reaches definition = true)
    (hspells : reference.Spells text name) (hrefers : user.Refers reference text)
    (control : List String) :
    ∃ resolution names,
      (Resolver.resolve state.2 { names := [user.name] } { controlModules := control }
        state.1).1 = .ok resolution ∧
      resolution.modules.get? user.name = some names ∧ definer.name ∈ names := by
  have hsymbol := hdefines.mem_symbols (hscanned.readable hdefiner) hmarker
  have hwritten := hspells.normalizeName_written hmarker
  -- The reference is in the table of the module, under the name that is defined.
  have hmentions : ∃ file, user.scanned.dependencies.Mentions reference.category
      (symbolName name) file := by
    obtain ⟨file, place, hplace, hnode⟩ := hrefers
    obtain ⟨kind, hkind, hstates⟩ := hnode.states (by
      rintro rfl rfl
      exact hclass hspells.symm)
    have hfact := ModuleSource.mem_facts (hscanned.readable huser) hplace hkind
      (hstates file place.ancestors)
    have hreserved : ¬ Dependencies.IsReserved reference.category (reference.written text) := by
      intro hreserved
      cases reference <;> cases hreserved.1
    rw [← hwritten]
    exact ⟨file.name, ModuleSource.mentions_scanned hfact hreserved⟩
  -- Nobody but the definer owns anything that it may mean.
  have hfind (category : Category) (hcategory : category ≠ .classVariable) :
      state.1.aliasInherited.2.registry.find? category (symbolName name) =
        state.1.registry.find? category (symbolName name) := by
    rw [Context.find?_aliasInherited, if_neg hcategory.symm, Option.or_none]
  have hplain := normalizeName_symbolName hmarker
  obtain ⟨found, hfound, howner⟩ : ∃ found,
      state.1.aliasInherited.2.registry.lookup reference.category (symbolName name) =
        some found ∧ found.owner = definer.name := by
    refine Registry.exists_lookup ⟨_, reference.mem_meanings hreaches _, ?_⟩ ?_
    · have hcategory := (reference.name_of_mem_meanings (reference.mem_meanings hreaches
        (symbolName name))).1
      rw [Registry.owner?, hplain, hfind _ hcategory]
      exact hscanned.find?_of_only hdefiner hsymbol (honly _)
    · intro target htarget other howner
      obtain ⟨hcategory, htext⟩ := reference.name_of_mem_meanings htarget
      rw [Registry.owner?, htext, hplain, hfind _ hcategory] at howner
      exact hscanned.owner_of_only (honly _) howner
  obtain ⟨file, hmention⟩ := hmentions
  rw [← howner] at hother hbuiltin ⊢
  exact hscanned.lists huser hmention hfound hbuiltin hother control

/-- A module that defines a class. -/
def serverModule : ModuleSource :=
  Rescan.moduleOfTree "base" (Rescan.classTree "Base::Server" [])

/-- A list with one bare word. -/
def wordList (text : String) : Node :=
  .mk (.str "LiteralList") [("values", .list [.node (word text)])] 0 0

/-- A module that includes a class from a list. -/
def includingModule (text : String) : ModuleSource :=
  Rescan.moduleOfTree "site" (.mk (.str "CallNamedFunctionExpression")
    [("functor_expr", .node (word "include")), ("arguments", .list [.node (wordList text)])] 0 0)

/-- The class is found under another spelling in a list. -/
theorem included_server_listed :
    let sources := [serverModule, includingModule "::BASE::server"]
    let state := sources.foldl ModuleSource.enter ({}, [])
    ∃ resolution names,
      (Resolver.resolve state.2 { names := ["site"] } {} state.1).1 = .ok resolution ∧
      resolution.modules.get? "site" = some names ∧ "base" ∈ names := by
  intro sources state
  have hscanned : Scanned sources ({}, []) state :=
    ⟨by decide, scanSources_eq_ok_iff.2 ⟨by decide +kernel, rfl⟩⟩
  have hplace (name : String) (root : Node) : (Rescan.moduleOfTree name root).HasPlace
      ⟨"manifests/init.pp", .str ""⟩ ⟨root, []⟩ := ModuleSource.hasPlace_root List.mem_cons_self
  have hdefines : serverModule.Defines .hostClass "Base::Server" :=
    ⟨_, _, hplace _ _, rfl, rfl⟩
  have honly (category : Category) :
      OnlyDefinedBy "base" sources {} category (symbolName "Base::Server") := by
    constructor
    · intro other hother
      cases hother
    · cases category <;> decide +kernel
  have hspells : ReferenceForm.classArgument.Spells "::BASE::server" "Base::Server" := by
    show symbolName _ = symbolName _
    decide +kernel
  have hargument : (Value.list [.node (wordList "::BASE::server")]).element? 0 =
      some (.node (wordList "::BASE::server")) := rfl
  have hrefers : (includingModule "::BASE::server").Refers .classArgument "::BASE::server" :=
    ⟨_, _, hplace _ _, .classArgument ⟨rfl, _, rfl, rfl⟩ (by decide) hargument
      (.inr ⟨_, 0, _, rfl, rfl, _, rfl, rfl⟩)⟩
  exact references_meet_definitions hscanned List.mem_cons_self
    (List.mem_cons_of_mem _ List.mem_cons_self) (by decide) (by decide) (by decide +kernel)
    (by decide +kernel) hdefines honly rfl hspells hrefers defaultControlModules

end ModuleGraph
