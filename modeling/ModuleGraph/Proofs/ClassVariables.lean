import ModuleGraph.Proofs.LetterCase
import ModuleGraph.Proofs.Meetings
import ModuleGraph.Proofs.Rescanning
import ModuleGraph.Proofs.Searching
import ModuleGraph.Proofs.StatedFacts

/-!
# Variables of classes

A class has the variables of its parameters and those that are assigned in its body. An assignment
defines its variable as it is written, and so do references name it, but a parameter is defined in
lower case. So a variable that is only a parameter, and that is written with a letter that is not in
lower case, is defined under a name that nobody refers to.

`class_variable_found_unless_folded` says that this is all that goes wrong: in a run in which
nothing else defines the variable, a reference to it by the name of the class leads to its module,
unless the variable is such a parameter; then the reference is recorded as missing.
-/

namespace ModuleGraph

/-! ## Names of classes -/

/-- The word before a colon is what stands before the first character that belongs to no word. -/
theorem Text.takeWhile_isWord {word : List Char} (h : word.all isWord = true) (tail : List Char) :
    (word ++ ':' :: tail).takeWhile isWord = word := by
  have hcolon : isWord ':' = false := by decide +kernel
  rw [List.takeWhile_append_of_pos (List.all_eq_true.1 h),
    List.takeWhile_cons_of_neg (by simp [hcolon]), List.append_nil]

/-- The name of a class: segments of word characters, of which the first one is not that of the
variables that the compiler provides. -/
structure ClassName where
  /-- The first segment. -/
  first : String
  /-- The other segments. -/
  rest : List String
  /-- The segments are not empty and made of word characters. -/
  words : ∀ segment ∈ first :: rest, segment ≠ "" ∧ segment.toList.all Text.isWord = true
  /-- The namespace is not a reserved one. -/
  not_settings : first ≠ "settings"

namespace ClassName

variable (className : ClassName)

/-- The name as it is written. -/
def text : String :=
  String.intercalate "::" (className.first :: className.rest)

/-- The name of a variable of the class. -/
def variableName (name : String) : String :=
  className.text ++ "::" ++ name

/-- A separator follows the first segment in the name of a variable. -/
theorem exists_tail (name : String) : ∃ tail,
    (className.variableName name).toList = className.first.toList ++ ':' :: ':' :: tail := by
  unfold variableName text
  rw [String.toList_append, String.toList_append, String.toList_intercalate, List.map_cons]
  cases className.rest with
  | nil => exact ⟨name.toList, by simp⟩
  | cons next rest =>
      rw [List.map_cons, List.intercalate_cons_cons]
      refine ⟨"::".toList.intercalate (next.toList :: rest.map String.toList) ++ "::".toList ++
        name.toList, ?_⟩
      simp

/-- The first segment is what stands before the first character that belongs to no word. -/
theorem takeWhile_variableName (name : String) :
    (className.variableName name).toList.takeWhile Text.isWord = className.first.toList := by
  obtain ⟨tail, htail⟩ := className.exists_tail name
  rw [htail]
  exact Text.takeWhile_isWord (className.words _ List.mem_cons_self).2 _

/-- The name of a variable has no top scope marker. -/
theorem not_hasMarker (name : String) : ¬ HasMarker (className.variableName name) := by
  intro hmarker
  obtain ⟨rest, hrest⟩ := hmarker
  have hfirst := className.takeWhile_variableName name
  rw [← hrest] at hfirst
  have hempty : className.first.toList = [] :=
    hfirst.symm.trans (Text.takeWhile_isWord List.all_nil (':' :: rest))
  exact (className.words _ List.mem_cons_self).1 (String.toList_eq_nil_iff.1 hempty)

/-- The compiler does not provide the variable. -/
theorem not_isReserved {text name : String}
    (htext : normalizeName text = className.variableName name) :
    ¬ Dependencies.IsReserved .classVariable text := by
  intro hreserved
  obtain ⟨rest, hrest⟩ := List.isPrefixOf_iff_prefix.1 hreserved.2
  rw [htext] at hrest
  have hfirst := className.takeWhile_variableName name
  rw [← hrest] at hfirst
  have hword : "settings".toList.all Text.isWord = true := by decide
  have hsettings : className.first.toList = "settings".toList :=
    hfirst.symm.trans (Text.takeWhile_isWord hword (':' :: rest))
  exact className.not_settings (String.toList_inj.1 hsettings)

/-- The name of a variable is registered as it is. -/
theorem normalizeName_variableName (name : String) :
    normalizeName (className.text ++ "::" ++ name) = className.variableName name :=
  normalizeName_eq_self (className.not_hasMarker name)

/-- The variables of a class have different names. -/
theorem variableName_injective : Function.Injective className.variableName := by
  intro first second h
  exact String.append_right_inj _ |>.1 h

end ClassName

/-- The name of a variable is qualified, with and without top scope marker. -/
theorem ClassName.isQualified (className : ClassName) {text name : String}
    (htext : text = className.variableName name ∨ text = "::" ++ className.variableName name) :
    isQualified text = true := by
  obtain ⟨tail, htail⟩ := className.exists_tail name
  obtain ⟨hfirst, hwords⟩ := className.words _ List.mem_cons_self
  have hne : className.first.toList ≠ [] := fun hnil => hfirst (String.toList_eq_nil_iff.1 hnil)
  obtain ⟨front, c, hlast⟩ : ∃ front c, className.first.toList = front ++ [c] :=
    ⟨_, _, (List.dropLast_append_getLast hne).symm⟩
  have hword : Text.isWord c = true :=
    List.all_eq_true.1 hwords c (by rw [hlast]; exact List.mem_append_right _ List.mem_cons_self)
  -- The last character of the first segment is one before a separator.
  obtain ⟨before, hsplit⟩ : ∃ before, text.toList = before ++ c :: ':' :: ':' :: tail := by
    rcases htext with rfl | rfl
    · exact ⟨front, by rw [htail, hlast]; simp⟩
    · exact ⟨"::".toList ++ front, by rw [String.toList_append, htail, hlast]; simp⟩
  unfold ModuleGraph.isQualified
  rw [hsplit]
  refine Text.search_isSome ?_ before
  simp [hword]

/-! ## Where variables are defined and used -/

namespace ModuleSource

/-- A class of the module has the parameter. -/
def DeclaresParameter (source : ModuleSource) (className parameter : String) : Prop :=
  ∃ file place index element node, source.HasPlace file place ∧
    place.node.kind = .str "HostClassDefinition" ∧ place.node.definedName = className ∧
    (place.node.field "parameters").element? index = some element ∧
    element.nodeOf? ["Parameter"] = some node ∧ node.fieldText "name" = parameter

/-- In a class of the module, the variable is assigned. -/
def AssignsVariable (source : ModuleSource) (className name : String) : Prop :=
  ∃ file place target, source.HasPlace file place ∧
    place.node.kind = .str "AssignmentExpression" ∧
    Reading.enclosingClass place.ancestors = some className ∧ className ≠ "" ∧
    Reading.IsTarget place.node target ∧ Reading.IsVariable target name

/-- In a file of the module, a variable is used under the name. -/
def UsesVariable (source : ModuleSource) (file : SourceFile) (text : String) : Prop :=
  ∃ place name, source.HasPlace file place ∧
    place.node.kind = .str "VariableExpression" ∧
    (place.node.field "expr").nodeOf? ["QualifiedName"] = some name ∧
    name.value.string? = some text

variable {source : ModuleSource} {className name : String}

/-- A parameter defines a variable in lower case. -/
theorem DeclaresParameter.mem_symbols (h : source.DeclaresParameter className name)
    (hreadable : source.Readable) :
    (.classVariable, normalizeName (className ++ "::" ++ Text.lower name)) ∈ source.symbols := by
  obtain ⟨file, place, index, element, node, hplace, hkind, rfl, helement, hnode, rfl⟩ := h
  have hfact := mem_facts hreadable hplace hkind fun claimed => show
      (Reading.hostClass file place.node).States (.define .classVariable
        (place.node.definedName ++ "::" ++ Text.lower (node.fieldText "name")) false) by
    refine (Reading.States.append_right ?_).append_left
    refine Reading.states_each helement ?_
    rw [hnode]
    exact Reading.states_fact
  exact List.mem_filterMap.2 ⟨_, hfact, rfl⟩

/-- An assignment defines a variable as it is written. -/
theorem AssignsVariable.mem_symbols (h : source.AssignsVariable className name)
    (hreadable : source.Readable) :
    (.classVariable, normalizeName (className ++ "::" ++ name)) ∈ source.symbols := by
  obtain ⟨file, place, target, hplace, hkind, henclosing, hclass, htarget,
    ⟨variableNode, word, hvariable, hword, rfl⟩⟩ := h
  have hstates (way : Claim) :
      (Reading.assignmentTarget file place.ancestors place.node way target).States
        (.define .classVariable (className ++ "::" ++ word.value.display) true) := by
    unfold Reading.assignmentTarget
    simp only [hvariable, hword, henclosing, if_neg hclass]
    exact Reading.states_fact.append_right
  have hfact := mem_facts hreadable hplace hkind fun claimed => show
      (Reading.assignment file place.ancestors place.node).States (.define .classVariable
        (className ++ "::" ++ word.value.display) true) by
    unfold Reading.assignment
    rcases htarget with rfl | ⟨list, index, hlist, helement⟩
    · simp only [Value.nodeOf?_eq_none ["LiteralList"] hvariable (by decide)]
      exact hstates _
    · simp only [hlist]
      exact Reading.states_each helement (hstates _)
  exact List.mem_filterMap.2 ⟨_, hfact, rfl⟩

/-- A variable that is used under a qualified name is mentioned. -/
theorem UsesVariable.mentions {file : SourceFile} {text : String}
    (h : source.UsesVariable file text) (hreadable : source.Readable)
    (hqualified : isQualified text = true)
    (hreserved : ¬ Dependencies.IsReserved .classVariable text) :
    source.scanned.dependencies.Mentions .classVariable (normalizeName text) file.name := by
  obtain ⟨place, name, hplace, hkind, hname, htext⟩ := h
  have hfact := mem_facts hreadable hplace hkind fun claimed => show
      (Reading.variableUse file place.node).States (.refer .classVariable text file.name) by
    unfold Reading.variableUse
    simp only [hname, htext, hqualified, if_true]
    exact (Reading.states_refer _ _ _).append_right
  exact mentions_scanned hfact hreserved

/-- A parameter or an assignment in the manifests of the module defines the variable. -/
def StatesVariable (source : ModuleSource) (target : String) : Prop :=
  (∃ className name, source.DeclaresParameter className name ∧
    normalizeName (className ++ "::" ++ Text.lower name) = target) ∨
  ∃ className name, source.AssignsVariable className name ∧
    normalizeName (className ++ "::" ++ name) = target

/-- What a manifest states defines a variable only by a parameter or an assignment. -/
theorem within_statesVariable {file : SourceFile} {root : Node}
    (hmanifest : (file, root) ∈ source.manifests) (target : String) :
    (root.reading file [] []).Within fun item =>
      item.symbol? = some (.classVariable, target) → source.StatesVariable target := by
  have hplain (item : Fact) (hplain : item.isPlain = true) :
      item.symbol? = some (.classVariable, target) → source.StatesVariable target := by
    intro hsymbol
    cases item with
    | define | report => cases hplain
    | note | refer | inherit | unhandled | warn => cases hsymbol
  have hcategory {category : Category} {name : String} (hne : category ≠ .classVariable) :
      (Reading.define category name).Within fun item =>
        item.symbol? = some (.classVariable, target) → source.StatesVariable target :=
    Reading.within_fact.2 fun hsymbol => absurd (Prod.mk.inj (Option.some.inj hsymbol)).1 hne
  refine Node.within_reading [] (fun place hplace claimed => ?_) []
  have hhas : source.HasPlace file place := ⟨root, hmanifest, hplace⟩
  refine Node.within_ownReading hplain fun kind hkind => ?_
  by_cases hdefining : kind ∈ Reading.definingKinds
  · simp only [Reading.definingKinds, List.mem_cons, List.not_mem_nil, or_false] at hdefining
    rcases hdefining with rfl | rfl | rfl | rfl | rfl
    · refine Reading.within_hostClass hplain ?_ ?_ file
      · exact Reading.within_fact.1 (hcategory Category.noConfusion)
      · intro index element parameter helement hparameter hsymbol
        exact .inl ⟨_, _, ⟨file, place, index, element, parameter, hhas, hkind, rfl, helement,
          hparameter, rfl⟩, (Prod.mk.inj (Option.some.inj hsymbol)).2⟩
    · exact hcategory Category.noConfusion
    · exact hcategory Category.noConfusion
    · exact hcategory Category.noConfusion
    · refine Reading.within_assignment ?_ file
      intro className assigned text hclass hnamed htarget hvariable hsymbol
      exact .inr ⟨_, _, ⟨file, place, assigned, hhas, hkind, hclass, hnamed, htarget, hvariable⟩,
        (Prod.mk.inj (Option.some.inj hsymbol)).2⟩
  · exact Reading.within_ofKind_of_plain hplain hdefining _ _ _ _

/-- Only parameters, assignments and plugins define variables. -/
theorem statesVariable_of_mem_symbols {target : String}
    (h : (.classVariable, target) ∈ source.symbols)
    (hplugins : (.classVariable, target) ∉ source.plugins.filterMap Fact.symbol?) :
    source.StatesVariable target := by
  obtain ⟨item, hitem, hsymbol⟩ := List.mem_filterMap.1 h
  rcases List.mem_append.1 hitem with hmanifests | hplugin
  · obtain ⟨⟨file, root⟩, hmanifest, hfacts⟩ := List.mem_flatMap.1 hmanifests
    rcases List.mem_append.1 hfacts with hread | hwarning
    · rcases List.mem_cons.1 hread with rfl | hread
      · cases hsymbol
      · exact within_statesVariable hmanifest target item hread hsymbol
    · obtain ⟨_, _, rfl⟩ := List.mem_map.1 hwarning
      cases hsymbol
  · exact absurd (List.mem_filterMap.2 ⟨item, hplugin, hsymbol⟩) hplugins

end ModuleSource

/-! ## References to variables -/

/-- Nothing defines the variable of a class but what one module says in that class about a variable
of that name. -/
structure SoleVariable (definer : ModuleSource) (sources : List ModuleSource)
    (start state : Context × Table String Module) (className name : String) : Prop where
  /-- Nobody owned it before. -/
  before : start.1.registry.find? .classVariable (className ++ "::" ++ name) = none
  /-- No parameter of another spelling, class or module becomes it. -/
  declared : ∀ source ∈ sources, ∀ other parameter, source.DeclaresParameter other parameter →
    normalizeName (other ++ "::" ++ Text.lower parameter) = className ++ "::" ++ name →
      source = definer ∧ other = className ∧ parameter = name
  /-- No assignment in another class or module defines it. -/
  assigned : ∀ source ∈ sources, ∀ other assigned, source.AssignsVariable other assigned →
    normalizeName (other ++ "::" ++ assigned) = className ++ "::" ++ name →
      source = definer ∧ other = className ∧ assigned = name
  /-- No plugin defines it. -/
  plugins : ∀ source ∈ sources, (.classVariable, className ++ "::" ++ name) ∉
    source.plugins.filterMap Fact.symbol?
  /-- It is not the name of an inherited variable. -/
  inherited : ∀ owner, (className ++ "::" ++ name, owner) ∉
    Context.aliasesOf (state.1.registry.ofCategory .classVariable) state.1.inherits

namespace SoleVariable

variable {definer : ModuleSource} {sources : List ModuleSource}
variable {start state : Context × Table String Module} {className : ClassName} {name : String}

/-- No other module defines the variable. -/
theorem eq_definer (h : SoleVariable definer sources start state className.text name)
    {source : ModuleSource} (hsource : source ∈ sources)
    (hsymbol : (.classVariable, className.variableName name) ∈ source.symbols) :
    source = definer := by
  rcases ModuleSource.statesVariable_of_mem_symbols hsymbol (h.plugins source hsource) with
    ⟨_, _, hdeclares, hname⟩ | ⟨_, _, hassigns, hname⟩
  · exact (h.declared source hsource _ _ hdeclares hname).1
  · exact (h.assigned source hsource _ _ hassigns hname).1

/-- The module defines the variable if it assigns it, or if it has the parameter in lower case. -/
theorem mem_symbols_iff (h : SoleVariable definer sources start state className.text name)
    (hdefiner : definer ∈ sources) (hreadable : definer.Readable)
    (hstated : definer.DeclaresParameter className.text name ∨
      definer.AssignsVariable className.text name) :
    (.classVariable, className.variableName name) ∈ definer.symbols ↔
      definer.AssignsVariable className.text name ∨ Text.lower name = name := by
  constructor
  · intro hsymbol
    rcases ModuleSource.statesVariable_of_mem_symbols hsymbol (h.plugins definer hdefiner) with
      ⟨other, parameter, hdeclares, hname⟩ | ⟨other, assigned, hassigns, hname⟩
    · obtain ⟨_, rfl, rfl⟩ := h.declared definer hdefiner _ _ hdeclares hname
      rw [className.normalizeName_variableName] at hname
      exact .inr (className.variableName_injective hname)
    · obtain ⟨_, rfl, rfl⟩ := h.assigned definer hdefiner _ _ hassigns hname
      exact .inl hassigns
  · intro hcases
    have hassigned (hassigns : definer.AssignsVariable className.text name) :
        (.classVariable, className.variableName name) ∈ definer.symbols := by
      have hmem := hassigns.mem_symbols hreadable
      rwa [className.normalizeName_variableName] at hmem
    rcases hcases with hassigns | hlower
    · exact hassigned hassigns
    · rcases hstated with hdeclares | hassigns
      · have hmem := hdeclares.mem_symbols hreadable
        rwa [hlower, className.normalizeName_variableName] at hmem
      · exact hassigned hassigns

/-- When references are resolved, the variable has an owner if the module defines it. -/
theorem find?_eq (h : SoleVariable definer sources start state className.text name)
    (hscanned : Scanned sources start state) (hdefiner : definer ∈ sources) :
    state.1.aliasInherited.2.registry.find? .classVariable (className.variableName name) =
      if (.classVariable, className.variableName name) ∈ definer.symbols then some definer.name
      else none := by
  have hbefore : start.1.registry.find? .classVariable (className.variableName name) = none :=
    h.before
  have hinherited : Table.get? (Context.aliasesOf (state.1.registry.ofCategory .classVariable)
      state.1.inherits) (className.variableName name) = none := by
    cases hfind : Table.get? (Context.aliasesOf (state.1.registry.ofCategory .classVariable)
        state.1.inherits) (className.variableName name) with
    | none => rfl
    | some owner => exact absurd (Table.mem_of_get? hfind) (h.inherited owner)
  rw [Context.find?_aliasInherited, if_pos rfl, hinherited, Option.or_none]
  split
  · next hsymbol =>
      refine hscanned.find?_of_only hdefiner hsymbol ⟨?_, ?_⟩
      · intro other hother
        rw [hbefore] at hother
        cases hother
      · intro source hsource hsymbol'
        rw [h.eq_definer hsource hsymbol']
  · next hsymbol =>
      rw [hscanned.find?_eq, hbefore, Option.none_or, List.findSome?_eq_none_iff]
      intro source hsource
      refine if_neg fun hsymbol' => hsymbol ?_
      rwa [← h.eq_definer hsource hsymbol']

/-- A reference to the variable means it if the module defines it, and nothing otherwise. -/
theorem lookup_eq (h : SoleVariable definer sources start state className.text name)
    (hscanned : Scanned sources start state) (hdefiner : definer ∈ sources) :
    state.1.aliasInherited.2.registry.lookup .classVariable (className.variableName name) =
      if (.classVariable, className.variableName name) ∈ definer.symbols then
        some ⟨definer.name, none⟩
      else none := by
  have hplain := normalizeName_eq_self (className.not_hasMarker name)
  rw [Registry.lookup, Registry.owner?, hplain, h.find?_eq hscanned hdefiner]
  by_cases hsymbol : (.classVariable, className.variableName name) ∈ definer.symbols
  · simp only [if_pos hsymbol]
  · simp only [if_neg hsymbol]
    rfl

end SoleVariable

/-- A variable of a class leads to its module if it is defined as it is written. Let one module
alone have the variable, as a parameter or by an assignment, and let another one use it by the name
of its class, with or without top scope marker. If the variable is assigned or its name is in lower
case, resolving the other module lists the first one, and the variable is missing in no file.
Otherwise it is only a parameter that was defined in lower case, and the reference is recorded as
missing. -/
theorem class_variable_found_unless_folded {sources : List ModuleSource}
    {start state : Context × Table String Module} (hscanned : Scanned sources start state)
    {definer user : ModuleSource} (hdefiner : definer ∈ sources) (huser : user ∈ sources)
    (hother : definer.name ≠ user.name) (hbuiltin : definer.name ≠ builtinOwner)
    {className : ClassName} {name text : String}
    (hstated : definer.DeclaresParameter className.text name ∨
      definer.AssignsVariable className.text name)
    (hsole : SoleVariable definer sources start state className.text name)
    (htext : text = className.variableName name ∨ text = "::" ++ className.variableName name)
    {file : SourceFile} (huses : user.UsesVariable file text) (control : List String) :
    let missing := Warning.missingDefinition .classVariable (className.variableName name)
    ∃ resolution names resolver after,
      Resolver.resolve state.2 { names := [user.name] } { controlModules := control } state.1 =
        (.ok resolution, resolver, after) ∧
      resolution.modules.get? user.name = some names ∧
      (definer.AssignsVariable className.text name ∨ Text.lower name = name →
        definer.name ∈ names ∧ ∀ source,
          missing source ∈ after.diagnostics.found → missing source ∈ state.1.diagnostics.found) ∧
      (¬(definer.AssignsVariable className.text name ∨ Text.lower name = name) →
        missing file.name ∈ after.diagnostics.found) := by
  intro missing
  have hnormal : normalizeName text = className.variableName name := by
    rcases htext with rfl | rfl
    · exact className.normalizeName_variableName name
    · exact normalizeName_marker _
  have hmentions := huses.mentions (hscanned.readable huser) (className.isQualified htext)
    (className.not_isReserved hnormal)
  rw [hnormal] at hmentions
  have hdefined := hsole.mem_symbols_iff hdefiner (hscanned.readable hdefiner) hstated
  have hlookup := hsole.lookup_eq hscanned hdefiner
  have hmissing := hscanned.mem_found_missing_iff huser control .classVariable
    (className.variableName name)
  obtain ⟨resolution, names, hresolve, hnames, hmem⟩ :=
    exists_resolve_direct (hscanned.get?_eq huser) control state.1
  refine ⟨resolution, names, _, _, Prod.ext hresolve rfl, hnames, fun hgood => ⟨?_, ?_⟩, ?_⟩
  · obtain ⟨entry, hentry, hcategory, hentryName, _⟩ := hmentions
    rw [if_pos (hdefined.2 hgood), ← hcategory, ← hentryName] at hlookup
    exact (hmem definer.name).2 ⟨hbuiltin, hother, user.scanned, hscanned.get?_eq huser, entry,
      hentry, _, hlookup, rfl⟩
  · intro source hfound
    rcases (hmissing source).1 hfound with hbefore | ⟨_, hnone⟩
    · exact hbefore
    · rw [hlookup, if_pos (hdefined.2 hgood)] at hnone
      cases hnone
  · intro hfolded
    rw [if_neg (mt hdefined.1 hfolded)] at hlookup
    exact (hmissing file.name).2 (.inr ⟨hmentions, hlookup⟩)

/-- A class with a parameter in mixed case. -/
def webModule : ModuleSource :=
  Rescan.moduleOfTree "web" (Rescan.classTree "web" [("parameters", .list
    [.node (.mk (.str "Parameter") [("name", .scalar (.str "listenPort"))] 0 0)])])

/-- A module that uses the parameter. -/
def portModule : ModuleSource :=
  Rescan.moduleOfTree "site"
    (.mk (.str "VariableExpression") [("expr", .node (word "web::listenPort"))] 0 0)

/-- The reference to the parameter is recorded as missing, though the class has it. -/
theorem listenPort_missing :
    let state := [webModule, portModule].foldl ModuleSource.enter ({}, [])
    ∃ resolution resolver after,
      Resolver.resolve state.2 { names := ["site"] } {} state.1 =
        (.ok resolution, resolver, after) ∧
      .missingDefinition .classVariable "web::listenPort" "manifests/init.pp" ∈
        after.diagnostics.found := by
  intro state
  let className : ClassName := ⟨"web", [], by decide, by decide⟩
  have hscanned : Scanned [webModule, portModule] ({}, []) state :=
    ⟨by decide, scanSources_eq_ok_iff.2 ⟨by decide +kernel, rfl⟩⟩
  have hplace (name : String) (root : Node) : (Rescan.moduleOfTree name root).HasPlace
      ⟨"manifests/init.pp", .str ""⟩ ⟨root, []⟩ := ModuleSource.hasPlace_root List.mem_cons_self
  have hstated : webModule.DeclaresParameter className.text "listenPort" :=
    ⟨_, _, 0, _, _, hplace _ _, rfl, by decide +kernel, rfl, rfl, rfl⟩
  -- Neither module defines the variable as it is written.
  have hsymbols : ∀ source ∈ [webModule, portModule],
      (.classVariable, "web::listenPort") ∉ source.symbols := by decide +kernel
  have hassigns (source : ModuleSource) (hsource : source ∈ [webModule, portModule])
      (other assigned : String) (hassigned : source.AssignsVariable other assigned) :
      normalizeName (other ++ "::" ++ assigned) ≠ "web::listenPort" := by
    intro hname
    apply hsymbols source hsource
    rw [← hname]
    exact hassigned.mem_symbols (hscanned.readable hsource)
  have hsole : SoleVariable webModule [webModule, portModule] ({}, []) state className.text
      "listenPort" := by
    refine ⟨rfl, ?_, ?_, by decide +kernel, ?_⟩
    · intro source hsource other parameter hdeclares hname
      refine absurd ?_ (hsymbols source hsource)
      have hmem := hdeclares.mem_symbols (hscanned.readable hsource)
      rwa [hname] at hmem
    · intro source hsource other assigned hassigned hname
      exact absurd hname (hassigns source hsource other assigned hassigned)
    · intro owner hmem
      have hnone : Context.aliasesOf (state.1.registry.ofCategory .classVariable)
          state.1.inherits = [] := by decide +kernel
      rw [hnone] at hmem
      cases hmem
  have huses : portModule.UsesVariable ⟨"manifests/init.pp", .str ""⟩
      (className.variableName "listenPort") :=
    ⟨_, _, hplace _ _, rfl, rfl, rfl⟩
  obtain ⟨resolution, _, resolver, after, hresolve, _, _, hmissing⟩ :=
    class_variable_found_unless_folded hscanned List.mem_cons_self
      (List.mem_cons_of_mem _ List.mem_cons_self) (by decide) (by decide) (.inl hstated) hsole
      (.inl rfl) huses defaultControlModules
  refine ⟨resolution, resolver, after, hresolve, hmissing ?_⟩
  rintro (hassigned | hlower)
  · exact hassigns webModule List.mem_cons_self _ _ hassigned (by decide +kernel)
  · revert hlower
    decide +kernel

end ModuleGraph
