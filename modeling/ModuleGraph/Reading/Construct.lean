import ModuleGraph.Reading.Basic

/-!
# What each construct says

One definition a construct of the language gives the facts that a node of that kind states by
itself, and the names below it whose meaning it settles. Apart from its own subtree a node looks
only at the class around an assignment and at the resource around a provider attribute.

`Node.ownReading` chooses the definition by the kind of the node. Literal strings and bare words
say nothing by themselves. One that nothing above has claimed, and that does not stand where such
words are mere data, is left pending.
-/

namespace ModuleGraph

/-- Kinds that say nothing by themselves. -/
def inertKinds : List String :=
  ["AndExpression", "ArithmeticExpression", "AttributesOperation", "BlockExpression",
    "BreakExpression", "CaseExpression", "CaseOption", "CollectExpression",
    "ComparisonExpression", "ConcatenatedString", "ExportedQuery", "HeredocExpression",
    "IfExpression", "InExpression", "KeyedEntry", "LambdaExpression", "LiteralBoolean",
    "LiteralDefault", "LiteralFloat", "LiteralHash", "LiteralInteger", "LiteralList",
    "LiteralRegularExpression", "LiteralUndef", "MatchExpression", "NamedAccessExpression",
    "NextExpression", "NodeDefinition", "Nop", "NotExpression", "OrExpression", "Parameter",
    "ParenthesizedExpression", "Program", "RelationshipExpression", "ResourceBody",
    "ResourceOverrideExpression", "ReturnExpression", "SelectorEntry", "SelectorExpression",
    "SubLocatedExpression", "TextExpression", "UnaryMinusExpression", "UnfoldExpression",
    "UnlessExpression", "VirtualQuery"]

/-- Kinds below which a literal string is data. -/
def stringDataKinds : List String :=
  ["AccessExpression", "AssignmentExpression", "AttributeOperation", "CallMethodExpression",
    "CallNamedFunctionExpression", "CaseOption", "ComparisonExpression", "ConcatenatedString",
    "FunctionDefinition", "IfExpression", "InExpression", "KeyedEntry", "LambdaExpression",
    "LiteralList", "MatchExpression", "NamedAccessExpression", "NodeDefinition", "Parameter",
    "ReturnExpression", "SelectorEntry", "SubLocatedExpression", "UnlessExpression"]

/-- Kinds below which a bare word is data. -/
def wordDataKinds : List String :=
  ["AttributeOperation", "CallNamedFunctionExpression", "CaseOption", "CollectExpression",
    "KeyedEntry", "NodeDefinition", "Parameter", "SelectorEntry"]

/-- Kinds that a provider attribute can belong to. -/
def resourceKinds : List String :=
  ["CollectExpression", "ResourceDefaultsExpression", "ResourceExpression",
    "ResourceOverrideExpression"]

/-- Kinds that can name a symbol. -/
def symbolKinds : List String := ["LiteralString", "QualifiedName"]

/-- Functions whose arguments name classes. -/
def includingFunctions : List String := ["include", "require", "contain"]

/-- Functions whose first argument names a resource type. -/
def creatingFunctions : List String := ["create_resources", "ensure_resource"]

namespace Reading

/-- A class: it is defined, as are its parameters as variables, and it may have a parent. -/
def hostClass (file : SourceFile) (node : Node) : Reading :=
  let name := node.definedName
  let parent := node.field "parent_class"
  define .hostClass name ++
    each (node.field "parameters") (fun _ parameter =>
      match parameter.nodeOf? ["Parameter"] with
      | some parameter =>
        define .classVariable (name ++ "::" ++ Text.lower (parameter.fieldText "name"))
      | none => unsupported file node "HostClassDefinition parameter" parameter.kindName) ++
    if parent.isTruthy then
      fact (.note (name ++ " inherits " ++ parent.display)) ++
        fact (.inherit name (symbolName parent.display))
    else nothing

/-- The name of the class around a node. -/
def enclosingClass (ancestors : List Node) : Option String :=
  (nearestOf ancestors [.str "HostClassDefinition"]).map Node.definedName

/-- One target of an assignment, at the end of the given way: inside a class, the class variable
is defined, and may be defined again. -/
def assignmentTarget (file : SourceFile) (ancestors : List Node) (node : Node) (way : Claim)
    (target : Value) : Reading :=
  match target.nodeOf? ["VariableExpression"] with
  | none => unsupported file node "AssignmentExpression left_expr" target.kindName
  | some target =>
    match (target.field "expr").nodeOf? ["QualifiedName"] with
    | none => unsupported file node "VariableExpression expr" (target.field "expr").kindName
    | some name =>
      claim (way ++ [⟨"expr", none⟩]) ++
        match enclosingClass ancestors with
        | some className =>
          if className = "" then nothing
          else fact (.define .classVariable (className ++ "::" ++ name.value.display) true)
        | none => nothing

/-- An assignment to a variable or to a list of variables. -/
def assignment (file : SourceFile) (ancestors : List Node) (node : Node) : Reading :=
  let left := node.field "left_expr"
  match left.nodeOf? ["LiteralList"] with
  | some list =>
    each (list.field "values") fun index target =>
      assignmentTarget file ancestors node [⟨"left_expr", none⟩, ⟨"values", some index⟩] target
  | none => assignmentTarget file ancestors node [⟨"left_expr", none⟩] left

/-- A variable: one with a namespace refers to a class variable. -/
def variableUse (file : SourceFile) (node : Node) : Reading :=
  let expr := node.field "expr"
  match expr.nodeOf? ["QualifiedName"] with
  | some name =>
    claim [⟨"expr", none⟩] ++
      match name.value.string? with
      | some text => if isQualified text then refer file .classVariable text else nothing
      | none => fail .undefinedOperation
  | none =>
    match expr.nodeOf? ["LiteralInteger"] with
    | some _ => nothing
    | none => unsupported file node "VariableExpression expr" expr.kindName

/-- Defaults of a resource type, which must be named directly. -/
def resourceDefaults (file : SourceFile) (node : Node) : Reading :=
  let type := node.field "type_ref"
  match type.nodeOf? ["QualifiedReference"] with
  | some _ => nothing
  | none => unsupported file node "ResourceDefaultsExpression type_ref" type.kindName

/-- A name that may stand for a class: it is claimed, and refers to the class if it does. -/
def className (file : SourceFile) (refers : Bool) (way : Claim) (entry : Value) : Reading :=
  match entry.nodeOf? symbolKinds with
  | some name =>
    claim way ++ if refers then refer file .hostClass name.symbol else nothing
  | none => nothing

/-- The titles of a resource body. -/
def bodyTitles (file : SourceFile) (ofClass : Bool) (index : Nat) (body : Value) : Reading :=
  match body.node?.bind fun body => (body.field "title").node? with
  | none => nothing
  | some title =>
    let way : Claim := [⟨"bodies", some index⟩, ⟨"title", none⟩]
    if title.isKind "LiteralList" then
      each (title.field "values") fun position entry =>
        className file ofClass (way ++ [⟨"values", some position⟩]) entry
    else className file ofClass way (.node title)

/-- A resource declaration: it refers to its type, and to the classes in its titles if it declares
classes. -/
def resource (file : SourceFile) (node : Node) : Reading :=
  let type := node.field "type_name"
  let bodies (ofClass : Bool) : Reading := each (node.field "bodies") (bodyTitles file ofClass)
  match type.nodeOf? ["QualifiedName"] with
  | some name =>
    let ofClass := name.value.string? == some "class"
    claim [⟨"type_name", none⟩] ++
      (if ofClass then nothing else referTo file .resourceType name.value) ++ bodies ofClass
  | none =>
    match type.nodeOf? ["AccessExpression"] with
    | some _ => bodies false
    | none => unsupported file node "ResourceExpression type_name" type.kindName

/-- A call in method form refers to the function. -/
def methodCall (file : SourceFile) (node : Node) : Reading :=
  let functor := node.field "functor_expr"
  match functor.nodeOf? ["NamedAccessExpression"] with
  | none => unsupported file node "CallMethodExpression functor_expr" functor.kindName
  | some access =>
    let right := access.field "right_expr"
    match right.nodeOf? ["QualifiedName"] with
    | none => unsupported file node "NamedAccessExpression right_expr" right.kindName
    | some name =>
      claim [⟨"functor_expr", none⟩, ⟨"right_expr", none⟩] ++ referTo file .function name.value

/-- The argument that names a resource type to create. -/
def resourceTypeArgument (file : SourceFile) (call : Node) (argument : Value) : Reading :=
  let construct := "create_resources/ensure_resource argument"
  match argument.nodeOf? symbolKinds with
  | some name =>
    claim [⟨"arguments", some 0⟩] ++ refer file .resourceType name.symbol
  | none =>
    match argument.nodeOf? ["AccessExpression", "ConcatenatedString", "VariableExpression"] with
    | some _ => nothing
    | none => unsupported file call construct argument.kindName

/-- An argument that names a class or several classes. -/
def classArgument (file : SourceFile) (call : Node) (index : Nat) (argument : Value) : Reading :=
  let way : Claim := [⟨"arguments", some index⟩]
  match argument.nodeOf? symbolKinds with
  | some _ => className file true way argument
  | none =>
    match argument.nodeOf? ["LiteralList"] with
    | some list =>
      each (list.field "values") fun position entry =>
        className file true (way ++ [⟨"values", some position⟩]) entry
    | none =>
      match argument.nodeOf? ["AccessExpression", "ConcatenatedString", "QualifiedReference",
          "VariableExpression"] with
      | some _ => nothing
      | none => unsupported file call "include/require/contain arg" argument.kindName

/-- The first element of a value that counts as present. -/
def firstElement (value : Value) : Except Failure Value :=
  match value with
  | .list (item :: _) => .ok item
  | .scalar (.str text) =>
    match Text.characters text with
    | c :: _ => .ok (.scalar (.str c))
    | [] => .error .undefinedOperation
  | _ => .error .undefinedOperation

/-- A call in function form refers to the function, and to what its arguments name if it is one
of those that take names. -/
def functionCall (file : SourceFile) (node : Node) : Reading :=
  let functor := node.field "functor_expr"
  let arguments := node.field "arguments"
  match functor.nodeOf? ["QualifiedReference"] with
  | some _ => nothing
  | none =>
    match functor.nodeOf? ["QualifiedName"] with
    | none => unsupported file node "CallNamedFunctionExpression functor_expr" functor.kindName
    | some function =>
      let name := function.value.string?.getD ""
      claim [⟨"functor_expr", none⟩] ++ referTo file .function function.value ++
        (if name ∈ creatingFunctions ∧ arguments.isTruthy then
          match firstElement arguments with
          | .ok argument => resourceTypeArgument file node argument
          | .error failure => fail failure
        else nothing) ++
        if name ∈ includingFunctions then each arguments (classArgument file node) else nothing

/-- An access by key: the keys of the reference `Class` name classes, those of `Resource` name
resource types. -/
def access (file : SourceFile) (node : Node) : Reading :=
  let left := node.field "left_expr"
  match left.nodeOf? ["QualifiedReference", "VariableExpression"] with
  | some target =>
    let reference :=
      if target.isKind "QualifiedReference" then Text.lower target.value.display else ""
    each (node.field "keys") fun index key =>
      match key.nodeOf? symbolKinds with
      | some name =>
        claim [⟨"keys", some index⟩] ++
          if reference = "class" then refer file .hostClass name.symbol
          else if reference = "resource" then refer file .resourceType name.symbol
          else nothing
      | none => nothing
  | none =>
    match left.nodeOf?
        ["AccessExpression", "CallMethodExpression", "CallNamedFunctionExpression"] with
    | some _ => nothing
    | none => unsupported file node "AccessExpression left_expr" left.kindName

/-- The value that gives the type of a resource-like node. -/
def resourceType (resource : Node) : Value :=
  if resource.isKind "ResourceExpression" then resource.field "type_name"
  else if resource.isKind "CollectExpression" then resource.field "type_expr"
  else if resource.isKind "ResourceDefaultsExpression" then resource.field "type_ref"
  else
    match (resource.field "resources").node? with
    | some resources => resources.field "left_expr"
    | none => .scalar .null

/-- An attribute: the provider of a resource refers to the provider of its type. -/
def attributeOperation (file : SourceFile) (ancestors : List Node) (node : Node) : Reading :=
  if (node.field "attribute_name").string? = some "provider" then
    match nearestOf ancestors (resourceKinds.map .str) with
    | none =>
      fact (.warn ("Failed to find parent resource for provider attribute in " ++ file.name))
    | some resource =>
      let type := resourceType resource
      match type.nodeOf? ["QualifiedName", "QualifiedReference"] with
      | some typeName =>
        let value := node.field "value_expr"
        match value.nodeOf? symbolKinds with
        | some provider =>
          refer file .provider
            (Text.lower typeName.value.display ++ "/" ++ provider.value.display)
        | none =>
          match value.nodeOf? ["VariableExpression"] with
          | some _ => nothing
          | none => unsupported file node "AttributeOperation value_expr" value.kindName
      | none =>
        match type.nodeOf? ["AccessExpression"] with
        | some _ => nothing
        | none => unsupported file resource "provider parent model" type.kindName
  else nothing

/-- A name is left pending unless it is claimed or stands below a kind where it is data. -/
def openName (ancestors : List Node) (claimed : Bool) (dataKinds : List String) (node : Node) :
    Reading :=
  if claimed || ancestors.any (fun ancestor => ancestor.isOneOf dataKinds) then nothing
  else { pending := [node] }

/-- What a node of a named kind says by itself. -/
def ofKind (file : SourceFile) (ancestors : List Node) (claimed : Bool) (node : Node) :
    String → Reading
  | "LiteralString" => openName ancestors claimed stringDataKinds node
  | "QualifiedName" => openName ancestors claimed wordDataKinds node
  | "HostClassDefinition" => hostClass file node
  | "ResourceTypeDefinition" => define .definedType node.definedName
  | "FunctionDefinition" => define .function node.definedName
  | "TypeAlias" => define .typeAlias node.definedName
  | "AssignmentExpression" => assignment file ancestors node
  | "QualifiedReference" => refer file .dataType (Text.lower node.value.display)
  | "VariableExpression" => variableUse file node
  | "ResourceDefaultsExpression" => resourceDefaults file node
  | "ResourceExpression" => resource file node
  | "CallMethodExpression" => methodCall file node
  | "CallNamedFunctionExpression" => functionCall file node
  | "AccessExpression" => access file node
  | "AttributeOperation" => attributeOperation file ancestors node
  | kind => if kind ∈ inertKinds then nothing else fact (.unhandled (.str kind))

end Reading

/-- The note that a node was met, indented by its depth. -/
def Node.foundNote (depth : Nat) (node : Node) : String :=
  let detail :=
    match node.value with
    | .scalar .null => ""
    | value => " '" ++ value.display ++ "'"
  String.ofList (List.replicate (2 * depth) ' ') ++ "Found " ++ node.kind.display ++ detail

/-- What a node says by itself, given its ancestors, nearest first, and whether it is claimed. -/
def Node.ownReading (file : SourceFile) (ancestors : List Node) (claimed : Bool) (node : Node) :
    Reading :=
  Reading.fact (.note (node.foundNote ancestors.length)) ++
    match node.kind with
    | .str kind => Reading.ofKind file ancestors claimed node kind
    | .arr _ | .obj _ => Reading.fail .undefinedOperation
    | kind => Reading.fact (.unhandled kind)

end ModuleGraph
