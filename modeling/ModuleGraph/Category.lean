/-!
# Categories of symbols

A symbol is a class, a function, a type or a variable. Its `Category` says which, and separates
the older kind of function, the providers of a resource type, and the ways in which a type can be
defined. `label` is the written form of a category and `ofLabel?` reads it.

Only some categories can be referred to: a reference to a capitalised type name, for instance, is
always recorded as a data type, and looked up in the other type categories later.
-/

namespace ModuleGraph

/-- What kind of symbol a name stands for. -/
inductive Category
  | hostClass
  | function
  | legacyFunction
  | resourceType
  | provider
  | definedType
  | dataType
  | typeAlias
  | classVariable
deriving DecidableEq, Repr, Inhabited

namespace Category

/-- Every category, in the order in which tables list them. -/
def all : List Category :=
  [.hostClass, .function, .legacyFunction, .resourceType, .provider, .definedType, .dataType,
    .typeAlias, .classVariable]

/-- The categories that a reference can have, in the order of a dependency table. -/
def referable : List Category :=
  [.hostClass, .function, .dataType, .provider, .resourceType, .classVariable]

/-- The written form of a category. -/
def label : Category → String
  | .hostClass => "class"
  | .function => "function"
  | .legacyFunction => "legacy_function"
  | .resourceType => "resource_type"
  | .provider => "provider"
  | .definedType => "defined_type"
  | .dataType => "data_type"
  | .typeAlias => "type_alias"
  | .classVariable => "variable"

/-- The category with a written form. -/
def ofLabel? (text : String) : Option Category :=
  all.find? fun category => category.label == text

/-- Every category is listed. -/
theorem mem_all (category : Category) : category ∈ all := by
  cases category <;> decide

/-- Reading the written form of a category gives it back. -/
@[simp] theorem ofLabel?_label (category : Category) : ofLabel? category.label = some category := by
  cases category <;> decide

end Category

end ModuleGraph
