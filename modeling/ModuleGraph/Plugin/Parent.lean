import ModuleGraph.Category
import ModuleGraph.Plugin.Pattern
import ModuleGraph.Text.LowerCase

/-!
# Parents of providers

A provider file may name the parents that its provider derives from, in the form
`:parent => R` or `parent: R`. What `R` says is a list of references: the provider class
`Puppet::Provider::W`, the resource type `Puppet::Type::T`, or a provider of a type together with
that type. `parentReferences` lists the references of all declarations, each once.
-/

namespace ModuleGraph.Plugin

/-- Reads a symbol inside parentheses that are already open, up to the closing one. -/
def symbolArgument? (text : List Char) : Option (List Char × List Char) :=
  match skipBlanks text with
  | ':' :: rest =>
    match run? Text.isWord rest with
    | some name =>
      match skipBlanks (rest.dropWhile Text.isWord) with
      | ')' :: after => some (name, after)
      | _ => none
    | none => none
  | _ => none

/-- Reads `.type(:t).provider(:p)`: the type, the provider and what follows. -/
def providerCall? (text : List Char) : Option ((List Char × List Char) × List Char) := do
  let (type, rest) ← symbolArgument? (← Text.expectString? ".type(" text)
  let (provider, rest) ← symbolArgument? (← Text.expectString? ".provider(" rest)
  return ((type, provider), rest)

/-- The marker of a parent declaration at the front of a text, given the character before it. -/
def marker? (previous : Option Char) (text : List Char) : Option (List Char) :=
  match Text.expectString? ":parent" text with
  | some rest => Text.expectString? "=>" (skipBlanks rest)
  | none =>
    if previous.any Text.isWord then none else Text.expectString? "parent:" text

/-- The parent named by a declaration at the front of a text, and what follows. -/
def declaration? (previous : Option Char) (text : List Char) :
    Option (List Char × List Char) := do
  let start := skipBlanks (← marker? previous text)
  let name ← run? isScoped start
  let rest := start.dropWhile isScoped
  match providerCall? rest with
  | some (_, after) => return (name ++ rest.take (rest.length - after.length), after)
  | none => return (name, rest)

/-- The parents named in a text. The first `skip` characters belong to the declaration before. -/
def declaredParents (skip : Nat) (previous : Option Char) : List Char → List (List Char)
  | [] => []
  | c :: rest =>
    match skip with
    | more + 1 => declaredParents more (some c) rest
    | 0 =>
      match declaration? previous (c :: rest) with
      | some (parent, after) =>
        parent :: declaredParents (rest.length - after.length) (some c) rest
      | none => declaredParents 0 (some c) rest

/-- Characters of the constant that stands for a resource type. -/
def isTypeChar (c : Char) : Bool :=
  c != ':' && !Text.isBlank c

/-- The call of a provider of a type. -/
def typeProviderCall? (text : List Char) : Option (List Char × List Char) := do
  let (names, _) ← providerCall? (← Text.expectString? "Puppet::Type" text)
  return names

/-- The name of a provider class. -/
def providerClass? (text : List Char) : Option (List Char) := do
  run? Text.isWord (← Text.expectString? "Puppet::Provider::" text)

/-- The constant of a provider of a type. -/
def typeProvider? (text : List Char) : Option (List Char × List Char) := do
  let rest ← Text.expectString? "Puppet::Type::" text
  let type ← run? isTypeChar rest
  let provider ←
    run? Text.isWord (← Text.expectString? "::Provider" (rest.dropWhile isTypeChar))
  return (type, provider)

/-- The constant of a type. -/
def typeConstant? (text : List Char) : Option (List Char) := do
  run? isTypeChar (← Text.expectString? "Puppet::Type::" text)

/-- Characters as a name in lower case. -/
def lowerName (text : List Char) : String :=
  Text.lower (String.ofList text)

/-- What a named parent refers to. -/
def referencesOf (parent : List Char) : List (Category × String) :=
  match Text.search typeProviderCall? parent with
  | some (type, provider) =>
    [(.provider, lowerName type ++ "/" ++ lowerName provider), (.resourceType, lowerName type)]
  | none =>
    ((Text.search providerClass? parent).toList.map fun name => (.provider, lowerName name)) ++
    ((Text.search typeProvider? parent).toList.map fun (type, provider) =>
      (.provider, lowerName type ++ "/" ++ lowerName provider)) ++
    ((Text.search typeConstant? parent).toList.map fun type => (.resourceType, lowerName type))

/-- The references of all parent declarations in a text, each once. -/
def parentReferences (text : String) : List (Category × String) :=
  ((declaredParents 0 none text.toList).flatMap referencesOf).eraseDups

end ModuleGraph.Plugin
