import ModuleGraph.Plugin.Parent
import ModuleGraph.Proofs.Grammar
import ModuleGraph.Proofs.LetterCase
import ModuleGraph.Proofs.Searching

/-!
# Declarations of parents

A provider file declares parents in the midst of other text. `ParentsForm` describes such texts
without a reader: declarations (`DeclarationForm`) of some parents, and gaps between them in which
the word `parent` does not occur. What follows a declaration starts with a character that its
constant cannot go on with (`TailForm`).

Reading passes over a gap (`declaredParents_gap`) and takes a declaration up to its end
(`DeclarationForm.declaration?_eq`), so it finds the constants of all parents in order, and nothing
else (`ParentsForm.declaredParents_eq`). What is found in a constant are the references of its
parent (`ParentConstant.referencesOf_written`).
-/

namespace ModuleGraph.Plugin

open Text (Blanks expectString?)
open Statement (Word Stops)

/-! ## Constants -/

/-- A letter, a digit or an underscore, all of them ASCII. -/
def isPlainWord (c : Char) : Bool :=
  c.isAlphanum || c == '_'

/-- A name made of ASCII word characters. -/
structure Identifier where
  /-- Its characters. -/
  chars : List Char
  /-- There is one, and all are word characters. -/
  word : Word isPlainWord chars

/-- The constants that may stand for a parent. -/
inductive ParentConstant
  /-- A provider class. -/
  | providerClass (name : Identifier)
  /-- A resource type. -/
  | resourceType (type : Identifier)
  /-- A provider of a resource type, by the name of its class. -/
  | typeProvider (type provider : Identifier)
  /-- A provider of a resource type, by a call. -/
  | providerCall (type provider : Identifier)

/-- The name as a symbol, with the parenthesis that closes a call. -/
def Identifier.argument (name : Identifier) : List Char :=
  ':' :: (name.chars ++ [')'])

/-- The name in lower case. -/
def Identifier.lower (name : Identifier) : String :=
  String.ofList (name.chars.map Char.toLower)

namespace ParentConstant

/-- The name of the constant. -/
def name : ParentConstant → List Char
  | providerClass name => "Puppet::Provider::".toList ++ name.chars
  | resourceType type => "Puppet::Type::".toList ++ type.chars
  | typeProvider type provider =>
    "Puppet::Type::".toList ++ (type.chars ++ ("::Provider".toList ++ provider.chars))
  | providerCall _ _ => "Puppet::Type".toList

/-- The calls behind the name. -/
def call : ParentConstant → List Char
  | providerCall type provider =>
    ".type(".toList ++ (type.argument ++ (".provider(".toList ++ provider.argument))
  | _ => []

/-- The constant as it is written. -/
def written (parent : ParentConstant) : List Char :=
  parent.name ++ parent.call

/-- What the parent refers to: a provider of a resource type refers to that type, too. -/
def references : ParentConstant → List (Category × String)
  | providerClass name => [(.provider, name.lower)]
  | resourceType type => [(.resourceType, type.lower)]
  | typeProvider type provider | providerCall type provider =>
    [(.provider, type.lower ++ "/" ++ provider.lower), (.resourceType, type.lower)]

end ParentConstant

/-! ## Texts with declarations -/

/-- A declaration, given the character before it, and the parent that it names. -/
inductive DeclarationForm (previous : Option Char) : List Char → ParentConstant → Prop
  /-- The parent is the value of a symbol. -/
  | symbol {before after : List Char} (hbefore : Blanks before) (hafter : Blanks after)
      (parent : ParentConstant) : DeclarationForm previous
        (":parent".toList ++ (before ++ ("=>".toList ++ (after ++ parent.written)))) parent
  /-- The parent is the value of a keyword, which is a word of its own. -/
  | keyword {after : List Char} (hprevious : ∀ c, previous = some c → Text.isWord c = false)
      (hafter : Blanks after) (parent : ParentConstant) :
      DeclarationForm previous ("parent:".toList ++ (after ++ parent.written)) parent

/-- Text between declarations. -/
def IsGap (gap : List Char) : Prop :=
  ¬ "parent".toList <:+: gap

/-- A character with which a constant may go on. -/
def continues (c : Char) : Bool :=
  isScoped c || c == '.'

/-- What follows a declaration, and the parents that are declared there. -/
inductive TailForm : List Char → List ParentConstant → Prop
  /-- The rest of the text. -/
  | last {gap : List Char} (hgap : IsGap gap) (hstops : Stops continues gap) : TailForm gap []
  /-- A gap with another declaration behind it. -/
  | next {gap declaration tail : List Char} {parent : ParentConstant}
      {parents : List ParentConstant} (hgap : IsGap gap) (hstops : Stops continues gap)
      (hne : gap ≠ []) (hdeclaration : DeclarationForm gap.getLast? declaration parent)
      (htail : TailForm tail parents) : TailForm (gap ++ (declaration ++ tail)) (parent :: parents)

/-- A text and the parents that are declared in it. -/
inductive ParentsForm : List Char → List ParentConstant → Prop
  /-- There is no declaration. -/
  | gap {gap : List Char} (hgap : IsGap gap) : ParentsForm gap []
  /-- There is a first declaration. -/
  | first {gap declaration tail : List Char} {parent : ParentConstant}
      {parents : List ParentConstant} (hgap : IsGap gap)
      (hdeclaration : DeclarationForm gap.getLast? declaration parent)
      (htail : TailForm tail parents) :
      ParentsForm (gap ++ (declaration ++ tail)) (parent :: parents)

/-! ## Characters of constants -/

/-- The characters of a name are visible ones. -/
theorem toNat_of_isPlainWord {c : Char} (h : isPlainWord c = true) :
    48 ≤ c.toNat ∧ c.toNat ≤ 122 := by
  unfold isPlainWord at h
  rw [Bool.or_eq_true, beq_iff_eq] at h
  rcases h with halnum | rfl
  · simp only [Char.isAlphanum, Char.isAlpha, Char.isUpper, Char.isLower, Char.isDigit,
      Bool.or_eq_true, Bool.and_eq_true, decide_eq_true_eq, ge_iff_le, UInt32.le_iff_toNat_le]
      at halnum
    simp only [Char.reduceVal, UInt32.reduceToNat] at halnum
    show 48 ≤ c.val.toNat ∧ c.val.toNat ≤ 122
    omega
  · decide

/-- A character of a name is one of a word. -/
theorem isWord_of_isPlainWord {c : Char} (h : isPlainWord c = true) : Text.isWord c = true := by
  have hascii : c.toNat < 128 := by
    have hrange := toNat_of_isPlainWord h
    omega
  unfold Text.isWord
  rwa [if_pos hascii]

/-- A character of a name may stand in a name with scopes. -/
theorem isScoped_of_isPlainWord {c : Char} (h : isPlainWord c = true) : isScoped c = true := by
  unfold isScoped
  rw [isWord_of_isPlainWord h, Bool.true_or]

/-- A character of a name belongs to a constant. -/
theorem isTypeChar_of_isPlainWord {c : Char} (h : isPlainWord c = true) : isTypeChar c = true := by
  have hrange := toNat_of_isPlainWord h
  have hcolon : c ≠ ':' := by
    rintro rfl
    exact absurd h (by decide)
  unfold isTypeChar
  rw [Text.isBlank_of_visible (by omega) (by omega), bne_iff_ne.2 hcolon]
  rfl

namespace Identifier

variable (name : Identifier)

/-- A name has none of the characters between names. -/
theorem not_mem {c : Char} (hc : isPlainWord c = false) : c ∉ name.chars := fun hmem => by
  rw [name.word.all c hmem] at hc
  cases hc

/-- A name is read up to its end. -/
theorem run?_eq {member : Char → Bool} (hmember : ∀ c, isPlainWord c = true → member c = true)
    {rest : List Char} (hrest : Stops member rest) :
    run? member (name.chars ++ rest) = some name.chars := by
  have hall : ∀ c ∈ name.chars, member c = true := fun c hc => hmember c (name.word.all c hc)
  unfold run?
  rw [Statement.takeWhile_append_of_stops hall hrest]
  split
  · next hnil => exact absurd hnil name.word.ne_nil
  · rfl

/-- A name is dropped up to its end. -/
theorem dropWhile_eq {member : Char → Bool}
    (hmember : ∀ c, isPlainWord c = true → member c = true) {rest : List Char}
    (hrest : Stops member rest) : (name.chars ++ rest).dropWhile member = rest :=
  Statement.dropWhile_append_of_stops (fun c hc => hmember c (name.word.all c hc)) hrest

/-- An argument is read as the name. -/
theorem symbolArgument?_eq (rest : List Char) :
    symbolArgument? (name.argument ++ rest) = some (name.chars, rest) := by
  have hstops : Stops Text.isWord (')' :: rest) := Statement.stops_cons (by decide) rest
  have hargument : name.argument ++ rest = ':' :: (name.chars ++ ')' :: rest) := by
    unfold argument
    rw [List.cons_append, List.append_assoc, List.singleton_append]
  have hskip (c : Char) (hc : Text.isBlank c = false) (text : List Char) :
      skipBlanks (c :: text) = c :: text :=
    List.dropWhile_cons_of_neg (by simp [hc])
  unfold symbolArgument?
  simp only [hargument, hskip ':' (by decide), hskip ')' (by decide),
    name.run?_eq (fun _ => isWord_of_isPlainWord) hstops,
    name.dropWhile_eq (fun _ => isWord_of_isPlainWord) hstops]

end Identifier

namespace ParentConstant

variable (parent : ParentConstant)

/-- The name of a constant consists of words and colons. -/
theorem all_name : parent.name.all (fun c => isPlainWord c || c == ':') = true := by
  have happend {first second : List Char}
      (hfirst : first.all (fun c => isPlainWord c || c == ':') = true)
      (hsecond : second.all (fun c => isPlainWord c || c == ':') = true) :
      (first ++ second).all (fun c => isPlainWord c || c == ':') = true := by
    rw [List.all_append, hfirst, hsecond, Bool.true_and]
  have hplain (name : Identifier) : name.chars.all (fun c => isPlainWord c || c == ':') = true :=
    List.all_eq_true.2 fun c hc => by rw [name.word.all c hc, Bool.true_or]
  cases parent with
  | providerClass name => exact happend (by decide) (hplain name)
  | resourceType type => exact happend (by decide) (hplain type)
  | typeProvider type provider =>
      exact happend (by decide) (happend (hplain type) (happend (by decide) (hplain provider)))
  | providerCall type provider => exact rfl

/-- The name of a constant is a name with scopes. -/
theorem isScoped_of_mem_name {c : Char} (hc : c ∈ parent.name) : isScoped c = true := by
  have hname := List.all_eq_true.1 parent.all_name c hc
  rw [Bool.or_eq_true, beq_iff_eq] at hname
  rcases hname with hplain | rfl
  · exact isScoped_of_isPlainWord hplain
  · decide

/-- A constant starts with a capital letter. -/
theorem exists_name : ∃ rest, parent.name = 'P' :: rest := by
  cases parent <;> exact ⟨_, rfl⟩

/-- The name of a constant ends where its calls begin. -/
theorem stops_call {rest : List Char} (hrest : Stops continues rest) :
    Stops isScoped (parent.call ++ rest) := by
  cases parent with
  | providerCall => exact Statement.stops_cons (by decide) _
  | _ => exact fun c hc => (Bool.or_eq_false_iff.1 (hrest c hc)).1

/-- The calls are read as the type and the provider. -/
theorem providerCall?_eq (type provider : Identifier) (rest : List Char) :
    providerCall? ((providerCall type provider).call ++ rest) =
      some ((type.chars, provider.chars), rest) := by
  have hcall : (providerCall type provider).call ++ rest = ".type(".toList ++
      (type.argument ++ (".provider(".toList ++ (provider.argument ++ rest))) := by
    unfold call
    rw [List.append_assoc, List.append_assoc, List.append_assoc]
  unfold providerCall?
  rw [hcall]
  simp only [Text.expectString?_append, Identifier.symbolArgument?_eq, Option.bind_eq_bind,
    Option.bind_some, Option.pure_def]

/-- If there are no calls, then none are read. -/
theorem providerCall?_call {rest : List Char} (hrest : Stops continues rest) :
    (parent.call = [] ∧ providerCall? rest = none) ∨
      ∃ names, providerCall? (parent.call ++ rest) = some (names, rest) := by
  have hnone : providerCall? rest = none := by
    unfold providerCall?
    cases htype : expectString? ".type(" rest with
    | none => rfl
    | some after =>
        rw [Text.expectString?_eq_some] at htype
        subst htype
        exact absurd (hrest '.' rfl) (by decide)
  cases parent with
  | providerCall type provider => exact .inr ⟨_, providerCall?_eq type provider rest⟩
  | _ => exact .inl ⟨rfl, hnone⟩

end ParentConstant

/-! ## Reading a declaration -/

/-- Blanks are skipped before something else. -/
theorem skipBlanks_append {blanks rest : List Char} (h : Blanks blanks)
    (hrest : Stops Text.isBlank rest) : skipBlanks (blanks ++ rest) = rest :=
  Statement.dropWhile_append_of_stops h hrest

/-- A declaration starts with its marker. -/
theorem DeclarationForm.exists_marker {previous : Option Char} {declaration : List Char}
    {parent : ParentConstant} (h : DeclarationForm previous declaration parent) :
    ∃ blanks, Blanks blanks ∧ ∀ rest, marker? previous (declaration ++ rest) =
      some (blanks ++ (parent.written ++ rest)) := by
  cases h with
  | @symbol before after hbefore hafter =>
      have harrow (rest : List Char) : Stops Text.isBlank ("=>".toList ++ rest) :=
        Statement.stops_cons (by decide) _
      refine ⟨after, hafter, fun rest => ?_⟩
      unfold marker?
      simp only [List.append_assoc, Text.expectString?_append]
      rw [skipBlanks_append hbefore (harrow _), Text.expectString?_append]
  | @keyword after hprevious hafter =>
      have hsymbol (rest : List Char) : expectString? ":parent" ("parent:".toList ++ rest) = none :=
        rfl
      have hany : previous.any Text.isWord = false := by
        cases previous with
        | none => rfl
        | some c => exact hprevious c rfl
      refine ⟨after, hafter, fun rest => ?_⟩
      unfold marker?
      rw [List.append_assoc, List.append_assoc, hsymbol, hany, Text.expectString?_append]
      rfl

/-- A declaration is read up to its end. -/
theorem DeclarationForm.declaration?_eq {previous : Option Char} {declaration rest : List Char}
    {parent : ParentConstant} (h : DeclarationForm previous declaration parent)
    (hrest : Stops continues rest) :
    declaration? previous (declaration ++ rest) = some (parent.written, rest) := by
  obtain ⟨blanks, hblanks, hmarker⟩ := h.exists_marker
  obtain ⟨after, hname⟩ := parent.exists_name
  have hwritten : parent.written ++ rest = parent.name ++ (parent.call ++ rest) :=
    List.append_assoc ..
  have hstart : Stops Text.isBlank (parent.name ++ (parent.call ++ rest)) := by
    rw [hname]
    exact Statement.stops_cons (by decide) _
  have hscoped : ∀ c ∈ parent.name, isScoped c = true := fun _ => parent.isScoped_of_mem_name
  have hend : Stops isScoped (parent.call ++ rest) := parent.stops_call hrest
  have hrun : run? isScoped (parent.name ++ (parent.call ++ rest)) = some parent.name := by
    unfold run?
    rw [Statement.takeWhile_append_of_stops hscoped hend, hname]
  have hdrop : (parent.name ++ (parent.call ++ rest)).dropWhile isScoped = parent.call ++ rest :=
    Statement.dropWhile_append_of_stops hscoped hend
  simp only [declaration?, hmarker, hwritten, skipBlanks_append hblanks hstart, hrun, hdrop,
    Option.bind_eq_bind, Option.bind_some, Option.pure_def]
  rcases parent.providerCall?_call hrest with ⟨hcall, hnone⟩ | ⟨names, hsome⟩
  · unfold ParentConstant.written
    rw [hcall, List.nil_append, hnone, List.append_nil]
  · rw [hsome]
    simp [ParentConstant.written]

/-! ## Passing over a gap -/

/-- The text is empty or starts with a declaration. -/
def Opens (text : List Char) : Prop :=
  text = [] ∨ (∃ rest, text = ':' :: rest) ∨ ∃ rest, text = "parent:".toList ++ rest

/-- A declaration opens what follows a gap. -/
theorem DeclarationForm.opens {previous : Option Char} {declaration : List Char}
    {parent : ParentConstant} (h : DeclarationForm previous declaration parent)
    (rest : List Char) : Opens (declaration ++ rest) := by
  cases h with
  | symbol => exact .inr (.inl ⟨_, rfl⟩)
  | keyword => exact .inr (.inr ⟨_, List.append_assoc ..⟩)

/-- A word that starts in a gap stands in the gap, or a part of it in the text behind. -/
theorem prefix_or_straddles {c : Char} {word gap text rest : List Char} (hne : gap ≠ [])
    (h : gap ++ text = c :: word ++ rest) : c :: word <+: gap ∨
      ∃ part, part ≠ [] ∧ part <:+ word ∧ gap ++ part = c :: word ∧ text = part ++ rest ∧
        text.head? = part.head? := by
  rcases List.append_eq_append_iff.1 h with ⟨part, hword, htext⟩ | ⟨after, hgap, -⟩
  · by_cases hpart : part = []
    · left
      rw [hword, hpart, List.append_nil]
    · right
      refine ⟨part, hpart, ?_, hword.symm, htext, ?_⟩
      · obtain ⟨d, gap, rfl⟩ := List.exists_cons_of_ne_nil hne
        exact ⟨gap, (List.cons.inj hword).2.symm⟩
      · rw [htext, List.head?_append_of_ne_nil _ hpart]
  · exact .inl ⟨after, hgap.symm⟩

/-- No marker starts in a gap. -/
theorem marker?_gap {previous : Option Char} {gap text : List Char} (hgap : IsGap gap)
    (hne : gap ≠ []) (htext : Opens text) : marker? previous (gap ++ text) = none := by
  unfold marker?
  split
  · next rest hsymbol =>
      have hparts : ∀ part ∈ "parent".toList.tails, part ≠ [] → part.head? ≠ some ':' ∧
          (part.head? = some 'p' → part = "parent".toList) := by decide
      have hfront : gap ++ text = ':' :: "parent".toList ++ rest :=
        Text.expectString?_eq_some.1 hsymbol
      rcases prefix_or_straddles hne hfront with
        hprefix | ⟨part, hpart, hsuffix, -, hbehind, hhead⟩
      · exact absurd ((List.suffix_cons ':' _).isInfix.trans hprefix.isInfix) hgap
      · obtain ⟨hcolon, hletter⟩ := hparts part ((List.mem_tails ..).2 hsuffix) hpart
        rcases htext with rfl | ⟨after, rfl⟩ | ⟨after, rfl⟩
        · exact absurd (List.append_eq_nil_iff.1 hbehind.symm).1 hpart
        · exact absurd hhead.symm hcolon
        · -- The marker of a keyword stands behind a colon, and no arrow follows.
          rw [hletter hhead.symm] at hbehind
          have hbehind : "parent".toList ++ ':' :: after = "parent".toList ++ rest := hbehind
          rw [← List.append_cancel_left hbehind]
          rfl
  · split
    · rfl
    · rw [Option.eq_none_iff_forall_ne_some]
      intro rest hkeyword
      have hparts : ∀ part ∈ "arent:".toList.tails, part ≠ [] → part.head? ≠ some 'p' ∧
          (part.head? = some ':' → part = [':']) := by decide
      have hfront : gap ++ text = 'p' :: "arent:".toList ++ rest :=
        Text.expectString?_eq_some.1 hkeyword
      rcases prefix_or_straddles hne hfront with
        hprefix | ⟨part, hpart, hsuffix, hword, hbehind, hhead⟩
      · exact hgap (List.IsInfix.trans ⟨[], [':'], rfl⟩ hprefix.isInfix)
      · obtain ⟨hletter, hcolon⟩ := hparts part ((List.mem_tails ..).2 hsuffix) hpart
        rcases htext with rfl | ⟨after, rfl⟩ | ⟨after, rfl⟩
        · exact absurd (List.append_eq_nil_iff.1 hbehind.symm).1 hpart
        · -- Only the colon of the marker could stand behind the gap.
          rw [hcolon hhead.symm] at hword
          have hword : gap ++ [':'] = "parent".toList ++ [':'] := hword
          rw [List.append_cancel_right hword] at hgap
          exact hgap List.infix_rfl
        · exact absurd hhead.symm hletter

/-- Reading passes over a gap. -/
theorem declaredParents_gap {gap text : List Char} (hgap : IsGap gap) (htext : Opens text)
    (previous : Option Char) : declaredParents 0 previous (gap ++ text) =
      declaredParents 0 (gap.getLast?.or previous) text := by
  induction gap generalizing previous with
  | nil => rfl
  | cons c gap ih =>
      have hnone : declaration? previous (c :: (gap ++ text)) = none := by
        unfold declaration?
        rw [← List.cons_append, marker?_gap hgap (List.cons_ne_nil c gap) htext]
        rfl
      have hrest : IsGap gap := fun hinside => hgap (hinside.trans (List.infix_cons List.infix_rfl))
      have hlast : (c :: gap).getLast?.or previous = gap.getLast?.or (some c) := by
        cases gap with
        | nil => rfl
        | cons d gap =>
            rw [List.getLast?_cons_cons, List.getLast?_cons, Option.some_or, Option.some_or]
      rw [List.cons_append, declaredParents, hnone, hlast]
      exact ih hrest (some c)

/-- The rest of a declaration is not read again. -/
theorem exists_declaredParents_skip (taken rest : List Char) (previous : Option Char) :
    ∃ last,
      declaredParents taken.length previous (taken ++ rest) = declaredParents 0 last rest := by
  induction taken generalizing previous with
  | nil => exact ⟨previous, rfl⟩
  | cons c taken ih =>
      rw [List.cons_append, List.length_cons, declaredParents]
      exact ih (some c)

/-- A declaration is taken, and reading goes on behind it. -/
theorem DeclarationForm.exists_declaredParents {previous : Option Char}
    {declaration rest : List Char} {parent : ParentConstant}
    (h : DeclarationForm previous declaration parent) (hrest : Stops continues rest) :
    ∃ last, declaredParents 0 previous (declaration ++ rest) =
      parent.written :: declaredParents 0 last rest := by
  obtain ⟨c, taken, rfl⟩ : ∃ c taken, declaration = c :: taken := by
    cases h <;> exact ⟨_, _, rfl⟩
  obtain ⟨last, hlast⟩ := exists_declaredParents_skip taken rest (some c)
  have hread := h.declaration?_eq hrest
  rw [List.cons_append] at hread ⊢
  refine ⟨last, ?_⟩
  rw [declaredParents, hread, ← hlast]
  simp

/-! ## Finding the declared parents -/

/-- What follows a declaration does not continue it. -/
theorem TailForm.stops {tail : List Char} {parents : List ParentConstant}
    (h : TailForm tail parents) : Stops continues tail := by
  cases h with
  | last _ hstops => exact hstops
  | next _ hstops hne =>
      intro c hc
      rw [List.head?_append_of_ne_nil _ hne] at hc
      exact hstops c hc

/-- The parents in what follows a declaration are found. -/
theorem TailForm.declaredParents_eq {tail : List Char} {parents : List ParentConstant}
    (h : TailForm tail parents) (previous : Option Char) :
    declaredParents 0 previous tail = parents.map ParentConstant.written := by
  induction h generalizing previous with
  | @last gap hgap hstops =>
      have hread := declaredParents_gap hgap (.inl rfl) previous
      rwa [List.append_nil] at hread
  | @next gap declaration tail parent parents hgap hstops hne hdeclaration htail ih =>
      obtain ⟨last, hread⟩ := hdeclaration.exists_declaredParents htail.stops
      have hlast := List.getLast?_eq_some_getLast hne
      rw [declaredParents_gap hgap (hdeclaration.opens tail), hlast, Option.some_or, ← hlast, hread,
        ih, List.map_cons]

/-- The declared parents of a text are found. -/
theorem ParentsForm.declaredParents_eq {text : List Char} {parents : List ParentConstant}
    (h : ParentsForm text parents) :
    declaredParents 0 none text = parents.map ParentConstant.written := by
  cases h with
  | @gap gap hgap =>
      have hread := declaredParents_gap hgap (.inl rfl) none
      rwa [List.append_nil] at hread
  | @first gap declaration tail parent parents hgap hdeclaration htail =>
      obtain ⟨last, hread⟩ := hdeclaration.exists_declaredParents htail.stops
      rw [declaredParents_gap hgap (hdeclaration.opens tail), Option.or_none, hread,
        htail.declaredParents_eq, List.map_cons]

/-! ## References of a constant -/

/-- ASCII letters are brought to lower case one by one. -/
theorem Identifier.lowerName_eq (name : Identifier) : lowerName name.chars = name.lower := by
  have hlower : ∀ chars before : List Char, (∀ c ∈ chars, isPlainWord c = true) →
      Text.lowerAfter before chars = chars.map Char.toLower := by
    intro chars
    induction chars with
    | nil => exact fun _ _ => rfl
    | cons c chars ih =>
        intro before hchars
        obtain ⟨hc, hchars⟩ := List.forall_mem_cons.1 hchars
        have hrange := toNat_of_isPlainWord hc
        have hat : Text.lowerAt before c chars = [c.toLower] := by
          unfold Text.lowerAt Text.lowerChar
          rw [if_neg (by rw [beq_iff_eq]; omega), if_neg (by rw [beq_iff_eq]; omega),
            if_pos (by omega)]
        rw [Text.lowerAfter_cons, hat, ih (c :: before) hchars]
        rfl
  unfold lowerName Text.lower lower
  rw [String.toList_ofList, hlower name.chars [] name.word.all]

/-- There is no call without a dot. -/
theorem search_typeProviderCall? {text : List Char} (h : '.' ∉ text) :
    Text.search typeProviderCall? text = none := by
  refine Text.search_eq_none fun part hpart => ?_
  rw [Option.eq_none_iff_forall_ne_some]
  intro names hnames
  simp only [typeProviderCall?, providerCall?, Option.bind_eq_bind, Option.bind_eq_some_iff,
    Text.expectString?_eq_some] at hnames
  obtain ⟨_, rfl, _, ⟨_, rfl, _⟩, _⟩ := hnames
  refine h (hpart.subset ?_)
  simp

/-- What starts with a word that has a colon in it is not found in a name. -/
theorem Identifier.search_eq_none (name : Identifier) {α : Type} {word : String}
    {read : List Char → Option α} (hword : ':' ∈ word.toList) :
    Text.search (fun text => (expectString? word text).bind read) name.chars = none := by
  refine Text.search_eq_none fun part hpart => ?_
  rw [Option.eq_none_iff_forall_ne_some]
  intro result hresult
  obtain ⟨rest, hrest, -⟩ := Option.bind_eq_some_iff.1 hresult
  rw [Text.expectString?_eq_some] at hrest
  have hcolon : ':' ∈ part := hrest ▸ List.mem_append_left rest hword
  exact name.not_mem (by decide) (hpart.subset hcolon)

/-- The name is read from the constant of a provider class. -/
theorem providerClass?_eq (name : Identifier) :
    providerClass? (ParentConstant.providerClass name).name = some name.chars := by
  have hrun := name.run?_eq (fun _ => isWord_of_isPlainWord) (Statement.stops_nil Text.isWord)
  rw [List.append_nil] at hrun
  unfold providerClass? ParentConstant.name
  rw [Text.expectString?_append]
  exact hrun

/-- The type is read from the constant of a type up to what follows it. -/
theorem typeConstant?_eq (type : Identifier) {rest : List Char} (hrest : Stops isTypeChar rest) :
    typeConstant? ("Puppet::Type::".toList ++ (type.chars ++ rest)) = some type.chars := by
  unfold typeConstant?
  rw [Text.expectString?_append]
  exact type.run?_eq (fun _ => isTypeChar_of_isPlainWord) hrest

/-- The type and the provider are read from the constant of a provider of a type. -/
theorem typeProvider?_eq (type provider : Identifier) :
    typeProvider? (ParentConstant.typeProvider type provider).name =
      some (type.chars, provider.chars) := by
  have hstops : Stops isTypeChar ("::Provider".toList ++ provider.chars) :=
    Statement.stops_cons (by decide) _
  have hrun := provider.run?_eq (fun _ => isWord_of_isPlainWord) (Statement.stops_nil Text.isWord)
  rw [List.append_nil] at hrun
  unfold typeProvider? ParentConstant.name
  simp only [Text.expectString?_append, Option.bind_eq_bind, Option.bind_some, Option.pure_def,
    type.run?_eq (fun _ => isTypeChar_of_isPlainWord) hstops,
    type.dropWhile_eq (fun _ => isTypeChar_of_isPlainWord) hstops, hrun]

/-- No provider is found in the constant of a type. -/
theorem search_typeProvider?_eq_none (type : Identifier) :
    Text.search typeProvider? ("Puppet::Type::".toList ++ type.chars) = none := by
  have hstops := Statement.stops_nil isTypeChar
  have hrun := type.run?_eq (fun _ => isTypeChar_of_isPlainWord) hstops
  have hdrop := type.dropWhile_eq (fun _ => isTypeChar_of_isPlainWord) hstops
  rw [List.append_nil] at hrun hdrop
  have hfirst : typeProvider? ("Puppet::Type::".toList ++ type.chars) = none := by
    unfold typeProvider?
    simp only [Text.expectString?_append, Option.bind_eq_bind, Option.bind_some, hrun, hdrop]
    rfl
  have hrest : Text.search typeProvider? type.chars = none := type.search_eq_none (by decide)
  exact (Text.search_cons_of_none hfirst).trans hrest

/-- The type and the provider are read from the call of a provider of a type. -/
theorem typeProviderCall?_eq (type provider : Identifier) :
    typeProviderCall? (ParentConstant.providerCall type provider).written =
      some (type.chars, provider.chars) := by
  have hcall := ParentConstant.providerCall?_eq type provider []
  rw [List.append_nil] at hcall
  unfold typeProviderCall? ParentConstant.written ParentConstant.name
  rw [Text.expectString?_append]
  show (providerCall? _).bind _ = _
  rw [hcall]
  rfl

/-- A provider of a type is no provider class, even if the type is called `Puppet`. -/
theorem providerClass?_typeProvider (type provider : Identifier) :
    Text.search providerClass? (ParentConstant.typeProvider type provider).name = none := by
  show Text.search providerClass?
    (type.chars ++ ("::Provider".toList ++ provider.chars)) = none
  rw [Text.search_append_of_none]
  · exact provider.search_eq_none (by decide)
  · intro part hpart _
    rw [Option.eq_none_iff_forall_ne_some]
    intro name hname
    obtain ⟨rest, hrest, -⟩ := Option.bind_eq_some_iff.1 hname
    rw [Text.expectString?_eq_some] at hrest
    -- Up to the first colon, both are the same.
    have hcut : part ++ ':' :: (":Provider".toList ++ provider.chars) =
        "Puppet".toList ++ ':' :: (":Provider::".toList ++ rest) := hrest
    have hpart : ':' ∉ part := fun hmem => type.not_mem (by decide) (hpart.subset hmem)
    obtain ⟨-, hafter⟩ := Text.cut_unique hcut hpart (by decide)
    have hafter : ":Provider".toList ++ provider.chars = ":Provider".toList ++ ':' :: ':' :: rest :=
      hafter
    have hcolon : ':' ∈ provider.chars := List.append_cancel_left hafter ▸ List.mem_cons_self
    exact provider.not_mem (by decide) hcolon

/-- In a constant without calls, its parts are found one by one. -/
theorem ParentConstant.referencesOf_of_call {parent : ParentConstant} (hcall : parent.call = [])
    {name type : Option (List Char)} {names : Option (List Char × List Char)}
    (hclass : Text.search providerClass? parent.name = name)
    (hprovider : Text.search typeProvider? parent.name = names)
    (htype : Text.search typeConstant? parent.name = type) : referencesOf parent.written =
      (name.toList.map fun name => (.provider, lowerName name)) ++
      (names.toList.map fun names =>
        (.provider, lowerName names.1 ++ "/" ++ lowerName names.2)) ++
      (type.toList.map fun type => (.resourceType, lowerName type)) := by
  have hdot : '.' ∉ parent.name := fun hmem =>
    absurd (List.all_eq_true.1 parent.all_name '.' hmem) (by decide)
  unfold referencesOf written
  rw [hcall, List.append_nil, search_typeProviderCall? hdot, hclass, hprovider, htype]

/-- What is found in a constant are the references of the parent. -/
theorem ParentConstant.referencesOf_written (parent : ParentConstant) :
    referencesOf parent.written = parent.references := by
  cases parent with
  | providerClass name =>
      have hprovider : Text.search typeProvider? (providerClass name).name = none :=
        name.search_eq_none (by decide)
      have htype : Text.search typeConstant? (providerClass name).name = none :=
        name.search_eq_none (by decide)
      rw [referencesOf_of_call rfl (Text.search_of_recognise (providerClass?_eq name)) hprovider
        htype]
      simp [references, name.lowerName_eq]
  | resourceType type =>
      have hclass : Text.search providerClass? (resourceType type).name = none :=
        type.search_eq_none (by decide)
      have htype := typeConstant?_eq type (Statement.stops_nil isTypeChar)
      rw [List.append_nil] at htype
      rw [referencesOf_of_call rfl hclass (search_typeProvider?_eq_none type)
        (Text.search_of_recognise htype)]
      simp [references, type.lowerName_eq]
  | typeProvider type provider =>
      have hstops : Stops isTypeChar ("::Provider".toList ++ provider.chars) :=
        Statement.stops_cons (by decide) _
      rw [referencesOf_of_call rfl (providerClass?_typeProvider type provider)
        (Text.search_of_recognise (typeProvider?_eq type provider))
        (Text.search_of_recognise (typeConstant?_eq type hstops))]
      simp [references, type.lowerName_eq, provider.lowerName_eq]
  | providerCall type provider =>
      unfold referencesOf
      rw [Text.search_of_recognise (typeProviderCall?_eq type provider)]
      simp [references, type.lowerName_eq, provider.lowerName_eq]

/-- The references of a text are those of its declared parents, each once. -/
theorem parentReferences_of_declarations {text : String} {parents : List ParentConstant}
    (h : ParentsForm text.toList parents) :
    parentReferences text = (parents.flatMap ParentConstant.references).eraseDups := by
  have hreferences : (parents.map ParentConstant.written).flatMap referencesOf =
      parents.flatMap ParentConstant.references := by
    rw [List.flatMap_map]
    exact List.flatMap_congr fun parent _ => parent.referencesOf_written
  unfold parentReferences
  rw [h.declaredParents_eq, hreferences]

/-- A text that declares the same parent at its beginning and at its end. -/
def ldapText : String :=
  "type(:user).provide(:ldap, :parent => Puppet::Provider::Ldap)\n" ++
    "new(parent: Puppet::Type.type(:Package).provider(:gem), :parent =>Puppet::Provider::Ldap)"

/-- The first and the last parent of the text. -/
def ldapParent : ParentConstant :=
  .providerClass ⟨"Ldap".toList, .of_all rfl rfl⟩

/-- The parent between them. -/
def gemParent : ParentConstant :=
  .providerCall ⟨"Package".toList, .of_all rfl rfl⟩ ⟨"gem".toList, .of_all rfl rfl⟩

/-- The references of a repeated parent are not repeated. -/
theorem parentReferences_ldapText :
    ParentsForm ldapText.toList [ldapParent, gemParent, ldapParent] ∧
      parentReferences ldapText =
        [(.provider, "ldap"), (.provider, "package/gem"), (.resourceType, "package")] := by
  have htext : ldapText.toList = "type(:user).provide(:ldap, ".toList ++
      (":parent".toList ++ ([' '] ++ ("=>".toList ++ ([' '] ++ ldapParent.written))) ++
        (")\nnew(".toList ++ ("parent:".toList ++ ([' '] ++ gemParent.written) ++
          (", ".toList ++
            (":parent".toList ++ ([' '] ++ ("=>".toList ++ ([] ++ ldapParent.written))) ++
              [')']))))) := by decide +kernel
  have hspace : Blanks [' '] := Text.isBlank_of_mem_space
  have hgaps : ∀ gap ∈ ["type(:user).provide(:ldap, ", ")\nnew(", ", ", ")"],
      ¬ "parent".toList <:+: gap.toList := by decide +kernel
  have hform : ParentsForm ldapText.toList [ldapParent, gemParent, ldapParent] := by
    rw [htext]
    refine .first (hgaps _ (by simp)) (.symbol hspace hspace _)
      (.next (hgaps _ (by simp)) (Statement.stops_cons (by decide) _) (List.cons_ne_nil _ _)
        (.keyword (fun c hc => ?_) hspace _)
        (.next (hgaps _ (by simp)) (Statement.stops_cons (by decide) _) (List.cons_ne_nil _ _)
          (.symbol hspace (List.forall_mem_nil _) _)
          (.last (hgaps ")" (by simp)) (Statement.stops_cons (by decide) _))))
    obtain rfl : '(' = c := Option.some.inj hc
    decide
  refine ⟨hform, ?_⟩
  rw [parentReferences_of_declarations hform]
  decide +kernel

end ModuleGraph.Plugin
