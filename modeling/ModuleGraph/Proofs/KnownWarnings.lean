import ModuleGraph.Proofs.Arguments

/-!
# Writing and reading known warnings

Warnings written as statements read back as they were, grouped by kind. A `Regrouped` list has the
kinds in order and each kind in the given order, so nothing is lost and nothing is repeated
(`Regrouped.perm`).

A statement is read back whatever its strings hold (`parseLine_render`). That they hold no line
boundary is needed only to find the statements again, one a line.
-/

namespace ModuleGraph

/-! ## Attributes of warnings -/

open Statement

/-- Reading the word for a kind gives back the kind. -/
theorem WarningKind.ofLabel?_eq_some (kind : WarningKind) : ofLabel? kind.label = some kind := by
  cases kind <;> decide

/-- A kind stands for a keyword. -/
theorem WarningKind.word_label (kind : WarningKind) : Word isKeywordChar kind.label.toList := by
  cases kind <;> exact .of_all (by decide) (by decide)

/-- The name of an attribute is a word. -/
theorem WarningKind.word_attribute {kind : WarningKind} {name : String}
    (h : name ∈ kind.attributes) : Word isKeywordChar name.toList := by
  have hwords : ∀ name ∈ kind.attributes,
      name.toList.isEmpty = false ∧ name.toList.all isKeywordChar = true := by
    cases kind <;> decide
  obtain ⟨hne, hall⟩ := hwords name h
  exact .of_all hne hall

/-- A kind has no attribute twice. -/
theorem WarningKind.nodup_attributes (kind : WarningKind) : kind.attributes.Nodup := by
  cases kind <;> decide

/-- A category is written as a symbol. -/
theorem Category.word_label (category : Category) : Word isSymbolChar category.label.toList := by
  cases category <;> exact .of_all (by decide) (by decide)

namespace Warning

/-- The strings of a warning are free of line boundaries. -/
def OneLine (warning : Warning) : Prop :=
  ∀ entry ∈ warning.attributes, Text.OneLine entry.2.toList

instance (warning : Warning) : Decidable warning.OneLine :=
  List.decidableBAll (fun entry : String × String => Text.OneLine entry.2.toList) warning.attributes

/-- A warning has the attributes of its kind. -/
theorem keys_attributes (warning : Warning) :
    warning.attributes.keys = warning.kind.attributes := by
  cases warning <;> rfl

/-- A warning has an attribute. -/
theorem attributes_ne_nil (warning : Warning) : warning.attributes ≠ [] := by
  cases warning <;> exact List.cons_ne_nil _ _

/-- No attribute of a warning occurs twice. -/
theorem distinct_attributes (warning : Warning) : warning.attributes.Distinct := by
  unfold Table.Distinct
  rw [keys_attributes]
  exact warning.kind.nodup_attributes

/-- A symbol among the attributes of a warning is a category. -/
theorem exists_category {warning : Warning} {entry : String × String}
    (h : entry ∈ warning.attributes) (hsymbol : warning.kind.isSymbol entry.1 = true) :
    ∃ category : Category, entry.2 = category.label := by
  cases warning with
  | duplicateDefinition type name source
  | missingDefinition type name source
  | typeError type name source =>
      -- Of the three attributes, only the first is a symbol.
      simp only [attributes, List.mem_cons, List.not_mem_nil, or_false] at h
      rcases h with rfl | rfl | rfl
      · exact ⟨type, rfl⟩
      · exact absurd hsymbol Bool.false_ne_true
      · exact absurd hsymbol Bool.false_ne_true
  | controlDependency name | missingMetadata name => cases hsymbol

/-- The attributes of a warning can be written down. -/
theorem writable_attributes (warning : Warning) :
    ∀ entry ∈ warning.attributes, Writable warning.kind entry := by
  intro entry hentry
  have hknown : entry.1 ∈ warning.kind.attributes := by
    rw [← keys_attributes]
    exact List.mem_map_of_mem hentry
  refine ⟨hknown, WarningKind.word_attribute hknown, fun hsymbol => ?_⟩
  obtain ⟨category, hcategory⟩ := exists_category hentry hsymbol
  rw [hcategory]
  exact category.word_label

/-- The attributes of a warning determine it. -/
theorem build?_attributes (warning : Warning) :
    build? warning.kind warning.attributes = some warning := by
  cases warning <;> simp [build?, kind, attributes, Table.get?]

end Warning

namespace Statement

/-! ## Statements -/

/-- The arguments of a statement. -/
def arguments (warning : Warning) : List Char :=
  [',', ' '].intercalate (warning.attributes.map (argument warning.kind))

/-- A statement is the keyword of a kind and its arguments. -/
theorem toList_render (warning : Warning) :
    (render warning).toList = warning.kind.label.toList ++ ' ' :: arguments warning := by
  have hargument (entry : String × String) :
      (entry.1 ++ ": " ++ renderValue (warning.kind.isSymbol entry.1) entry.2).toList =
        argument warning.kind entry := by
    unfold argument
    rw [String.toList_append, String.toList_append, List.append_assoc]
    rfl
  unfold render arguments
  rw [String.toList_append, String.toList_append, String.toList_intercalate, List.map_map,
    List.append_assoc]
  refine congrArg (fun parts => _ ++ ' ' :: [',', ' '].intercalate parts) ?_
  exact List.map_congr_left fun entry _ => hargument entry

/-- Each argument is tight. -/
theorem tight_of_mem_arguments {warning : Warning} {part : List Char}
    (h : part ∈ warning.attributes.map (argument warning.kind)) : Text.Tight part := by
  obtain ⟨entry, hentry, rfl⟩ := List.mem_map.1 h
  exact tight_argument (warning.writable_attributes entry hentry)

/-- The arguments are tight. -/
theorem tight_arguments (warning : Warning) : Text.Tight (arguments warning) := by
  refine Text.tight_intercalate ?_ fun part hpart => tight_of_mem_arguments hpart
  exact List.map_eq_nil_iff.not.2 warning.attributes_ne_nil

/-- Arguments start with a name, so no parenthesis is taken from them. -/
theorem unwrap_arguments (warning : Warning) : unwrap (arguments warning) = arguments warning := by
  obtain ⟨entry, rest, hattributes⟩ := List.exists_cons_of_ne_nil warning.attributes_ne_nil
  have hname : Word isKeywordChar entry.1.toList :=
    (warning.writable_attributes entry (hattributes ▸ List.mem_cons_self)).name
  obtain ⟨tail, htail⟩ := Text.exists_append_eq_intercalate [',', ' ']
    (argument warning.kind entry) (rest.map (argument warning.kind))
  unfold arguments
  rw [hattributes, List.map_cons, htail]
  unfold argument unwrap
  rw [List.append_assoc]
  split
  · next heq => exact absurd (hname.head (congrArg List.head? heq)) (by decide)
  · rfl

/-- Reading the arguments of a warning gives back its attributes. -/
theorem readArguments_arguments (warning : Warning) :
    readArguments warning.kind (arguments warning).length [] (arguments warning) =
      .ok warning.attributes := by
  have hsteps : warning.attributes.length ≤ (arguments warning).length := by
    have hlength : (warning.attributes.map (argument warning.kind)).length ≤
        (arguments warning).length :=
      Text.length_le_length_intercalate fun part hpart => tight_of_mem_arguments hpart
    rwa [List.length_map] at hlength
  show readArguments _ _ [] ([] ++ arguments warning) = .ok ([] ++ warning.attributes)
  exact readArguments_written warning.attributes_ne_nil (List.forall_mem_nil _)
    warning.writable_attributes warning.distinct_attributes hsteps

/-- A statement is tight. -/
theorem tight_render (warning : Warning) : Text.Tight (render warning).toList := by
  have hlabel := warning.kind.word_label.tight fun _ => isBlank_of_isKeywordChar
  have htight := hlabel.append (tight_arguments warning) [' ']
  rwa [List.append_assoc, List.singleton_append, ← toList_render] at htight

/-- The statement of a warning is free of line boundaries if its strings are. -/
theorem oneLine_render {warning : Warning} (h : warning.OneLine) :
    Text.OneLine (render warning).toList := by
  have hlabel := warning.kind.word_label.oneLine fun _ => isBlank_of_isKeywordChar
  rw [toList_render, Text.oneLine_append, Text.oneLine_cons]
  refine ⟨hlabel, by decide, Text.oneLine_intercalate (by decide) ?_⟩
  intro part hpart
  obtain ⟨entry, hentry, rfl⟩ := List.mem_map.1 hpart
  exact oneLine_argument (warning.writable_attributes entry hentry) (h entry hentry)

/-- Reading the statement of a warning gives it back. -/
theorem parseLine_render (warning : Warning) : parseLine (render warning).toList = .ok warning := by
  have hlabel := warning.kind.word_label
  have hspace : Stops isKeywordChar (' ' :: arguments warning) := by
    intro c hc
    cases hc
    decide
  have hstrip : Text.stripChars (' ' :: arguments warning) = arguments warning :=
    show Text.stripChars ([' '] ++ arguments warning) = arguments warning from
      (tight_arguments warning).stripChars_eq Text.isBlank_of_mem_space
  have hmissing :
      (warning.kind.attributes.filter fun name => !warning.attributes.hasKey name) = [] := by
    rw [List.filter_eq_nil_iff, ← Warning.keys_attributes]
    intro name hname
    rw [(Table.hasKey_iff_mem_keys _ name).2 hname]
    exact Bool.false_ne_true
  rw [toList_render]
  unfold parseLine
  rw [takeWhile_append_of_stops hlabel.all hspace, dropWhile_append_of_stops hlabel.all hspace]
  split
  · next heq => exact absurd heq hlabel.ne_nil
  · rw [String.ofList_toList, WarningKind.ofLabel?_eq_some]
    dsimp only
    rw [hstrip, unwrap_arguments, readArguments_arguments]
    dsimp only
    rw [hmissing]
    dsimp only
    rw [Warning.build?_attributes]

/-! ## Texts -/

/-- The characters of a text of statements. -/
theorem toList_renderAll (warnings : List Warning) :
    (renderAll warnings).toList =
      (grouped warnings).flatMap fun warning => (render warning).toList ++ ['\n'] := by
  unfold renderAll
  rw [String.toList_join, List.flatMap_map]
  refine List.flatMap_congr fun warning _ => ?_
  exact String.toList_append

/-- Reading statements gives back their warnings, wherever the lines stand. -/
theorem parseLines_render (file : String) (number : Nat) (warnings : List Warning) :
    parseLines file number (warnings.map fun warning => (render warning).toList) =
      .ok warnings := by
  induction warnings generalizing number with
  | nil => rfl
  | cons warning rest ih =>
      have hstrip : Text.stripChars (render warning).toList = (render warning).toList :=
        show Text.stripChars ([] ++ (render warning).toList) = (render warning).toList from
          (tight_render warning).stripChars_eq (List.forall_mem_nil _)
      rw [List.map_cons, parseLines, hstrip]
      split
      · next heq => exact absurd heq (tight_render warning).ne_nil
      · next heq =>
          -- A statement starts with a keyword, so it is no comment.
          rw [toList_render] at heq
          exact absurd (warning.kind.word_label.head (congrArg List.head? heq)) (by decide)
      · rw [parseLine_render, ih]
        rfl

/-! ## Groups -/

/-- A list holds the given warnings again: kind after kind in the order of the kinds, and each kind
in the given order. -/
structure Regrouped (warnings known : List Warning) : Prop where
  /-- The kinds are in order. -/
  order : known.Pairwise fun first second =>
    WarningKind.all.idxOf first.kind ≤ WarningKind.all.idxOf second.kind
  /-- Each kind has its warnings in order. -/
  groups : ∀ kind : WarningKind, (known.filter fun warning => warning.kind == kind) =
    warnings.filter fun warning => warning.kind == kind

/-- Regrouping neither loses nor adds a warning. -/
theorem Regrouped.perm {warnings known : List Warning} (h : Regrouped warnings known) :
    known.Perm warnings := by
  rw [List.perm_iff_count]
  intro warning
  have hcount (list : List Warning) :
      (list.filter fun other => other.kind == warning.kind).count warning = list.count warning :=
    List.count_filter (beq_self_eq_true _)
  rw [← hcount known, h.groups, hcount]

/-- One group has the warnings of its kind in order, and the others have none of them. -/
theorem filter_filter_kind (warnings : List Warning) (kind other : WarningKind) :
    ((warnings.filter fun warning => warning.kind == other).filter
        fun warning => warning.kind == kind) =
      if other = kind then warnings.filter fun warning => warning.kind == kind else [] := by
  split
  · next heq =>
      rw [heq, List.filter_filter]
      simp only [Bool.and_self]
  · next hne =>
      rw [List.filter_filter, List.filter_eq_nil_iff]
      intro warning _ hboth
      simp only [Bool.and_eq_true, beq_iff_eq] at hboth
      exact hne (hboth.2.symm.trans hboth.1)

/-- Warnings are written regrouped. -/
theorem regrouped_grouped (warnings : List Warning) : Regrouped warnings (grouped warnings) := by
  constructor
  · unfold grouped
    rw [List.pairwise_flatMap]
    constructor
    · intro kind _
      refine List.pairwise_of_forall_mem_list ?_
      intro first hfirst second hsecond
      rw [List.mem_filter, beq_iff_eq] at hfirst hsecond
      exact Nat.le_of_eq (congrArg WarningKind.all.idxOf (hfirst.2.trans hsecond.2.symm))
    · have hkinds : WarningKind.all.Pairwise fun kind other =>
          WarningKind.all.idxOf kind ≤ WarningKind.all.idxOf other := by decide
      refine hkinds.imp ?_
      intro kind other hle first hfirst second hsecond
      rw [List.mem_filter, beq_iff_eq] at hfirst hsecond
      rwa [hfirst.2, hsecond.2]
  · intro kind
    unfold grouped
    rw [List.filter_flatMap]
    simp only [filter_filter_kind]
    cases kind <;> simp [WarningKind.all]

/-- Known warnings can be written and read. Whatever the strings of warnings hold apart from line
boundaries, the text written for them is read without failure, and what is read are the warnings
again, regrouped. The text has as many lines as there are warnings. -/
theorem parseAll_renderAll (file : String) {warnings : List Warning}
    (h : ∀ warning ∈ warnings, warning.OneLine) :
    parseAll file (renderAll warnings) = .ok (grouped warnings) ∧
      Regrouped warnings (grouped warnings) ∧
      countLines (renderAll warnings) = warnings.length := by
  have hregrouped := regrouped_grouped warnings
  have hlines : ∀ warning ∈ grouped warnings, Text.OneLine (render warning).toList :=
    fun warning hwarning => oneLine_render (h warning (hregrouped.perm.mem_iff.1 hwarning))
  refine ⟨?_, hregrouped, ?_⟩
  · unfold parseAll
    rw [toList_renderAll, Text.lines_flatMap _ hlines]
    exact parseLines_render file 1 (grouped warnings)
  · unfold countLines
    rw [toList_renderAll, Text.count_lineFeed_flatMap _ hlines]
    exact hregrouped.perm.length_eq

/-- Warnings whose strings hold the marks of the text form, in no order of kinds. -/
def markedWarnings : List Warning :=
  [.controlDependency "it's a \\",
    .missingDefinition .function " # (x: 'y'," "\\')",
    .controlDependency "it's a \\",
    .duplicateDefinition .hostClass "" "\\\\''\""]

/-- Such warnings are read back, the repeated one twice. -/
theorem markedWarnings_read_back :
    (∀ warning ∈ markedWarnings, warning.OneLine) ∧
      parseAll anonymousFile (renderAll markedWarnings) =
        .ok [.duplicateDefinition .hostClass "" "\\\\''\"",
          .missingDefinition .function " # (x: 'y'," "\\')",
          .controlDependency "it's a \\", .controlDependency "it's a \\"] ∧
      countLines (renderAll markedWarnings) = 4 := by
  have honeLine : ∀ warning ∈ markedWarnings, warning.OneLine := by decide
  obtain ⟨hparse, _, hcount⟩ := parseAll_renderAll anonymousFile honeLine
  exact ⟨honeLine, hparse, hcount⟩

end Statement

end ModuleGraph
