import ModuleGraph.Proofs.KnownWarnings
import ModuleGraph.Proofs.Storing

/-!
# Statements that are torn at a line boundary

A statement is written on one line only if the strings of its warning are. Otherwise its first line
ends inside a quoted string, and such a line is no statement (`parseLine_torn`). So a text of
statements can be read exactly if the strings of all warnings are free of line boundaries
(`parseLines_renderAll_of_oneLine`, `parseLines_renderAll_of_torn`).
-/

namespace ModuleGraph

namespace Statement

/-! ## A line that ends inside a string -/

/-- A quoted text without its closing mark cannot be read. -/
theorem readQuoted_unclosed (text : List Char) :
    readQuoted '\x27' (text.flatMap escapeQuote) = none := by
  induction text with
  | nil => rfl
  | cons c text ih =>
      rw [List.flatMap_cons, readQuoted_escapeQuote, ih]
      rfl

/-- The start of an argument, up to a place inside its quoted value. -/
def tornArgument (name value : List Char) : List Char :=
  name ++ ':' :: ' ' :: '\x27' :: value.flatMap escapeQuote

/-- An argument without its closing mark cannot be read. -/
theorem readArgument_torn {blanks name : List Char} (value : List Char)
    (hblanks : ∀ c ∈ blanks, Text.isBlank c = true) (hname : Word isKeywordChar name) :
    readArgument (blanks ++ tornArgument name value) = none := by
  have hstart : Stops Text.isBlank (tornArgument name value) := by
    intro c hc
    exact isBlank_of_isKeywordChar (hname.head hc)
  have hcolon : Stops isKeywordChar (':' :: ' ' :: '\x27' :: value.flatMap escapeQuote) := by
    intro c hc
    cases hc
    decide
  have hspace : (' ' :: '\x27' :: value.flatMap escapeQuote).dropWhile Text.isBlank =
      '\x27' :: value.flatMap escapeQuote := by
    rw [List.dropWhile_cons_of_pos (by decide), List.dropWhile_cons_of_neg (by decide)]
  unfold readArgument
  rw [dropWhile_append_of_stops hblanks hstart]
  unfold tornArgument
  dsimp only
  rw [takeWhile_append_of_stops hname.all hcolon, dropWhile_append_of_stops hname.all hcolon]
  split
  · rfl
  · rw [List.dropWhile_cons_of_neg (by decide)]
    show (readArgumentValue ((' ' :: '\x27' :: value.flatMap escapeQuote).dropWhile
      Text.isBlank) >>= _) = none
    rw [hspace, readArgumentValue, readQuoted_unclosed]
    rfl

/-- Arguments cannot be read if what follows the first of them cannot. -/
theorem readArguments_error_of_rest {kind : WarningKind} {text : List Char} (hne : text ≠ [])
    (h : ∀ entry rest, readArgument text = some (entry, rest) →
      ∀ steps values, ∃ fault, readArguments kind steps values rest = .error fault)
    (steps : Nat) (values : Table String String) :
    ∃ fault, readArguments kind steps values text = .error fault := by
  cases steps with
  | zero =>
      refine ⟨.badArguments (String.ofList text), ?_⟩
      rw [readArguments]
      exact hne
  | succ steps =>
      rw [readArguments]
      · cases hread : readArgument text with
        | none => exact ⟨_, rfl⟩
        | some found =>
            obtain ⟨⟨name, value⟩, rest⟩ := found
            dsimp only
            split
            · exact ⟨_, rfl⟩
            · split
              · exact ⟨_, rfl⟩
              · exact h (name, value) rest hread steps _
      · exact hne

/-- Arguments of which the last one is torn. -/
def tornArguments (kind : WarningKind) (entries : Table String String) (name value : List Char) :
    List Char :=
  (entries.flatMap fun entry => argument kind entry ++ [',', ' ']) ++ tornArgument name value

/-- Arguments of which the last one is torn cannot be read. -/
theorem readArguments_torn {kind : WarningKind} {entries : Table String String}
    {blanks name : List Char} (value : List Char) (hblanks : ∀ c ∈ blanks, Text.isBlank c = true)
    (hentries : ∀ entry ∈ entries, Writable kind entry) (hname : Word isKeywordChar name)
    (steps : Nat) (values : Table String String) :
    ∃ fault, readArguments kind steps values
      (blanks ++ tornArguments kind entries name value) = .error fault := by
  -- By induction on the arguments that are whole; a blank stands before each but the first.
  induction entries generalizing blanks steps values with
  | nil =>
      refine readArguments_error_of_rest (by simp [tornArguments, tornArgument]) ?_ steps values
      intro entry rest hread
      have hnone : readArgument (blanks ++ tornArguments kind [] name value) = none :=
        readArgument_torn value hblanks hname
      rw [hnone] at hread
      cases hread
  | cons entry rest ih =>
      obtain ⟨hentry, hrest⟩ := List.forall_mem_cons.1 hentries
      have htext : blanks ++ tornArguments kind (entry :: rest) name value =
          blanks ++ (argument kind entry ++ ',' :: ' ' :: tornArguments kind rest name value) := by
        simp [tornArguments]
      have hread := readArgument_written hentry
        (',' :: ' ' :: tornArguments kind rest name value) hblanks (stops_comma _) rfl
      rw [htext]
      refine readArguments_error_of_rest (by simp) ?_ steps values
      intro found after hfound steps values
      rw [hread] at hfound
      cases hfound
      exact ih Text.isBlank_of_mem_space hrest steps values

end Statement

/-! ## Stripping such a line -/

namespace Text

/-- A blank at the end is stripped, and another character is not. -/
theorem stripRight_append_singleton (text : List Char) (c : Char) :
    stripRight (text ++ [c]) = if isBlank c then stripRight text else text ++ [c] := by
  unfold stripRight
  rw [List.reverse_append, List.reverse_singleton, List.singleton_append, List.dropWhile_cons]
  split
  · rfl
  · rw [List.reverse_cons, List.reverse_reverse]

end Text

namespace Statement

/-- Stripping a text that ends inside a quoted string leaves such a text. -/
theorem stripChars_torn {start blanks : List Char} (htight : Text.Tight start)
    (hblanks : ∀ c ∈ blanks, Text.isBlank c = true) (value : List Char) :
    ∃ less, Text.stripChars (blanks ++ (start ++ value.flatMap escapeQuote)) =
      start ++ List.flatMap escapeQuote less := by
  obtain ⟨a, ha, hfirst⟩ := htight.first
  have hhead : (start ++ value.flatMap escapeQuote).head? = some a := by
    rw [List.head?_append, ha, Option.some_or]
  unfold Text.stripChars
  rw [List.dropWhile_append_of_pos hblanks, Text.dropWhile_isBlank_eq_self hhead hfirst]
  clear hhead
  -- By induction from the end: only blanks are stripped, and these are not escaped.
  induction value using List.reverseRecOn with
  | nil =>
      have hstrip := htight.stripChars_eq (List.forall_mem_nil _)
      unfold Text.stripChars at hstrip
      rw [List.nil_append, Text.dropWhile_isBlank_eq_self ha hfirst] at hstrip
      exact ⟨[], by rw [List.flatMap_nil, List.append_nil, hstrip]⟩
  | append_singleton value c ih =>
      by_cases hblank : Text.isBlank c = true
      · have hplain : escapeQuote c = [c] := by
          refine if_neg fun hmark => ?_
          simp only [Bool.or_eq_true, decide_eq_true_eq] at hmark
          rcases hmark with rfl | rfl
          · exact absurd hblank (by decide)
          · exact absurd hblank (by decide)
        rw [List.flatMap_append, List.flatMap_singleton, hplain, ← List.append_assoc,
          Text.stripRight_append_singleton, if_pos hblank]
        exact ih
      · refine ⟨value ++ [c], ?_⟩
        obtain ⟨before, hescape⟩ : ∃ before, escapeQuote c = before ++ [c] := by
          unfold escapeQuote
          split
          · exact ⟨['\\'], rfl⟩
          · exact ⟨[], rfl⟩
        rw [List.flatMap_append, List.flatMap_singleton, hescape, ← List.append_assoc,
          ← List.append_assoc, Text.stripRight_append_singleton, if_neg hblank]

/-- What stands before the torn string. -/
def tornStart (kind : WarningKind) (entries : Table String String) (name : List Char) :
    List Char :=
  (entries.flatMap fun entry => argument kind entry ++ [',', ' ']) ++ (name ++ [':', ' ', '\x27'])

/-- Torn arguments are a start and a part of a string. -/
theorem tornArguments_eq (kind : WarningKind) (entries : Table String String)
    (name value : List Char) : tornArguments kind entries name value =
      tornStart kind entries name ++ value.flatMap escapeQuote := by
  simp [tornArguments, tornArgument, tornStart]

/-- What stands before the torn string is tight, and starts with a letter of a name. -/
theorem tight_tornStart {kind : WarningKind} {entries : Table String String} {name : List Char}
    (hentries : ∀ entry ∈ entries, Writable kind entry) (hname : Word isKeywordChar name) :
    Text.Tight (tornStart kind entries name) ∧
      ∀ c, (tornStart kind entries name).head? = some c → isKeywordChar c = true := by
  have hquote : Text.Tight ['\x27'] := ⟨⟨'\x27', rfl, by decide⟩, ⟨'\x27', rfl, by decide⟩⟩
  cases entries with
  | nil =>
      have htight := (hname.tight fun _ => isBlank_of_isKeywordChar).append hquote [':', ' ']
      rw [List.append_assoc] at htight
      exact ⟨htight, fun c hc => hname.head hc⟩
  | cons entry rest =>
      have hentry := hentries entry List.mem_cons_self
      have hstart : tornStart kind (entry :: rest) name = argument kind entry ++
          ([',', ' '] ++ (rest.flatMap fun entry => argument kind entry ++ [',', ' ']) ++
            (name ++ [':', ' '])) ++ ['\x27'] := by
        simp [tornStart]
      rw [hstart]
      refine ⟨(tight_argument hentry).append hquote _, fun c hc => ?_⟩
      unfold argument at hc
      rw [List.append_assoc, List.append_assoc] at hc
      exact hentry.name.head hc

/-- A statement that is torn inside a string cannot be read. -/
theorem parseLine_torn {kind : WarningKind} {entries : Table String String} {name : List Char}
    (hentries : ∀ entry ∈ entries, Writable kind entry) (hname : Word isKeywordChar name)
    (value : List Char) :
    ∃ fault, parseLine (kind.label.toList ++ ' ' :: tornArguments kind entries name value) =
      .error fault := by
  have hlabel := kind.word_label
  have hspace : Stops isKeywordChar (' ' :: tornArguments kind entries name value) := by
    intro c hc
    cases hc
    decide
  obtain ⟨htight, hletter⟩ := tight_tornStart hentries hname
  obtain ⟨less, hstrip⟩ := stripChars_torn htight Text.isBlank_of_mem_space value
  have hunwrap : unwrap (tornArguments kind entries name less) =
      tornArguments kind entries name less := by
    rw [tornArguments_eq]
    unfold unwrap
    split
    · next heq =>
        have hhead := congrArg List.head? heq
        rw [List.head?_append_of_ne_nil _ htight.ne_nil] at hhead
        exact absurd (hletter _ hhead) (by decide)
    · rfl
  obtain ⟨fault, hfault⟩ := readArguments_torn less (List.forall_mem_nil _) hentries hname
    (tornArguments kind entries name less).length []
  refine ⟨fault, ?_⟩
  unfold parseLine
  rw [takeWhile_append_of_stops hlabel.all hspace, dropWhile_append_of_stops hlabel.all hspace]
  split
  · next heq => exact absurd heq hlabel.ne_nil
  · rw [String.ofList_toList, WarningKind.ofLabel?_eq_some]
    dsimp only
    have hstripped : Text.stripChars (' ' :: tornArguments kind entries name value) =
        tornArguments kind entries name less := by
      rw [tornArguments_eq, tornArguments_eq]
      exact hstrip
    rw [hstripped, hunwrap]
    rw [List.nil_append] at hfault
    rw [hfault]

/-! ## Where a statement is torn -/

/-- A list has a first entry without a property, unless all have it. -/
theorem exists_first_without {α : Type} {property : α → Prop} [DecidablePred property]
    {list : List α} (h : ¬ ∀ entry ∈ list, property entry) :
    ∃ before entry after, list = before ++ entry :: after ∧
      (∀ other ∈ before, property other) ∧ ¬ property entry := by
  induction list with
  | nil => exact absurd (List.forall_mem_nil _) h
  | cons entry rest ih =>
      by_cases hentry : property entry
      · obtain ⟨before, other, after, rfl, hbefore, hother⟩ :=
          ih fun hrest => h (List.forall_mem_cons.2 ⟨hentry, hrest⟩)
        exact ⟨entry :: before, other, after, rfl, List.forall_mem_cons.2 ⟨hentry, hbefore⟩,
          hother⟩
      · exact ⟨[], entry, rest, rfl, List.forall_mem_nil _, hentry⟩

/-- A text put together with separators has one behind each part before a given one. -/
theorem intercalate_append_cons {α : Type} (separator : List Char) (write : α → List Char)
    (before : List α) (entry : α) (after : List α) :
    ∃ tail, separator.intercalate ((before ++ entry :: after).map write) =
      (before.flatMap fun other => write other ++ separator) ++ (write entry ++ tail) := by
  induction before with
  | nil => exact Text.exists_append_eq_intercalate separator (write entry) (after.map write)
  | cons other rest ih =>
      obtain ⟨tail, htail⟩ := ih
      refine ⟨tail, ?_⟩
      obtain ⟨next, more, hnext⟩ : ∃ next more, (rest ++ entry :: after).map write = next :: more :=
        List.exists_cons_of_ne_nil (by simp)
      rw [hnext] at htail
      rw [List.cons_append, List.map_cons, hnext, List.intercalate_cons_cons, htail,
        List.flatMap_cons, List.append_assoc, List.append_assoc, List.append_assoc]

/-- A statement that is not on one line is torn inside a string: there its first line ends. -/
theorem exists_torn {warning : Warning} (h : ¬ warning.OneLine) :
    ∃ entries name value c rest, (∀ entry ∈ entries, Writable warning.kind entry) ∧
      Word isKeywordChar name ∧ Text.isLineBreak c = true ∧
      Text.OneLine (warning.kind.label.toList ++ ' ' ::
        tornArguments warning.kind entries name value) ∧
      (render warning).toList = (warning.kind.label.toList ++ ' ' ::
        tornArguments warning.kind entries name value) ++ c :: rest := by
  obtain ⟨before, entry, after, hattributes, hbefore, hentry⟩ := exists_first_without h
  obtain ⟨good, c, bad, hvalue, hgood, hbreak⟩ := exists_first_without hentry
  have hwritable : ∀ other ∈ before ++ entry :: after, Writable warning.kind other := by
    rw [← hattributes]
    exact warning.writable_attributes
  obtain ⟨hwritten, hself, _⟩ : (∀ other ∈ before, Writable warning.kind other) ∧
      Writable warning.kind entry ∧ ∀ other ∈ after, Writable warning.kind other := by
    rwa [List.forall_mem_append, List.forall_mem_cons] at hwritable
  -- A symbol has no line boundary, so the value is quoted.
  have hquoted : warning.kind.isSymbol entry.1 = false := by
    rw [Bool.eq_false_iff]
    intro hsymbol
    exact hentry ((hself.value hsymbol).oneLine fun _ => isBlank_of_isSymbolChar)
  have hplain : escapeQuote c = [c] := by
    refine if_neg fun hmark => hbreak ?_
    simp only [Bool.or_eq_true, decide_eq_true_eq] at hmark
    rcases hmark with rfl | rfl <;> decide
  have hargument : argument warning.kind entry =
      tornArgument entry.1.toList good ++ c :: (bad.flatMap escapeQuote ++ ['\x27']) := by
    unfold argument tornArgument
    rw [toList_renderValue, hquoted, if_neg Bool.false_ne_true, hvalue, List.flatMap_append,
      List.flatMap_cons, hplain]
    simp
  obtain ⟨tail, htail⟩ := intercalate_append_cons [',', ' '] (argument warning.kind) before entry
    after
  refine ⟨before, entry.1.toList, good, c, bad.flatMap escapeQuote ++ ['\x27'] ++ tail, hwritten,
    hself.name, by simpa using hbreak, ?_, ?_⟩
  · rw [Text.oneLine_append, Text.oneLine_cons]
    refine ⟨warning.kind.word_label.oneLine fun _ => isBlank_of_isKeywordChar, by decide, ?_⟩
    have hwhole : Text.OneLine
        (before.flatMap fun other => argument warning.kind other ++ [',', ' ']) := by
      intro d hd
      obtain ⟨other, hother, hd⟩ := List.mem_flatMap.1 hd
      have hline := oneLine_argument (hwritten other hother) (hbefore other hother)
      exact Text.oneLine_append.2 ⟨hline, by decide⟩ d hd
    unfold tornArguments tornArgument
    rw [Text.oneLine_append, Text.oneLine_append, Text.oneLine_cons, Text.oneLine_cons,
      Text.oneLine_cons]
    exact ⟨hwhole, hself.name.oneLine fun _ => isBlank_of_isKeywordChar, by decide, by decide,
      by decide, oneLine_flatMap_escapeQuote hgood⟩
  · rw [toList_render]
    unfold arguments
    rw [hattributes, htail, hargument]
    simp [tornArguments]

end Statement

/-! ## Texts with a torn statement -/

namespace Text

/-- The first line of a text ends at the first line boundary. -/
theorem lines_append_lineBreak {line : List Char} (h : OneLine line) {c : Char}
    (hbreak : isLineBreak c = true) (rest : List Char) :
    ∃ more, lines (line ++ c :: rest) = line :: more := by
  induction line with
  | nil =>
      rw [List.nil_append, lines.eq_def]
      split
      · next heq => cases heq
      · exact ⟨_, rfl⟩
      · next heq =>
          cases heq
          exact ⟨_, if_pos hbreak⟩
  | cons d line ih =>
      obtain ⟨hd, hline⟩ := oneLine_cons.1 h
      obtain ⟨more, hmore⟩ := ih hline
      refine ⟨more, ?_⟩
      rw [List.cons_append, lines, hd, hmore]
      · rfl
      · intro _ heq
        rw [heq] at hd
        exact absurd hd (by decide)

/-- Lines that each end with a line feed are the first lines of a text. -/
theorem lines_flatMap_append {α : Type} (list : List α) {write : α → List Char}
    (h : ∀ entry ∈ list, OneLine (write entry)) (rest : List Char) :
    lines ((list.flatMap fun entry => write entry ++ ['\n']) ++ rest) =
      list.map write ++ lines rest := by
  induction list with
  | nil => rfl
  | cons entry others ih =>
      obtain ⟨hentry, hothers⟩ := List.forall_mem_cons.1 h
      rw [List.flatMap_cons, List.append_assoc, List.append_assoc, List.singleton_append,
        lines_append_lineFeed hentry, ih hothers]
      rfl

end Text

namespace Statement

/-- A statement is read before the lines that follow it. -/
theorem parseLines_render_cons (file : String) (number : Nat) (warning : Warning)
    (rest : List (List Char)) :
    parseLines file number ((render warning).toList :: rest) =
      (parseLines file (number + 1) rest).map (warning :: ·) := by
  have hstrip : Text.stripChars (render warning).toList = (render warning).toList :=
    (tight_render warning).stripChars_eq (List.forall_mem_nil _)
  rw [parseLines, hstrip]
  split
  · next heq => exact absurd heq (tight_render warning).ne_nil
  · next heq =>
      rw [toList_render] at heq
      exact absurd (warning.kind.word_label.head (congrArg List.head? heq)) (by decide)
  · rw [parseLine_render]

/-- The warnings whose strings are free of line boundaries are read back from their text. -/
theorem parseAll_renderAll_of_oneLine (file : String) {warnings : List Warning}
    (h : ∀ warning ∈ warnings, warning.OneLine) :
    parseAll file (renderAll warnings) = .ok (grouped warnings) := by
  have hlines : ∀ warning ∈ grouped warnings, Text.OneLine (render warning).toList :=
    fun warning hwarning =>
      oneLine_render (h warning ((regrouped_grouped warnings).perm.mem_iff.1 hwarning))
  unfold parseAll
  rw [toList_renderAll, Text.lines_flatMap _ hlines]
  exact parseLines_render file 1 (grouped warnings)

/-- Statements that are followed by a torn one cannot be read. -/
theorem parseLines_torn (file : String) (number : Nat) (before : List Warning)
    {kind : WarningKind} {entries : Table String String} {name : List Char}
    (hentries : ∀ entry ∈ entries, Writable kind entry) (hname : Word isKeywordChar name)
    (value : List Char) (rest : List (List Char)) :
    ∃ line fault, parseLines file number
      ((before.map fun warning => (render warning).toList) ++
        (kind.label.toList ++ ' ' :: tornArguments kind entries name value) :: rest) =
      .error (.badStatement file line fault) := by
  induction before generalizing number with
  | nil =>
      obtain ⟨htight, _⟩ := tight_tornStart hentries hname
      have hstart := (kind.word_label.tight fun _ => isBlank_of_isKeywordChar).append htight [' ']
      obtain ⟨less, hstrip⟩ := stripChars_torn hstart (List.forall_mem_nil _) value
      have htorn (value : List Char) :
          kind.label.toList ++ ' ' :: tornArguments kind entries name value =
            kind.label.toList ++ [' '] ++ tornStart kind entries name ++
              value.flatMap escapeQuote := by
        simp [tornArguments_eq]
      have hline : Text.stripChars (kind.label.toList ++ ' ' ::
          tornArguments kind entries name value) =
            kind.label.toList ++ ' ' :: tornArguments kind entries name less := by
        rw [htorn, htorn]
        exact hstrip
      obtain ⟨fault, hfault⟩ := parseLine_torn hentries hname less
      refine ⟨number, fault, ?_⟩
      rw [List.map_nil, List.nil_append, parseLines, hline]
      split
      · next heq => exact absurd heq (List.append_ne_nil_of_left_ne_nil kind.word_label.ne_nil _)
      · next heq =>
          exact absurd (kind.word_label.head (congrArg List.head? heq)) (by decide)
      · rw [hfault]
  | cons warning before ih =>
      obtain ⟨line, fault, hrest⟩ := ih (number + 1)
      refine ⟨line, fault, ?_⟩
      rw [List.map_cons, List.cons_append, parseLines_render_cons, hrest]
      rfl

/-- Warnings of which one has a string with a line boundary cannot be read back. -/
theorem parseAll_renderAll_of_torn (file : String) {warnings : List Warning}
    (h : ¬ ∀ warning ∈ warnings, warning.OneLine) :
    ∃ line fault, parseAll file (renderAll warnings) = .error (.badStatement file line fault) := by
  have hgrouped : ¬ ∀ warning ∈ grouped warnings, warning.OneLine := fun hall =>
    h fun warning hwarning => hall warning ((regrouped_grouped warnings).perm.mem_iff.2 hwarning)
  obtain ⟨before, warning, after, hsplit, hbefore, hwarning⟩ := exists_first_without hgrouped
  obtain ⟨entries, name, value, c, rest, hentries, hname, hbreak, hline, hrender⟩ :=
    exists_torn hwarning
  obtain ⟨more, hmore⟩ := Text.lines_append_lineBreak hline hbreak
    (rest ++ ['\n'] ++ after.flatMap fun other => (render other).toList ++ ['\n'])
  unfold parseAll
  rw [toList_renderAll, hsplit, List.flatMap_append, List.flatMap_cons,
    Text.lines_flatMap_append before fun other hother => oneLine_render (hbefore other hother),
    hrender, List.append_assoc _ (c :: rest), List.append_assoc, List.cons_append, List.cons_append,
    hmore]
  exact parseLines_torn file 1 before hentries hname value more

end Statement

end ModuleGraph
