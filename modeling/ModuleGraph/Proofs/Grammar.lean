import ModuleGraph.Proofs.KnownWarnings

/-!
# The grammar of known warnings

A known-warnings text is described here without a reader. `LineDenotes` says which warnings a line
stands for: none if it is blank or a comment, and otherwise the one whose statement it is
(`Denotes`). The forms of strings, values, arguments and their sequences are relations between
what is written and what is meant.

`parseAll_accepts_grammar` is the main theorem. A text is read exactly if every line stands for
something, the result is what the lines stand for in their order, and otherwise the failure names
the first line that stands for nothing. Each reader is compared with its form on its own: it accepts
nothing else, and it misses nothing.
-/

namespace ModuleGraph

/-- A table gets an entry for a key that has none. -/
theorem Table.Distinct.append_singleton {κ α : Type} [DecidableEq κ] {table : Table κ α}
    (h : table.Distinct) {entry : κ × α} (hnew : table.hasKey entry.1 = false) :
    Table.Distinct (table ++ [entry]) := by
  have hput := h.putNew entry.1 entry.2
  rwa [Table.putNew, hnew] at hput

/-! ## Rows of characters -/

/-- What remains after dropping the characters of a class does not go on with one of them. -/
theorem Statement.stops_dropWhile (belongs : Char → Bool) (text : List Char) :
    Stops belongs (text.dropWhile belongs) := by
  intro c hc
  have hhead := List.head?_dropWhile_not belongs text
  rw [hc] at hhead
  simpa using hhead

/-- A text that stops a class is empty or starts with another character. -/
theorem Statement.stops_cons {belongs : Char → Bool} {c : Char} (h : belongs c = false)
    (text : List Char) : Stops belongs (c :: text) := by
  intro d hd
  cases hd
  exact h

namespace Text

/-- The text is a row of blanks, maybe an empty one. -/
def Blanks (text : List Char) : Prop :=
  ∀ c ∈ text, isBlank c = true

/-- The blanks at the start of a text are a row of blanks. -/
theorem blanks_takeWhile (text : List Char) : Blanks (text.takeWhile isBlank) :=
  fun _ hc => List.mem_takeWhile_imp hc

/-- The text is the core with blanks around it, and the core has no blank at its ends. -/
def Strips (text core : List Char) : Prop :=
  ∃ before after, Blanks before ∧ Blanks after ∧ text = before ++ core ++ after ∧
    (core = [] ∨ Tight core)

/-- What is stripped at the end of a text are blanks. -/
theorem exists_blanks_stripRight (text : List Char) :
    ∃ blanks, Blanks blanks ∧ text = stripRight text ++ blanks := by
  refine ⟨(text.reverse.takeWhile isBlank).reverse, ?_, ?_⟩
  · intro c hc
    exact blanks_takeWhile _ c (List.mem_reverse.1 hc)
  · unfold stripRight
    rw [← List.reverse_append, List.takeWhile_append_dropWhile, List.reverse_reverse]

/-- What remains of a text at both ends is no blank. -/
theorem stripChars_eq_nil_or_tight (text : List Char) :
    stripChars text = [] ∨ Tight (stripChars text) := by
  obtain ⟨blanks, _, hsplit⟩ := exists_blanks_stripRight (text.dropWhile isBlank)
  change _ = stripChars text ++ blanks at hsplit
  rcases hcore : stripChars text with _ | ⟨c, rest⟩
  · exact Or.inl rfl
  · refine Or.inr ⟨⟨c, rfl, ?_⟩, ?_⟩
    · rw [hcore] at hsplit
      exact Statement.stops_dropWhile isBlank text c (by rw [hsplit]; rfl)
    · have hne : c :: rest ≠ [] := List.cons_ne_nil c rest
      refine ⟨(c :: rest).getLast hne, List.getLast?_eq_some_getLast hne, ?_⟩
      refine Statement.stops_dropWhile isBlank (text.dropWhile isBlank).reverse _ ?_
      rw [← List.getLast?_reverse]
      show (stripChars text).getLast? = _
      rw [hcore]
      exact List.getLast?_eq_some_getLast hne

/-- Stripping a text removes the blanks around its core. -/
theorem stripChars_eq_iff {text core : List Char} : stripChars text = core ↔ Strips text core := by
  constructor
  · rintro rfl
    obtain ⟨after, hafter, hsplit⟩ := exists_blanks_stripRight (text.dropWhile isBlank)
    refine ⟨text.takeWhile isBlank, after, blanks_takeWhile text, hafter, ?_,
      stripChars_eq_nil_or_tight text⟩
    unfold stripChars
    rw [List.append_assoc, ← hsplit, List.takeWhile_append_dropWhile]
  · rintro ⟨before, after, hbefore, hafter, rfl, hcore⟩
    have hright (start : List Char) : stripRight (start ++ after) = stripRight start := by
      unfold stripRight
      rw [List.reverse_append,
        List.dropWhile_append_of_pos fun c hc => hafter c (List.mem_reverse.1 hc)]
    unfold stripChars
    rw [List.append_assoc, List.dropWhile_append_of_pos hbefore]
    rcases hcore with rfl | htight
    · rw [List.nil_append, List.dropWhile_eq_nil_iff.2 hafter]
      rfl
    · obtain ⟨c, hc, hblank⟩ := htight.first
      have hkeep : (core ++ after).head? = some c := by rw [List.head?_append, hc, Option.some_or]
      rw [dropWhile_isBlank_eq_self hkeep hblank, hright]
      have hstrip := htight.stripChars_eq (List.forall_mem_nil _)
      unfold stripChars at hstrip
      rwa [List.nil_append, dropWhile_isBlank_eq_self hc hblank] at hstrip

end Text

namespace Statement

/-! ## Forms -/

/-- What is written between the marks of a string, and the string: a backslash stands before a
character that is taken as it is. -/
inductive QuotedForm (mark : Char) : List Char → List Char → Prop
  /-- The empty string. -/
  | nil : QuotedForm mark [] []
  /-- Any character after a backslash. -/
  | escaped (c : Char) {written text : List Char} (h : QuotedForm mark written text) :
      QuotedForm mark ('\\' :: c :: written) (c :: text)
  /-- A character that is neither a mark nor a backslash. -/
  | plain {c : Char} {written text : List Char} (hmark : c ≠ mark) (hslash : c ≠ '\\')
      (h : QuotedForm mark written text) : QuotedForm mark (c :: written) (c :: text)

/-- A written value and the value. -/
inductive ValueForm : List Char → List Char → Prop
  /-- A symbol is a word behind a colon. -/
  | symbol {text : List Char} (h : Word isSymbolChar text) : ValueForm (':' :: text) text
  /-- A string stands between two marks. -/
  | quoted {mark : Char} {written text : List Char} (hmark : mark = '\x27' ∨ mark = '\x22')
      (h : QuotedForm mark written text) : ValueForm (mark :: (written ++ [mark])) text

/-- A written argument, and its name and value: there may be blanks before and behind each part. -/
inductive ArgumentForm : List Char → String × String → Prop
  /-- A name, a colon and a value. -/
  | intro {start name middle next written text stop : List Char} (hstart : Text.Blanks start)
      (hname : Word isKeywordChar name) (hmiddle : Text.Blanks middle) (hnext : Text.Blanks next)
      (hvalue : ValueForm written text) (hstop : Text.Blanks stop) :
      ArgumentForm (start ++ (name ++ (middle ++ ':' :: (next ++ (written ++ stop)))))
        (String.ofList name, String.ofList text)

/-- Written arguments, and their names and values in order: a comma stands between two arguments,
and one may stand at the very end. -/
inductive ArgumentsForm : List Char → Table String String → Prop
  /-- No argument. -/
  | none : ArgumentsForm [] []
  /-- A last argument without a comma. -/
  | last {written : List Char} {entry : String × String} (h : ArgumentForm written entry) :
      ArgumentsForm written [entry]
  /-- An argument, a comma and the other arguments. -/
  | more {written rest : List Char} {entry : String × String} {entries : Table String String}
      (h : ArgumentForm written entry) (hrest : ArgumentsForm rest entries) :
      ArgumentsForm (written ++ ',' :: rest) (entry :: entries)

/-- The arguments are the core of a text without the pair of parentheses around it, if there is
one. -/
def Unwraps (core arguments : List Char) : Prop :=
  core = '(' :: (arguments ++ [')']) ∨
    arguments = core ∧ ∀ inner, core ≠ '(' :: (inner ++ [')'])

/-- A statement and its warning. -/
inductive Denotes : List Char → Warning → Prop
  /-- The keyword of the warning's kind goes as far as it can, and the arguments behind it are the
  attributes of the warning in any order. -/
  | intro {warning : Warning} {rest core arguments : List Char} {values : Table String String}
      (hkeyword : Stops isKeywordChar rest) (hcore : Text.Strips rest core)
      (harguments : Unwraps core arguments) (hvalues : ArgumentsForm arguments values)
      (hattributes : values.Perm warning.attributes) :
      Denotes (warning.kind.label.toList ++ rest) warning

/-- A line and the warnings it stands for. -/
inductive LineDenotes : List Char → List Warning → Prop
  /-- A blank line. -/
  | blank {line : List Char} (h : Text.Strips line []) : LineDenotes line []
  /-- A comment. -/
  | comment {line text : List Char} (h : Text.Strips line ('#' :: text)) : LineDenotes line []
  /-- A statement. -/
  | statement {line core : List Char} {warning : Warning} (h : Text.Strips line core)
      (hdenotes : Denotes core warning) : LineDenotes line [warning]

/-! ## Values -/

/-- Reading a string up to its closing mark accepts the written strings, and only these. -/
theorem readQuoted_eq_some_iff {mark : Char} (hmark : mark ≠ '\\') {text value rest : List Char} :
    readQuoted mark text = some (value, rest) ↔
      ∃ written, QuotedForm mark written value ∧ text = written ++ mark :: rest := by
  constructor
  · intro h
    fun_induction readQuoted mark text generalizing value with
    | case1 => cases h
    | case2 c text ih =>
        obtain ⟨⟨value, after⟩, hread, heq⟩ := Option.map_eq_some_iff.1 h
        cases heq
        obtain ⟨written, hform, rfl⟩ := ih hread
        exact ⟨_, hform.escaped c, rfl⟩
    | case3 text =>
        cases h
        exact ⟨[], .nil, rfl⟩
    | case4 => cases h
    | case5 c text _ hplain hslash ih =>
        obtain ⟨⟨value, after⟩, hread, heq⟩ := Option.map_eq_some_iff.1 h
        cases heq
        obtain ⟨written, hform, rfl⟩ := ih hread
        exact ⟨_, hform.plain hplain hslash, rfl⟩
  · rintro ⟨written, hform, rfl⟩
    induction hform with
    | nil =>
        rw [List.nil_append, readQuoted, if_pos rfl]
        intro _ _ heq
        exact absurd heq hmark
    | escaped c _ ih => rw [List.cons_append, List.cons_append, readQuoted, ih]; rfl
    | plain hplain hslash _ ih =>
        rw [List.cons_append, readQuoted, if_neg hplain, if_neg hslash, ih]
        · rfl
        · intro _ _ heq
          exact absurd heq hslash

/-- A value is read only if it is written at the start of the text. -/
theorem exists_valueForm_of_readArgumentValue {text value rest : List Char}
    (h : readArgumentValue text = some (value, rest)) :
    ∃ written, ValueForm written value ∧ text = written ++ rest := by
  unfold readArgumentValue at h
  split at h
  · next text =>
      split at h
      · cases h
      · next hne =>
          cases h
          have hword : Word isSymbolChar (text.takeWhile isSymbolChar) :=
            ⟨hne, fun c hc => List.mem_takeWhile_imp hc⟩
          refine ⟨_, .symbol hword, ?_⟩
          rw [List.cons_append, List.takeWhile_append_dropWhile]
  · obtain ⟨written, hform, rfl⟩ := (readQuoted_eq_some_iff (by decide)).1 h
    exact ⟨_, .quoted (Or.inl rfl) hform, by simp⟩
  · obtain ⟨written, hform, rfl⟩ := (readQuoted_eq_some_iff (by decide)).1 h
    exact ⟨_, .quoted (Or.inr rfl) hform, by simp⟩
  · cases h

/-- A written value is read, if what follows cannot belong to it. -/
theorem ValueForm.readArgumentValue_eq {written value rest : List Char}
    (h : ValueForm written value) (hrest : Stops isSymbolChar rest) :
    readArgumentValue (written ++ rest) = some (value, rest) := by
  cases h with
  | symbol hword =>
      rw [List.cons_append, readArgumentValue, takeWhile_append_of_stops hword.all hrest,
        dropWhile_append_of_stops hword.all hrest]
      split
      · exact absurd rfl hword.ne_nil
      · rfl
  | @quoted mark written _ hmark hform =>
      rw [List.cons_append, List.append_assoc, List.singleton_append]
      rcases hmark with rfl | rfl
      · rw [readArgumentValue]
        exact (readQuoted_eq_some_iff (by decide)).2 ⟨written, hform, rfl⟩
      · rw [readArgumentValue]
        exact (readQuoted_eq_some_iff (by decide)).2 ⟨written, hform, rfl⟩

/-- A written value starts with a mark that is no blank. -/
theorem ValueForm.stops_isBlank {written value : List Char} (h : ValueForm written value)
    (rest : List Char) : Stops Text.isBlank (written ++ rest) := by
  cases h with
  | symbol _ => exact stops_cons (by decide) _
  | quoted hmark _ =>
      rcases hmark with rfl | rfl
      · exact stops_cons (by decide) _
      · exact stops_cons (by decide) _

/-! ## Arguments -/

/-- An argument is over at the end of the text, or at a comma that stands before the rest. -/
def EndsAt (text rest : List Char) : Prop :=
  text = [] ∧ rest = [] ∨ text = ',' :: rest

/-- Reading a separator passes over blanks to where the argument is over. -/
theorem readSeparator_eq_some_iff {text rest : List Char} :
    readSeparator text = some rest ↔
      ∃ blanks stop, Text.Blanks blanks ∧ EndsAt stop rest ∧ text = blanks ++ stop := by
  constructor
  · intro h
    refine ⟨text.takeWhile Text.isBlank, text.dropWhile Text.isBlank, Text.blanks_takeWhile text,
      ?_, List.takeWhile_append_dropWhile.symm⟩
    unfold readSeparator at h
    split at h
    · next heq =>
        cases h
        exact Or.inl ⟨heq, rfl⟩
    · next heq =>
        cases h
        exact Or.inr heq
    · cases h
  · rintro ⟨blanks, stop, hblanks, hstop, rfl⟩
    unfold readSeparator
    rcases hstop with ⟨rfl, rfl⟩ | rfl
    · rw [dropWhile_append_of_stops hblanks (stops_nil _)]
    · rw [dropWhile_append_of_stops hblanks (stops_cons (by decide) _)]
      rfl

/-- Where an argument is over after blanks, its value is over. -/
theorem EndsAt.stops {stop rest : List Char} (h : EndsAt stop rest) {blanks : List Char}
    (hblanks : Text.Blanks blanks) : Stops isSymbolChar (blanks ++ stop) := by
  cases blanks with
  | nil =>
      rcases h with ⟨rfl, _⟩ | rfl
      · exact stops_nil _
      · exact stops_comma rest
  | cons c blanks =>
      have hblank := hblanks c List.mem_cons_self
      refine stops_cons (Bool.eq_false_iff.2 fun hsymbol => ?_) _
      rw [isBlank_of_isSymbolChar hsymbol] at hblank
      cases hblank

/-- What was read is a written argument and its end. -/
theorem exists_argumentForm_of_readArgument {text rest : List Char} {entry : String × String}
    (h : readArgument text = some (entry, rest)) :
    ∃ written stop, ArgumentForm written entry ∧ EndsAt stop rest ∧ text = written ++ stop := by
  unfold readArgument at h
  dsimp only at h
  split at h
  · cases h
  · next hne =>
      split at h
      · next after hcolon =>
          obtain ⟨⟨value, tail⟩, hvalue, h⟩ := Option.bind_eq_some_iff.1 h
          obtain ⟨last, hlast, h⟩ := Option.bind_eq_some_iff.1 h
          cases h
          obtain ⟨written, hform, hwritten⟩ := exists_valueForm_of_readArgumentValue hvalue
          obtain ⟨blanks, stop, hblanks, hstop, rfl⟩ := readSeparator_eq_some_iff.1 hlast
          have hname : Word isKeywordChar
              ((text.dropWhile Text.isBlank).takeWhile isKeywordChar) :=
            ⟨hne, fun c hc => List.mem_takeWhile_imp hc⟩
          refine ⟨_, stop, .intro (Text.blanks_takeWhile text) hname
            (Text.blanks_takeWhile ((text.dropWhile Text.isBlank).dropWhile isKeywordChar))
            (Text.blanks_takeWhile after) hform hblanks, hstop, ?_⟩
          -- Each part of the text is what was taken there, followed by what was dropped.
          simp only [List.append_assoc, List.cons_append]
          rw [← hwritten, List.takeWhile_append_dropWhile, ← hcolon,
            List.takeWhile_append_dropWhile, List.takeWhile_append_dropWhile,
            List.takeWhile_append_dropWhile]
      · cases h

/-- A written argument is read up to its end. -/
theorem ArgumentForm.readArgument_eq {written stop rest : List Char} {entry : String × String}
    (hform : ArgumentForm written entry) (hstop : EndsAt stop rest) :
    readArgument (written ++ stop) = some (entry, rest) := by
  cases hform with
  | @intro start name middle next written value blanks hstart hname hmiddle hnext hvalue
      hblanks =>
    have hword : Stops Text.isBlank
        (name ++ (middle ++ ':' :: (next ++ (written ++ (blanks ++ stop))))) :=
      fun c hc => isBlank_of_isKeywordChar (hname.head hc)
    have hcolon : Stops isKeywordChar
        (middle ++ ':' :: (next ++ (written ++ (blanks ++ stop)))) := by
      cases middle with
      | nil => exact stops_cons (by decide) _
      | cons c middle =>
          refine stops_cons (Bool.eq_false_iff.2 fun hkeyword => ?_) _
          have hblank := hmiddle c List.mem_cons_self
          rw [isBlank_of_isKeywordChar hkeyword] at hblank
          cases hblank
    have hread := hvalue.readArgumentValue_eq (hstop.stops hblanks)
    simp only [List.append_assoc, List.cons_append]
    unfold readArgument
    rw [dropWhile_append_of_stops hstart hword]
    dsimp only
    rw [takeWhile_append_of_stops hname.all hcolon, dropWhile_append_of_stops hname.all hcolon]
    split
    · exact absurd rfl hname.ne_nil
    · rw [dropWhile_append_of_stops hmiddle (stops_cons (by decide) _)]
      show (readArgumentValue ((next ++ (written ++ (blanks ++ stop))).dropWhile Text.isBlank) >>=
        _) = _
      rw [dropWhile_append_of_stops hnext (hvalue.stops_isBlank _), hread]
      show (readSeparator (blanks ++ stop) >>= _) = _
      rw [readSeparator_eq_some_iff.2 ⟨blanks, stop, hblanks, hstop, rfl⟩]
      rfl

/-- Reading an argument accepts the written arguments up to where they are over, and only
these. -/
theorem readArgument_eq_some_iff {text rest : List Char} {entry : String × String} :
    readArgument text = some (entry, rest) ↔
      ∃ written stop, ArgumentForm written entry ∧ EndsAt stop rest ∧ text = written ++ stop := by
  constructor
  · exact exists_argumentForm_of_readArgument
  · rintro ⟨written, stop, hform, hstop, rfl⟩
    exact hform.readArgument_eq hstop

/-- A written argument has a character. -/
theorem ArgumentForm.ne_nil {written : List Char} {entry : String × String}
    (h : ArgumentForm written entry) : written ≠ [] := by
  cases h with
  | intro _ hname _ _ _ _ =>
      exact List.append_ne_nil_of_right_ne_nil _ (List.append_ne_nil_of_left_ne_nil hname.ne_nil _)

/-- Nothing is the text of no argument. -/
theorem ArgumentsForm.eq_nil {entries : Table String String} (h : ArgumentsForm [] entries) :
    entries = [] := by
  generalize hwritten : ([] : List Char) = written at h
  cases h with
  | none => rfl
  | last h => exact absurd hwritten.symm h.ne_nil
  | more _ _ => exact absurd hwritten.symm (List.append_ne_nil_of_right_ne_nil _ (by simp))

/-- Reading an argument takes a character. -/
theorem length_lt_of_readArgument {text rest : List Char} {entry : String × String}
    (h : readArgument text = some (entry, rest)) : rest.length < text.length := by
  obtain ⟨written, stop, hform, hstop, rfl⟩ := readArgument_eq_some_iff.1 h
  have hpos := List.length_pos_of_ne_nil hform.ne_nil
  rw [List.length_append]
  rcases hstop with ⟨rfl, rfl⟩ | rfl
  · exact Nat.add_pos_left hpos _
  · rw [List.length_cons]
    omega

/-- A text of arguments is one argument and the text of the others. -/
theorem argumentsForm_iff {text : List Char} (hne : text ≠ []) {entries : Table String String} :
    ArgumentsForm text entries ↔ ∃ entry rest others, readArgument text = some (entry, rest) ∧
      ArgumentsForm rest others ∧ entries = entry :: others := by
  constructor
  · intro h
    cases h with
    | none => exact absurd rfl hne
    | last h =>
        have hread := readArgument_eq_some_iff.2 ⟨_, [], h, Or.inl ⟨rfl, rfl⟩, rfl⟩
        rw [List.append_nil] at hread
        exact ⟨_, [], [], hread, .none, rfl⟩
    | @more _ rest _ others h hrest =>
        exact ⟨_, rest, others, readArgument_eq_some_iff.2 ⟨_, _, h, Or.inr rfl, rfl⟩, hrest, rfl⟩
  · rintro ⟨entry, rest, others, hread, hothers, rfl⟩
    obtain ⟨written, stop, hform, hstop, rfl⟩ := readArgument_eq_some_iff.1 hread
    rcases hstop with ⟨rfl, rfl⟩ | rfl
    · rw [hothers.eq_nil, List.append_nil]
      exact .last hform
    · exact .more hform hothers

/-- Reading no text gives no further argument. -/
theorem readArguments_nil_iff {kind : WarningKind} {steps : Nat}
    {values result : Table String String} (hvalues : values.Distinct) :
    readArguments kind steps values [] = .ok result ↔
      ∃ entries, ArgumentsForm [] entries ∧ (∀ entry ∈ entries, entry.1 ∈ kind.attributes) ∧
        Table.Distinct (values ++ entries) ∧ result = values ++ entries := by
  rw [readArguments]
  constructor
  · intro h
    cases h
    exact ⟨[], .none, List.forall_mem_nil _, by rwa [List.append_nil], by rw [List.append_nil]⟩
  · rintro ⟨entries, hform, _, _, rfl⟩
    rw [hform.eq_nil, List.append_nil]

/-- Reading arguments goes on if the first one is known and new. -/
theorem readArguments_succ_iff {kind : WarningKind} {steps : Nat}
    {values result : Table String String} {text : List Char} (hne : text ≠ []) :
    readArguments kind (steps + 1) values text = .ok result ↔
      ∃ entry rest, readArgument text = some (entry, rest) ∧ entry.1 ∈ kind.attributes ∧
        values.hasKey entry.1 = false ∧
        readArguments kind steps (values ++ [entry]) rest = .ok result := by
  constructor
  · intro h
    rw [readArguments] at h
    · split at h
      · cases h
      · next name value rest hread =>
          split at h
          · cases h
          · next hname =>
              split at h
              · cases h
              · next hnew =>
                  exact ⟨(name, value), rest, hread, not_not.1 hname, Bool.eq_false_iff.2 hnew, h⟩
    · exact hne
  · rintro ⟨entry, rest, hread, hentry, hnew, hrest⟩
    rw [readArguments_step hread hentry hnew]
    exact hrest

/-- Reading arguments accepts a text of arguments whose names are known and occur once, and gives
them in their order. -/
theorem readArguments_eq_ok_iff {kind : WarningKind} {steps : Nat}
    {values result : Table String String} {text : List Char} (hsteps : text.length ≤ steps)
    (hvalues : values.Distinct) :
    readArguments kind steps values text = .ok result ↔
      ∃ entries, ArgumentsForm text entries ∧ (∀ entry ∈ entries, entry.1 ∈ kind.attributes) ∧
        Table.Distinct (values ++ entries) ∧ result = values ++ entries := by
  -- By induction on the steps; each one takes a character, so they are not used up.
  induction steps generalizing values text with
  | zero =>
      obtain rfl : text = [] := List.eq_nil_of_length_eq_zero (Nat.le_zero.1 hsteps)
      exact readArguments_nil_iff hvalues
  | succ steps ih =>
      by_cases hne : text = []
      · rw [hne]
        exact readArguments_nil_iff hvalues
      rw [readArguments_succ_iff hne]
      constructor
      · rintro ⟨entry, rest, hread, hentry, hnew, hrest⟩
        have hlength : rest.length ≤ steps := by
          have hless := length_lt_of_readArgument hread
          omega
        have hdistinct : Table.Distinct (values ++ [entry]) := hvalues.append_singleton hnew
        obtain ⟨others, hothers, hknown, hall, rfl⟩ := (ih hlength hdistinct).1 hrest
        rw [List.append_assoc] at hall ⊢
        have hform := (argumentsForm_iff hne).2 ⟨entry, rest, others, hread, hothers, rfl⟩
        exact ⟨entry :: others, hform, List.forall_mem_cons.2 ⟨hentry, hknown⟩, hall, rfl⟩
      · rintro ⟨entries, hform, hknown, hdistinct, rfl⟩
        obtain ⟨entry, rest, others, hread, hothers, rfl⟩ := (argumentsForm_iff hne).1 hform
        obtain ⟨hentry, hknown⟩ := List.forall_mem_cons.1 hknown
        have hlength : rest.length ≤ steps := by
          have hless := length_lt_of_readArgument hread
          omega
        have hnew := hdistinct.hasKey_eq_false
        rw [List.append_cons] at hdistinct
        refine ⟨entry, rest, hread, hentry, hnew, ?_⟩
        rw [ih hlength (hvalues.append_singleton hnew), List.append_cons values entry others]
        exact ⟨others, hothers, hknown, hdistinct, rfl⟩

/-- Reading the arguments of a statement accepts known names that occur once. -/
theorem readArguments_start_iff {kind : WarningKind} {values : Table String String}
    {text : List Char} :
    readArguments kind text.length [] text = .ok values ↔ ArgumentsForm text values ∧
      (∀ entry ∈ values, entry.1 ∈ kind.attributes) ∧ values.Distinct := by
  have hempty : Table.Distinct ([] : Table String String) := List.nodup_nil
  rw [readArguments_eq_ok_iff le_rfl hempty]
  constructor
  · rintro ⟨entries, hform, hknown, hdistinct, rfl⟩
    exact ⟨hform, hknown, hdistinct⟩
  · rintro ⟨hform, hknown, hdistinct⟩
    exact ⟨values, hform, hknown, hdistinct, rfl⟩

/-- Removing parentheses removes the pair around a text. -/
theorem unwrap_eq_iff {core arguments : List Char} :
    unwrap core = arguments ↔ Unwraps core arguments := by
  unfold unwrap Unwraps
  split
  · next rest =>
      split
      · next hlast =>
          obtain ⟨inner, rfl⟩ := List.getLast?_eq_some_iff.1 hlast
          simp
      · next hlast =>
          have hopen (inner : List Char) : '(' :: rest ≠ '(' :: (inner ++ [')']) := by
            intro heq
            cases heq
            exact hlast List.getLast?_concat
          simp [hopen, eq_comm]
  · next hopen =>
      have hother (inner : List Char) : core ≠ '(' :: inner := fun heq => hopen inner heq
      simp [hother, eq_comm]

end Statement

/-! ## Attributes -/

/-- A category is read from its written form only. -/
theorem Category.label_of_ofLabel? {text : String} {category : Category}
    (h : ofLabel? text = some category) : category.label = text := by
  have hlabel := List.find?_some h
  exact beq_iff_eq.1 hlabel

/-- A kind is read from its word only. -/
theorem WarningKind.label_of_ofLabel? {text : String} {kind : WarningKind}
    (h : ofLabel? text = some kind) : kind.label = text := by
  have hlabel := List.find?_some h
  exact beq_iff_eq.1 hlabel

namespace Warning

/-- A warning that is made has the kind and the values it was made from. -/
theorem get?_of_build? {kind : WarningKind} {values : Table String String} {warning : Warning}
    (h : build? kind values = some warning) :
    kind = warning.kind ∧ ∀ entry ∈ warning.attributes, values.get? entry.1 = some entry.2 := by
  cases kind with
  | duplicateDefinition | missingDefinition | typeError =>
      simp only [build?, Option.bind_eq_bind, Option.bind_eq_some_iff] at h
      obtain ⟨label, hlabel, category, hcategory, second, hsecond, third, hthird, heq⟩ := h
      cases heq
      rw [← Category.label_of_ofLabel? hcategory] at hlabel
      exact ⟨rfl, by simp [attributes, hlabel, hsecond, hthird]⟩
  | controlDependency | missingMetadata =>
      simp only [build?, Option.bind_eq_bind, Option.bind_eq_some_iff] at h
      obtain ⟨name, hname, heq⟩ := h
      cases heq
      exact ⟨rfl, by simp [attributes, hname]⟩

/-- A warning is made from the values of names, in whatever order they are given. -/
theorem build?_congr {kind : WarningKind} {values values' : Table String String}
    (h : ∀ name, values.get? name = values'.get? name) :
    build? kind values = build? kind values' := by
  unfold build?
  simp only [h]

/-- Attributes of a kind that are given once make a warning exactly if they are its attributes in
some order. -/
theorem build?_eq_some_iff {kind : WarningKind} {values : Table String String} {warning : Warning}
    (hdistinct : values.Distinct) (hknown : ∀ entry ∈ values, entry.1 ∈ kind.attributes) :
    build? kind values = some warning ↔
      kind = warning.kind ∧ values.Perm warning.attributes := by
  constructor
  · intro h
    obtain ⟨rfl, hvalues⟩ := get?_of_build? h
    refine ⟨rfl, ?_⟩
    -- The warning's attributes are among the values, and there are no more names than these.
    have hsubset : warning.attributes ⊆ values :=
      fun entry hentry => hdistinct.mem_iff_get?.2 (hvalues entry hentry)
    have hkeys : values.keys ⊆ warning.attributes.keys := by
      rw [keys_attributes]
      intro name hname
      obtain ⟨entry, hentry, rfl⟩ := List.mem_map.1 hname
      exact hknown entry hentry
    have hlength : values.length ≤ warning.attributes.length := by
      have hle := (List.subperm_of_subset hdistinct hkeys).length_le
      unfold Table.keys at hle
      rwa [List.length_map, List.length_map] at hle
    have hnodup : warning.attributes.Nodup := warning.distinct_attributes.of_map _
    exact ((List.subperm_of_subset hnodup hsubset).perm_of_length_le hlength).symm
  · rintro ⟨rfl, hperm⟩
    rw [← build?_attributes warning]
    refine build?_congr fun name => ?_
    ext value
    rw [← hdistinct.mem_iff_get?, ← warning.distinct_attributes.mem_iff_get?, hperm.mem_iff]

end Warning

namespace Statement

/-! ## Statements -/

/-- A line that was read denotes the warning. -/
theorem denotes_of_parseLine {line : List Char} {warning : Warning}
    (h : parseLine line = .ok warning) : Denotes line warning := by
  unfold parseLine at h
  split at h
  · cases h
  · split at h
    · cases h
    · next kind hkind =>
        dsimp only at h
        split at h
        · cases h
        · next values hread =>
            split at h
            · split at h
              · next hbuild =>
                  cases h
                  obtain ⟨hform, hknown, hdistinct⟩ := readArguments_start_iff.1 hread
                  obtain ⟨rfl, hperm⟩ := (Warning.build?_eq_some_iff hdistinct hknown).1 hbuild
                  have hline : line =
                      warning.kind.label.toList ++ line.dropWhile isKeywordChar := by
                    rw [WarningKind.label_of_ofLabel? hkind, String.toList_ofList,
                      List.takeWhile_append_dropWhile]
                  rw [hline]
                  exact .intro (stops_dropWhile _ line) (Text.stripChars_eq_iff.1 rfl)
                    (unwrap_eq_iff.1 rfl) hform hperm
              · cases h
            · cases h

/-- A line that denotes a warning is read as this warning. -/
theorem Denotes.parseLine_eq {line : List Char} {warning : Warning} (h : Denotes line warning) :
    parseLine line = .ok warning := by
  cases h with
  | @intro _ rest core arguments values hkeyword hcore harguments hvalues hattributes =>
    have hlabel := warning.kind.word_label
    have hkeys : values.keys.Perm warning.kind.attributes := by
      rw [← Warning.keys_attributes]
      exact hattributes.map Prod.fst
    have hdistinct : values.Distinct := hkeys.nodup_iff.2 warning.kind.nodup_attributes
    have hknown : ∀ entry ∈ values, entry.1 ∈ warning.kind.attributes :=
      fun entry hentry => hkeys.mem_iff.1 (List.mem_map_of_mem hentry)
    have hread : readArguments warning.kind arguments.length [] arguments = .ok values :=
      readArguments_start_iff.2 ⟨hvalues, hknown, hdistinct⟩
    have hmissing : (warning.kind.attributes.filter fun name => !values.hasKey name) = [] := by
      rw [List.filter_eq_nil_iff]
      intro name hname
      rw [(Table.hasKey_iff_mem_keys _ name).2 (hkeys.mem_iff.2 hname)]
      exact Bool.false_ne_true
    unfold parseLine
    rw [takeWhile_append_of_stops hlabel.all hkeyword,
      dropWhile_append_of_stops hlabel.all hkeyword]
    split
    · next heq => exact absurd heq hlabel.ne_nil
    · rw [String.ofList_toList, WarningKind.ofLabel?_eq_some]
      dsimp only
      rw [Text.stripChars_eq_iff.2 hcore, unwrap_eq_iff.2 harguments, hread]
      dsimp only
      rw [hmissing]
      dsimp only
      rw [(Warning.build?_eq_some_iff hdistinct hknown).2 ⟨rfl, hattributes⟩]

/-- A line is read as a statement exactly if it is one, and it is read as its warning. -/
theorem parseLine_eq_ok_iff {line : List Char} {warning : Warning} :
    parseLine line = .ok warning ↔ Denotes line warning :=
  ⟨denotes_of_parseLine, Denotes.parseLine_eq⟩

/-! ## Lines -/

/-- A statement is neither empty nor a comment. -/
theorem Denotes.word {core : List Char} {warning : Warning} (h : Denotes core warning) :
    ∃ c rest, core = c :: rest ∧ isKeywordChar c = true := by
  cases h with
  | intro _ _ _ _ _ =>
      obtain ⟨c, rest, hlabel⟩ := List.exists_cons_of_ne_nil warning.kind.word_label.ne_nil
      refine ⟨c, _, by rw [hlabel, List.cons_append], ?_⟩
      exact warning.kind.word_label.all c (hlabel ▸ List.mem_cons_self)

/-- A line that stands for warnings adds these to what the other lines give. -/
theorem LineDenotes.parseLines_cons {line : List Char} {group : List Warning}
    (h : LineDenotes line group) (file : String) (number : Nat) (rest : List (List Char)) :
    parseLines file number (line :: rest) =
      (parseLines file (number + 1) rest).map (group ++ ·) := by
  have hsame : (parseLines file (number + 1) rest).map (([] : List Warning) ++ ·) =
      parseLines file (number + 1) rest := by
    cases parseLines file (number + 1) rest <;> rfl
  rw [parseLines]
  cases h with
  | blank h => rw [Text.stripChars_eq_iff.2 h, hsame]
  | comment h =>
      rw [Text.stripChars_eq_iff.2 h, hsame]
      rfl
  | statement h hdenotes =>
      rw [Text.stripChars_eq_iff.2 h]
      obtain ⟨c, text, rfl, hword⟩ := hdenotes.word
      split
      · next heq => cases heq
      · next heq =>
          cases heq
          exact absurd hword (by decide)
      · rw [parseLine_eq_ok_iff.2 hdenotes]
        rfl

/-- A line that stands for nothing is a fault. -/
theorem parseLines_cons_of_not {line : List Char} (h : ¬ ∃ group, LineDenotes line group)
    (file : String) (number : Nat) (rest : List (List Char)) :
    ∃ fault, parseLines file number (line :: rest) = .error (.badStatement file number fault) := by
  rw [parseLines]
  split
  · next heq => exact absurd ⟨[], .blank (Text.stripChars_eq_iff.1 heq)⟩ h
  · next heq => exact absurd ⟨[], .comment (Text.stripChars_eq_iff.1 heq)⟩ h
  · split
    · next fault _ => exact ⟨fault, rfl⟩
    · next warning heq =>
        exact absurd ⟨[warning], .statement (Text.stripChars_eq_iff.1 rfl)
          (parseLine_eq_ok_iff.1 heq)⟩ h

/-- A line stands for one group of warnings at most. -/
theorem LineDenotes.unique {line : List Char} {group group' : List Warning}
    (h : LineDenotes line group) (h' : LineDenotes line group') : group = group' := by
  have hread := h.parseLines_cons "" 1 []
  rw [h'.parseLines_cons "" 1 []] at hread
  simpa [parseLines, Except.map] using hread.symm

/-- Lines are read exactly if each stands for something, and they are read as what they stand
for. -/
theorem parseLines_eq_ok_iff {file : String} {number : Nat} {lines : List (List Char)}
    {warnings : List Warning} :
    parseLines file number lines = .ok warnings ↔
      ∃ groups, List.Forall₂ LineDenotes lines groups ∧ warnings = groups.flatten := by
  induction lines generalizing number warnings with
  | nil =>
      rw [parseLines]
      constructor
      · intro h
        cases h
        exact ⟨[], .nil, rfl⟩
      · rintro ⟨groups, hgroups, rfl⟩
        cases hgroups
        rfl
  | cons line rest ih =>
      by_cases hline : ∃ group, LineDenotes line group
      · obtain ⟨group, hgroup⟩ := hline
        rw [hgroup.parseLines_cons]
        constructor
        · intro h
          cases hrest : parseLines file (number + 1) rest with
          | error failure =>
              rw [hrest] at h
              cases h
          | ok others =>
              rw [hrest] at h
              cases h
              obtain ⟨groups, hgroups, rfl⟩ := ih.1 hrest
              exact ⟨group :: groups, .cons hgroup hgroups, rfl⟩
        · rintro ⟨groups, hgroups, rfl⟩
          cases hgroups with
          | cons hfirst hgroups =>
              rw [ih.2 ⟨_, hgroups, rfl⟩, hgroup.unique hfirst]
              rfl
      · obtain ⟨fault, hfault⟩ := parseLines_cons_of_not hline file number rest
        rw [hfault]
        constructor
        · intro h
          cases h
        · rintro ⟨groups, hgroups, rfl⟩
          cases hgroups with
          | cons hfirst _ => exact absurd ⟨_, hfirst⟩ hline

/-- Where lines cannot be read, the failure names the first one that stands for nothing. -/
theorem exists_line_of_parseLines_error {file : String} {number : Nat} {lines : List (List Char)}
    {failure : Failure} (h : parseLines file number lines = .error failure) :
    ∃ before line after fault, lines = before ++ line :: after ∧
      (∀ other ∈ before, ∃ group, LineDenotes other group) ∧
      (¬ ∃ group, LineDenotes line group) ∧
      failure = .badStatement file (number + before.length) fault := by
  induction lines generalizing number with
  | nil => cases h
  | cons line rest ih =>
      by_cases hline : ∃ group, LineDenotes line group
      · obtain ⟨group, hgroup⟩ := hline
        rw [hgroup.parseLines_cons] at h
        cases hrest : parseLines file (number + 1) rest with
        | ok others =>
            rw [hrest] at h
            cases h
        | error failure =>
            rw [hrest] at h
            cases h
            obtain ⟨before, faulty, after, fault, rfl, hbefore, hfaulty, rfl⟩ := ih hrest
            refine ⟨line :: before, faulty, after, fault, rfl,
              List.forall_mem_cons.2 ⟨⟨group, hgroup⟩, hbefore⟩, hfaulty, ?_⟩
            rw [List.length_cons, Nat.add_assoc, Nat.add_comm 1]
      · obtain ⟨fault, hfault⟩ := parseLines_cons_of_not hline file number rest
        rw [hfault] at h
        cases h
        exact ⟨[], line, rest, fault, rfl, List.forall_mem_nil _, hline, rfl⟩

/-- A known-warnings text is read exactly as its grammar says. It is read if and only if every line
stands for something, and what is read are the warnings that the lines stand for, line after line.
Otherwise the failure is a fault of the first line that stands for nothing, and its text begins with
the name of the file and the number of that line. -/
theorem parseAll_accepts_grammar (file text : String) :
    ((∃ warnings, parseAll file text = .ok warnings) ↔
        ∀ line ∈ Text.lines text.toList, ∃ group, LineDenotes line group) ∧
      (∀ warnings, parseAll file text = .ok warnings ↔
        ∃ groups, List.Forall₂ LineDenotes (Text.lines text.toList) groups ∧
          warnings = groups.flatten) ∧
      ∀ failure, parseAll file text = .error failure →
        ∃ before line after fault, Text.lines text.toList = before ++ line :: after ∧
          (∀ other ∈ before, ∃ group, LineDenotes other group) ∧
          (¬ ∃ group, LineDenotes line group) ∧
          failure = .badStatement file (before.length + 1) fault ∧
          failure.message? =
            some (file ++ ":" ++ toString (before.length + 1) ++ ": " ++ fault.message) := by
  refine ⟨⟨?_, ?_⟩, fun warnings => parseLines_eq_ok_iff, ?_⟩
  · rintro ⟨warnings, hread⟩ line hline
    obtain ⟨groups, hgroups, _⟩ := parseLines_eq_ok_iff.1 hread
    obtain ⟨index, hindex, rfl⟩ := List.mem_iff_getElem.1 hline
    exact ⟨_, hgroups.get hindex (hgroups.length_eq ▸ hindex)⟩
  · intro hlines
    cases hread : parseAll file text with
    | ok warnings => exact ⟨warnings, rfl⟩
    | error failure =>
        obtain ⟨before, line, after, _, hsplit, _, hline, _⟩ :=
          exists_line_of_parseLines_error hread
        exact absurd (hlines line (by rw [hsplit]; simp)) hline
  · intro failure hread
    obtain ⟨before, line, after, fault, hsplit, hbefore, hline, rfl⟩ :=
      exists_line_of_parseLines_error hread
    rw [Nat.add_comm 1]
    exact ⟨before, line, after, fault, hsplit, hbefore, hline, rfl, rfl⟩

end Statement

end ModuleGraph
