import ModuleGraph.Environment
import ModuleGraph.Proofs.Grammar
import ModuleGraph.Proofs.Storing

/-!
# The setting of the modulepath

The settings of an environment are described here without a reader. A line `Assigns` a value to a
key if it has the key, an equals sign and the value, with blanks around each and perhaps a comment
behind them. `ModulepathForm` are the texts whose first line that assigns something to `modulepath`
lists some entries.

A line is read as the setting that it assigns (`setting?_eq_some_iff`), so such a text is read as
its entries but those that start with a dollar sign, whatever stands before and after the line.
Whatever is read is an entry (`IsEntry`), even if the text is of no such form.
-/

namespace ModuleGraph

namespace Text

/-! ## Lines of a text -/

/-- The text is empty or ends with a line boundary. -/
def EndsLine (text : List Char) : Prop :=
  ∀ c, text.getLast? = some c → isLineBreak c = true

/-- The text is empty or starts with a line boundary. -/
def StartsLine (text : List Char) : Prop :=
  ∀ c, text.head? = some c → isLineBreak c = true

/-- Lines have no line boundaries in them. -/
theorem oneLine_of_mem_lines {text line : List Char} (h : line ∈ lines text) : OneLine line := by
  fun_induction lines text generalizing line with
  | case1 => cases h
  | case2 rest ih =>
      rcases List.mem_cons.1 h with rfl | hrest
      · exact List.forall_mem_nil _
      · exact ih hrest
  | case3 c rest _ hbreak ih =>
      rcases List.mem_cons.1 h with rfl | hrest
      · exact List.forall_mem_nil _
      · exact ih hrest
  | case4 c rest _ hbreak hnone ih =>
      rw [List.mem_singleton.1 h]
      exact oneLine_cons.2 ⟨Bool.eq_false_iff.2 hbreak, List.forall_mem_nil _⟩
  | case5 c rest _ hbreak first more hlines ih =>
      rcases List.mem_cons.1 h with rfl | hrest
      · exact oneLine_cons.2 ⟨Bool.eq_false_iff.2 hbreak, ih (hlines ▸ List.mem_cons_self)⟩
      · exact ih (hlines ▸ List.mem_cons_of_mem _ hrest)

/-- A character that is no boundary belongs to the first line of what follows. -/
theorem lines_cons_of_not_break {c : Char} (hc : isLineBreak c = false) (rest : List Char) :
    lines (c :: rest) = (c :: (lines rest).headD []) :: (lines rest).tail := by
  rw [lines.eq_3 c rest, hc]
  · cases lines rest <;> rfl
  -- A carriage return would be a boundary itself.
  · rintro _ rfl
    exact absurd hc (by decide)

/-- A boundary ends an empty line. -/
theorem exists_lines_of_break {c : Char} (hc : isLineBreak c = true) (rest : List Char) :
    ∃ more, lines (c :: rest) = [] :: more := by
  by_cases hpair : ∃ after, c = '\r' ∧ rest = '\n' :: after
  · obtain ⟨after, rfl, rfl⟩ := hpair
    exact ⟨lines after, lines.eq_2 after⟩
  · rw [lines.eq_3 c rest, if_pos hc]
    · exact ⟨lines rest, rfl⟩
    · exact fun after hreturn hfeed => hpair ⟨after, hreturn, hfeed⟩

/-- Only the empty text has no line. -/
theorem lines_ne_nil {text : List Char} (h : text ≠ []) : lines text ≠ [] := by
  obtain ⟨c, rest, rfl⟩ := List.exists_cons_of_ne_nil h
  cases hc : isLineBreak c with
  | true =>
      obtain ⟨more, hmore⟩ := exists_lines_of_break hc rest
      rw [hmore]
      exact List.cons_ne_nil _ _
  | false =>
      rw [lines_cons_of_not_break hc]
      exact List.cons_ne_nil _ _

/-- A text without boundaries is the first line if a boundary follows, or nothing. -/
theorem exists_lines_append {line following : List Char} (hline : OneLine line) (hne : line ≠ [])
    (hfollowing : StartsLine following) : ∃ more, lines (line ++ following) = line :: more := by
  -- Without `hne` this would fail for a line and what follows both empty.
  have hstep : ∀ line, OneLine line → line ++ following ≠ [] →
      ∃ more, lines (line ++ following) = line :: more := by
    intro line hline hne
    induction line with
    | nil =>
        obtain ⟨c, rest, rfl⟩ := List.exists_cons_of_ne_nil hne
        exact exists_lines_of_break (hfollowing c rfl) rest
    | cons c line ih =>
        obtain ⟨hc, hline⟩ := oneLine_cons.1 hline
        rw [List.cons_append, lines_cons_of_not_break hc]
        by_cases hrest : line ++ following = []
        · obtain ⟨rfl, rfl⟩ := List.append_eq_nil_iff.1 hrest
          exact ⟨[], rfl⟩
        · obtain ⟨more, hmore⟩ := ih hline hrest
          rw [hmore]
          exact ⟨more, rfl⟩
  exact hstep line hline (List.append_ne_nil_of_left_ne_nil hne _)

/-- A text that ends with a boundary has its lines to itself. -/
theorem lines_append {text rest : List Char} (htext : EndsLine text)
    (hrest : rest.head? ≠ some '\n') : lines (text ++ rest) = lines text ++ lines rest := by
  have hends {c : Char} {text : List Char} (h : EndsLine (c :: text)) : EndsLine text := by
    intro d hd
    cases text with
    | nil => cases hd
    | cons e text => exact h d (by rwa [List.getLast?_cons_cons])
  fun_induction lines text with
  | case1 => rfl
  | case2 text ih =>
      rw [List.cons_append, List.cons_append, lines, ih (hends (hends htext)), List.cons_append]
  | case3 c text hpair hbreak ih =>
      have hsingle : ∀ after, c = '\r' → text ++ rest = '\n' :: after → False := by
        intro after hreturn hfeed
        cases text with
        | nil => exact hrest (by rw [← List.nil_append rest, hfeed]; rfl)
        | cons d text =>
            obtain ⟨rfl, rfl⟩ := List.cons.inj hfeed
            exact hpair text hreturn rfl
      rw [List.cons_append, lines.eq_3 c _ hsingle, if_pos hbreak, ih (hends htext),
        List.cons_append]
  | case4 c text _ hbreak hnone _ =>
      have hnil : text = [] := by_contra fun hne => lines_ne_nil hne hnone
      subst hnil
      exact absurd (htext c rfl) hbreak
  | case5 c text _ hbreak first more hlines ih =>
      have hc : isLineBreak c = false := Bool.eq_false_iff.2 hbreak
      rw [List.cons_append, lines_cons_of_not_break hc, ih (hends htext), hlines]
      rfl

/-- A line between a text that ends with a boundary and one that starts with one is found after the
lines of the first. -/
theorem exists_lines_between {before line after : List Char} (hbefore : EndsLine before)
    (hline : OneLine line) (hne : line ≠ []) (hafter : StartsLine after) :
    ∃ more, lines (before ++ line ++ after) = lines before ++ line :: more := by
  obtain ⟨more, hmore⟩ := exists_lines_append hline hne hafter
  obtain ⟨c, rest, rfl⟩ := List.exists_cons_of_ne_nil hne
  have hc : isLineBreak c = false := (oneLine_cons.1 hline).1
  refine ⟨more, ?_⟩
  rw [List.append_assoc, lines_append hbefore, hmore]
  rintro hfeed
  cases hfeed
  exact absurd hc (by decide)

/-! ## Blanks around parts -/

/-- More blanks around a text are stripped, too. -/
theorem Strips.pad {text core left right : List Char} (h : Strips text core) (hleft : Blanks left)
    (hright : Blanks right) : Strips (left ++ text ++ right) core := by
  obtain ⟨before, after, hbefore, hafter, rfl, hcore⟩ := h
  refine ⟨left ++ before, after ++ right, List.forall_mem_append.2 ⟨hleft, hbefore⟩,
    List.forall_mem_append.2 ⟨hafter, hright⟩, ?_, hcore⟩
  simp only [List.append_assoc]

/-- Blanks before a text do not matter when it is stripped. -/
theorem stripChars_blanks_append {blanks : List Char} (h : Blanks blanks) (text : List Char) :
    stripChars (blanks ++ text) = stripChars text := by
  have hpad := (stripChars_eq_iff.1 (rfl : stripChars text = _)).pad h (List.forall_mem_nil _)
  rw [List.append_nil] at hpad
  exact stripChars_eq_iff.2 hpad

/-- Nor do blanks behind it. -/
theorem stripChars_append_blanks {blanks : List Char} (h : Blanks blanks) (text : List Char) :
    stripChars (text ++ blanks) = stripChars text :=
  stripChars_eq_iff.2 ((stripChars_eq_iff.1 rfl).pad (List.forall_mem_nil _) h)

/-- A character that is no blank is not among blanks. -/
theorem Blanks.not_mem {blanks : List Char} (h : Blanks blanks) {c : Char}
    (hc : isBlank c = false) : c ∉ blanks := fun hmem => by
  rw [h c hmem] at hc
  cases hc

/-- A character that is no blank is in a text if it is in what remains of it. -/
theorem Strips.mem_iff {text core : List Char} (h : Strips text core) {c : Char}
    (hc : isBlank c = false) : c ∈ text ↔ c ∈ core := by
  obtain ⟨before, after, hbefore, hafter, rfl, _⟩ := h
  simp [hbefore.not_mem hc, hafter.not_mem hc]

/-- Texts are stripped one by one. -/
theorem map_stripChars_of_strips {texts cores : List (List Char)}
    (h : List.Forall₂ Strips texts cores) : texts.map stripChars = cores := by
  rw [← List.forall₂_eq_eq_eq, List.forall₂_map_left_iff]
  exact h.imp fun _ _ hstrips => stripChars_eq_iff.2 hstrips

/-- A character that is no blank is in none of the texts if it is in nothing that remains of
them. -/
theorem not_mem_of_strips {texts cores : List (List Char)} (h : List.Forall₂ Strips texts cores)
    {c : Char} (hc : isBlank c = false) (hcores : ∀ core ∈ cores, c ∉ core) {text : List Char}
    (htext : text ∈ texts) : c ∉ text := by
  have hmem : stripChars text ∈ cores := map_stripChars_of_strips h ▸ List.mem_map_of_mem htext
  have hstrips : Strips text (stripChars text) := stripChars_eq_iff.1 rfl
  rw [hstrips.mem_iff hc]
  exact hcores _ hmem

/-- A character that is in no part and does not divide them is not in the whole. -/
theorem not_mem_intercalate {divider c : Char} (hne : c ≠ divider) {parts : List (List Char)}
    (h : ∀ part ∈ parts, c ∉ part) : c ∉ [divider].intercalate parts := by
  induction parts with
  | nil => exact List.not_mem_nil
  | cons part rest ih =>
      obtain ⟨hpart, hrest⟩ := List.forall_mem_cons.1 h
      cases rest with
      | nil => rwa [List.intercalate_singleton]
      | cons next rest =>
          rw [List.intercalate_cons_cons]
          simp [hpart, hne, ih hrest]

/-- Blanks before a text do not matter for its parts once these are stripped. -/
theorem map_stripChars_splitOn_blanks_append {divider : Char} (hdivider : isBlank divider = false)
    {blanks : List Char} (h : Blanks blanks) (text : List Char) :
    ((blanks ++ text).splitOn divider).map stripChars =
      (text.splitOn divider).map stripChars := by
  have hnot := h.not_mem hdivider
  by_cases hmem : divider ∈ text
  · obtain ⟨first, rest, rfl, hfirst⟩ := List.eq_append_cons_of_mem hmem
    rw [← List.append_assoc, List.splitOn_append_cons_self_of_not_mem (by simp [hnot, hfirst]),
      List.splitOn_append_cons_self_of_not_mem hfirst, List.map_cons, List.map_cons,
      stripChars_blanks_append h]
  · rw [List.splitOn_eq_singleton (by simp [hnot, hmem]), List.splitOn_eq_singleton hmem,
      List.map_singleton, List.map_singleton, stripChars_blanks_append h]

/-- Nor do blanks behind it. -/
theorem map_stripChars_splitOn_append_blanks {divider : Char} (hdivider : isBlank divider = false)
    {blanks : List Char} (h : Blanks blanks) (text : List Char) :
    ((text ++ blanks).splitOn divider).map stripChars =
      (text.splitOn divider).map stripChars := by
  have hnot := h.not_mem hdivider
  have hlast {last : List Char} (hmem : divider ∉ last) :
      ((last ++ blanks).splitOn divider).map stripChars =
        (last.splitOn divider).map stripChars := by
    rw [List.splitOn_eq_singleton (by simp [hnot, hmem]), List.splitOn_eq_singleton hmem,
      List.map_singleton, List.map_singleton, stripChars_append_blanks h]
  by_cases hmem : divider ∈ text
  · -- The last part is the one behind the last divider.
    obtain ⟨last, front, hsplit, hfree⟩ := List.eq_append_cons_of_mem (List.mem_reverse.2 hmem)
    have htext : text = front.reverse ++ divider :: last.reverse := by
      rw [← List.reverse_reverse text, hsplit, List.reverse_append, List.reverse_cons,
        List.append_assoc, List.singleton_append]
    rw [htext, List.append_assoc, List.cons_append, List.splitOn_append_cons_self,
      List.splitOn_append_cons_self, List.map_append, List.map_append,
      hlast fun hmem => hfree (List.mem_reverse.1 hmem)]
  · exact hlast hmem

/-! ## Cutting a text -/

/-- The part of a text before a character is taken up to its first occurrence. -/
theorem takeWhile_ne_append {c : Char} {before rest : List Char} (hbefore : c ∉ before)
    (hrest : ∀ d, rest.head? = some d → d = c) :
    (before ++ rest).takeWhile (· != c) = before := by
  refine Statement.takeWhile_append_of_stops (fun d hd => ?_) fun d hd => ?_
  · exact bne_iff_ne.2 fun heq => hbefore (heq ▸ hd)
  · simp [hrest d hd]

/-- The part of a text before a character is dropped up to its first occurrence. -/
theorem dropWhile_ne_append {c : Char} {before rest : List Char} (hbefore : c ∉ before)
    (hrest : ∀ d, rest.head? = some d → d = c) :
    (before ++ rest).dropWhile (· != c) = rest := by
  refine Statement.dropWhile_append_of_stops (fun d hd => ?_) fun d hd => ?_
  · exact bne_iff_ne.2 fun heq => hbefore (heq ▸ hd)
  · simp [hrest d hd]

end Text

namespace Environment

open Text (Strips Blanks OneLine)

/-! ## Settings -/

/-- The line assigns a value to a key: behind the key and an equals sign stands the value, with
blanks around both, and the rest of the line is a comment. -/
inductive Assigns : List Char → List Char → List Char → Prop
  /-- A key, a value and perhaps a comment. -/
  | intro {before after comment key value : List Char} (hkey : Strips before key)
      (hequals : '=' ∉ before) (hvalue : Strips after value) (hmark : '#' ∉ before ++ '=' :: after)
      (hcomment : ∀ c, comment.head? = some c → c = '#') :
      Assigns (before ++ '=' :: after ++ comment) key value

/-- A line is cut at the first equals sign outside of a comment. -/
theorem setting?_eq_some_iff_cut {line key value : List Char} :
    setting? line = some (key, value) ↔
      ∃ before after, settingText line = before ++ '=' :: after ∧ '=' ∉ before ∧
        Text.stripChars before = key ∧ Text.stripChars after = value := by
  have hhead (rest : List Char) : ∀ c, ('=' :: rest).head? = some c → c = '=' := by
    intro c hc
    exact (Option.some.inj hc).symm
  unfold setting?
  dsimp only
  by_cases hmem : '=' ∈ settingText line
  · obtain ⟨before, after, htext, hbefore⟩ := List.eq_append_cons_of_mem hmem
    rw [htext, Text.dropWhile_ne_append hbefore (hhead after),
      Text.takeWhile_ne_append hbefore (hhead after)]
    constructor
    · intro h
      obtain ⟨rfl, rfl⟩ := Prod.mk.inj (Option.some.inj h)
      exact ⟨before, after, rfl, hbefore, rfl, rfl⟩
    · rintro ⟨before', after', hsame, hbefore', rfl, rfl⟩
      obtain ⟨rfl, rfl⟩ := Text.cut_unique hsame hbefore hbefore'
      rfl
  · have hnone : ∀ c ∈ settingText line, (c != '=') = true := by
      intro c hc
      rw [bne_iff_ne]
      rintro rfl
      exact hmem hc
    rw [List.dropWhile_eq_nil_iff.2 hnone]
    refine iff_of_false (by simp) ?_
    rintro ⟨before, after, htext, -⟩
    exact hmem (htext ▸ List.mem_append_right before List.mem_cons_self)

/-- A line is read as a setting if it assigns the value to the key. -/
theorem setting?_eq_some_iff {line key value : List Char} :
    setting? line = some (key, value) ↔ Assigns line key value := by
  have hstrips : Strips (line.takeWhile (· != '#')) (settingText line) :=
    Text.stripChars_eq_iff.1 rfl
  obtain ⟨left, right, hleft, hright, hsplit, -⟩ := hstrips
  have hsign : Text.isBlank '=' = false := by decide
  rw [setting?_eq_some_iff_cut]
  constructor
  · rintro ⟨before, after, htext, hbefore, rfl, rfl⟩
    rw [htext, ← List.append_assoc, List.append_assoc, List.cons_append] at hsplit
    rw [← List.takeWhile_append_dropWhile (p := (· != '#')) (l := line), hsplit]
    refine .intro ?_ ?_ ?_ ?_ fun c hc => ?_
    · exact Text.stripChars_eq_iff.1 (Text.stripChars_blanks_append hleft before)
    · simp [hbefore, hleft.not_mem hsign]
    · exact Text.stripChars_eq_iff.1 (Text.stripChars_append_blanks hright after)
    · rw [← hsplit]
      intro hmem
      simpa using List.mem_takeWhile_imp hmem
    · simpa using Statement.stops_dropWhile (· != '#') line c hc
  · intro h
    cases h with
    | @intro before after comment _ _ hkey hequals hvalue hmark hcomment =>
        rw [Text.takeWhile_ne_append hmark hcomment] at hsplit
        have hmem : '=' ∈ left ++ settingText (before ++ '=' :: after ++ comment) ++ right := by
          rw [← hsplit]
          exact List.mem_append_right before List.mem_cons_self
        rw [List.mem_append, List.mem_append, or_iff_left (hright.not_mem hsign),
          or_iff_right (hleft.not_mem hsign)] at hmem
        obtain ⟨before', after', htext, hbefore'⟩ := List.eq_append_cons_of_mem hmem
        rw [htext, ← List.append_assoc, List.append_assoc, List.cons_append] at hsplit
        obtain ⟨rfl, rfl⟩ := Text.cut_unique hsplit hequals
          (by simp [hbefore', hleft.not_mem hsign])
        refine ⟨before', after', htext, hbefore', ?_, ?_⟩
        · rw [← Text.stripChars_blanks_append hleft]
          exact Text.stripChars_eq_iff.2 hkey
        · rw [← Text.stripChars_append_blanks hright]
          exact Text.stripChars_eq_iff.2 hvalue

/-- The modulepath is what the first line assigns that assigns anything to it. -/
theorem modulepathIn_of_assigns {before after : List (List Char)} {line value : List Char}
    (hbefore : ∀ other ∈ before, ∀ value, ¬ Assigns other "modulepath".toList value)
    (hline : Assigns line "modulepath".toList value) :
    modulepathIn (before ++ line :: after) = entries value := by
  induction before with
  | nil =>
      rw [List.nil_append, modulepathIn, setting?_eq_some_iff.2 hline]
      exact if_pos rfl
  | cons other rest ih =>
      obtain ⟨hother, hrest⟩ := List.forall_mem_cons.1 hbefore
      rw [List.cons_append, modulepathIn]
      split
      · next name value' hsetting =>
          have hname : name ≠ "modulepath".toList := by
            rintro rfl
            exact hother value' (setting?_eq_some_iff.1 hsetting)
          rw [if_neg hname, ih hrest]
      · exact ih hrest

/-- If there is a modulepath, then it is the value that a line assigns to it. -/
theorem exists_of_mem_modulepathIn {lines : List (List Char)} {entry : List Char}
    (h : entry ∈ modulepathIn lines) :
    ∃ line ∈ lines, ∃ value, Assigns line "modulepath".toList value ∧ entry ∈ entries value := by
  induction lines with
  | nil => cases h
  | cons line rest ih =>
      have hrest (h : entry ∈ modulepathIn rest) : ∃ other ∈ line :: rest, ∃ value,
          Assigns other "modulepath".toList value ∧ entry ∈ entries value := by
        obtain ⟨other, hother, hassigns⟩ := ih h
        exact ⟨other, List.mem_cons_of_mem line hother, hassigns⟩
      rw [modulepathIn] at h
      split at h
      · next name value hsetting =>
          split at h
          · next hname =>
              subst hname
              exact ⟨line, List.mem_cons_self, value, setting?_eq_some_iff.1 hsetting, h⟩
          · exact hrest h
      · exact hrest h

/-! ## Entries -/

/-- A directory in a modulepath, as it is written: something on one line that has no blank at its
ends, and neither a colon nor a number sign in it. -/
structure IsEntry (entry : List Char) : Prop where
  /-- There is something, without a blank at its ends. -/
  tight : Text.Tight entry
  /-- It has no colon in it. -/
  colon_not_mem : ':' ∉ entry
  /-- It has no number sign in it. -/
  mark_not_mem : '#' ∉ entry
  /-- It stands on one line. -/
  oneLine : OneLine entry

/-- The value and its entries: there is a colon between two of them, and there may be blanks around
each. -/
inductive EntriesForm : List Char → List (List Char) → Prop
  /-- No entry. -/
  | none {value : List Char} (h : Blanks value) : EntriesForm value []
  /-- Some entries. -/
  | some {pieces entries : List (List Char)} (hne : entries ≠ [])
      (h : List.Forall₂ Strips pieces entries) : EntriesForm ([':'].intercalate pieces) entries

/-- An entry refers to another setting if it starts with a dollar sign. -/
def IsReference (entry : List Char) : Prop :=
  entry.head? = some '$'

instance : DecidablePred IsReference := fun entry =>
  inferInstanceAs (Decidable (entry.head? = some '$'))

/-- An entry that says something names a directory if it does not refer to another setting. -/
theorem isDirectoryEntry_iff {entry : List Char} :
    isDirectoryEntry entry = true ↔ entry ≠ [] ∧ ¬ IsReference entry := by
  cases entry <;> simp [isDirectoryEntry, IsReference]

/-- Blanks around a value do not matter for its entries. -/
theorem entries_of_strips {value core : List Char} (h : Strips value core) :
    entries core = entries value := by
  have hcolon : Text.isBlank ':' = false := by decide
  obtain ⟨before, after, hbefore, hafter, rfl, -⟩ := h
  unfold entries
  rw [List.append_assoc, Text.map_stripChars_splitOn_blanks_append hcolon hbefore,
    Text.map_stripChars_splitOn_append_blanks hcolon hafter]

/-- Written entries are read as they are, but for those that refer to other settings. -/
theorem EntriesForm.entries_eq {value : List Char} {list : List (List Char)}
    (h : EntriesForm value list) (hentries : ∀ entry ∈ list, IsEntry entry) :
    entries value = list.filter fun entry => ¬ IsReference entry := by
  have hcolon : Text.isBlank ':' = false := by decide
  cases h with
  | none hblanks =>
      have hempty : Text.stripChars value = [] := by
        have hpad := Text.stripChars_blanks_append hblanks []
        rwa [List.append_nil] at hpad
      unfold entries
      rw [List.splitOn_eq_singleton (hblanks.not_mem hcolon), List.map_singleton, hempty]
      rfl
  | @some pieces _ hne hpieces =>
      have hsome : pieces ≠ [] := by
        rintro rfl
        exact hne (List.forall₂_nil_left_iff.1 hpieces)
      have hfree : ∀ piece ∈ pieces, ':' ∉ piece := fun piece hpiece =>
        Text.not_mem_of_strips hpieces hcolon
          (fun entry hentry => (hentries entry hentry).colon_not_mem) hpiece
      unfold entries
      rw [List.splitOn_intercalate ':' hfree hsome, Text.map_stripChars_of_strips hpieces]
      refine List.filter_congr fun entry hentry => ?_
      rw [Bool.eq_iff_iff, isDirectoryEntry_iff, decide_eq_true_iff]
      exact and_iff_right (hentries entry hentry).tight.ne_nil

/-- Whatever is read from the value of a line is an entry that does not refer to another
setting. -/
theorem isEntry_of_mem_entries {line key value entry : List Char} (hline : OneLine line)
    (hassigns : Assigns line key value) (h : entry ∈ entries value) :
    IsEntry entry ∧ ¬ IsReference entry := by
  obtain ⟨hmem, hdirectory⟩ := List.mem_filter.1 h
  obtain ⟨hne, hreference⟩ := isDirectoryEntry_iff.1 hdirectory
  obtain ⟨piece, hpiece, rfl⟩ := List.mem_map.1 hmem
  have hpart {text core : List Char} (hstrips : Strips text core) {c : Char} (hc : c ∈ core) :
      c ∈ text := by
    obtain ⟨before, after, -, -, rfl, -⟩ := hstrips
    exact List.mem_append_left _ (List.mem_append_right _ hc)
  have hstrips : Strips piece (Text.stripChars piece) := Text.stripChars_eq_iff.1 rfl
  cases hassigns with
  | @intro before after comment _ _ hkey hequals hvalue hmark hcomment =>
      have hafter (c : Char) (hc : c ∈ Text.stripChars piece) : c ∈ after :=
        hpart hvalue (Text.mem_of_mem_splitOn hpiece (hpart hstrips hc)).1
      refine ⟨⟨(Text.stripChars_eq_nil_or_tight piece).resolve_left hne, fun hcolon => ?_,
        fun hmem => hmark ?_, fun c hc => hline c ?_⟩, hreference⟩
      · exact Text.not_mem_of_mem_splitOn hpiece (hpart hstrips hcolon)
      · exact List.mem_append_right before (List.mem_cons_of_mem '=' (hafter _ hmem))
      · exact List.mem_append_left comment
          (List.mem_append_right before (List.mem_cons_of_mem '=' (hafter c hc)))

/-! ## Texts with a modulepath -/

/-- The text and the entries of its modulepath. No line before assigns anything to it. -/
inductive ModulepathForm : List Char → List (List Char) → Prop
  /-- Lines, the setting of the modulepath, and more lines. -/
  | intro {preceding key value comment following : List Char} {entries : List (List Char)}
      (hpreceding : Text.EndsLine preceding)
      (hunset : ∀ line ∈ Text.lines preceding, ∀ value,
        ¬ Assigns line "modulepath".toList value)
      (hkey : Strips key "modulepath".toList) (hvalue : EntriesForm value entries)
      (hentries : ∀ entry ∈ entries, IsEntry entry)
      (hcomment : ∀ c, comment.head? = some c → c = '#')
      (hline : OneLine (key ++ '=' :: value ++ comment))
      (hfollowing : Text.StartsLine following) :
      ModulepathForm (preceding ++ (key ++ '=' :: value ++ comment) ++ following) entries

/-- The value of a modulepath has no number sign in it. -/
theorem EntriesForm.mark_not_mem {value : List Char} {entries : List (List Char)}
    (h : EntriesForm value entries) (hentries : ∀ entry ∈ entries, IsEntry entry) :
    '#' ∉ value := by
  have hmark : Text.isBlank '#' = false := by decide
  cases h with
  | none hblanks => exact hblanks.not_mem hmark
  | @some pieces _ hne hpieces =>
      exact Text.not_mem_intercalate (by decide) fun piece hpiece =>
        Text.not_mem_of_strips hpieces hmark
          (fun entry hentry => (hentries entry hentry).mark_not_mem) hpiece

/-- The setting of a modulepath is read as its entries. -/
theorem ModulepathForm.modulepathIn_eq {text : List Char} {list : List (List Char)}
    (h : ModulepathForm text list) :
    modulepathIn (Text.lines text) = list.filter fun entry => ¬ IsReference entry := by
  cases h with
  | @intro preceding key value comment following _ hpreceding hunset hkey hvalue hentries hcomment
      hline hfollowing =>
      have hequals : '=' ∉ key := by
        rw [hkey.mem_iff (by decide)]
        decide
      have hmark : '#' ∉ key ++ '=' :: value := by
        rw [List.mem_append, List.mem_cons, hkey.mem_iff (by decide)]
        rintro (hmem | hmem | hmem)
        · exact absurd hmem (by decide)
        · exact absurd hmem (by decide)
        · exact hvalue.mark_not_mem hentries hmem
      have hstrips : Strips value (Text.stripChars value) := Text.stripChars_eq_iff.1 rfl
      obtain ⟨more, hmore⟩ := Text.exists_lines_between hpreceding hline
        (List.append_ne_nil_of_left_ne_nil (List.append_ne_nil_of_right_ne_nil key
          (List.cons_ne_nil '=' value)) comment) hfollowing
      rw [hmore, modulepathIn_of_assigns hunset (.intro hkey hequals hstrips hmark hcomment),
        entries_of_strips hstrips, hvalue.entries_eq hentries]

/-- An `environment.conf` is read as the entries of its modulepath. -/
theorem readModulepath_reads_entries {files : FileSystem} {conf : Path} {bytes : ByteArray}
    {text : String} (hread : files.readBytes conf = .ok bytes)
    (htext : Text.decode? bytes = some text) :
    ∃ found, readModulepath files conf = .ok found ∧
      (∀ entries, ModulepathForm text.toList entries →
        found = (entries.filter fun entry => ¬ IsReference entry).map String.ofList) ∧
      ∀ entry ∈ found, IsEntry entry.toList ∧ ¬ IsReference entry.toList := by
  refine ⟨(modulepathIn (Text.lines text.toList)).map String.ofList, ?_, fun entries h => ?_,
    fun entry h => ?_⟩
  · have hunified : files.readText conf =
        .ok (String.ofList (Text.unifyNewlines text.toList)) := by
      unfold FileSystem.readText
      rw [hread]
      show FileSystem.decodeText bytes = _
      unfold FileSystem.decodeText
      rw [htext]
    unfold readModulepath
    rw [hunified]
    show Except.ok (modulepath _) = _
    unfold modulepath
    rw [String.toList_ofList, Text.lines_unifyNewlines]
  · rw [h.modulepathIn_eq]
  · obtain ⟨chars, hchars, rfl⟩ := List.mem_map.1 h
    obtain ⟨line, hline, value, hassigns, hvalue⟩ := exists_of_mem_modulepathIn hchars
    rw [String.toList_ofList]
    exact isEntry_of_mem_entries (Text.oneLine_of_mem_lines hline) hassigns hvalue

/-- Settings with a modulepath in the second line. -/
def confText : String :=
  "# modulepath = old\n modulepath =site:  my modules :$basemodulepath : site # here\n" ++
    "modulepath = late\n"

/-- A control repository with these settings. -/
def confFiles : FileSystem where
  root := .directory [("environment.conf", .file confText.toUTF8)]

/-- The comment before the modulepath and the setting behind it are not read. -/
theorem readModulepath_confFiles :
    confFiles.readBytes (.ofText "/environment.conf") = .ok confText.toUTF8 ∧
      Text.decode? confText.toUTF8 = some confText ∧
      ∃ entries, ModulepathForm confText.toList entries ∧
        readModulepath confFiles (.ofText "/environment.conf") =
          .ok ["site", "my modules", "site"] := by
  have hdecode : Text.decode? confText.toUTF8 = some confText := by decide +kernel
  have htext : confText.toList = "# modulepath = old\n".toList ++
        (" modulepath ".toList ++ '=' :: [':'].intercalate ["site".toList, "  my modules ".toList,
          "$basemodulepath ".toList, " site ".toList] ++ "# here".toList) ++
        "\nmodulepath = late\n".toList := by decide +kernel
  have hunset : ∀ line ∈ Text.lines "# modulepath = old\n".toList,
      (setting? line).map Prod.fst ≠ some "modulepath".toList := by decide
  have hlast : "# modulepath = old\n".toList.getLast? = some '\n' := by decide
  have hline : OneLine (" modulepath ".toList ++ '=' :: [':'].intercalate ["site".toList,
      "  my modules ".toList, "$basemodulepath ".toList, " site ".toList] ++ "# here".toList) := by
    decide +kernel
  have hentry : ∀ entry ∈ ["site", "my modules", "$basemodulepath", "site"].map String.toList,
      Text.stripChars entry = entry ∧ entry ≠ [] ∧ ':' ∉ entry ∧ '#' ∉ entry ∧ OneLine entry := by
    decide
  have hpiece {piece core : List Char} (h : Text.stripChars piece = core) : Strips piece core :=
    Text.stripChars_eq_iff.1 h
  have hform : ModulepathForm confText.toList
      (["site", "my modules", "$basemodulepath", "site"].map String.toList) := by
    rw [htext]
    refine .intro (fun c hc => ?_) (fun line hline value hassigns => ?_)
      (hpiece (by decide)) (.some (List.cons_ne_nil _ _) ?_)
      (fun entry h => ?_) (fun c hc => (Option.some.inj hc).symm) hline fun c hc => ?_
    · rw [hlast] at hc
      exact Option.some.inj hc ▸ rfl
    · refine hunset line hline ?_
      rw [setting?_eq_some_iff.2 hassigns]
      rfl
    · exact .cons (hpiece (by decide)) (.cons (hpiece (by decide))
        (.cons (hpiece (by decide)) (.cons (hpiece (by decide)) .nil)))
    · obtain ⟨hstrip, hne, hcolon, hmark, hline⟩ := hentry entry h
      have htight := Text.stripChars_eq_nil_or_tight entry
      rw [hstrip] at htight
      exact ⟨htight.resolve_left hne, hcolon, hmark, hline⟩
    · exact Option.some.inj hc ▸ rfl
  obtain ⟨found, hfound, hentries, -⟩ :=
    readModulepath_reads_entries (rfl : confFiles.readBytes (.ofText "/environment.conf") = _)
      hdecode
  refine ⟨rfl, hdecode, _, hform, ?_⟩
  rw [hfound, hentries _ hform]
  exact congrArg Except.ok (by decide)

end Environment

end ModuleGraph
