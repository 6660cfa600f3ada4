import Mathlib.Data.List.Basic
import ModuleGraph.Text.Blank

/-!
# Lines and blanks

`lines_flatMap` cuts a text into the lines it was put together from, each of them ended by a line
feed. A text is `Tight` if it neither starts nor ends with a blank; stripping leaves such a text as
it is (`Tight.stripChars_eq`).
-/

namespace ModuleGraph.Text

/-! ## Lines -/

/-- The text is free of line boundaries. -/
def OneLine (text : List Char) : Prop :=
  ∀ c ∈ text, isLineBreak c = false

instance (text : List Char) : Decidable (OneLine text) :=
  List.decidableBAll (fun c => isLineBreak c = false) text

/-- One text after another is free of line boundaries if both are. -/
@[simp] theorem oneLine_append {first second : List Char} :
    OneLine (first ++ second) ↔ OneLine first ∧ OneLine second :=
  List.forall_mem_append

/-- A text is free of line boundaries if its first character is none and the rest is free of
them. -/
@[simp] theorem oneLine_cons {c : Char} {rest : List Char} :
    OneLine (c :: rest) ↔ isLineBreak c = false ∧ OneLine rest :=
  List.forall_mem_cons

/-- The first line of a text ends at the first line feed. -/
theorem lines_append_lineFeed {line : List Char} (h : OneLine line) (rest : List Char) :
    lines (line ++ '\n' :: rest) = line :: lines rest := by
  induction line with
  | nil =>
      have hbreak : isLineBreak '\n' = true := by decide
      rw [List.nil_append, lines, if_pos hbreak]
      intro _ heq
      exact absurd heq (by decide)
  | cons c line ih =>
      obtain ⟨hc, hline⟩ := oneLine_cons.1 h
      rw [List.cons_append, lines, hc, ih hline]
      · rfl
      -- A carriage return would be a boundary itself.
      · intro _ heq
        rw [heq] at hc
        exact absurd hc (by decide)

/-- A text of lines that each end with a line feed has these lines. -/
theorem lines_flatMap {α : Type} (list : List α) {write : α → List Char}
    (h : ∀ entry ∈ list, OneLine (write entry)) :
    lines (list.flatMap fun entry => write entry ++ ['\n']) = list.map write := by
  induction list with
  | nil => rfl
  | cons entry rest ih =>
      have hrest := ih fun other hother => h other (List.mem_cons_of_mem entry hother)
      rw [List.flatMap_cons, List.append_assoc, List.singleton_append,
        lines_append_lineFeed (h entry List.mem_cons_self), hrest, List.map_cons]

/-- A text of lines that each end with a line feed has as many line feeds. -/
theorem count_lineFeed_flatMap {α : Type} (list : List α) {write : α → List Char}
    (h : ∀ entry ∈ list, OneLine (write entry)) :
    (list.flatMap fun entry => write entry ++ ['\n']).count '\n' = list.length := by
  induction list with
  | nil => rfl
  | cons entry rest ih =>
      have hrest := ih fun other hother => h other (List.mem_cons_of_mem entry hother)
      have hnone : (write entry).count '\n' = 0 := by
        rw [List.count_eq_zero]
        intro hmem
        exact absurd (h entry List.mem_cons_self '\n' hmem) (by decide)
      rw [List.flatMap_cons, List.count_append, List.count_append, hnone, hrest, List.length_cons]
      show 0 + 1 + rest.length = rest.length + 1
      omega

/-! ## Blanks at the ends -/

/-- A printable ASCII character other than the space is no blank. -/
theorem isBlank_of_visible {c : Char} (hlow : 33 ≤ c.toNat) (hhigh : c.toNat ≤ 126) :
    isBlank c = false := by
  simp only [isBlank, Bool.or_eq_false_iff, Bool.and_eq_false_iff, decide_eq_false_iff_not,
    beq_eq_false_iff_ne]
  omega

/-- A space is a row of blanks. -/
theorem isBlank_of_mem_space : ∀ c ∈ [' '], isBlank c = true :=
  List.forall_mem_singleton.2 (by decide)

/-- A line boundary is a blank. -/
theorem isLineBreak_of_not_isBlank {c : Char} (h : isBlank c = false) : isLineBreak c = false := by
  simp only [isBlank, isLineBreak, Bool.or_eq_false_iff, Bool.and_eq_false_iff,
    decide_eq_false_iff_not, beq_eq_false_iff_ne] at h ⊢
  omega

/-- The text neither starts nor ends with a blank, and it is not empty. -/
structure Tight (text : List Char) : Prop where
  /-- There is a first character, which is no blank. -/
  first : ∃ c, text.head? = some c ∧ isBlank c = false
  /-- There is a last character, which is no blank. -/
  last : ∃ c, text.getLast? = some c ∧ isBlank c = false

/-- Something remains of a tight text. -/
theorem Tight.ne_nil {text : List Char} (h : Tight text) : text ≠ [] := by
  intro heq
  obtain ⟨c, hc, _⟩ := h.first
  rw [heq] at hc
  cases hc

/-- What stands between two tight texts does not matter. -/
theorem Tight.append {first second : List Char} (hfirst : Tight first) (hsecond : Tight second)
    (between : List Char) : Tight (first ++ between ++ second) := by
  obtain ⟨a, ha, hablank⟩ := hfirst.first
  obtain ⟨b, hb, hbblank⟩ := hsecond.last
  refine ⟨⟨a, ?_, hablank⟩, ⟨b, ?_, hbblank⟩⟩
  · rw [List.append_assoc, List.head?_append, ha, Option.some_or]
  · rw [List.getLast?_append, hb, Option.some_or]

/-- A text without blanks is tight. -/
theorem tight_of_forall {text : List Char} (hne : text ≠ [])
    (h : ∀ c ∈ text, isBlank c = false) : Tight text :=
  ⟨⟨text.head hne, List.head?_eq_some_head hne, h _ (List.head_mem hne)⟩,
    ⟨text.getLast hne, List.getLast?_eq_some_getLast hne, h _ (List.getLast_mem hne)⟩⟩

/-- Nothing is dropped from a text whose first character is no blank. -/
theorem dropWhile_isBlank_eq_self {text : List Char} {c : Char} (hhead : text.head? = some c)
    (hblank : isBlank c = false) : text.dropWhile isBlank = text := by
  cases text with
  | nil => cases hhead
  | cons d rest =>
      cases hhead
      exact List.dropWhile_cons_of_neg (by simp [hblank])

/-- Blanks before a tight text are stripped, and nothing else. -/
theorem Tight.stripChars_eq {text : List Char} (h : Tight text) {blanks : List Char}
    (hblanks : ∀ c ∈ blanks, isBlank c = true) : stripChars (blanks ++ text) = text := by
  obtain ⟨a, ha, hablank⟩ := h.first
  obtain ⟨b, hb, hbblank⟩ := h.last
  unfold stripChars stripRight
  rw [List.dropWhile_append_of_pos hblanks, dropWhile_isBlank_eq_self ha hablank,
    dropWhile_isBlank_eq_self (List.head?_reverse.trans hb) hbblank, List.reverse_reverse]

/-! ## Texts with separators -/

/-- A text put together from lines is free of line boundaries if its separator is. -/
theorem oneLine_intercalate {separator : List Char} (hseparator : OneLine separator)
    {parts : List (List Char)} (h : ∀ part ∈ parts, OneLine part) :
    OneLine (separator.intercalate parts) := by
  induction parts with
  | nil =>
      intro c hc
      cases hc
  | cons part rest ih =>
      have hpart := h part List.mem_cons_self
      have hrest := ih fun other hother => h other (List.mem_cons_of_mem part hother)
      cases rest with
      | nil => rwa [List.intercalate_singleton]
      | cons next rest =>
          rw [List.intercalate_cons_cons, oneLine_append, oneLine_append]
          exact ⟨⟨hpart, hseparator⟩, hrest⟩

/-- A text put together from tight texts is tight. -/
theorem tight_intercalate {separator : List Char} {parts : List (List Char)} (hne : parts ≠ [])
    (h : ∀ part ∈ parts, Tight part) : Tight (separator.intercalate parts) := by
  induction parts with
  | nil => exact absurd rfl hne
  | cons part rest ih =>
      have hpart := h part List.mem_cons_self
      cases rest with
      | nil => rwa [List.intercalate_singleton]
      | cons next rest =>
          have hrest := ih (List.cons_ne_nil next rest) fun other hother =>
            h other (List.mem_cons_of_mem part hother)
          rw [List.intercalate_cons_cons]
          exact hpart.append hrest separator

/-- A text put together from texts starts with the first of them. -/
theorem exists_append_eq_intercalate (separator part : List Char) (rest : List (List Char)) :
    ∃ tail, separator.intercalate (part :: rest) = part ++ tail := by
  cases rest with
  | nil => exact ⟨[], by rw [List.intercalate_singleton, List.append_nil]⟩
  | cons next rest => exact ⟨_, by rw [List.intercalate_cons_cons, List.append_assoc]⟩

/-- A text has at least one character for each tight text it is put together from. -/
theorem length_le_length_intercalate {separator : List Char} {parts : List (List Char)}
    (h : ∀ part ∈ parts, Tight part) : parts.length ≤ (separator.intercalate parts).length := by
  induction parts with
  | nil => exact Nat.zero_le _
  | cons part rest ih =>
      have hpart := List.length_pos_of_ne_nil (h part List.mem_cons_self).ne_nil
      have hrest := ih fun other hother => h other (List.mem_cons_of_mem part hother)
      cases rest with
      | nil =>
          rw [List.intercalate_singleton]
          exact hpart
      | cons next rest =>
          rw [List.intercalate_cons_cons, List.length_append, List.length_append, List.length_cons]
          omega

/-- The parts into which a text is divided have characters of the text in them, and not the
divider. -/
theorem mem_of_mem_splitOn {divider c : Char} {text part : List Char}
    (h : part ∈ text.splitOn divider) (hc : c ∈ part) : c ∈ text ∧ c ≠ divider := by
  induction text generalizing part with
  | nil =>
      rw [List.splitOn_nil, List.mem_singleton] at h
      rw [h] at hc
      cases hc
  | cons d rest ih =>
      have hrest {part : List Char} (h : part ∈ rest.splitOn divider) (hc : c ∈ part) :
          c ∈ d :: rest ∧ c ≠ divider :=
        ⟨List.mem_cons_of_mem d (ih h hc).1, (ih h hc).2⟩
      rw [List.splitOn_cons_eq_if_modifyHead] at h
      split at h
      · rcases List.mem_cons.1 h with rfl | hother
        · cases hc
        · exact hrest hother hc
      · next hd =>
          -- The first character goes to the first part of the rest.
          obtain ⟨first, others, hparts⟩ := List.exists_cons_of_ne_nil
            (List.splitOn_ne_nil divider rest)
          rw [hparts, List.modifyHead_cons] at h
          rcases List.mem_cons.1 h with rfl | hother
          · rcases List.mem_cons.1 hc with rfl | hfirst
            · exact ⟨List.mem_cons_self, fun heq => hd (beq_iff_eq.2 heq)⟩
            · exact hrest (hparts ▸ List.mem_cons_self) hfirst
          · exact hrest (hparts ▸ List.mem_cons_of_mem _ hother) hc

/-- The parts into which a text is divided do not have the divider in them. -/
theorem not_mem_of_mem_splitOn {divider : Char} {text part : List Char}
    (h : part ∈ text.splitOn divider) : divider ∉ part :=
  fun hmem => (mem_of_mem_splitOn h hmem).2 rfl

/-- A text is cut at the first occurrence of a character in one way only. -/
theorem cut_unique {c : Char} {before before' after after' : List Char}
    (h : before ++ c :: after = before' ++ c :: after') (hbefore : c ∉ before)
    (hbefore' : c ∉ before') : before = before' ∧ after = after' := by
  have hsplit := congrArg (List.splitOn c) h
  rw [List.splitOn_append_cons_self_of_not_mem hbefore,
    List.splitOn_append_cons_self_of_not_mem hbefore'] at hsplit
  obtain ⟨rfl, -⟩ := List.cons.inj hsplit
  exact ⟨rfl, (List.cons.inj (List.append_cancel_left h)).2⟩

end ModuleGraph.Text
