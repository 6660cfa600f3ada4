import Mathlib
import ModuleGraph.Warning.Statement
import ModuleGraph.Proofs.Lines
import ModuleGraph.Proofs.Tables

/-!
# Reading the arguments of a statement

The arguments of a statement are written as names and values with separators between them.
`readArguments_written` reads them back, whatever characters the values have. One argument is read
at a time (`readArguments_step`), and reading a quoted value undoes the escapes of one character at
a time (`readQuoted_escapeQuote`).
-/

namespace ModuleGraph.Statement

/-! ## Words -/

/-- The text is a nonempty row of characters of one class. -/
structure Word (belongs : Char → Bool) (text : List Char) : Prop where
  /-- There is a character. -/
  ne_nil : text ≠ []
  /-- All characters are of the class. -/
  all : ∀ c ∈ text, belongs c = true

/-- A text can be checked to be such a row. -/
theorem Word.of_all {belongs : Char → Bool} {text : List Char} (hne : text.isEmpty = false)
    (h : text.all belongs = true) : Word belongs text where
  ne_nil := by
    intro heq
    rw [heq] at hne
    cases hne
  all := List.all_eq_true.1 h

/-- A text that starts with such a row starts with a character of the class. -/
theorem Word.head {belongs : Char → Bool} {word rest : List Char} (h : Word belongs word) {c : Char}
    (hc : (word ++ rest).head? = some c) : belongs c = true := by
  rw [List.head?_append_of_ne_nil _ h.ne_nil] at hc
  exact h.all c (List.mem_of_mem_head? hc)

/-- The text does not go on with a character of the class. -/
def Stops (belongs : Char → Bool) (text : List Char) : Prop :=
  ∀ c, text.head? = some c → belongs c = false

/-- A row of characters of a class is taken up to its end. -/
theorem takeWhile_append_of_stops {belongs : Char → Bool} {word rest : List Char}
    (hword : ∀ c ∈ word, belongs c = true) (hrest : Stops belongs rest) :
    (word ++ rest).takeWhile belongs = word := by
  rw [List.takeWhile_append_of_pos hword]
  cases rest with
  | nil => rw [List.takeWhile_nil, List.append_nil]
  | cons c rest =>
      have hc : belongs c = false := hrest c rfl
      rw [List.takeWhile_cons_of_neg (by simp [hc]), List.append_nil]

/-- Dropping a row of characters of a class leaves what follows. -/
theorem dropWhile_append_of_stops {belongs : Char → Bool} {word rest : List Char}
    (hword : ∀ c ∈ word, belongs c = true) (hrest : Stops belongs rest) :
    (word ++ rest).dropWhile belongs = rest := by
  rw [List.dropWhile_append_of_pos hword]
  cases rest with
  | nil => rfl
  | cons c rest =>
      have hc : belongs c = false := hrest c rfl
      exact List.dropWhile_cons_of_neg (by simp [hc])

/-- A character of a name or a keyword is no blank. -/
theorem isBlank_of_isKeywordChar {c : Char} (h : isKeywordChar c = true) :
    Text.isBlank c = false := by
  unfold isKeywordChar at h
  simp only [Bool.or_eq_true, Bool.and_eq_true, decide_eq_true_eq, beq_iff_eq] at h
  rcases h with ⟨hlow, hhigh⟩ | hscore
  · have hlower : 97 ≤ c.toNat := hlow
    have hupper : c.toNat ≤ 122 := hhigh
    exact Text.isBlank_of_visible (by omega) (by omega)
  · subst hscore
    decide

/-- A character of a symbol is no blank. -/
theorem isBlank_of_isSymbolChar {c : Char} (h : isSymbolChar c = true) :
    Text.isBlank c = false := by
  have hrange : 45 ≤ c.toNat ∧ c.toNat ≤ 122 := by
    unfold isSymbolChar at h
    simp only [Bool.or_eq_true, beq_iff_eq] at h
    rcases h with ((((halnum | rfl) | rfl) | rfl) | rfl) | rfl
    · simp only [Char.isAlphanum, Char.isAlpha, Char.isUpper, Char.isLower, Char.isDigit,
        Bool.or_eq_true, Bool.and_eq_true, decide_eq_true_eq, ge_iff_le, UInt32.le_iff_toNat_le]
        at halnum
      simp only [Char.reduceVal, UInt32.reduceToNat] at halnum
      show 45 ≤ c.val.toNat ∧ c.val.toNat ≤ 122
      omega
    all_goals decide
  exact Text.isBlank_of_visible (by omega) (by omega)

/-! ## Values -/

/-- Reading an escaped character of a quoted text gives back the character. -/
theorem readQuoted_escapeQuote (c : Char) (rest : List Char) :
    readQuoted '\x27' (escapeQuote c ++ rest) =
      (readQuoted '\x27' rest).map fun (text, after) => (c :: text, after) := by
  unfold escapeQuote
  by_cases hslash : c = '\\'
  · subst hslash
    rfl
  · by_cases hmark : c = '\x27'
    · subst hmark
      rfl
    · rw [if_neg (by simp [hslash, hmark]), List.singleton_append, readQuoted, if_neg hmark,
        if_neg hslash]
      intro _ _ heq
      exact absurd heq hslash

/-- Reading a quoted text gives back the text. -/
theorem readQuoted_written (text after : List Char) :
    readQuoted '\x27' (text.flatMap escapeQuote ++ '\x27' :: after) = some (text, after) := by
  induction text with
  | nil => rfl
  | cons c text ih =>
      rw [List.flatMap_cons, List.append_assoc, readQuoted_escapeQuote, ih]
      rfl

/-- The characters of a written value. -/
theorem toList_renderValue (symbol : Bool) (value : String) :
    (renderValue symbol value).toList =
      if symbol then ':' :: value.toList
      else '\x27' :: value.toList.flatMap escapeQuote ++ ['\x27'] := by
  unfold renderValue
  split
  · exact String.toList_append
  · exact String.toList_ofList

/-- A written value starts with a mark that is no blank. -/
theorem stops_renderValue (symbol : Bool) (value : String) (after : List Char) :
    Stops Text.isBlank ((renderValue symbol value).toList ++ after) := by
  rw [toList_renderValue]
  intro c hc
  cases symbol with
  | true =>
      cases hc
      decide
  | false =>
      cases hc
      decide

/-- Reading a written value gives back the value, if what follows does not belong to it. -/
theorem readArgumentValue_written {symbol : Bool} {value : String} {after : List Char}
    (hvalue : symbol = true → Word isSymbolChar value.toList) (hafter : Stops isSymbolChar after) :
    readArgumentValue ((renderValue symbol value).toList ++ after) =
      some (value.toList, after) := by
  rw [toList_renderValue]
  cases symbol with
  | true =>
      obtain ⟨hne, hall⟩ := hvalue rfl
      rw [if_pos rfl, List.cons_append, readArgumentValue, takeWhile_append_of_stops hall hafter,
        dropWhile_append_of_stops hall hafter]
      split
      · next heq => exact absurd heq hne
      · rfl
  | false =>
      rw [if_neg Bool.false_ne_true, List.cons_append, List.cons_append, List.append_assoc,
        List.singleton_append, readArgumentValue]
      exact readQuoted_written value.toList after

/-! ## Arguments -/

/-- Reading an argument reads its name, its value and the separator. -/
theorem readArgument_of_value {blanks name text value after rest : List Char}
    (hblanks : ∀ c ∈ blanks, Text.isBlank c = true) (hname : Word isKeywordChar name)
    (htext : Stops Text.isBlank text) (hvalue : readArgumentValue text = some (value, after))
    (hseparator : readSeparator after = some rest) :
    readArgument (blanks ++ (name ++ ':' :: ' ' :: text)) =
      some ((String.ofList name, String.ofList value), rest) := by
  have hstart : Stops Text.isBlank (name ++ ':' :: ' ' :: text) := by
    intro c hc
    exact isBlank_of_isKeywordChar (hname.head hc)
  have hcolon : Stops isKeywordChar (':' :: ' ' :: text) := by
    intro c hc
    cases hc
    decide
  have hspace : (' ' :: text).dropWhile Text.isBlank = text :=
    show ([' '] ++ text).dropWhile Text.isBlank = text from
      dropWhile_append_of_stops Text.isBlank_of_mem_space htext
  unfold readArgument
  rw [dropWhile_append_of_stops hblanks hstart]
  dsimp only
  rw [takeWhile_append_of_stops hname.all hcolon, dropWhile_append_of_stops hname.all hcolon]
  split
  · exact absurd rfl hname.ne_nil
  · rw [List.dropWhile_cons_of_neg (by decide)]
    show (readArgumentValue ((' ' :: text).dropWhile Text.isBlank) >>= _) = _
    rw [hspace, hvalue]
    show (readSeparator after >>= _) = _
    rw [hseparator]
    rfl

/-- An attribute as it stands in a statement. -/
def argument (kind : WarningKind) (entry : String × String) : List Char :=
  entry.1.toList ++ ':' :: ' ' :: (renderValue (kind.isSymbol entry.1) entry.2).toList

/-- An attribute of a kind that can be written down. -/
structure Writable (kind : WarningKind) (entry : String × String) : Prop where
  /-- The kind has the attribute. -/
  known : entry.1 ∈ kind.attributes
  /-- Its name is a word. -/
  name : Word isKeywordChar entry.1.toList
  /-- Its value is a word if it is a symbol. -/
  value : kind.isSymbol entry.1 = true → Word isSymbolChar entry.2.toList

/-- Reading a written attribute gives it back. -/
theorem readArgument_written {kind : WarningKind} {entry : String × String}
    (h : Writable kind entry) {blanks rest : List Char} (after : List Char)
    (hblanks : ∀ c ∈ blanks, Text.isBlank c = true) (hafter : Stops isSymbolChar after)
    (hseparator : readSeparator after = some rest) :
    readArgument (blanks ++ (argument kind entry ++ after)) = some (entry, rest) := by
  have hread := readArgument_of_value hblanks h.name (stops_renderValue _ entry.2 after)
    (readArgumentValue_written h.value hafter) hseparator
  rw [String.ofList_toList, String.ofList_toList] at hread
  unfold argument
  rw [List.append_assoc, List.cons_append, List.cons_append]
  exact hread

/-- One step of reading arguments: a further attribute is read. -/
theorem readArguments_step {kind : WarningKind} {values : Table String String}
    {entry : String × String} {text rest : List Char}
    (hread : readArgument text = some (entry, rest)) (hknown : entry.1 ∈ kind.attributes)
    (hnew : values.hasKey entry.1 = false) (steps : Nat) :
    readArguments kind (steps + 1) values text =
      readArguments kind steps (values ++ [entry]) rest := by
  cases text with
  | nil => cases hread
  | cons c text =>
      rw [readArguments, hread]
      · simp [hknown, hnew]
      · exact List.cons_ne_nil c text

/-- A value is over where the text ends. -/
theorem stops_nil (belongs : Char → Bool) : Stops belongs [] := by
  intro c hc
  cases hc

/-- A value is over where a comma follows. -/
theorem stops_comma (text : List Char) : Stops isSymbolChar (',' :: text) := by
  intro c hc
  cases hc
  decide

/-- Reading written attributes gives them back, if no name occurs twice. -/
theorem readArguments_written {kind : WarningKind} {entries values : Table String String}
    {blanks : List Char} {steps : Nat} (hne : entries ≠ [])
    (hblanks : ∀ c ∈ blanks, Text.isBlank c = true)
    (hentries : ∀ entry ∈ entries, Writable kind entry)
    (hdistinct : Table.Distinct (values ++ entries)) (hsteps : entries.length ≤ steps) :
    readArguments kind steps values
        (blanks ++ [',', ' '].intercalate (entries.map (argument kind))) =
      .ok (values ++ entries) := by
  -- By induction on the attributes that remain; the blank behind a comma belongs to the next one.
  induction entries generalizing values blanks steps with
  | nil => exact absurd rfl hne
  | cons entry rest ih =>
      obtain ⟨steps, rfl⟩ : ∃ less, steps = less + 1 := by
        rw [List.length_cons] at hsteps
        exact ⟨steps - 1, by omega⟩
      have hwritable := hentries entry List.mem_cons_self
      have hnew := hdistinct.hasKey_eq_false
      cases rest with
      | nil =>
          have hread := readArgument_written hwritable [] hblanks (stops_nil _) rfl
          rw [List.append_nil] at hread
          rw [List.map_singleton, List.intercalate_singleton,
            readArguments_step hread hwritable.known hnew]
          unfold readArguments
          rfl
      | cons next rest =>
          have hread := readArgument_written hwritable
            (',' :: ' ' :: [',', ' '].intercalate ((next :: rest).map (argument kind)))
            hblanks (stops_comma _) rfl
          rw [List.append_cons] at hdistinct
          have hrest : readArguments kind steps (values ++ [entry])
              ([' '] ++ [',', ' '].intercalate ((next :: rest).map (argument kind))) =
                .ok (values ++ [entry] ++ next :: rest) :=
            ih (List.cons_ne_nil next rest) Text.isBlank_of_mem_space
              (fun other hother => hentries other (List.mem_cons_of_mem entry hother)) hdistinct
              (Nat.le_of_succ_le_succ hsteps)
          rw [List.map_cons, List.map_cons, List.intercalate_cons_cons, List.append_assoc,
            ← List.map_cons]
          show readArguments kind (steps + 1) values (blanks ++ (argument kind entry ++
            (',' :: ' ' :: [',', ' '].intercalate ((next :: rest).map (argument kind))))) = _
          rw [readArguments_step hread hwritable.known hnew,
            List.append_cons values entry (next :: rest)]
          exact hrest

/-! ## The shape of a written argument -/

/-- A row of characters that are no blanks is tight. -/
theorem Word.tight {belongs : Char → Bool} {text : List Char} (h : Word belongs text)
    (hblank : ∀ c, belongs c = true → Text.isBlank c = false) : Text.Tight text :=
  Text.tight_of_forall h.ne_nil fun c hc => hblank c (h.all c hc)

/-- A written value is tight. -/
theorem tight_renderValue {symbol : Bool} {value : String}
    (hvalue : symbol = true → Word isSymbolChar value.toList) :
    Text.Tight (renderValue symbol value).toList := by
  rw [toList_renderValue]
  cases symbol with
  | true =>
      have hcolon : Text.Tight [':'] := ⟨⟨':', rfl, by decide⟩, ⟨':', rfl, by decide⟩⟩
      exact hcolon.append ((hvalue rfl).tight fun _ => isBlank_of_isSymbolChar) []
  | false =>
      have hquote : Text.Tight ['\x27'] := ⟨⟨'\x27', rfl, by decide⟩, ⟨'\x27', rfl, by decide⟩⟩
      exact hquote.append hquote (value.toList.flatMap escapeQuote)

/-- A written argument is tight. -/
theorem tight_argument {kind : WarningKind} {entry : String × String} (h : Writable kind entry) :
    Text.Tight (argument kind entry) := by
  have hname := h.name.tight fun _ => isBlank_of_isKeywordChar
  have htight := hname.append (tight_renderValue h.value) [':', ' ']
  rwa [List.append_assoc] at htight

/-- A row of characters that are no blanks is free of line boundaries. -/
theorem Word.oneLine {belongs : Char → Bool} {text : List Char} (h : Word belongs text)
    (hblank : ∀ c, belongs c = true → Text.isBlank c = false) : Text.OneLine text :=
  fun c hc => Text.isLineBreak_of_not_isBlank (hblank c (h.all c hc))

/-- Escaping adds no line boundaries. -/
theorem oneLine_flatMap_escapeQuote {text : List Char} (h : Text.OneLine text) :
    Text.OneLine (text.flatMap escapeQuote) := by
  intro c hc
  obtain ⟨d, hd, hescaped⟩ := List.mem_flatMap.1 hc
  have hcases : c = '\\' ∨ c = d := by
    unfold escapeQuote at hescaped
    split at hescaped
    · simpa using hescaped
    · exact Or.inr (List.mem_singleton.1 hescaped)
  rcases hcases with rfl | rfl
  · decide
  · exact h c hd

/-- A written argument is free of line boundaries if its value is. -/
theorem oneLine_argument {kind : WarningKind} {entry : String × String} (h : Writable kind entry)
    (hvalue : Text.OneLine entry.2.toList) : Text.OneLine (argument kind entry) := by
  have hname := h.name.oneLine fun _ => isBlank_of_isKeywordChar
  have hwritten : Text.OneLine (renderValue (kind.isSymbol entry.1) entry.2).toList := by
    rw [toList_renderValue]
    split
    · exact Text.oneLine_cons.2 ⟨by decide, hvalue⟩
    · rw [List.cons_append, Text.oneLine_cons, Text.oneLine_append]
      exact ⟨by decide, oneLine_flatMap_escapeQuote hvalue, by decide⟩
  unfold argument
  rw [Text.oneLine_append, Text.oneLine_cons, Text.oneLine_cons]
  exact ⟨hname, by decide, by decide, hwritten⟩

end ModuleGraph.Statement
