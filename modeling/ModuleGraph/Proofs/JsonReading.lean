import ModuleGraph.Json.Reader
import ModuleGraph.Proofs.JsonStoring

/-!
# Reading back what was stored

The text that is written for a storable value is read as this value, with its items and members in
their order (`Storable.readDocument_pretty`). Every reader is stated over any text that may follow.
It is given at least as many steps as the written text has characters, and every step of it takes
one of them.
-/

namespace ModuleGraph.Json

/-! ## Strings -/

/-- The digits of a control character. -/
theorem hexadecimal_of_lt {point : Nat} (h : point < 32) :
    Text.hexadecimal 4 point =
      ['0', '0', Nat.digitChar (point / 16), Nat.digitChar (point % 16)] := by
  have hall : ∀ point < 32, Text.hexadecimal 4 point =
      ['0', '0', Nat.digitChar (point / 16), Nat.digitChar (point % 16)] := by decide
  exact hall point h

/-- A hexadecimal digit is read as its value. -/
theorem hexDigit?_digitChar {digit : Nat} (h : digit < 16) :
    hexDigit? (Nat.digitChar digit) = some digit := by
  have hall : ∀ digit < 16, hexDigit? (Nat.digitChar digit) = some digit := by decide
  exact hall digit h

/-- Reading the digits of a control character gives its code point. -/
theorem readUnicode_hexadecimal {point : Nat} (h : point < 32) (rest : List Char) :
    readUnicode (Text.hexadecimal 4 point ++ rest) = some (point, rest) := by
  have hzero : hexDigit? '0' = some 0 := by decide
  have hread : readHex4 (Text.hexadecimal 4 point ++ rest) = some (point, rest) := by
    have hsum : ((0 * 16 + 0) * 16 + point / 16) * 16 + point % 16 = point := by omega
    rw [hexadecimal_of_lt h, List.cons_append, List.cons_append, List.cons_append,
      List.cons_append, List.nil_append, readHex4, hzero, hexDigit?_digitChar (by omega),
      hexDigit?_digitChar (by omega)]
    show some (((0 * 16 + 0) * 16 + point / 16) * 16 + point % 16, rest) = _
    rw [hsum]
  unfold readUnicode
  rw [hread]
  show (if (decide (0xD800 ≤ point) && decide (point < 0xDC00)) = true then _ else _) = _
  have hsmall : decide (0xD800 ≤ point) = false := decide_eq_false (by omega)
  rw [hsmall]
  rfl

/-- Reading an escaped character of a string gives back the character. -/
theorem readString_escapeChar (steps : Nat) (done : List Char) (c : Char) (rest : List Char) :
    readString (steps + 1) done (escapeChar c ++ rest) = readString steps (c :: done) rest := by
  rcases escapeChar_cases c with ⟨letter, heq, _, hsimple⟩ | ⟨heq, hcontrol⟩ |
    ⟨heq, hvisible, hquote, hslash⟩
  · have hletter : letter ≠ 'u' := by
      rintro rfl
      cases hsimple
    rw [heq, List.cons_append, List.cons_append, List.nil_append, readString]
    · rw [hsimple]
      rfl
    · exact hletter
  · have hpoint : Text.writePoint c.toNat = [c] :=
      (Text.writePoint_toNat (Nat.lt_trans hcontrol (by decide))).2
    rw [heq, List.cons_append, List.cons_append, readString, readUnicode_hexadecimal hcontrol]
    show readString steps ((Text.writePoint c.toNat).reverse ++ done) rest = _
    rw [hpoint]
    rfl
  · rw [heq, List.singleton_append, readString.eq_def]
    simp [hslash, Nat.not_lt.2 hvisible]

/-- Reading a string gives back the text, if there are more steps than characters. -/
theorem readString_written {steps : Nat} {text : List Char} (done rest : List Char)
    (h : text.length < steps) :
    readString steps done (text.flatMap escapeChar ++ '\x22' :: rest) =
      some (String.ofList (done.reverse ++ text), rest) := by
  induction text generalizing steps done with
  | nil =>
      obtain ⟨steps, rfl⟩ := Nat.exists_eq_succ_of_ne_zero (Nat.ne_of_gt h)
      rw [List.flatMap_nil, List.nil_append, readString, List.append_nil]
  | cons c text ih =>
      obtain ⟨steps, rfl⟩ := Nat.exists_eq_succ_of_ne_zero (Nat.ne_of_gt (Nat.zero_lt_of_lt h))
      rw [List.flatMap_cons, List.append_assoc, readString_escapeChar,
        ih (c :: done) (Nat.lt_of_succ_lt_succ h), List.reverse_cons, List.append_assoc,
        List.singleton_append]

/-- An escaped text is not shorter. -/
theorem length_le_length_flatMap_escapeChar (text : List Char) :
    text.length ≤ (text.flatMap escapeChar).length := by
  induction text with
  | nil => exact Nat.le_refl 0
  | cons c text ih =>
      have hpos : 0 < (escapeChar c).length := by
        rcases escapeChar_cases c with ⟨_, heq, _⟩ | ⟨heq, _⟩ | ⟨heq, _⟩ <;> simp [heq]
      rw [List.flatMap_cons, List.length_append, List.length_cons]
      omega

/-- A written string is read back as it stands behind its opening mark. -/
theorem readString_renderString {steps : Nat} {text : String}
    (h : (renderString text).toList.length ≤ steps + 1) (rest : List Char) :
    ∃ more, (renderString text).toList ++ rest = '\x22' :: more ∧
      readString steps [] more = some (text, rest) := by
  have hlength := length_le_length_flatMap_escapeChar text.toList
  rw [toList_renderString] at h ⊢
  rw [List.length_cons, List.length_append, List.length_singleton] at h
  refine ⟨text.toList.flatMap escapeChar ++ '\x22' :: rest, by simp, ?_⟩
  rw [readString_written [] rest (by omega), List.reverse_nil, List.nil_append,
    String.ofList_toList]

/-! ## Reading values -/

/-- The character stands between two tokens. -/
def isSpace (c : Char) : Bool :=
  c == ' ' || c == '\t' || c == '\n' || c == '\r'

/-- What is skipped are the characters between two tokens. -/
theorem skipSpace_eq (text : List Char) : skipSpace text = text.dropWhile isSpace := rfl

/-- Nothing is skipped before a token. -/
theorem skipSpace_cons {c : Char} (h : isSpace c = false) (rest : List Char) :
    skipSpace (c :: rest) = c :: rest :=
  List.dropWhile_cons_of_neg (Bool.eq_false_iff.1 h)

/-- A line break is skipped with its indentation. -/
theorem skipSpace_newline (level : Nat) {c : Char} (h : isSpace c = false) (rest : List Char) :
    skipSpace ((newline level).toList ++ c :: rest) = c :: rest := by
  have hall : ∀ d ∈ (newline level).toList, isSpace d = true := by
    rw [toList_newline]
    intro d hd
    rcases List.mem_cons.1 hd with rfl | hblank
    · decide
    · rw [(List.mem_replicate.1 hblank).2]
      decide
  rw [skipSpace_eq, List.dropWhile_append_of_pos hall]
  exact skipSpace_cons h rest

/-- The first character of a value starts a token and closes no array. -/
theorem Storable.exists_first {depth : Nat} {value : Json} (h : Storable depth value)
    (level : Nat) : ∃ c more, (prettyAt level value).toList = c :: more ∧ isSpace c = false ∧
      c ≠ ']' := by
  have hmark (c : Char) (more : List Char) (hc : c ∈ ['n', 't', 'f', '\x22', '[', '\x7b']) :
      ∃ d others, c :: more = d :: others ∧ isSpace d = false ∧ d ≠ ']' := by
    have hall : ∀ c ∈ ['n', 't', 'f', '\x22', '[', '\x7b'], isSpace c = false ∧ c ≠ ']' := by
      simp [isSpace]
    exact ⟨c, more, rfl, hall c hc⟩
  cases h with
  | null =>
      rw [prettyAt_null]
      exact hmark 'n' _ (by decide)
  | bool flag =>
      rw [prettyAt_bool]
      cases flag
      · exact hmark 'f' _ (by decide)
      · exact hmark 't' _ (by decide)
  | str h =>
      rw [prettyAt_str, toList_renderString]
      exact hmark '\x22' _ (by decide)
  | @arr _ items _ =>
      cases items with
      | nil =>
          rw [prettyAt]
          exact hmark '[' _ (by decide)
      | cons item rest =>
          rw [toList_prettyAt_arr]
          exact hmark '[' _ (by decide)
  | @obj _ members _ _ =>
      cases members with
      | nil =>
          rw [prettyAt]
          exact hmark '\x7b' _ (by decide)
      | cons member rest =>
          rw [toList_prettyAt_obj]
          exact hmark '\x7b' _ (by decide)

/-- The value is read back from its text, whatever follows, if it fits into the depth and there is a
step for every character. -/
def ReadBack (narrow : Bool) (depth : Nat) (value : Json) : Prop :=
  ∀ level steps rest, (prettyAt level value).toList.length ≤ steps →
    readValue narrow steps depth ((prettyAt level value).toList ++ rest) = .ok (value, rest)

/-- The last item of an array is read up to the closing bracket. -/
theorem readItems_last {narrow : Bool} {steps depth : Nat} {item : Json}
    {text rest after : List Char} (hvalue : readValue narrow steps depth text = .ok (item, rest))
    (hskip : skipSpace rest = ']' :: after) :
    readItems narrow (steps + 1) depth text = .ok ([item], after) := by
  rw [readItems, hvalue]
  dsimp only [bind, Except.bind]
  rw [hskip]
  rfl

/-- An item is read before the items behind its comma. -/
theorem readItems_more {narrow : Bool} {steps depth : Nat} {item : Json} {items : List Json}
    {text rest after last : List Char}
    (hvalue : readValue narrow steps depth text = .ok (item, rest))
    (hskip : skipSpace rest = ',' :: after)
    (hitems : readItems narrow steps depth (skipSpace after) = .ok (items, last)) :
    readItems narrow (steps + 1) depth text = .ok (item :: items, last) := by
  rw [readItems, hvalue]
  dsimp only [bind, Except.bind]
  rw [hskip]
  show (readItems narrow steps depth (skipSpace after) >>= _) = _
  rw [hitems]
  rfl

/-- The items of an array are read back if each of them is. -/
theorem readItems_prettyItems {narrow : Bool} {depth inner level steps : Nat}
    {items : List Json} (hne : items ≠ []) (hstorable : ∀ item ∈ items, Storable inner item)
    (hitems : ∀ item ∈ items, ReadBack narrow depth item)
    (hsteps : (prettyItems level items).toList.length ≤ steps) (outer : Nat) (rest : List Char) :
    readItems narrow steps depth (skipSpace ((prettyItems level items).toList ++
        ((newline outer).toList ++ ']' :: rest))) = .ok (items, rest) := by
  induction items generalizing steps with
  | nil => exact absurd rfl hne
  | cons item others ih =>
      obtain ⟨hitem, hothers⟩ := List.forall_mem_cons.1 hitems
      obtain ⟨hfirst, hmore⟩ := List.forall_mem_cons.1 hstorable
      obtain ⟨c, more, hc, hspace, _⟩ := hfirst.exists_first level
      have hskip (after : List Char) :
          skipSpace ((newline level).toList ++ ((prettyAt level item).toList ++ after)) =
            (prettyAt level item).toList ++ after := by
        rw [hc, List.cons_append, skipSpace_newline level hspace]
      rw [toList_prettyItems, List.length_append, List.length_append, toList_newline,
        List.length_cons] at hsteps
      obtain ⟨steps, rfl⟩ : ∃ less, steps = less + 1 := ⟨steps - 1, by omega⟩
      rw [toList_prettyItems, List.append_assoc, List.append_assoc, hskip]
      have hread := hitem level steps
        (itemsAfter level others ++ ((newline outer).toList ++ ']' :: rest)) (by omega)
      cases others with
      | nil => exact readItems_last hread (skipSpace_newline outer (by decide) rest)
      | cons next others =>
          rw [itemsAfter, List.isEmpty_cons, if_neg Bool.false_ne_true, List.length_cons] at hsteps
          have hrest := ih (List.cons_ne_nil next others) hmore hothers
            (show _ ≤ steps by omega)
          exact readItems_more hread (skipSpace_cons (by decide) _) hrest

/-- The last member of an object is read up to the closing brace. -/
theorem readMembers_last {narrow : Bool} {steps depth : Nat} {key : String} {value : Json}
    {text next last rest after : List Char}
    (hkey : readString steps [] text = some (key, next)) (hcolon : skipSpace next = ':' :: last)
    (hvalue : readValue narrow steps depth (skipSpace last) = .ok (value, rest))
    (hskip : skipSpace rest = '\x7d' :: after) :
    readMembers narrow (steps + 1) depth ('\x22' :: text) = .ok ([(key, value)], after) := by
  rw [readMembers, hkey]
  dsimp only [bind, Except.bind, expected]
  rw [hcolon]
  show (readValue narrow steps depth (skipSpace last) >>= _) = _
  rw [hvalue]
  dsimp only [bind, Except.bind]
  rw [hskip]
  rfl

/-- A member is read before the members behind its comma. -/
theorem readMembers_more {narrow : Bool} {steps depth : Nat} {key : String} {value : Json}
    {members : List (String × Json)} {text next last rest after final : List Char}
    (hkey : readString steps [] text = some (key, next)) (hcolon : skipSpace next = ':' :: last)
    (hvalue : readValue narrow steps depth (skipSpace last) = .ok (value, rest))
    (hskip : skipSpace rest = ',' :: after)
    (hmembers : readMembers narrow steps depth (skipSpace after) = .ok (members, final)) :
    readMembers narrow (steps + 1) depth ('\x22' :: text) =
      .ok ((key, value) :: members, final) := by
  rw [readMembers, hkey]
  dsimp only [bind, Except.bind, expected]
  rw [hcolon]
  show (readValue narrow steps depth (skipSpace last) >>= _) = _
  rw [hvalue]
  dsimp only [bind, Except.bind]
  rw [hskip]
  show (readMembers narrow steps depth (skipSpace after) >>= _) = _
  rw [hmembers]
  rfl

/-- The members of an object are read back if each of them is. -/
theorem readMembers_prettyMembers {narrow : Bool} {depth inner level steps : Nat}
    {members : List (String × Json)} (hne : members ≠ [])
    (hstorable : ∀ member ∈ members, Storable inner member.2)
    (hmembers : ∀ member ∈ members, ReadBack narrow depth member.2)
    (hsteps : (prettyMembers level members).toList.length ≤ steps) (outer : Nat)
    (rest : List Char) :
    readMembers narrow steps depth (skipSpace ((prettyMembers level members).toList ++
        ((newline outer).toList ++ '\x7d' :: rest))) = .ok (members, rest) := by
  induction members generalizing steps with
  | nil => exact absurd rfl hne
  | cons member others ih =>
      obtain ⟨hmember, hothers⟩ := List.forall_mem_cons.1 hmembers
      obtain ⟨hfirst, hmore⟩ := List.forall_mem_cons.1 hstorable
      obtain ⟨c, more, hc, hspace, _⟩ := hfirst.exists_first level
      rw [toList_prettyMembers, List.length_append, List.length_append, List.length_cons,
        List.length_cons, List.length_append, toList_newline, List.length_cons] at hsteps
      obtain ⟨steps, rfl⟩ : ∃ less, steps = less + 1 := ⟨steps - 1, by omega⟩
      have hvalue (after : List Char) :
          readValue narrow steps depth
            (skipSpace (' ' :: ((prettyAt level member.2).toList ++ after))) =
              .ok (member.2, after) := by
        have hskip : skipSpace (' ' :: ((prettyAt level member.2).toList ++ after)) =
            (prettyAt level member.2).toList ++ after := by
          rw [hc, List.cons_append, skipSpace_eq, List.dropWhile_cons_of_pos (by decide)]
          exact skipSpace_cons hspace _
        rw [hskip]
        exact hmember level steps after (by omega)
      obtain ⟨text, htext, hkey⟩ := readString_renderString
        (show (renderString member.1).toList.length ≤ steps + 1 by omega)
        (':' :: ' ' :: ((prettyAt level member.2).toList ++
          (membersAfter level others ++ ((newline outer).toList ++ '\x7d' :: rest))))
      simp only [toList_prettyMembers, List.append_assoc, List.cons_append]
      rw [htext, skipSpace_newline level (by decide)]
      cases others with
      | nil =>
          exact readMembers_last hkey (skipSpace_cons (by decide) _) (hvalue _)
            (skipSpace_newline outer (by decide) rest)
      | cons next others =>
          rw [membersAfter, List.isEmpty_cons, if_neg Bool.false_ne_true, List.length_cons]
            at hsteps
          have hrest := ih (List.cons_ne_nil next others) hmore hothers
            (show _ ≤ steps by omega)
          exact readMembers_more hkey (skipSpace_cons (by decide) _) (hvalue _)
            (skipSpace_cons (by decide) _) hrest

/-- An array is read with its items, if it is not closed at once. -/
theorem readValue_arr {narrow : Bool} {steps depth : Nat} {items : List Json}
    {text rest : List Char} (hopen : ∀ after, skipSpace text ≠ ']' :: after)
    (hitems : readItems narrow steps depth (skipSpace text) = .ok (items, rest)) :
    readValue narrow (steps + 1) (depth + 1) ('[' :: text) = .ok (.arr items, rest) := by
  rw [readValue]
  split
  · next heq => exact absurd heq (hopen _)
  · rw [hitems]
    rfl

/-- An object is read with its members, if it is not closed at once. -/
theorem readValue_obj {narrow : Bool} {steps depth : Nat} {members : List (String × Json)}
    {text rest : List Char} (hopen : ∀ after, skipSpace text ≠ '\x7d' :: after)
    (hmembers : readMembers narrow steps depth (skipSpace text) = .ok (members, rest)) :
    readValue narrow (steps + 1) (depth + 1) ('\x7b' :: text) = .ok (.obj members, rest) := by
  rw [readValue]
  split
  · next heq => exact absurd heq (hopen _)
  · rw [hmembers]
    rfl

/-- A storable value is read back from its text. -/
theorem Storable.readBack {inner : Nat} {value : Json} (h : Storable inner value)
    (narrow : Bool) {depth : Nat} (hdepth : inner ≤ depth) : ReadBack narrow depth value := by
  induction h generalizing depth with
  | null =>
      intro level steps rest hsteps
      rw [prettyAt_null] at hsteps ⊢
      obtain ⟨steps, rfl⟩ := Nat.exists_eq_add_of_le' hsteps
      rfl
  | bool flag =>
      intro level steps rest hsteps
      rw [prettyAt_bool] at hsteps ⊢
      cases flag
      · obtain ⟨steps, rfl⟩ := Nat.exists_eq_add_of_le' hsteps
        rfl
      · obtain ⟨steps, rfl⟩ := Nat.exists_eq_add_of_le' hsteps
        rfl
  | @str _ text _ =>
      intro level steps rest hsteps
      rw [prettyAt_str] at hsteps ⊢
      obtain ⟨steps, rfl⟩ : ∃ less, steps = less + 1 := by
        rw [toList_renderString, List.length_cons] at hsteps
        exact ⟨steps - 1, by omega⟩
      obtain ⟨more, htext, hread⟩ := readString_renderString hsteps rest
      rw [htext, readValue, hread]
      rfl
  | @arr inner items h ih =>
      obtain ⟨depth, rfl⟩ : ∃ less, depth = less + 1 := ⟨depth - 1, by omega⟩
      intro level steps rest hsteps
      cases items with
      | nil =>
          rw [prettyAt] at hsteps ⊢
          obtain ⟨steps, rfl⟩ := Nat.exists_eq_add_of_le' hsteps
          rfl
      | cons item others =>
          obtain ⟨c, more, hc, hspace, hclosed⟩ :=
            (h item List.mem_cons_self).exists_first (level + 1)
          rw [toList_prettyAt_arr, List.length_cons, List.length_append] at hsteps
          obtain ⟨steps, rfl⟩ : ∃ less, steps = less + 1 := ⟨steps - 1, by omega⟩
          have hitems := readItems_prettyItems (List.cons_ne_nil item others) h
            (fun other hother => ih other hother (Nat.le_of_succ_le_succ hdepth))
            (show (prettyItems (level + 1) (item :: others)).toList.length ≤ steps by omega)
            level rest
          rw [toList_prettyAt_arr]
          simp only [List.append_assoc, List.cons_append, List.nil_append]
          refine readValue_arr (fun after => ?_) hitems
          rw [toList_prettyItems, List.append_assoc, hc, List.cons_append, List.cons_append,
            skipSpace_newline _ hspace]
          exact fun heq => hclosed (List.cons.inj heq).1
  | @obj inner members hkeys h ih =>
      obtain ⟨depth, rfl⟩ : ∃ less, depth = less + 1 := ⟨depth - 1, by omega⟩
      intro level steps rest hsteps
      cases members with
      | nil =>
          rw [prettyAt] at hsteps ⊢
          obtain ⟨steps, rfl⟩ := Nat.exists_eq_add_of_le' hsteps
          rfl
      | cons member others =>
          rw [toList_prettyAt_obj, List.length_cons, List.length_append] at hsteps
          obtain ⟨steps, rfl⟩ : ∃ less, steps = less + 1 := ⟨steps - 1, by omega⟩
          have hmembers := readMembers_prettyMembers (List.cons_ne_nil member others) h
            (fun other hother => ih other hother (Nat.le_of_succ_le_succ hdepth))
            (show (prettyMembers (level + 1) (member :: others)).toList.length ≤ steps by omega)
            level rest
          rw [toList_prettyAt_obj]
          simp only [List.append_assoc, List.cons_append, List.nil_append]
          refine readValue_obj (fun after => ?_) hmembers
          rw [toList_prettyMembers, toList_renderString, List.append_assoc, List.cons_append,
            List.cons_append, skipSpace_newline _ (by decide)]
          exact fun heq => absurd (List.cons.inj heq).1 (by decide)

/-- The text that is written for a storable value is a document that holds the value, for a reader
that can go deep enough. -/
theorem Storable.readDocument_pretty {depth limit : Nat} {value : Json} (h : Storable depth value)
    (hdepth : depth ≤ limit) (narrow : Bool) :
    readDocument narrow limit (pretty value).toList = .ok value := by
  obtain ⟨c, more, hc, hspace, _⟩ := h.exists_first 0
  have hskip : skipSpace (pretty value).toList = (pretty value).toList := by
    rw [pretty, hc, skipSpace_cons hspace]
  have hread := h.readBack narrow hdepth 0 (2 * (pretty value).toList.length + 2) []
    (show (pretty value).toList.length ≤ _ by omega)
  rw [List.append_nil] at hread
  unfold readDocument
  rw [hskip]
  show (readValue narrow _ limit (prettyAt 0 value).toList >>= _) = _
  rw [hread]
  rfl

end ModuleGraph.Json
