import ModuleGraph.Json.Bounds
import ModuleGraph.Json.Printer
import ModuleGraph.Json.Reader
import ModuleGraph.Json.Stored
import ModuleGraph.Proofs.Storing

/-!
# Values that can be stored

A `Storable` value has no numbers, all its texts are made of characters, and its containers are not
nested deeper than a given depth. Such a value is stored as it is (`Storable.stored_eq`), it keeps
to the bounds of its depth (`Storable.isBoundedTo_eq_true`), and a file keeps the text that is
written for it (`Storable.keptByFile`): there are no halves of surrogate pairs in the text and no
carriage returns, since these are escaped.
-/

namespace ModuleGraph

/-! ## Texts of characters -/

namespace Text

/-- The text is made of characters. -/
def Whole (text : String) : Prop :=
  ∃ chars : List Char, text = ofChars chars

/-- A character is the written form of its code point, which is no half. -/
theorem writePoint_eq_writeChar (c : Char) :
    isHalf c.toNat = false ∧ writePoint c.toNat = writeChar c := by
  have hvalid := c.valid
  simp only [UInt32.isValidChar, Nat.isValidChar] at hvalid
  have hval : c.toNat = c.val.toNat := rfl
  have hwhole : isHalf c.toNat = false := by
    rw [Bool.eq_false_iff, ne_eq, isHalf_iff]
    omega
  refine ⟨hwhole, ?_⟩
  rw [writePoint, hwhole, Char.ofNat_toNat]
  rfl

/-- A character is written without halves. -/
theorem written_writeChar (c : Char) : Written false (writeChar c) := by
  obtain ⟨hwhole, hwrite⟩ := writePoint_eq_writeChar c
  have hbound : c.toNat < 0x110000 := by
    have hvalid := c.valid
    simp only [UInt32.isValidChar, Nat.isValidChar] at hvalid
    show c.val.toNat < _
    omega
  exact ⟨[c.toNat], List.forall_mem_singleton.2 hbound, by simp [hwhole], by simp [hwrite]⟩

/-- The characters of the written form of a character are reserved, or it stands for itself. -/
theorem writeChar_cases (c : Char) :
    c.toNat < firstStandIn ∧ writeChar c = [c] ∨
      ∀ d ∈ writeChar c, firstStandIn ≤ d.toNat := by
  by_cases hsmall : c.toNat < firstStandIn
  · refine Or.inl ⟨hsmall, ?_⟩
    rw [← (writePoint_eq_writeChar c).2, (writePoint_toNat hsmall).2]
  · refine Or.inr fun d hd => ?_
    have hcases : d = reserveMark ∨ d = c := by
      unfold writeChar at hd
      split at hd
      · simpa using hd
      · exact Or.inr (List.mem_singleton.1 hd)
    rcases hcases with rfl | rfl
    · decide
    · exact Nat.not_lt.1 hsmall

/-- A text of characters is written without halves. -/
theorem Whole.written {text : String} (h : Whole text) : Written false text.toList := by
  obtain ⟨chars, rfl⟩ := h
  have hwritten : Written (chars.any fun _ => false) (chars.flatMap writeChar) :=
    written_flatMap fun c _ => written_writeChar c
  rw [List.any_eq_false.2 fun _ _ => Bool.false_ne_true] at hwritten
  rwa [ofChars, String.toList_ofList]

/-- A text of characters holds no half. -/
theorem Whole.hasHalf_eq_false {text : String} (h : Whole text) : hasHalf text = false := by
  obtain ⟨list, hpoints, hhalf, _⟩ := h.written.points_eq
  rw [hasHalf, hpoints, hhalf]

/-- A text without reserved characters is made of characters. -/
theorem whole_of_ordinary {text : String}
    (h : text.toList.all (fun c => c.toNat < firstStandIn) = true) : Whole text := by
  have hself : text.toList.flatMap writeChar = text.toList := by
    refine (List.flatMap_congr fun c hc => ?_).trans (List.flatMap_singleton' _)
    have hsmall : c.toNat < firstStandIn := of_decide_eq_true (List.all_eq_true.1 h c hc)
    rw [← (writePoint_eq_writeChar c).2, (writePoint_toNat hsmall).2]
  exact ⟨text.toList, by rw [ofChars, hself, String.ofList_toList]⟩

/-- A file keeps the characters: they are written without halves, and no line ending is unified. -/
structure KeptByFile (chars : List Char) : Prop where
  /-- They are written without halves. -/
  written : Written false chars
  /-- None is a carriage return. -/
  plain : '\r' ∉ chars

/-- One kept text after another is kept. -/
theorem KeptByFile.append {first second : List Char} (hfirst : KeptByFile first)
    (hsecond : KeptByFile second) : KeptByFile (first ++ second) where
  written := hfirst.written.append hsecond.written
  plain := by
    rw [List.mem_append, not_or]
    exact ⟨hfirst.plain, hsecond.plain⟩

/-- Printable ASCII characters and line feeds are kept. -/
theorem keptByFile_of_all {chars : List Char}
    (h : chars.all (fun c => c.toNat < 128 && c != '\r') = true) : KeptByFile chars := by
  rw [List.all_eq_true] at h
  refine ⟨written_of_ascii (List.all_eq_true.2 fun c hc => ?_), fun hmem => ?_⟩
  · exact (Bool.and_eq_true_iff.1 (h c hc)).1
  · exact absurd (h '\r' hmem) (by decide)

/-- Texts that are kept one by one are kept one after another. -/
theorem keptByFile_flatMap {α : Type} {list : List α} {write : α → List Char}
    (h : ∀ entry ∈ list, KeptByFile (write entry)) : KeptByFile (list.flatMap write) := by
  induction list with
  | nil => exact keptByFile_of_all rfl
  | cons entry rest ih =>
      obtain ⟨hentry, hrest⟩ := List.forall_mem_cons.1 h
      exact hentry.append (ih hrest)

/-- Nothing is unified in a kept text. -/
theorem unifyNewlines_eq_self {chars : List Char} (h : '\r' ∉ chars) :
    unifyNewlines chars = chars := by
  induction chars with
  | nil => rfl
  | cons c rest ih =>
      rw [List.mem_cons, not_or] at h
      rw [unifyNewlines.eq_4, ih h.2]
      · intro _ heq
        exact absurd heq.symm h.1
      · exact Ne.symm h.1

end Text

/-- A file gives back a text that it keeps. -/
theorem FileSystem.readText_of_keptByFile {files : FileSystem} {path : Path} {text : String}
    {bytes : ByteArray} (htext : Text.KeptByFile text.toList)
    (hbytes : Text.encode? text = some bytes) (hfile : files.readBytes path = .ok bytes) :
    files.readText path = .ok text := by
  unfold readText
  rw [hfile]
  show decodeText bytes = _
  unfold decodeText
  rw [htext.written.decode?_of_encode? hbytes]
  dsimp only
  rw [Text.unifyNewlines_eq_self htext.plain, String.ofList_toList]

namespace Json

/-! ## Strings -/

/-- A character of a string is written with a letter, with its digits, or as it is. -/
theorem escapeChar_cases (c : Char) :
    (∃ letter, escapeChar c = ['\\', letter] ∧ Text.KeptByFile ['\\', letter] ∧
        simpleEscape? letter = some c) ∨
      (escapeChar c = '\\' :: 'u' :: Text.hexadecimal 4 c.toNat ∧ c.toNat < 32) ∨
      (escapeChar c = [c] ∧ 32 ≤ c.toNat ∧ c ≠ '\x22' ∧ c ≠ '\\') := by
  unfold escapeChar
  split_ifs with hquote hslash hfeed hreturn htab hback hform hcontrol
  · exact .inl ⟨_, rfl, Text.keptByFile_of_all rfl, by rw [eq_of_beq hquote]; rfl⟩
  · exact .inl ⟨_, rfl, Text.keptByFile_of_all rfl, by rw [eq_of_beq hslash]; rfl⟩
  · exact .inl ⟨_, rfl, Text.keptByFile_of_all rfl, by rw [eq_of_beq hfeed]; rfl⟩
  · exact .inl ⟨_, rfl, Text.keptByFile_of_all rfl, by rw [eq_of_beq hreturn]; rfl⟩
  · exact .inl ⟨_, rfl, Text.keptByFile_of_all rfl, by rw [eq_of_beq htab]; rfl⟩
  · exact .inl ⟨_, rfl, Text.keptByFile_of_all rfl, by rw [eq_of_beq hback]; rfl⟩
  · exact .inl ⟨_, rfl, Text.keptByFile_of_all rfl, by rw [eq_of_beq hform]; rfl⟩
  · exact .inr (.inl ⟨rfl, hcontrol⟩)
  · rw [beq_iff_eq] at hquote hslash
    exact .inr (.inr ⟨rfl, by omega, hquote, hslash⟩)

/-- The characters of a string between quotation marks. -/
theorem toList_renderString (text : String) :
    (renderString text).toList = '\x22' :: (text.toList.flatMap escapeChar ++ ['\x22']) :=
  String.toList_ofList

/-- A reserved character of a string stands as it is. -/
theorem escapeChar_of_le {c : Char} (h : Text.firstStandIn ≤ c.toNat) : escapeChar c = [c] := by
  have hother (d : Char) (hd : d.toNat < Text.firstStandIn) : c ≠ d := by
    rintro rfl
    omega
  have hvisible : ¬ c.toNat < 32 := by
    have hstandIn : Text.firstStandIn = 0x10A800 := rfl
    omega
  unfold escapeChar
  simp [hother '\x22' (by decide), hother '\\' (by decide), hother '\n' (by decide),
    hother '\r' (by decide), hother '\t' (by decide), hother '\x08' (by decide),
    hother '\x0c' (by decide), hvisible]

/-- A file keeps the escape of a character that is not reserved. -/
theorem keptByFile_escapeChar {c : Char} (h : c.toNat < Text.firstStandIn) :
    Text.KeptByFile (escapeChar c) := by
  rcases escapeChar_cases c with ⟨letter, heq, hkept, _⟩ | ⟨heq, hcontrol⟩ | ⟨heq, hvisible, _⟩
  · rw [heq]
    exact hkept
  · have hdigits : ∀ point < 32, ('\\' :: 'u' :: Text.hexadecimal 4 point).all
        (fun c => c.toNat < 128 && c != '\r') = true := by decide
    rw [heq]
    exact Text.keptByFile_of_all (hdigits c.toNat hcontrol)
  · rw [heq]
    refine ⟨Text.written_of_ordinary (List.forall_mem_singleton.2 h), fun hmem => ?_⟩
    rw [← List.mem_singleton.1 hmem] at hvisible
    exact absurd hvisible (by decide)

/-- A file keeps the written form of a string of characters. -/
theorem keptByFile_renderString {text : String} (h : Text.Whole text) :
    Text.KeptByFile (renderString text).toList := by
  obtain ⟨chars, rfl⟩ := h
  have hmark : Text.KeptByFile ['\x22'] := Text.keptByFile_of_all (by decide)
  have hbody : Text.KeptByFile ((chars.flatMap Text.writeChar).flatMap escapeChar) := by
    rw [List.flatMap_assoc]
    refine Text.keptByFile_flatMap fun c _ => ?_
    rcases Text.writeChar_cases c with ⟨hsmall, hwrite⟩ | hlarge
    · rw [hwrite, List.flatMap_singleton]
      exact keptByFile_escapeChar hsmall
    · have hsame : (Text.writeChar c).flatMap escapeChar = Text.writeChar c :=
        (List.flatMap_congr fun d hd => escapeChar_of_le (hlarge d hd)).trans
          (List.flatMap_singleton' _)
      rw [hsame]
      exact ⟨Text.written_writeChar c, fun hmem => absurd (hlarge '\r' hmem) (by decide)⟩
  rw [toList_renderString, Text.ofChars, String.toList_ofList]
  exact hmark.append (hbody.append hmark)

/-! ## Storable values -/

/-- The value can be stored with containers nested to at most a depth: there are no numbers in it,
and all its texts are made of characters. -/
inductive Storable : Nat → Json → Prop
  /-- Nothing. -/
  | null {depth : Nat} : Storable depth .null
  /-- A flag. -/
  | bool {depth : Nat} (flag : Bool) : Storable depth (.bool flag)
  /-- A text. -/
  | str {depth : Nat} {text : String} (h : Text.Whole text) : Storable depth (.str text)
  /-- An array of storable items. -/
  | arr {depth : Nat} {items : List Json} (h : ∀ item ∈ items, Storable depth item) :
      Storable (depth + 1) (.arr items)
  /-- An object of storable members. -/
  | obj {depth : Nat} {members : List (String × Json)}
      (hkeys : ∀ member ∈ members, Text.Whole member.1)
      (h : ∀ member ∈ members, Storable depth member.2) : Storable (depth + 1) (.obj members)

/-- An object made from a table can be stored if its keys and values can. -/
theorem Storable.obj_map {κ α : Type} {depth : Nat} (key : κ → String) (write : α → Json)
    {table : Table κ α} (hkeys : ∀ entry ∈ table, Text.Whole (key entry.1))
    (h : ∀ entry ∈ table, Storable depth (write entry.2)) :
    Storable (depth + 1) (.obj (table.map fun entry => (key entry.1, write entry.2))) :=
  .obj (List.forall_mem_map.2 hkeys) (List.forall_mem_map.2 h)

/-- Items that are stored as they are make a list that is. -/
theorem storedItems_eq {items : List Json} (h : ∀ item ∈ items, stored item = .ok item) :
    storedItems items = .ok items := by
  induction items with
  | nil => rfl
  | cons item rest ih =>
      obtain ⟨hitem, hrest⟩ := List.forall_mem_cons.1 h
      rw [storedItems, hitem, ih hrest]
      rfl

/-- Members that are stored as they are make an object that is. -/
theorem storedMembers_eq {members : List (String × Json)}
    (hkeys : ∀ member ∈ members, Text.Whole member.1)
    (h : ∀ member ∈ members, stored member.2 = .ok member.2) :
    storedMembers members = .ok members := by
  induction members with
  | nil => rfl
  | cons member rest ih =>
      obtain ⟨hmember, hrest⟩ := List.forall_mem_cons.1 h
      obtain ⟨hkey, hothers⟩ := List.forall_mem_cons.1 hkeys
      have hstored : storedKey member.1 = member.1 := by
        rw [storedKey, hkey.hasHalf_eq_false]
        rfl
      rw [storedMembers, hmember, ih hothers hrest, hstored]
      rfl

/-- A storable value is stored as it is. -/
theorem Storable.stored_eq {depth : Nat} {value : Json} (h : Storable depth value) :
    stored value = .ok value := by
  induction h with
  | null => rfl
  | bool _ => rfl
  | str h =>
      rw [stored, h.hasHalf_eq_false]
      rfl
  | arr _ ih =>
      rw [stored, storedItems_eq ih]
      rfl
  | obj hkeys _ ih =>
      rw [stored, storedMembers_eq hkeys ih]
      rfl

/-- Items that keep to the bounds make a list that does. -/
theorem areItemsBoundedTo_eq_true {depth : Nat} {items : List Json}
    (h : ∀ item ∈ items, isBoundedTo depth item = true) :
    areItemsBoundedTo depth items = true := by
  induction items with
  | nil => rfl
  | cons item rest ih =>
      obtain ⟨hitem, hrest⟩ := List.forall_mem_cons.1 h
      rw [areItemsBoundedTo, hitem, ih hrest]
      rfl

/-- Members that keep to the bounds make an object that does. -/
theorem areMembersBoundedTo_eq_true {depth : Nat} {members : List (String × Json)}
    (hkeys : ∀ member ∈ members, Text.Whole member.1)
    (h : ∀ member ∈ members, isBoundedTo depth member.2 = true) :
    areMembersBoundedTo depth members = true := by
  induction members with
  | nil => rfl
  | cons member rest ih =>
      obtain ⟨hmember, hrest⟩ := List.forall_mem_cons.1 h
      obtain ⟨hkey, hothers⟩ := List.forall_mem_cons.1 hkeys
      rw [areMembersBoundedTo, hkey.hasHalf_eq_false, hmember, ih hothers hrest]
      rfl

/-- A storable value keeps to the bounds of its depth. -/
theorem Storable.isBoundedTo_eq_true {depth : Nat} {value : Json} (h : Storable depth value) :
    isBoundedTo depth value = true := by
  induction h with
  | null => rfl
  | bool _ => rfl
  | str h => rw [isBoundedTo, h.hasHalf_eq_false]; rfl
  | @arr _ items _ ih =>
      cases items with
      | nil => rfl
      | cons item rest =>
          obtain ⟨hitem, hrest⟩ := List.forall_mem_cons.1 ih
          rw [isBoundedTo, hitem, areItemsBoundedTo_eq_true hrest]
          rfl
  | @obj _ members hkeys _ ih =>
      cases members with
      | nil => rfl
      | cons member rest =>
          obtain ⟨hmember, hrest⟩ := List.forall_mem_cons.1 ih
          obtain ⟨hkey, hothers⟩ := List.forall_mem_cons.1 hkeys
          rw [isBoundedTo, hkey.hasHalf_eq_false, hmember,
            areMembersBoundedTo_eq_true hothers hrest]
          rfl

/-! ## Written values -/

/-- The characters of a line break with its indentation. -/
theorem toList_newline (level : Nat) :
    (newline level).toList = '\n' :: List.replicate (2 * level) ' ' := by
  simp [newline]

/-- A file keeps a line break with its indentation. -/
theorem keptByFile_newline (level : Nat) : Text.KeptByFile (newline level).toList := by
  rw [toList_newline]
  refine Text.keptByFile_of_all ?_
  rw [List.all_cons, List.all_replicate]
  simp

/-- What follows the first item of an array. -/
def itemsAfter (level : Nat) (rest : List Json) : List Char :=
  if rest.isEmpty then [] else ',' :: (prettyItems level rest).toList

/-- The items of an array start with the first one on its line. -/
theorem toList_prettyItems (level : Nat) (item : Json) (rest : List Json) :
    (prettyItems level (item :: rest)).toList =
      (newline level).toList ++ ((prettyAt level item).toList ++ itemsAfter level rest) := by
  cases rest with
  | nil => rw [prettyItems, String.toList_append, itemsAfter, List.isEmpty_nil, if_pos rfl,
      List.append_nil]
  | cons next rest =>
      rw [prettyItems]
      · simp [itemsAfter]
      · exact List.cons_ne_nil next rest

/-- What follows the first member of an object. -/
def membersAfter (level : Nat) (rest : List (String × Json)) : List Char :=
  if rest.isEmpty then [] else ',' :: (prettyMembers level rest).toList

/-- The members of an object start with the first one on its line. -/
theorem toList_prettyMembers (level : Nat) (member : String × Json)
    (rest : List (String × Json)) :
    (prettyMembers level (member :: rest)).toList =
      (newline level).toList ++ ((renderString member.1).toList ++
        (':' :: ' ' :: ((prettyAt level member.2).toList ++ membersAfter level rest))) := by
  cases rest with
  | nil =>
      rw [prettyMembers]
      simp [membersAfter]
  | cons next rest =>
      rw [prettyMembers]
      · simp [membersAfter]
      · exact List.cons_ne_nil next rest

/-- Nothing is written as a word. -/
theorem prettyAt_null (level : Nat) : prettyAt level .null = "null" := by
  simp [prettyAt, renderScalar]

/-- A flag is written as a word. -/
theorem prettyAt_bool (level : Nat) (flag : Bool) :
    prettyAt level (.bool flag) = if flag then "true" else "false" := by
  simp [prettyAt, renderScalar]

/-- A text is written between quotation marks. -/
theorem prettyAt_str (level : Nat) (text : String) :
    prettyAt level (.str text) = renderString text := by
  simp [prettyAt, renderScalar]

/-- An array with items is written over several lines. -/
theorem toList_prettyAt_arr (level : Nat) (item : Json) (rest : List Json) :
    (prettyAt level (.arr (item :: rest))).toList =
      '[' :: ((prettyItems (level + 1) (item :: rest)).toList ++
        ((newline level).toList ++ [']'])) := by
  rw [prettyAt]
  · simp
  · exact List.cons_ne_nil item rest

/-- An object with members is written over several lines. -/
theorem toList_prettyAt_obj (level : Nat) (member : String × Json)
    (rest : List (String × Json)) :
    (prettyAt level (.obj (member :: rest))).toList =
      '\x7b' :: ((prettyMembers (level + 1) (member :: rest)).toList ++
        ((newline level).toList ++ ['\x7d'])) := by
  rw [prettyAt]
  · simp
  · exact List.cons_ne_nil member rest

/-- A file keeps the items of an array if it keeps each of them. -/
theorem keptByFile_prettyItems {level : Nat} {items : List Json}
    (h : ∀ item ∈ items, Text.KeptByFile (prettyAt level item).toList) :
    Text.KeptByFile (prettyItems level items).toList := by
  induction items with
  | nil => exact Text.keptByFile_of_all rfl
  | cons item rest ih =>
      obtain ⟨hitem, hrest⟩ := List.forall_mem_cons.1 h
      have hcomma : Text.KeptByFile [','] := Text.keptByFile_of_all rfl
      have hafter : Text.KeptByFile (itemsAfter level rest) := by
        unfold itemsAfter
        split
        · exact Text.keptByFile_of_all rfl
        · exact hcomma.append (ih hrest)
      rw [toList_prettyItems]
      exact (keptByFile_newline level).append (hitem.append hafter)

/-- A file keeps the members of an object if it keeps each of them. -/
theorem keptByFile_prettyMembers {level : Nat} {members : List (String × Json)}
    (hkeys : ∀ member ∈ members, Text.Whole member.1)
    (h : ∀ member ∈ members, Text.KeptByFile (prettyAt level member.2).toList) :
    Text.KeptByFile (prettyMembers level members).toList := by
  induction members with
  | nil => exact Text.keptByFile_of_all rfl
  | cons member rest ih =>
      obtain ⟨hmember, hrest⟩ := List.forall_mem_cons.1 h
      obtain ⟨hkey, hothers⟩ := List.forall_mem_cons.1 hkeys
      have hcomma : Text.KeptByFile [','] := Text.keptByFile_of_all rfl
      have hafter : Text.KeptByFile (membersAfter level rest) := by
        unfold membersAfter
        split
        · exact Text.keptByFile_of_all rfl
        · exact hcomma.append (ih hothers hrest)
      have hcolon : Text.KeptByFile [':', ' '] := Text.keptByFile_of_all rfl
      rw [toList_prettyMembers]
      exact (keptByFile_newline level).append ((keptByFile_renderString hkey).append
        (hcolon.append (hmember.append hafter)))

/-- A file keeps the text that is written for a storable value. -/
theorem Storable.keptByFile {depth : Nat} {value : Json} (h : Storable depth value)
    (level : Nat) : Text.KeptByFile (prettyAt level value).toList := by
  induction h generalizing level with
  | null =>
      rw [prettyAt_null]
      exact Text.keptByFile_of_all rfl
  | bool flag =>
      rw [prettyAt_bool]
      cases flag <;> exact Text.keptByFile_of_all rfl
  | str h =>
      rw [prettyAt_str]
      exact keptByFile_renderString h
  | @arr _ items _ ih =>
      cases items with
      | nil =>
          rw [prettyAt]
          exact Text.keptByFile_of_all rfl
      | cons item rest =>
          have hopen : Text.KeptByFile ['['] := Text.keptByFile_of_all rfl
          have hclose : Text.KeptByFile [']'] := Text.keptByFile_of_all rfl
          have hitems := keptByFile_prettyItems fun other hother => ih other hother (level + 1)
          rw [toList_prettyAt_arr]
          exact hopen.append (hitems.append ((keptByFile_newline level).append hclose))
  | @obj _ members hkeys _ ih =>
      cases members with
      | nil =>
          rw [prettyAt]
          exact Text.keptByFile_of_all rfl
      | cons member rest =>
          have hopen : Text.KeptByFile ['\x7b'] := Text.keptByFile_of_all rfl
          have hclose : Text.KeptByFile ['\x7d'] := Text.keptByFile_of_all rfl
          have hmembers := keptByFile_prettyMembers hkeys fun other hother =>
            ih other hother (level + 1)
          rw [toList_prettyAt_obj]
          exact hopen.append (hmembers.append ((keptByFile_newline level).append hclose))

end Json

end ModuleGraph
