import ModuleGraph.FileSystem
import ModuleGraph.Proofs.Lines

/-!
# Texts in files

Characters are `Written` for code points, of which some may be halves of surrogate pairs. A text put
together from written parts holds such a half exactly if one of the parts does. A text without
halves is read back from its bytes (`decode?_of_encode?`), and its lines do not depend on line
endings (`lines_unifyNewlines`), so the lines of a file are those that were written
(`lines_readText`).
-/

namespace ModuleGraph

namespace Text

/-! ## Written texts -/

/-- The string is the written form of some code points. -/
def IsText (text : String) : Prop :=
  ∃ list : List Nat, (∀ point ∈ list, point < 0x110000) ∧ text = ofPoints list

/-- The characters are the written form of some code points, which are all whole or not. -/
def Written (half : Bool) (chars : List Char) : Prop :=
  ∃ list : List Nat, (∀ point ∈ list, point < 0x110000) ∧ list.any isHalf = half ∧
    chars = list.flatMap writePoint

/-- The characters of a text are written for its code points. -/
theorem IsText.written {text : String} (h : IsText text) : Written (hasHalf text) text.toList := by
  obtain ⟨list, hlist, rfl⟩ := h
  refine ⟨list, hlist, ?_, String.toList_ofList⟩
  unfold hasHalf
  rw [points_ofPoints hlist]

/-- A string whose characters are written is a text. -/
theorem Written.isText {text : String} {half : Bool} (h : Written half text.toList) :
    IsText text := by
  obtain ⟨list, hlist, _, htext⟩ := h
  exact ⟨list, hlist, by rw [ofPoints, ← htext, String.ofList_toList]⟩

/-- The code points of a written text are those that it was written for. -/
theorem Written.points_eq {text : String} {half : Bool} (h : Written half text.toList) :
    ∃ list, points text = list ∧ list.any isHalf = half ∧
      text.toList = list.flatMap writePoint := by
  obtain ⟨list, hlist, hhalf, htext⟩ := h
  refine ⟨list, ?_, hhalf, htext⟩
  have hread := points_ofPoints hlist
  unfold points ofPoints at hread
  rwa [String.toList_ofList, ← htext] at hread

/-- One written text after another is written. -/
theorem Written.append {half other : Bool} {first second : List Char} (hfirst : Written half first)
    (hsecond : Written other second) : Written (half || other) (first ++ second) := by
  obtain ⟨list, hlist, rfl, rfl⟩ := hfirst
  obtain ⟨others, hothers, rfl, rfl⟩ := hsecond
  exact ⟨list ++ others, List.forall_mem_append.2 ⟨hlist, hothers⟩, List.any_append,
    List.flatMap_append.symm⟩

/-- A character below the reserved ones is written for itself. -/
theorem writePoint_toNat {c : Char} (h : c.toNat < firstStandIn) :
    isHalf c.toNat = false ∧ writePoint c.toNat = [c] := by
  have hstandIn : firstStandIn = 0x10A800 := rfl
  have hvalid := c.valid
  simp only [UInt32.isValidChar, Nat.isValidChar] at hvalid
  have hval : c.toNat = c.val.toNat := rfl
  have hwhole : isHalf c.toNat = false := by
    rw [Bool.eq_false_iff, ne_eq, isHalf_iff]
    omega
  have hhalf : half? c = none := by
    unfold half?
    rw [if_neg (by simp; omega)]
  have hmark (mark : Char) (hlarge : firstStandIn ≤ mark.toNat) : (c == mark) = false := by
    rw [beq_eq_false_iff_ne]
    rintro rfl
    omega
  have hfree : isReserved c = false := by
    simp only [isReserved, hhalf, hmark reserveMark (by decide), hmark openingMark (by decide),
      hmark closingMark (by decide), Option.isSome_none, Bool.or_self]
  exact ⟨hwhole, by simp [writePoint, hwhole, writeChar, hfree]⟩

/-- Texts that follow each other are written. -/
theorem written_flatMap {α : Type} {list : List α} {write : α → List Char} {half : α → Bool}
    (h : ∀ entry ∈ list, Written (half entry) (write entry)) :
    Written (list.any half) (list.flatMap write) := by
  induction list with
  | nil => exact ⟨[], List.forall_mem_nil _, rfl, rfl⟩
  | cons entry rest ih =>
      obtain ⟨hentry, hrest⟩ := List.forall_mem_cons.1 h
      rw [List.flatMap_cons, List.any_cons]
      exact hentry.append (ih hrest)

/-- Characters below the reserved ones are written for themselves. -/
theorem written_of_ordinary {chars : List Char} (h : ∀ c ∈ chars, c.toNat < firstStandIn) :
    Written false chars := by
  have hwritten : Written (chars.any fun _ => false) (chars.flatMap fun c => [c]) := by
    refine written_flatMap fun c hc => ?_
    obtain ⟨hwhole, hwrite⟩ := writePoint_toNat (h c hc)
    have hvalid := c.valid
    simp only [UInt32.isValidChar, Nat.isValidChar] at hvalid
    have hval : c.toNat = c.val.toNat := rfl
    exact ⟨[c.toNat], List.forall_mem_singleton.2 (by omega), by simp [hwhole], by simp [hwrite]⟩
  rwa [List.any_eq_false.2 fun _ _ => Bool.false_ne_true, List.flatMap_singleton'] at hwritten

/-- ASCII characters are written for themselves. -/
theorem written_of_ascii {chars : List Char} (h : chars.all (fun c => c.toNat < 128) = true) :
    Written false chars := by
  refine written_of_ordinary fun c hc => ?_
  have hsmall : c.toNat < 128 := of_decide_eq_true (List.all_eq_true.1 h c hc)
  exact Nat.lt_trans hsmall (by decide)

/-- Texts with separators between them are written. -/
theorem written_intercalate {separator : List Char} (hseparator : Written false separator)
    {α : Type} {list : List α} {write : α → List Char} {half : α → Bool}
    (h : ∀ entry ∈ list, Written (half entry) (write entry)) :
    Written (list.any half) (separator.intercalate (list.map write)) := by
  induction list with
  | nil => exact ⟨[], List.forall_mem_nil _, rfl, rfl⟩
  | cons entry rest ih =>
      obtain ⟨hentry, hrest⟩ := List.forall_mem_cons.1 h
      cases rest with
      | nil =>
          rw [List.map_singleton, List.intercalate_singleton, List.any_cons]
          exact (Bool.or_false _).symm ▸ hentry
      | cons next rest =>
          rw [List.map_cons, List.map_cons, List.intercalate_cons_cons, List.any_cons,
            ← Bool.or_false (half entry)]
          exact (hentry.append hseparator).append (ih hrest)

/-! ## Bytes -/

/-- A written text has bytes unless it holds half of a surrogate pair. -/
theorem Written.encode?_eq_none_iff {text : String} {half : Bool} (h : Written half text.toList) :
    encode? text = none ↔ half = true := by
  obtain ⟨list, hpoints, hhalf, _⟩ := h.points_eq
  unfold encode? hasHalf
  rw [hpoints, hhalf]
  cases half <;> simp

/-- A written text is read back from its bytes. -/
theorem Written.decode?_of_encode? {text : String} {half : Bool} (h : Written half text.toList)
    {bytes : ByteArray} (hbytes : encode? text = some bytes) : decode? bytes = some text := by
  have hwhole : half = false := by
    rw [Bool.eq_false_iff, ne_eq, ← h.encode?_eq_none_iff, hbytes]
    exact Option.some_ne_none _
  obtain ⟨list, hpoints, hhalf, htext⟩ := h.points_eq
  rw [hwhole] at hhalf
  have hchars : (toChars text).flatMap writeChar = text.toList := by
    unfold toChars
    rw [hpoints, htext, List.flatMap_map]
    refine List.flatMap_congr fun point hpoint => ?_
    have hpoint : isHalf point = false := by
      simpa using List.any_eq_false.1 hhalf point hpoint
    simp [writePoint, hpoint]
  unfold encode? hasHalf at hbytes
  rw [hpoints, hhalf, if_neg Bool.false_ne_true] at hbytes
  cases hbytes
  have hvalid : (String.ofList (toChars text)).toUTF8.IsValidUTF8 :=
    (String.ofList (toChars text)).isValidUTF8
  unfold decode? String.fromUTF8?
  rw [dif_pos hvalid]
  show some (ofChars (String.ofList (toChars text)).toList) = some text
  unfold ofChars
  rw [String.toList_ofList, hchars, String.ofList_toList]

/-! ## Line endings -/

/-- The lines of a text do not depend on its line endings. -/
theorem lines_unifyNewlines (text : List Char) : lines (unifyNewlines text) = lines text := by
  have hfeed (rest : List Char) : lines ('\n' :: rest) = [] :: lines rest :=
    lines_append_lineFeed (List.forall_mem_nil _) rest
  fun_induction unifyNewlines text with
  | case1 => rfl
  | case2 rest ih => rw [hfeed, ih, lines]
  | case3 rest hnot ih =>
      have hreturn : lines ('\r' :: rest) = [] :: lines rest := by
        rw [lines, if_pos (by decide)]
        exact fun after _ heq => hnot after heq
      rw [hfeed, ih, hreturn]
  | case4 c rest hpair hreturn ih =>
      have hother (after next : List Char) (hpair : c = '\r') : ¬ after = '\n' :: next :=
        absurd hpair hreturn
      rw [lines.eq_3 c _ (hother _), lines.eq_3 c rest (hother rest), ih]

end Text

/-- The lines of a file are those that were written to it. -/
theorem FileSystem.lines_readText {files : FileSystem} {path : Path} {text : String} {half : Bool}
    {bytes : ByteArray} (hwritten : Text.Written half text.toList)
    (hbytes : Text.encode? text = some bytes) (hfile : files.readBytes path = .ok bytes) :
    ∃ read, files.readText path = .ok read ∧ Text.lines read.toList = Text.lines text.toList := by
  refine ⟨String.ofList (Text.unifyNewlines text.toList), ?_, ?_⟩
  · unfold readText
    rw [hfile]
    show decodeText bytes = _
    unfold decodeText
    rw [hwritten.decode?_of_encode? hbytes]
  · rw [String.toList_ofList, Text.lines_unifyNewlines]

end ModuleGraph
