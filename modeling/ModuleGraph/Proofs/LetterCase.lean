import ModuleGraph.Reading.Basic
import ModuleGraph.Proofs.Definitions

/-!
# Lower case and top scope markers

Names are written in any letter case and with or without a top scope marker `::`. A colon is the
lower case of nothing but a colon, and it has no influence on its surroundings. So it makes no
difference whether the marker is removed before or after a name is brought to lower case
(`normalizeName_lower`), and the name of a symbol has no marker of its own if what it comes from has
a single one (`normalizeName_symbolName`).
-/

namespace ModuleGraph.Text

/-- What lower case makes of one character between others. -/
def lowerAt (before : List Char) (c : Char) (rest : List Char) : List Char :=
  if c.toNat == 0x130 then ['i', Char.ofNat 0x307]
  else if c.toNat == 0x3A3 then
    if meetsCased before && !meetsCased rest then [Char.ofNat 0x3C2] else [Char.ofNat 0x3C3]
  else [lowerChar c]

/-- Lower case is made character by character, and each may look at those around it. -/
theorem lowerAfter_cons (before : List Char) (c : Char) (rest : List Char) :
    lowerAfter before (c :: rest) = lowerAt before c rest ++ lowerAfter (c :: before) rest :=
  rfl

/-! ## Colons -/

/-- The lower case forms of the capitals in a run come after the colon. -/
theorem colon_lt_shifted {run : CaseRun} (h : run ∈ caseRuns) : 58 < run.first + run.shift := by
  have hall : ∀ run ∈ caseRuns.toList, 58 < run.first + run.shift := by decide +kernel
  exact hall run (Array.mem_toList_iff.2 h)

/-- A code point that gives the colon is that of the colon. -/
theorem eq_of_ofNat_eq_colon {point : Nat} (h : Char.ofNat point = ':') : point = 58 := by
  by_cases hvalid : point.isValidChar
  · have hpoint : Char.ofNat point = Char.ofNatAux point hvalid := dif_pos hvalid
    exact congrArg Char.toNat (hpoint.symm.trans h)
  · -- The point is none, and gives the character zero.
    have hzero : Char.ofNat point = '\x00' := dif_neg hvalid
    exact absurd (hzero.symm.trans h) (by decide)

/-- Only the colon becomes a colon in lower case. -/
theorem lowerChar_eq_colon {c : Char} : lowerChar c = ':' ↔ c = ':' := by
  constructor
  · intro h
    unfold lowerChar at h
    split at h
    · next hpoint =>
        have hall : ∀ point < 128, (Char.ofNat point).toLower = ':' → Char.ofNat point = ':' := by
          decide
        rw [← Char.ofNat_toNat c] at h ⊢
        exact hall c.toNat hpoint h
    · next hpoint =>
        split at h
        · next run hrun =>
            have hshift := colon_lt_shifted (Array.mem_of_find?_eq_some hrun)
            have hcontains := Array.find?_some hrun
            simp only [CaseRun.contains, Bool.and_eq_true, decide_eq_true_eq] at hcontains
            have hvalue := eq_of_ofNat_eq_colon h
            omega
        · exact h
  · intro h
    subst h
    decide

/-- A colon stays as it is. -/
@[simp] theorem lowerAt_colon (before rest : List Char) : lowerAt before ':' rest = [':'] := by
  show [lowerChar ':'] = [':']
  rw [lowerChar_eq_colon.2 rfl]

/-- What lower case makes of another character does not begin with a colon. -/
theorem exists_lowerAt {c : Char} (h : c ≠ ':') (before rest : List Char) :
    ∃ d tail, lowerAt before c rest = d :: tail ∧ d ≠ ':' := by
  unfold lowerAt
  split
  · exact ⟨_, _, rfl, by decide⟩
  · split
    · split
      · exact ⟨_, _, rfl, by decide⟩
      · exact ⟨_, _, rfl, by decide⟩
    · exact ⟨_, _, rfl, fun hcolon => h (lowerChar_eq_colon.1 hcolon)⟩

/-- Whether a cased character comes next does not depend on colons at the end. -/
theorem meetsCased_append_colons (context : List Char) :
    meetsCased (context ++ [':', ':']) = meetsCased context := by
  have hcolons : [':', ':'].dropWhile (fun c => inRanges ignorableRanges c.toNat) = [] := by
    decide +kernel
  unfold meetsCased
  rw [List.dropWhile_append]
  cases hrest : context.dropWhile fun c => inRanges ignorableRanges c.toNat with
  | nil => simp [hcolons]
  | cons c rest => simp

/-- Lower case of a text depends on what is before only by whether this meets a cased character. -/
theorem lowerAfter_congr {before before' : List Char}
    (h : ∀ front, meetsCased (front ++ before) = meetsCased (front ++ before'))
    (text : List Char) : lowerAfter before text = lowerAfter before' text := by
  induction text generalizing before before' with
  | nil => rfl
  | cons c rest ih =>
      have hhere : lowerAt before c rest = lowerAt before' c rest := by
        have hfront := h []
        rw [List.nil_append, List.nil_append] at hfront
        unfold lowerAt
        rw [hfront]
      rw [lowerAfter_cons, lowerAfter_cons, hhere]
      congr 1
      refine ih fun front => ?_
      have hnext := h (front ++ [c])
      rwa [List.append_assoc, List.append_assoc] at hnext

/-- A marker at the front stays, and what follows is brought to lower case by itself. -/
theorem lowerAfter_marker (rest : List Char) :
    lowerAfter [] (':' :: ':' :: rest) = ':' :: ':' :: lowerAfter [] rest := by
  rw [lowerAfter_cons, lowerAfter_cons, lowerAt_colon, lowerAt_colon]
  refine congrArg (fun text => ':' :: ':' :: text) (lowerAfter_congr (fun front => ?_) rest)
  rw [List.append_nil, meetsCased_append_colons]

/-- Lower case makes no marker. -/
theorem marker_of_lowerAfter {text : List Char} (h : [':', ':'] <+: lowerAfter [] text) :
    [':', ':'] <+: text := by
  obtain ⟨tail, htail⟩ := h
  rw [List.cons_append, List.singleton_append] at htail
  cases text with
  | nil => cases htail
  | cons c rest =>
      rw [lowerAfter_cons] at htail
      by_cases hc : c = ':'
      · subst hc
        rw [lowerAt_colon, List.singleton_append, List.cons.injEq] at htail
        cases rest with
        | nil => cases htail.2
        | cons d rest =>
            rw [lowerAfter_cons] at htail
            by_cases hd : d = ':'
            · subst hd
              exact ⟨rest, rfl⟩
            · obtain ⟨first, after, heq, hfirst⟩ := exists_lowerAt hd [':'] rest
              rw [heq, List.cons_append, List.cons.injEq] at htail
              exact absurd htail.2.1.symm hfirst
      · obtain ⟨first, after, heq, hfirst⟩ := exists_lowerAt hc [] rest
        rw [heq, List.cons_append, List.cons.injEq] at htail
        exact absurd htail.1.symm hfirst

end ModuleGraph.Text

namespace ModuleGraph

/-! ## Names -/

/-- The name begins with a top scope marker. -/
def HasMarker (name : String) : Prop :=
  "::".toList <+: name.toList

instance (name : String) : Decidable (HasMarker name) :=
  inferInstanceAs (Decidable (_ <+: _))

/-- A marker at the front is removed. -/
theorem normalizeName_marker (name : String) : normalizeName ("::" ++ name) = name := by
  have htext : ("::" ++ name).toList = ':' :: ':' :: name.toList := by
    rw [String.toList_append]
    rfl
  simp only [normalizeName, htext, String.ofList_toList]

/-- Lower case neither makes nor removes a marker. -/
theorem hasMarker_lower {name : String} : HasMarker (Text.lower name) ↔ HasMarker name := by
  have hlower : (Text.lower name).toList = Text.lowerAfter [] name.toList :=
    String.toList_ofList
  unfold HasMarker
  rw [hlower]
  constructor
  · exact Text.marker_of_lowerAfter
  · intro hmarker
    obtain ⟨rest, hrest⟩ := hmarker
    have htext : name.toList = ':' :: ':' :: rest := hrest.symm
    rw [htext, Text.lowerAfter_marker]
    exact ⟨_, rfl⟩

/-- It makes no difference whether the marker is removed before or after a name is brought to lower
case. -/
theorem normalizeName_lower (name : String) :
    normalizeName (Text.lower name) = Text.lower (normalizeName name) := by
  by_cases hmarker : HasMarker name
  · obtain ⟨rest, hrest⟩ := hmarker
    have htext : name.toList = ':' :: ':' :: rest := hrest.symm
    simp only [normalizeName, Text.lower, htext, String.toList_ofList, Text.lowerAfter_marker]
  · rw [normalizeName_eq_self hmarker, normalizeName_eq_self (mt hasMarker_lower.1 hmarker)]

/-- The name of a symbol is registered as it is if there is no second marker in what it comes
from. -/
theorem normalizeName_symbolName {name : String} (h : ¬ HasMarker (normalizeName name)) :
    normalizeName (symbolName name) = symbolName name :=
  normalizeName_eq_self (mt hasMarker_lower.1 h)

end ModuleGraph
