import ModuleGraph.Proofs.Suppression
import ModuleGraph.Proofs.TornStatements

/-!
# Keeping the warnings of a run

The warnings that a run evaluated are written to a file, the file is loaded into a fresh run, and
the same operations are carried out again. `reloading_silences_iff_oneLine` says when that silences
them: the file can be written unless a string holds half of a surrogate pair, it can be loaded
exactly if the strings are free of line boundaries, and then nothing but remarks surfaces.
-/

namespace ModuleGraph

/-! ## Statements in a file -/

namespace Statement

/-- A code point other than the escaped ones is written without them. -/
theorem toNat_ne_of_mem_writePoint {point : Nat} (hbound : point < 0x110000) {c : Char}
    (hc : c ∈ Text.writePoint point) {mark : Nat} (hpoint : point ≠ mark)
    (hmark : mark < Text.firstStandIn) : c.toNat ≠ mark := by
  have hstandIn : Text.firstStandIn = 0x10A800 := rfl
  have hfirst : Text.firstHalf = 0xD800 := rfl
  unfold Text.writePoint at hc
  split at hc
  · next hhalf =>
      rw [List.mem_singleton] at hc
      obtain ⟨hlow, hhigh⟩ := (Text.isHalf_iff point).1 hhalf
      have hvalue : c.toNat = point - Text.firstHalf + Text.firstStandIn := by
        rw [hc]
        exact Text.toNat_ofNat (Or.inr ⟨by omega, by omega⟩)
      omega
  · next hwhole =>
      rw [Text.isHalf_iff] at hwhole
      have hvalue : (Char.ofNat point).toNat = point :=
        Text.toNat_ofNat (by unfold Nat.isValidChar; omega)
      unfold Text.writeChar at hc
      split at hc
      · rcases List.mem_pair.1 hc with rfl | rfl
        · have hreserve : Text.reserveMark.toNat = 0x10B000 := rfl
          omega
        · omega
      · rw [List.mem_singleton] at hc
        rw [hc]
        omega

/-- Escaping a written text leaves it written. -/
theorem written_escape {half : Bool} {chars : List Char} (h : Text.Written half chars) :
    Text.Written half (chars.flatMap escapeQuote) := by
  obtain ⟨list, hlist, rfl, rfl⟩ := h
  rw [List.flatMap_assoc]
  refine Text.written_flatMap fun point hpoint => ?_
  have hbound := hlist point hpoint
  by_cases hslash : point = 0x5C
  · subst hslash
    exact ⟨[0x5C, 0x5C], by decide, by decide, by decide⟩
  by_cases hquote : point = 0x27
  · subst hquote
    exact ⟨[0x5C, 0x27], by decide, by decide, by decide⟩
  have hplain : (Text.writePoint point).flatMap escapeQuote = Text.writePoint point := by
    refine (List.flatMap_congr fun c hc => ?_).trans (List.flatMap_singleton' _)
    have hnotSlash := toNat_ne_of_mem_writePoint hbound hc hslash (by decide)
    have hnotQuote := toNat_ne_of_mem_writePoint hbound hc hquote (by decide)
    refine if_neg fun hmark => ?_
    simp only [Bool.or_eq_true, decide_eq_true_eq] at hmark
    rcases hmark with rfl | rfl
    · exact hnotSlash rfl
    · exact hnotQuote rfl
  rw [hplain]
  exact ⟨[point], List.forall_mem_singleton.2 hbound, by simp, by simp⟩

/-- A keyword is written as it is. -/
theorem Word.written {text : List Char} (h : Word isKeywordChar text) :
    Text.Written false text := by
  refine Text.written_of_ordinary fun c hc => ?_
  have hletter := h.all c hc
  unfold isKeywordChar at hletter
  simp only [Bool.or_eq_true, Bool.and_eq_true, decide_eq_true_eq, beq_iff_eq] at hletter
  rcases hletter with ⟨_, hhigh⟩ | rfl
  · exact Nat.lt_of_le_of_lt hhigh (by decide)
  · decide

/-- An argument whose value is a text is written. -/
theorem written_argument {kind : WarningKind} {entry : String × String} (h : Writable kind entry)
    (hvalue : Text.IsText entry.2) :
    Text.Written (Text.hasHalf entry.2) (argument kind entry) := by
  have hmarks : Text.Written false [':', ' '] := Text.written_of_ascii (by decide)
  have hquote : Text.Written false ['\x27'] := Text.written_of_ascii (by decide)
  have hwritten : Text.Written (Text.hasHalf entry.2)
      (renderValue (kind.isSymbol entry.1) entry.2).toList := by
    rw [toList_renderValue]
    split
    · have hcolon : Text.Written false [':'] := Text.written_of_ascii (by decide)
      exact hcolon.append hvalue.written
    · have hquoted := (hquote.append (written_escape hvalue.written)).append hquote
      rwa [Bool.false_or, Bool.or_false] at hquoted
  have hargument := (h.name.written.append hmarks).append hwritten
  rwa [Bool.or_self, Bool.false_or, List.append_assoc] at hargument

/-- A string of a warning holds half of a surrogate pair. -/
def holdsHalf (warning : Warning) : Bool :=
  warning.attributes.any fun entry => Text.hasHalf entry.2

/-- The text of warnings whose strings are texts is written. -/
theorem written_renderAll {warnings : List Warning}
    (h : ∀ warning ∈ warnings, ∀ entry ∈ warning.attributes, Text.IsText entry.2) :
    Text.Written (warnings.any holdsHalf) (renderAll warnings).toList := by
  have hperm := (regrouped_grouped warnings).perm
  rw [toList_renderAll, ← hperm.any_eq]
  refine Text.written_flatMap fun warning hwarning => ?_
  have htexts := h warning (hperm.mem_iff.1 hwarning)
  have hspace : Text.Written false [' '] := Text.written_of_ascii (by decide)
  have hcomma : Text.Written false [',', ' '] := Text.written_of_ascii (by decide)
  have hfeed : Text.Written false ['\n'] := Text.written_of_ascii (by decide)
  have harguments := Text.written_intercalate hcomma fun entry hentry =>
    written_argument (warning.writable_attributes entry hentry) (htexts entry hentry)
  have hstatement :=
    ((warning.kind.word_label.written.append hspace).append harguments).append hfeed
  rw [toList_render]
  rw [Bool.or_self, Bool.false_or, Bool.or_false, List.append_assoc _ [' ']] at hstatement
  exact hstatement

end Statement

/-! ## Loading the file -/

/-- Warnings that can be read from a file are accepted, and the fault of a file is the failure. -/
theorem Scanner.runFrom_loadKnown {files : FileSystem} {path : Path} {text : String}
    (htext : files.readText path = .ok text) (scanner : Scanner) :
    (∀ warnings, Statement.parseAll path.toText text = .ok warnings →
      (runFrom (loadKnown files path) scanner).1 = .ok warnings.length ∧
      ∃ journal, (runFrom (loadKnown files path) scanner).2.context =
        scanner.context.hearing
          ({ scanner.context.diagnostics with journal }.addKnown warnings)) ∧
    ∀ failure, Statement.parseAll path.toText text = .error failure →
      (runFrom (loadKnown files path) scanner).1 = .error failure := by
  have hload : runFrom (loadKnown files path) scanner =
      runFrom (lift (Statement.parseAll path.toText text) >>= fun warnings => do
        update fun context =>
          { context with diagnostics := context.diagnostics.addKnown warnings }
        return warnings.length)
      { scanner with
        context := scanner.context.log .info ("Loading known warnings from " ++ path.toText) } := by
    unfold loadKnown
    rw [runFrom_bind]
    show runFrom (lift (files.readText path) >>= _) _ = _
    rw [htext]
    rfl
  rw [hload]
  constructor
  · intro warnings hparse
    rw [hparse]
    exact ⟨rfl, _, rfl⟩
  · intro failure hparse
    rw [hparse]
    rfl

/-- Operations are silenced, apart from remarks, where all warnings that they evaluate are known. -/
theorem runAll_silenced (operations : List Operation) (diagnostics : Diagnostics)
    (hfound : diagnostics.found = []) (hmessages : diagnostics.messages = [])
    (hknown : ∀ warning ∈ (runAll operations {}).2.context.diagnostics.found,
      warning ∈ diagnostics.known) :
    let first := runAll operations {}
    let second := runAll operations (({} : RunState).hearing diagnostics)
    second.1.map Answer.blind = first.1.map Answer.blind ∧ second.2.LearntLike first.2 ∧
      second.2.context.diagnostics.messages = remarksAll operations {} := by
  intro first second
  obtain ⟨sayings, hremarks, hhears, hsame⟩ := runAll_hears operations {}
  obtain ⟨hanswers, hlearnt⟩ := hsame diagnostics {}
  have hlike : second.2.LearntLike first.2 := hlearnt hfound
  refine ⟨hanswers, hlike, ?_⟩
  have hsilent := (hhears diagnostics).messages_of_known fun warning hwarning => by
    rw [show (runAll operations (({} : RunState).hearing diagnostics)).2.context.diagnostics.found =
      first.2.context.diagnostics.found from hlike.found] at hwarning
    exact hknown warning hwarning
  rwa [hmessages, List.nil_append, hremarks] at hsilent

/-- The warnings that a run evaluated are written to a file and loaded into a fresh run, and the run
is repeated there. Writing fails if a string of a warning holds half of a surrogate pair, and only
then. Loading what was written fails if a string has a line boundary, and only then. Once it is
loaded, the repeated run learns and answers the same, and nothing but remarks surfaces. -/
theorem reloading_silences_iff_oneLine (operations : List Operation) (files : FileSystem)
    (path : Path) (scanner : Scanner) (hfresh : scanner.context = {})
    (htexts : ∀ warning ∈ (runAll operations {}).2.context.diagnostics.found,
      ∀ entry ∈ warning.attributes, Text.IsText entry.2) :
    let first := runAll operations {}
    let found := first.2.context.diagnostics.found
    let loaded := runFrom (Scanner.loadKnown files path) scanner
    let second := runAll operations { context := loaded.2.context }
    (Text.encode? (Statement.renderAll found) = none ↔
      ∃ warning ∈ found, ∃ entry ∈ warning.attributes, Text.hasHalf entry.2 = true) ∧
    ∀ bytes, Text.encode? (Statement.renderAll found) = some bytes →
      files.readBytes path = .ok bytes →
      ((∀ warning ∈ found, warning.OneLine) → loaded.1 = .ok found.length ∧
        second.1.map Answer.blind = first.1.map Answer.blind ∧ second.2.LearntLike first.2 ∧
        second.2.context.diagnostics.messages = remarksAll operations {}) ∧
      ((∃ warning ∈ found, ¬ warning.OneLine) →
        ∃ line fault, loaded.1 = .error (.badStatement path.toText line fault)) := by
  intro first found loaded second
  have hwritten : Text.Written (found.any Statement.holdsHalf)
    (Statement.renderAll found).toList := Statement.written_renderAll htexts
  constructor
  · rw [hwritten.encode?_eq_none_iff]
    simp only [List.any_eq_true, Statement.holdsHalf]
  intro bytes hbytes hfile
  obtain ⟨text, hread, hlines⟩ := FileSystem.lines_readText hwritten hbytes hfile
  obtain ⟨hloaded, hfailed⟩ := Scanner.runFrom_loadKnown hread scanner
  have hparse : Statement.parseAll path.toText text =
      Statement.parseAll path.toText (Statement.renderAll found) := by
    unfold Statement.parseAll
    rw [hlines]
  constructor
  · intro honeLine
    have hperm := (Statement.regrouped_grouped found).perm
    obtain ⟨hcount, journal, hcontext⟩ := hloaded (Statement.grouped found)
      (hparse.trans (Statement.parseAll_renderAll_of_oneLine path.toText honeLine))
    rw [hfresh] at hcontext
    have hstart : ({ context := loaded.2.context } : RunState) =
        ({} : RunState).hearing (({ journal } : Diagnostics).addKnown (Statement.grouped found)) :=
      congrArg (fun context => ({ context } : RunState)) hcontext
    refine ⟨hcount.trans (congrArg Except.ok hperm.length_eq), ?_⟩
    have hsilent := runAll_silenced operations
      (({ journal } : Diagnostics).addKnown (Statement.grouped found)) rfl rfl
      fun warning hwarning => Diagnostics.mem_foldl_insertNew.2 (.inr (hperm.mem_iff.2 hwarning))
    rw [← hstart] at hsilent
    exact hsilent
  · rintro ⟨warning, hwarning, htorn⟩
    obtain ⟨line, fault, herror⟩ := Statement.parseAll_renderAll_of_torn path.toText
      fun honeLine => htorn (honeLine warning hwarning)
    exact ⟨line, fault, hfailed _ (hparse.trans herror)⟩

/-- Operations that refer to a class whose name has a line boundary, which nothing defines. -/
def tornOperations : List Operation := [
  .addModule "site" { name := "site", path := .ofText "modules/site" },
  .onModule "site" (.refer .hostClass "web\nserver" "init.pp"),
  .resolve defaultControlModules { names := ["site"] }]

/-- The warning that `tornOperations` evaluate. -/
def tornWarning : Warning := .missingDefinition .hostClass "web\nserver" "init.pp"

/-- Files among which that warning was written. -/
def tornFiles : FileSystem where
  root := .directory [("known", .file (Statement.render tornWarning ++ "\n").toUTF8)]

/-- What was written after `tornOperations` cannot be loaded. -/
theorem tornOperations_not_reloaded :
    (runAll tornOperations {}).2.context.diagnostics.found = [tornWarning] ∧
    ∃ bytes, Text.encode? (Statement.renderAll [tornWarning]) = some bytes ∧
      tornFiles.readBytes (.ofText "/known") = .ok bytes ∧
      ∃ line fault, (runFrom (Scanner.loadKnown tornFiles (.ofText "/known"))
        (Scanner.start { path := .ofText "/" })).1 =
          .error (.badStatement "/known" line fault) := by
  have hfound : (runAll tornOperations {}).2.context.diagnostics.found = [tornWarning] := by
    decide +kernel
  have hbytes : Text.encode? (Statement.renderAll [tornWarning]) =
      some (Statement.render tornWarning ++ "\n").toUTF8 := by decide +kernel
  have htexts : ∀ entry ∈ tornWarning.attributes,
      entry.2.toList.all (fun c => c.toNat < 128) = true := by decide
  refine ⟨hfound, _, hbytes, rfl, ?_⟩
  obtain ⟨_, hreload⟩ := reloading_silences_iff_oneLine tornOperations tornFiles (.ofText "/known")
    (Scanner.start { path := .ofText "/" }) rfl (by
      rw [hfound, List.forall_mem_singleton]
      exact fun entry hentry => (Text.written_of_ascii (htexts entry hentry)).isText)
  rw [hfound] at hreload
  exact (hreload _ hbytes rfl).2 ⟨tornWarning, List.mem_singleton_self _, by decide⟩

end ModuleGraph
