import ModuleGraph.Proofs.Reloading
import ModuleGraph.Proofs.Scanning
import ModuleGraph.Proofs.Shapes

/-!
# Contents of files

For every content of a file this module says whether reading it is contained, that is, gives a
result or a failure that the user is told:

* for a snapshot and a known-warnings text, exactly if the content is UTF-8,
* for metadata, a catalogue and the dump of a syntax tree, if besides the JSON in it has its shape.
  Where the text is no JSON at all, the user is told, except about a catalogue.
-/

namespace ModuleGraph

/-! ## Files -/

/-- The content is UTF-8, and its text is JSON of a shape. Where that is told, the text may also be
no JSON, but it may not be nested beyond a depth, or have an integer of too many digits. -/
def HasJson (depth : Nat) (malformedTold : Prop) (shape : Json → Prop) (bytes : ByteArray) : Prop :=
  ∃ text, FileSystem.decodeText bytes = .ok text ∧
    match Json.parse depth text.toList with
    | .ok value => shape value
    | .error .malformed => malformedTold
    | .error _ => False

/-- Bytes are decoded if they are UTF-8, and fail in one way otherwise. -/
theorem decodeText_cases (bytes : ByteArray) :
    (bytes.IsValidUTF8 ∧ ∃ text, FileSystem.decodeText bytes = .ok text) ∨
      (¬ bytes.IsValidUTF8 ∧ FileSystem.decodeText bytes = .error .undefinedOperation) := by
  unfold FileSystem.decodeText Text.decode? String.fromUTF8?
  by_cases hvalid : bytes.IsValidUTF8
  · rw [dif_pos hvalid]
    exact .inl ⟨hvalid, _, rfl⟩
  · rw [dif_neg hvalid]
    exact .inr ⟨hvalid, rfl⟩

section Files

variable {files : FileSystem} {path : Path} {bytes : ByteArray}

/-- The text of a file is that of its content. -/
theorem readText_of_readBytes (hread : files.readBytes path = .ok bytes) :
    files.readText path = FileSystem.decodeText bytes := by
  unfold FileSystem.readText
  rw [hread]
  rfl

/-- Of a file whose content is there, the failure to open it is not met. -/
theorem readText_translated {α : Type} (hread : files.readBytes path = .ok bytes) (told : Failure)
    (read : String → Except Failure α) :
    (match files.readText path with
      | .error .fileSystem => .error told >>= read
      | outcome => outcome >>= read) = FileSystem.decodeText bytes >>= read := by
  rw [readText_of_readBytes hread]
  obtain ⟨-, text, htext⟩ | ⟨-, hfailure⟩ := decodeText_cases bytes
  · rw [htext]
  · rw [hfailure]

/-- Reading the text of a content is contained if it is UTF-8 and reading on is. -/
theorem contained_text_iff {α : Type} {read : String → Except Failure α} :
    Contained (FileSystem.decodeText bytes >>= read) ↔
      ∃ text, FileSystem.decodeText bytes = .ok text ∧ Contained (read text) := by
  obtain ⟨-, text, htext⟩ | ⟨-, hfailure⟩ := decodeText_cases bytes
  · rw [htext]
    refine ⟨fun h => ⟨text, rfl, h⟩, ?_⟩
    rintro ⟨_, hsame, h⟩
    cases hsame
    exact h
  · rw [hfailure]
    refine Json.requires_undefinedOperation.contained_iff.trans (iff_of_false id ?_)
    rintro ⟨_, hsame, _⟩
    cases hsame

/-- Where everything that a text may say is answered, UTF-8 is enough. -/
theorem contained_utf8_iff {α : Type} {read : String → Except Failure α}
    (hread : ∀ text, Contained (read text)) :
    Contained (FileSystem.decodeText bytes >>= read) ↔ bytes.IsValidUTF8 := by
  rw [contained_text_iff]
  obtain ⟨hvalid, text, htext⟩ | ⟨hinvalid, hfailure⟩ := decodeText_cases bytes
  · exact iff_of_true ⟨text, htext, hread text⟩ hvalid
  · refine iff_of_false ?_ hinvalid
    rintro ⟨_, hsame, _⟩
    rw [hfailure] at hsame
    cases hsame

/-- Reading the JSON in a content is contained if it has the shape that its reader answers. -/
theorem contained_json_iff {α : Type} {depth : Nat} {read : Json → Except Failure α}
    {shape : Json → Prop} {told : Failure} {malformedTold : Prop}
    (htold : told.IsTold ↔ malformedTold)
    (hshape : ∀ value, Contained (read value) ↔ shape value) :
    Contained (do
      let text ← FileSystem.decodeText bytes
      match Json.parse depth text.toList with
      | .ok value => read value
      | .error fault => throw (fault.toFailure told)) ↔
        HasJson depth malformedTold shape bytes := by
  rw [contained_text_iff]
  refine exists_congr fun text => and_congr_right fun _ => ?_
  cases Json.parse depth text.toList with
  | ok value => exact hshape value
  | error fault =>
      cases fault with
      | malformed => exact contained_error.trans htold
      | tooDeep => exact Json.requires_undefinedOperation.contained_iff
      | longInteger => exact Json.requires_badValue.contained_iff

/-- Reading metadata is contained if the content is JSON of their shape, or no JSON at all. -/
theorem contained_parseMetadata_iff (hread : files.readBytes path = .ok bytes) :
    Contained (ModuleDirectory.parseMetadata files path) ↔
      HasJson (files.limits path).json True Json.IsMetadata bytes := by
  have htold : (Failure.metadataUnreadable path.toText).IsTold ↔ True := iff_of_true rfl trivial
  exact (Iff.of_eq (congrArg Contained (readText_translated hread _ _))).trans
    (contained_json_iff htold fun value => (Metadata.reads_ofJson value).contained_iff)

/-- Loading a snapshot is contained if the content is UTF-8. -/
theorem contained_load_iff (hread : files.readBytes path = .ok bytes) :
    Contained (Snapshot.load files path) ↔ bytes.IsValidUTF8 := by
  refine (Iff.of_eq (congrArg Contained
    (readText_translated hread (.stateUnreadable path.toText) _))).trans
      (contained_utf8_iff fun text => ?_)
  dsimp only
  split
  · exact contained_error.2 rfl
  · split
    · exact contained_ok _
    · exact contained_error.2 rfl

/-- Whatever is wrong in the lines of a known-warnings text is told. -/
theorem Statement.contained_parseLines (file : String) (number : Nat) (lines : List (List Char)) :
    Contained (Statement.parseLines file number lines) := by
  induction lines generalizing number with
  | nil => exact contained_ok _
  | cons line rest ih =>
      unfold Statement.parseLines
      split
      · exact ih _
      · exact ih _
      · split
        · exact contained_error.2 rfl
        · next warning _ => exact (contained_map (warning :: ·)).2 (ih _)

/-- Accepting known warnings is contained if the content is UTF-8. -/
theorem contained_loadKnown_iff (hread : files.readBytes path = .ok bytes) (scanner : Scanner) :
    Contained (runFrom (Scanner.loadKnown files path) scanner).1 ↔ bytes.IsValidUTF8 := by
  have htext := readText_of_readBytes hread
  obtain ⟨hvalid, text, hdecode⟩ | ⟨hinvalid, hfailure⟩ := decodeText_cases bytes
  · refine iff_of_true ?_ hvalid
    rw [hdecode] at htext
    obtain ⟨haccepted, hrefused⟩ := Scanner.runFrom_loadKnown htext scanner
    cases hparse : Statement.parseAll path.toText text with
    | ok warnings =>
        rw [(haccepted warnings hparse).1]
        exact contained_ok _
    | error failure =>
        rw [hrefused failure hparse, contained_error]
        exact Statement.contained_parseLines _ _ _ failure hparse
  · rw [hfailure] at htext
    unfold Scanner.loadKnown
    rw [htext]
    exact Json.requires_undefinedOperation.contained_iff.trans (iff_of_false id hinvalid)

/-- Reading a catalogue is contained if the content is JSON of its shape. -/
theorem contained_loadBuiltins_iff (hread : files.readBytes path = .ok bytes) :
    Contained (Scanner.loadBuiltins files (some path)) ↔
      HasJson (files.limits path).json False Json.IsCatalogue bytes := by
  simp only [Scanner.loadBuiltins, readText_of_readBytes hread]
  exact contained_json_iff (iff_of_false (by decide) id) fun value =>
    (Builtins.reads_ofJson value).contained_iff

/-- A file whose content can be read is there. -/
theorem isFile_of_readBytes (hread : files.readBytes path = .ok bytes) :
    files.isFile path = .ok true := by
  unfold FileSystem.readBytes at hread
  unfold FileSystem.isFile FileSystem.hasEntry
  cases hlook : files.lookUp path with
  | error failure =>
      rw [hlook] at hread
      cases hread
  | ok found =>
      have hcheck : (FileSystem.check path).isOk = true := by
        unfold FileSystem.lookUp at hlook
        cases hcheck : FileSystem.check path with
        | error failure =>
            rw [hcheck] at hlook
            cases hlook
        | ok _ => rfl
      rw [hlook] at hread
      cases found with
      | none => cases hread
      | some entry =>
          cases entry with
          | file content => rw [if_pos hcheck]; rfl
          | directory entries => cases hread

/-- Loading the dump of a source file is contained if the content is no JSON or JSON that is
answered as a dump. -/
theorem contained_loadTree_iff {suffix : String} {source dump : Path}
    (hname : source.withName? (source.name ++ suffix) = some dump)
    (hread : files.readBytes dump = .ok bytes) :
    Contained (loadTree files suffix source) ↔
      HasJson (files.limits dump).json True (Json.AnswersAsDump (files.limits dump).tree)
        bytes := by
  simp only [loadTree, hname, isFile_of_readBytes hread, readText_of_readBytes hread]
  exact contained_json_iff (iff_of_true rfl trivial) fun value =>
    SourceTree.contained_ofJson_iff _ dump.toText value

end Files

/-! ## Module directories -/

/-- A step before others that never fail is contained if it is by itself. -/
theorem contained_bind_iff {σ α β : Type} {step : ExceptT Failure (StateM σ) α}
    {next : α → ExceptT Failure (StateM σ) β} {state : σ}
    (hnext : ∀ value between, Contained (runFrom (next value) between).1) :
    Contained (runFrom (step >>= next) state).1 ↔ Contained (runFrom step state).1 := by
  rw [runFrom_bind]
  cases runFrom step state with
  | mk outcome between =>
      cases outcome with
      | ok value => exact iff_of_true (hnext value between) (contained_ok value)
      | error failure => exact contained_error.trans contained_error.symm

namespace ModuleDirectory

variable {files : FileSystem} {path : Path} {bytes : ByteArray}

/-- Loading metadata is contained if their content is JSON of their shape, or no JSON at all. -/
theorem contained_loadMetadata_iff {directory : ModuleDirectory} {journal : Array Record}
    (hread : files.readBytes directory.metadataPath = .ok bytes) :
    Contained (runFrom (loadMetadata files) (directory, journal)).1 ↔
      HasJson (files.limits directory.metadataPath).json True Json.IsMetadata bytes := by
  have hload : runFrom (loadMetadata files) (directory, journal) =
      runFrom (lift (parseMetadata files directory.metadataPath)) (directory,
        journal.push ⟨.debug, "Loading metadata from " ++ directory.metadataPath.toText⟩) := rfl
  rw [hload, runFrom_lift]
  exact contained_parseMetadata_iff hread

/-- The metadata file is found where its content is. -/
theorem runFrom_readHasMetadata {directory : ModuleDirectory} {journal : Array Record}
    (hread : files.readBytes directory.metadataPath = .ok bytes) :
    runFrom (readHasMetadata files) (directory, journal) = (.ok true, directory, journal) := by
  rw [← isFile_of_readBytes hread]
  exact runFrom_lift _ _

/-- What is found out about a control repository is kept. -/
theorem runFrom_readControlRepo {controlRepo : Bool}
    (hrepo : isControlRepo files path = .ok controlRepo) (journal : Array Record) :
    runFrom (readControlRepo files) ({ path }, journal) =
      (.ok controlRepo, { path, controlRepo := some controlRepo }, journal) := by
  have hlift : runFrom (readControlRepo files) ({ path }, journal) =
    runFrom (lift (isControlRepo files path) >>= fun flag => do
      set (({ path, controlRepo := some flag } : ModuleDirectory), journal)
      return flag) ({ path }, journal) := rfl
  rw [hlift, hrepo]
  rfl

/-- Metadata that were read are kept. -/
def keepMetadata (metadata : Metadata) : DirectoryRead Metadata := do
  modify fun (directory, journal) => ({ directory with metadata := some metadata }, journal)
  return metadata

/-- Reading the metadata of a directory is contained if the content of the file is JSON of their
shape, or no JSON at all. -/
theorem contained_readMetadata_iff
    (hread : files.readBytes (path.child "metadata.json") = .ok bytes)
    (journal : Array Record) :
    Contained (runFrom (readMetadata files) ({ path }, journal)).1 ↔
      HasJson (files.limits (path.child "metadata.json")).json True Json.IsMetadata bytes := by
  have hrun : runFrom (readMetadata files) ({ path }, journal) =
      runFrom (readHasMetadata files >>= fun present =>
        if present then loadMetadata files >>= keepMetadata else pure .absent >>= keepMetadata)
          ({ path }, journal) := rfl
  have hkeep (metadata : Metadata) (between : ModuleDirectory × Array Record) :
      Contained (runFrom (keepMetadata metadata) between).1 := contained_ok metadata
  rw [hrun, runFrom_bind, runFrom_readHasMetadata hread]
  exact (contained_bind_iff hkeep).trans (contained_loadMetadata_iff hread)

/-- A name that was found is kept. -/
def keepName (name : String) : DirectoryRead String := do
  modify fun (directory, journal) => ({ directory with name := some name }, journal)
  return name

/-- The name that a directory has by its metadata. -/
def nameFrom (path : Path) (metadata : Metadata) : DirectoryRead String :=
  match metadata.name with
  | some name => pure (ModuleName.withoutAuthor (if name == "" then path.name else name))
  | none => pure (ModuleName.withoutAuthor path.name)

/-- Metadata that were read give a name. -/
theorem contained_nameFrom (metadata : Metadata) (state : ModuleDirectory × Array Record) :
    Contained (runFrom (nameFrom path metadata) state).1 := by
  unfold nameFrom
  cases metadata.name with
  | some name => exact contained_ok _
  | none => exact contained_ok _

/-- Where there are metadata, they give the name of a directory that is no control repository. -/
theorem runFrom_deriveName (hread : files.readBytes (path.child "metadata.json") = .ok bytes)
    (hrepo : isControlRepo files path = .ok false) (journal : Array Record) :
    runFrom (deriveName files) ({ path }, journal) =
      runFrom (loadMetadata files >>= nameFrom path)
        ({ path, controlRepo := some false }, journal) := by
  have hpresent : runFrom (readHasMetadata files >>= fun present =>
        if present then loadMetadata files >>= nameFrom path
        else lift (files.isPresent (path.child "manifests")) >>= fun present =>
          if present then pure (ModuleName.withoutAuthor path.name) else pure "")
        ({ path, controlRepo := some false }, journal) =
      runFrom (loadMetadata files >>= nameFrom path)
        ({ path, controlRepo := some false }, journal) := by
    rw [runFrom_bind, runFrom_readHasMetadata hread]
    rfl
  unfold deriveName
  rw [runFrom_bind, runFrom_readControlRepo hrepo]
  exact hpresent

/-- Reading the name of a directory does not touch the metadata of a control repository. Otherwise
it is contained if the content of the file is JSON of their shape, or no JSON at all. -/
theorem contained_readName_iff (hread : files.readBytes (path.child "metadata.json") = .ok bytes)
    {controlRepo : Bool} (hrepo : isControlRepo files path = .ok controlRepo)
    (journal : Array Record) :
    Contained (runFrom (readName files) ({ path }, journal)).1 ↔
      controlRepo = true ∨
        HasJson (files.limits (path.child "metadata.json")).json True Json.IsMetadata bytes := by
  have hrun : runFrom (readName files) ({ path }, journal) =
      runFrom (deriveName files >>= keepName) ({ path }, journal) := rfl
  have hkeep (name : String) (between : ModuleDirectory × Array Record) :
      Contained (runFrom (keepName name) between).1 := contained_ok name
  rw [hrun, contained_bind_iff hkeep]
  cases controlRepo with
  | true =>
      unfold deriveName
      rw [runFrom_bind, runFrom_readControlRepo hrepo]
      exact iff_of_true (contained_ok _) (.inl rfl)
  | false =>
      rw [runFrom_deriveName hread hrepo, contained_bind_iff contained_nameFrom,
        contained_loadMetadata_iff hread]
      simp only [Bool.false_eq_true, false_or]
      exact Iff.rfl

end ModuleDirectory

end ModuleGraph
