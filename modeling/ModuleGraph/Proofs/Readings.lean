import ModuleGraph.Reading.Basic
import ModuleGraph.Proofs.Recording

/-!
# Joining readings

A reading that does not fail joins all of its parts: `facts_append`, `claims_append` and
`pending_append` say so for two readings, and the lemmas on `join` and `each` for lists of them.
So what a construct says can be read off its parts one by one.

A reading is `Settled` if it leaves no name open and meets no unknown kind. Everything that the
constructs are made of is settled.
-/

namespace ModuleGraph

/-- The element of a value at a position. -/
def Value.element? (value : Value) (index : Nat) : Option Value :=
  match value.elements with
  | .ok elements => elements[index]?
  | .error _ => none

namespace Reading

variable {first second : Reading}

/-! ## Two readings -/

/-- Two readings do not fail if neither of them does. -/
@[simp] theorem failure_append_eq_none :
    (first ++ second).failure = none ↔ first.failure = none ∧ second.failure = none := by
  show (andThen first second).failure = none ↔ _
  unfold andThen
  cases hfirst : first.failure with
  | none => simp
  | some failure => simp [hfirst]

/-- Nothing is read after a failure. -/
theorem append_of_failure {failure : Failure} (h : first.failure = some failure) :
    first ++ second = first := by
  show andThen first second = first
  simp only [andThen, h]

/-- The second of two readings may fail. -/
theorem failure_append (h : first.failure = none) :
    (first ++ second).failure = second.failure := by
  show (andThen first second).failure = _
  simp only [andThen, h]

/-- The facts of two readings. -/
theorem facts_append (h : first.failure = none) :
    (first ++ second).facts = first.facts ++ second.facts := by
  show (andThen first second).facts = _
  simp only [andThen, h]

/-- One reading after another contains what the first one does. -/
theorem mem_facts_append_left {item : Fact} (h : item ∈ first.facts) :
    item ∈ (first ++ second).facts := by
  cases hfailure : first.failure with
  | none =>
      rw [facts_append hfailure]
      exact List.mem_append_left _ h
  | some failure =>
      rw [append_of_failure hfailure]
      exact h

/-- The claims of two readings. -/
theorem claims_append (h : first.failure = none) :
    (first ++ second).claims = first.claims ++ second.claims := by
  show (andThen first second).claims = _
  simp only [andThen, h]

/-- The names left open in two readings. -/
theorem pending_append (h : first.failure = none) :
    (first ++ second).pending = first.pending ++ second.pending := by
  show (andThen first second).pending = _
  simp only [andThen, h]

/-- Nothing comes before a reading. -/
@[simp] theorem nothing_append (reading : Reading) : nothing ++ reading = reading := rfl

/-- Nothing comes after a reading. -/
@[simp] theorem append_nothing (reading : Reading) : reading ++ nothing = reading := by
  show andThen reading nothing = reading
  obtain ⟨facts, claims, pending, failure⟩ := reading
  cases failure with
  | none => simp [andThen, nothing]
  | some => rfl

/-- Joining readings is associative. -/
theorem append_assoc (first second third : Reading) :
    first ++ second ++ third = first ++ (second ++ third) := by
  show andThen (andThen first second) third = andThen first (andThen second third)
  unfold andThen
  cases hfirst : first.failure with
  | some failure => simp [hfirst]
  | none =>
      cases hsecond : second.failure with
      | some failure => simp [hsecond]
      | none => simp [List.append_assoc]

/-- A reading that comes to its end leaves its names open. -/
theorem outcome_eq_ok {reading : Reading} {names : List Node} :
    reading.outcome = .ok names ↔ reading.failure = none ∧ reading.pending = names := by
  unfold outcome
  split <;> simp [*]

/-- Any other reading ends with its failure. -/
theorem outcome_eq_error {reading : Reading} {failure : Failure} :
    reading.outcome = .error failure ↔ reading.failure = some failure := by
  unfold outcome
  split <;> simp [*]

/-! ## Lists of readings -/

/-- Readings in order, after one another. -/
theorem join_append (readings others : List Reading) :
    join (readings ++ others) = join readings ++ join others := by
  induction readings with
  | nil => rfl
  | cons reading rest ih =>
      rw [List.cons_append, join, ih, join, append_assoc]

/-- Readings in order do not fail if none of them does. -/
theorem failure_join_eq_none {readings : List Reading} :
    (join readings).failure = none ↔ ∀ reading ∈ readings, reading.failure = none := by
  induction readings with
  | nil => simp [join, nothing]
  | cons reading rest ih => simp [join, ih]

/-- The facts of readings in order. -/
theorem facts_join {readings : List Reading} (h : (join readings).failure = none) :
    (join readings).facts = readings.flatMap Reading.facts := by
  induction readings with
  | nil => rfl
  | cons reading rest ih =>
      obtain ⟨hreading, hrest⟩ := failure_append_eq_none.1 h
      rw [join, facts_append hreading, ih hrest, List.flatMap_cons]

/-- The claims of readings in order. -/
theorem claims_join {readings : List Reading} (h : (join readings).failure = none) :
    (join readings).claims = readings.flatMap Reading.claims := by
  induction readings with
  | nil => rfl
  | cons reading rest ih =>
      obtain ⟨hreading, hrest⟩ := failure_append_eq_none.1 h
      rw [join, claims_append hreading, ih hrest, List.flatMap_cons]

/-- The names left open in readings in order. -/
theorem pending_join {readings : List Reading} (h : (join readings).failure = none) :
    (join readings).pending = readings.flatMap Reading.pending := by
  induction readings with
  | nil => rfl
  | cons reading rest ih =>
      obtain ⟨hreading, hrest⟩ := failure_append_eq_none.1 h
      rw [join, pending_append hreading, ih hrest, List.flatMap_cons]

/-! ## The elements of a value -/

/-- If reading the elements of a value does not fail, none of them fails. -/
theorem failure_of_each {value : Value} {read : Nat → Value → Reading}
    (h : (each value read).failure = none) {index : Nat} {element : Value}
    (helement : value.element? index = some element) : (read index element).failure = none := by
  unfold each at h
  unfold Value.element? at helement
  split at h
  · next elements helements =>
      rw [helements] at helement
      rw [failure_join_eq_none] at h
      refine h _ (List.mem_map.2 ⟨(element, index), ?_, rfl⟩)
      exact List.mem_zipIdx_iff_getElem?.2 helement
  · cases h

/-- The claims made on the elements of a value are those made on each of them. -/
theorem mem_claims_each {value : Value} {read : Nat → Value → Reading}
    (h : (each value read).failure = none) {way : Claim} :
    way ∈ (each value read).claims ↔
      ∃ index element, value.element? index = some element ∧ way ∈ (read index element).claims := by
  unfold each at h ⊢
  unfold Value.element?
  cases helements : value.elements with
  | ok elements =>
      rw [helements] at h
      simp only [claims_join h, List.mem_flatMap, List.mem_map, Prod.exists]
      constructor
      · intro hgiven
        obtain ⟨_, ⟨element, index, hmem, rfl⟩, hway⟩ := hgiven
        exact ⟨index, element, List.mem_zipIdx_iff_getElem?.1 hmem, hway⟩
      · intro hgiven
        obtain ⟨index, element, hmem, hway⟩ := hgiven
        exact ⟨_, ⟨element, index, List.mem_zipIdx_iff_getElem?.2 hmem, rfl⟩, hway⟩
  | error failure =>
      rw [helements] at h
      cases h

/-! ## Settled readings -/

/-- No name is left open and no unknown kind is met. -/
structure Settled (reading : Reading) : Prop where
  /-- No name is left open. -/
  pending : reading.pending = []
  /-- No unknown kind is met. -/
  handled : reading.facts.filterMap Fact.unhandled? = []

/-- Where nothing is read, nothing is left open. -/
@[simp] theorem settled_nothing : Settled nothing := ⟨rfl, rfl⟩

/-- A claim is settled. -/
@[simp] theorem settled_claim (way : Claim) : Settled (claim way) := ⟨rfl, rfl⟩

/-- A failure is settled. -/
@[simp] theorem settled_fail (failure : Failure) : Settled (fail failure) := ⟨rfl, rfl⟩

/-- A definition is settled. -/
@[simp] theorem settled_define (category : Category) (name : String) :
    Settled (define category name) := ⟨rfl, rfl⟩

/-- A fact other than that of an unknown kind. -/
theorem settled_fact {item : Fact} (h : item.unhandled? = none) : Settled (fact item) :=
  ⟨rfl, by simp [fact, h]⟩

/-- Two readings are settled if both are. -/
@[simp] theorem Settled.append (hfirst : Settled first) (hsecond : Settled second) :
    Settled (first ++ second) := by
  cases hfailure : first.failure with
  | none =>
      constructor
      · rw [pending_append hfailure, hfirst.pending, hsecond.pending]
        rfl
      · rw [facts_append hfailure, List.filterMap_append, hfirst.handled, hsecond.handled]
        rfl
  | some failure =>
      rw [append_of_failure hfailure]
      exact hfirst

/-- Readings in order are settled if all of them are. -/
theorem settled_join {readings : List Reading} (h : ∀ reading ∈ readings, Settled reading) :
    Settled (join readings) := by
  induction readings with
  | nil => exact settled_nothing
  | cons reading rest ih =>
      obtain ⟨hreading, hrest⟩ := List.forall_mem_cons.1 h
      exact hreading.append (ih hrest)

/-- What is read from the elements of a value is settled if what is read from each is. -/
theorem settled_each (value : Value) {read : Nat → Value → Reading}
    (h : ∀ index element, Settled (read index element)) : Settled (each value read) := by
  unfold each
  split
  · refine settled_join fun reading hreading => ?_
    obtain ⟨⟨element, index⟩, _, rfl⟩ := List.mem_map.1 hreading
    exact h index element
  · exact settled_fail _

/-- A construct that is not supported is settled: it fails. -/
@[simp] theorem settled_unsupported (file : SourceFile) (node : Node) (construct found : String) :
    Settled (unsupported file node construct found) := by
  unfold unsupported
  split <;> exact settled_fail _

/-- A reference is settled. -/
@[simp] theorem settled_refer (file : SourceFile) (category : Category) (name : String) :
    Settled (refer file category name) :=
  (settled_fact rfl).append (settled_fact rfl)

/-- A reference to what a value names is settled. -/
@[simp] theorem settled_referTo (file : SourceFile) (category : Category) (value : Value) :
    Settled (referTo file category value) := by
  unfold referTo
  split
  · exact settled_refer _ _ _
  · exact (settled_fact rfl).append (settled_fail _)

end Reading

end ModuleGraph
