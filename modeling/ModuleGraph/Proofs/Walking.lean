import ModuleGraph.Proofs.Designations
import ModuleGraph.Proofs.LocalFacts
import ModuleGraph.Proofs.Places
import ModuleGraph.Proofs.Recording

/-!
# A walk through a tree

Reading a tree hands claims down from node to node. The theorem `readSource_refines_places` gives
the outcome without them: every place of the tree states its facts in the order of the walk, and a
name is left open if no ancestor designates it and it does not stand where such names are mere data.

Read `ClaimsAbove` first. It says that the claims on a node are exactly the ways on which its
ancestors designate something, and a step down the tree preserves it (`ClaimsAbove.stepDown`).
-/

namespace ModuleGraph

namespace Place

/-- The ancestors of the node, nearest first. -/
def ancestors (place : Place) : List Node :=
  place.above.map Prod.fst

/-- What the node of a place states: that it was met, and its local facts. -/
def facts (file : SourceFile) (place : Place) : List Fact :=
  .note (place.node.foundNote place.ancestors.length) ::
    place.node.localFacts file (hostOf place.ancestors) (resourceOf place.ancestors)

/-- An ancestor designates the node. -/
def IsDesignated (place : Place) : Prop :=
  ∃ entry ∈ place.above, entry.1.Designates entry.2

instance (place : Place) : Decidable place.IsDesignated :=
  inferInstanceAs (Decidable (∃ entry ∈ place.above, entry.1.Designates entry.2))

/-- The node is a name whose meaning is open. -/
def Open (place : Place) : Prop :=
  place.node.isNameBelow place.ancestors = true ∧ ¬ place.IsDesignated

instance (place : Place) : Decidable place.Open :=
  inferInstanceAs (Decidable (_ ∧ _))

/-- The node, if it is a name whose meaning is open. -/
def openNames (place : Place) : List Node :=
  if place.Open then [place.node] else []

/-- The names whose meaning is open, one place after another. -/
theorem flatMap_openNames (places : List Place) :
    places.flatMap openNames = (places.filter fun place => place.Open).map Place.node := by
  induction places with
  | nil => rfl
  | cons place rest ih =>
      rw [List.flatMap_cons, ih, List.filter_cons, openNames]
      by_cases hopen : place.Open <;> simp [hopen]

end Place

/-- The claims on a node are the ways on which its ancestors designate something. -/
def ClaimsAbove (above : List (Node × Claim)) (claims : List Claim) : Prop :=
  ∀ way, way ∈ claims ↔ ∃ entry ∈ above, entry.1.Designates (entry.2 ++ way)

/-- The claims that lead through a child are those that begin with the step to it. -/
theorem mem_claimsBelow {step : Step} {claims : List Claim} {way : Claim} :
    way ∈ claimsBelow step claims ↔ step :: way ∈ claims := by
  unfold claimsBelow
  rw [List.mem_filterMap]
  constructor
  · intro hgiven
    obtain ⟨claim, hclaim, hway⟩ := hgiven
    cases claim with
    | nil => cases hway
    | cons first rest =>
        dsimp only at hway
        split at hway
        · next hfirst =>
            cases hway
            exact hfirst ▸ hclaim
        · cases hway
  · intro hclaim
    exact ⟨step :: way, hclaim, if_pos rfl⟩

/-- At the root of a tree, there are no claims. -/
theorem claimsAbove_root : ClaimsAbove [] [] := by
  intro way
  simp

/-- A step down keeps the claims right: a child sees what its parent sees and what it
designates. -/
theorem ClaimsAbove.stepDown {above : List (Node × Claim)} {claims own : List Claim} {node : Node}
    (h : ClaimsAbove above claims) (hown : ∀ way, way ∈ own ↔ node.Designates way) (step : Step) :
    ClaimsAbove (stepDown node above step) (claimsBelow step (claims ++ own)) := by
  intro way
  rw [mem_claimsBelow, List.mem_append, h, hown]
  unfold ModuleGraph.stepDown
  rw [List.exists_mem_cons_iff]
  simp only [List.mem_map, List.singleton_append]
  constructor
  · intro hcases
    rcases hcases with ⟨entry, hentry, hway⟩ | hway
    · refine Or.inr ⟨_, ⟨entry, hentry, rfl⟩, ?_⟩
      rwa [List.append_assoc, List.singleton_append]
    · exact Or.inl hway
  · intro hcases
    rcases hcases with hway | ⟨_, ⟨entry, hentry, rfl⟩, hway⟩
    · exact Or.inr hway
    · rw [List.append_assoc, List.singleton_append] at hway
      exact Or.inl ⟨entry, hentry, hway⟩

/-- A node is claimed if an ancestor designates it. -/
theorem ClaimsAbove.contains_nil {claims : List Claim} (place : Place)
    (h : ClaimsAbove place.above claims) : claims.contains [] = decide place.IsDesignated := by
  rw [Bool.eq_iff_iff, List.contains_iff_mem, h, decide_eq_true_eq]
  simp only [List.append_nil]
  rfl

/-- The ancestors of a child are its parent and the ancestors of its parent. -/
theorem map_fst_stepDown (node : Node) (above : List (Node × Claim)) (step : Step) :
    (stepDown node above step).map Prod.fst = node :: above.map Prod.fst := by
  simp [stepDown]

/-- A tree that can be read states the facts of its places in order, and leaves the open ones
open. -/
theorem Node.reading_eq_places {file : SourceFile} (node : Node) (above : List (Node × Claim))
    (claims : List Claim) (hclaims : ClaimsAbove above claims)
    (h : (node.reading file (above.map Prod.fst) claims).failure = none) :
    (node.reading file (above.map Prod.fst) claims).facts =
        (node.places above).flatMap (Place.facts file) ∧
      (node.reading file (above.map Prod.fst) claims).pending =
        (node.places above).flatMap Place.openNames := by
  -- By induction on the tree, for all ancestors and claims that belong to them.
  induction node using Node.inductionOnChildren generalizing above claims with
  | h node ih =>
      rw [reading_eq_join] at h ⊢
      obtain ⟨hown, hjoin⟩ := Reading.failure_append_eq_none.1 h
      have hchild (entry : Step × Node) (hentry : entry ∈ node.steps) :
          (Node.readingAt file (node :: above.map Prod.fst) (claims ++ (node.ownReading file
              (above.map Prod.fst) (claims.contains [])).claims) entry).facts =
            (entry.2.places (stepDown node above entry.1)).flatMap (Place.facts file) ∧
          (Node.readingAt file (node :: above.map Prod.fst) (claims ++ (node.ownReading file
              (above.map Prod.fst) (claims.contains [])).claims) entry).pending =
            (entry.2.places (stepDown node above entry.1)).flatMap Place.openNames := by
        -- A step down keeps the claims right, so the child is read as its places say.
        have hbelow := hclaims.stepDown (fun way => mem_claims_iff_designates hown) entry.1
        have hread := Reading.failure_join_eq_none.1 hjoin _ (List.mem_map_of_mem hentry)
        unfold Node.readingAt at hread ⊢
        rw [← map_fst_stepDown node above entry.1] at hread ⊢
        exact ih entry hentry _ _ hbelow hread
      have hopen : (node.ownReading file (above.map Prod.fst) (claims.contains [])).pending =
          Place.openNames ⟨node, above⟩ := by
        have hclaimed := ClaimsAbove.contains_nil ⟨node, above⟩ hclaims
        rw [pending_ownReading, hclaimed]
        unfold Place.openNames Place.Open
        refine if_congr ?_ rfl rfl
        simp [Place.ancestors]
      rw [flatMap_places, flatMap_places]
      constructor
      · rw [Reading.facts_append hown, facts_ownReading hown, Reading.facts_join hjoin,
          List.flatMap_map]
        refine congrArg (_ ++ ·) (List.flatMap_congr fun entry hentry => (hchild entry hentry).1)
      · rw [Reading.pending_append hown, hopen, Reading.pending_join hjoin, List.flatMap_map]
        refine congrArg (_ ++ ·) (List.flatMap_congr fun entry hentry => (hchild entry hentry).2)

/-- What becomes known as unhandled at the places of a tree are the kinds of its nodes that nothing
handles. -/
theorem Node.unhandled_facts_places (file : SourceFile) (root : Node) :
    ((root.places []).flatMap (Place.facts file)).filterMap Fact.unhandled? =
      root.preorder.filterMap Node.unhandledKind? := by
  rw [← map_node_places [] root, List.filterMap_flatMap, List.filterMap_map,
    List.filterMap_eq_flatMap_toList]
  refine List.flatMap_congr fun place _ => ?_
  exact unhandled_localFacts file _ _ place.node

/-- Reading a file that can be read refines what its places say. The places are visited in the order
in which every node comes before its children, once each. They state their facts in this order, and
what they state is recorded, followed by one message for each open name. The names returned are the
open ones in this order, and the kinds that become known as unhandled are those of the nodes that
nothing handles, in this order too. -/
theorem readSource_refines_places {owner : String} {file : SourceFile} {root : Node}
    {state state' : Context × Dependencies} {names : List Node}
    (h : readSource owner file root state = (.ok names, state')) :
    (root.places []).map Place.node = root.preorder ∧
    state' = Fact.recordAll owner state
      (.note ("Parsing " ++ file.name) :: (root.places []).flatMap (Place.facts file) ++
        names.map fun name => .warn (unresolvedMessage file name)) ∧
    names = ((root.places []).filter fun place => place.Open).map Place.node ∧
    state'.1.unhandledKinds =
      state.1.unhandledKinds ++ root.preorder.filterMap Node.unhandledKind? := by
  obtain ⟨hfailure, hnames, hstate⟩ := readSource_eq_ok_iff.1 h
  obtain ⟨hfacts, hpending⟩ := Node.reading_eq_places root [] [] claimsAbove_root hfailure
  rw [List.map_nil] at hfacts hpending
  rw [hfacts] at hstate
  refine ⟨Node.map_node_places [] root, hstate, ?_, ?_⟩
  · rw [hnames, hpending, Place.flatMap_openNames]
  · have hwarnings : (names.map fun name => Fact.warn (unresolvedMessage file name)).filterMap
        Fact.unhandled? = [] := by
      simp [Fact.unhandled?]
    rw [hstate, Fact.recordAll_unhandledKinds, List.filterMap_append, hwarnings,
      List.append_nil, List.filterMap_cons_none rfl, Node.unhandled_facts_places]

/-- A bare word. -/
def word (text : String) : Node :=
  .mk (.str "QualifiedName") [("value", .scalar (.str text))] 0 0

/-- A program that assigns one word to a variable, and has a statement of an unknown kind around
another one. -/
def strayWord : Node :=
  .mk (.str "Program") [("body", .list [
    .node (.mk (.str "AssignmentExpression") [
      ("left_expr", .node (.mk (.str "VariableExpression") [("expr", .node (word "mode"))] 0 0)),
      ("right_expr", .node (word "fast"))] 0 0),
    .node (.mk (.str "PlanExpression") [("expr", .node (word "stray"))] 0 0)])] 0 0

/-- In this program the name of the variable is settled, and the other two words are open. -/
theorem strayWord_leaves_two_words_open :
    ∃ state', readSource "site" ⟨"init.pp", .null⟩ strayWord ({}, []) =
        (.ok [word "fast", word "stray"], state') ∧
      ((strayWord.places []).filter fun place => place.Open).map Place.node =
        [word "fast", word "stray"] ∧
      state'.1.unhandledKinds = strayWord.preorder.filterMap Node.unhandledKind? := by
  have hread : readSource "site" ⟨"init.pp", .null⟩ strayWord ({}, []) =
      (.ok [word "fast", word "stray"], _) :=
    readSource_eq_ok_iff.2 ⟨by decide +kernel, by rfl, rfl⟩
  obtain ⟨_, _, hopen, hunhandled⟩ := readSource_refines_places hread
  exact ⟨_, hread, hopen.symm, hunhandled⟩

end ModuleGraph
