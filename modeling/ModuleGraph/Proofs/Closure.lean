import ModuleGraph.Resolution

/-!
# The closure of direct dependencies

A resolver keeps the direct dependencies of the modules it has resolved. `Reaches` is the relation
that its closure computes: a way of one or more dependencies on which no module between the two
ends is a control module. `mem_closure` says that the closure of a module's dependencies holds
exactly the names that it reaches, whatever cycles there are.
-/

namespace ModuleGraph

/-- A way along dependencies leads from the root to a module, and no module between the two is a
control module. -/
inductive Reaches (depends : String → String → Prop) (control : List String) (root : String) :
    String → Prop
  | direct {name : String} (h : depends root name) : Reaches depends control root name
  | through {between name : String} (h : Reaches depends control root between)
      (hcontrol : between ∉ control) (hdepends : depends between name) :
      Reaches depends control root name

namespace Resolver

/-- The resolver keeps a module among the direct dependencies of another one. -/
def Keeps (resolver : Resolver) (name owner : String) : Prop :=
  owner ∈ (resolver.direct.get? name).getD []

/-- The number of dependencies that are kept for modules not yet seen. -/
def unexpanded (seen : List String) : Table String (List String) → Nat
  | [] => 0
  | (name, dependencies) :: rest =>
    (if name ∈ seen then 0 else dependencies.length) + unexpanded seen rest

/-- Before anything is seen, all dependencies are left. -/
theorem unexpanded_nil (direct : Table String (List String)) :
    unexpanded [] direct = (direct.flatMap (·.2)).length := by
  induction direct with
  | nil => rfl
  | cons entry rest ih => simp [unexpanded, ih]

/-- Seeing one more module leaves no more dependencies. -/
theorem unexpanded_append_le (seen : List String) (name : String)
    (direct : Table String (List String)) :
    unexpanded (seen ++ [name]) direct ≤ unexpanded seen direct := by
  induction direct with
  | nil => exact Nat.le_refl _
  | cons entry rest ih =>
      obtain ⟨key, dependencies⟩ := entry
      by_cases hseen : key ∈ seen
      · simpa [unexpanded, hseen] using ih
      · refine Nat.add_le_add ?_ ih
        rw [if_neg hseen]
        split
        · exact Nat.zero_le _
        · exact Nat.le_refl _

/-- Seeing a new module takes its dependencies off the ones that are left. -/
theorem unexpanded_append_add_le {seen : List String} {name : String} (hname : name ∉ seen)
    (direct : Table String (List String)) :
    unexpanded (seen ++ [name]) direct + ((direct.get? name).getD []).length ≤
      unexpanded seen direct := by
  induction direct with
  | nil => simp [unexpanded, Table.get?]
  | cons entry rest ih =>
      obtain ⟨key, dependencies⟩ := entry
      by_cases hkey : key = name
      · subst hkey
        have hrest := unexpanded_append_le seen key rest
        simp only [unexpanded, Table.get?, hname, List.mem_append, List.mem_singleton, or_true,
          if_true, if_false, Option.getD_some]
        omega
      · simp only [unexpanded, Table.get?, hkey, List.mem_append, List.mem_singleton, or_false,
          if_false]
        omega

variable {resolver : Resolver} {root : String}

/-- A closure holds nothing but what the root reaches, if it starts from such names. -/
theorem reaches_of_mem_closure {steps : Nat} {seen pending : List String} {name : String}
    (hseen : ∀ n ∈ seen, Reaches resolver.Keeps resolver.controlModules root n)
    (hpending : ∀ n ∈ pending, Reaches resolver.Keeps resolver.controlModules root n)
    (h : name ∈ resolver.closure steps seen pending) :
    Reaches resolver.Keeps resolver.controlModules root name := by
  -- The cases are those of the loop: no steps, nothing pending, a name seen before, a control
  -- module, which is seen without its dependencies, and any other module.
  fun_induction closure resolver steps seen pending with
  | case1 seen => exact hseen name h
  | case2 _ seen => exact hseen name h
  | case3 steps seen next pending _ ih =>
      exact ih hseen (fun n hn => hpending n (List.mem_cons_of_mem _ hn)) h
  | case4 steps seen next pending _ _ ih =>
      have hnext := hpending next List.mem_cons_self
      refine ih ?_ (fun n hn => hpending n (List.mem_cons_of_mem _ hn)) h
      intro n hn
      rcases List.mem_append.1 hn with hold | hnew
      · exact hseen n hold
      · rwa [List.mem_singleton.1 hnew]
  | case5 steps seen next pending _ hcontrol ih =>
      have hnext := hpending next List.mem_cons_self
      refine ih ?_ ?_ h
      · intro n hn
        rcases List.mem_append.1 hn with hold | hnew
        · exact hseen n hold
        · rwa [List.mem_singleton.1 hnew]
      · intro n hn
        rcases List.mem_append.1 hn with hold | hnew
        · exact hpending n (List.mem_cons_of_mem _ hold)
        · exact .through hnext hcontrol hnew

/-- Names are seen or pending, and so are the dependencies of every seen module other than a
control module. -/
structure Expanding (resolver : Resolver) (start seen pending : List String) : Prop where
  /-- The names that the closure starts from. -/
  covered : ∀ n ∈ start, n ∈ seen ∨ n ∈ pending
  /-- The dependencies of what is seen. -/
  expanded : ∀ n ∈ seen, n ∉ resolver.controlModules → ∀ owner, resolver.Keeps n owner →
    owner ∈ seen ∨ owner ∈ pending

/-- A name that is not pending any more has to be seen. -/
theorem Expanding.seen_of_mem {start seen pending : List String} {next : String}
    (h : Expanding resolver start seen (next :: pending)) (hnext : next ∈ seen) :
    Expanding resolver start seen pending := by
  have hdrop {n : String} (hn : n ∈ seen ∨ n ∈ next :: pending) : n ∈ seen ∨ n ∈ pending := by
    rcases hn with hold | hnew
    · exact Or.inl hold
    · rcases List.mem_cons.1 hnew with rfl | hlater
      · exact Or.inl hnext
      · exact Or.inr hlater
  exact ⟨fun n hn => hdrop (h.covered n hn), fun n hn hc owner ho =>
    hdrop (h.expanded n hn hc owner ho)⟩

/-- Seeing a pending name whose dependencies, if it is no control module, become pending. -/
theorem Expanding.see {start seen pending added : List String} {next : String}
    (h : Expanding resolver start seen (next :: pending))
    (hadded : next ∉ resolver.controlModules → ∀ owner, resolver.Keeps next owner → owner ∈ added) :
    Expanding resolver start (seen ++ [next]) (pending ++ added) := by
  have hmove {n : String} (hn : n ∈ seen ∨ n ∈ next :: pending) :
      n ∈ seen ++ [next] ∨ n ∈ pending ++ added := by
    rcases hn with hold | hnew
    · exact Or.inl (List.mem_append_left _ hold)
    · rcases List.mem_cons.1 hnew with rfl | hlater
      · exact Or.inl (List.mem_append_right _ (List.mem_singleton.2 rfl))
      · exact Or.inr (List.mem_append_left _ hlater)
  refine ⟨fun n hn => hmove (h.covered n hn), ?_⟩
  intro n hn hc owner ho
  rcases List.mem_append.1 hn with hold | hnew
  · exact hmove (h.expanded n hold hc owner ho)
  · obtain rfl := List.mem_singleton.1 hnew
    exact Or.inr (List.mem_append_right _ (hadded hc owner ho))

/-- With enough steps, a closure ends only when nothing is pending. -/
theorem closure_expanding {steps : Nat} {start seen pending : List String}
    (h : Expanding resolver start seen pending)
    (hsteps : pending.length + unexpanded seen resolver.direct < steps) :
    Expanding resolver start (resolver.closure steps seen pending) [] := by
  fun_induction closure resolver steps seen pending with
  | case1 => exact absurd hsteps (Nat.not_lt_zero _)
  | case2 => exact h
  | case3 steps seen next pending hseen ih =>
      refine ih (h.seen_of_mem hseen) ?_
      simp only [List.length_cons] at hsteps
      omega
  | case4 steps seen next pending hseen hcontrol ih =>
      have hnext : Expanding resolver start (seen ++ [next]) (pending ++ []) :=
        h.see fun hc => absurd hcontrol hc
      rw [List.append_nil] at hnext
      refine ih hnext ?_
      have := unexpanded_append_le seen next resolver.direct
      simp only [List.length_cons] at hsteps
      omega
  | case5 steps seen next pending hseen hcontrol ih =>
      refine ih (h.see fun _ owner ho => ho) ?_
      -- Its dependencies are counted as pending from now on, and not as unexpanded any more.
      have := unexpanded_append_add_le hseen resolver.direct
      simp only [List.length_cons, List.length_append] at hsteps ⊢
      omega

/-- The closure of the dependencies of a module holds exactly the names that it reaches. -/
theorem mem_closure {direct : List String} {name : String}
    (hdirect : direct = (resolver.direct.get? root).getD []) :
    name ∈ resolver.closure (direct.length + resolver.edgeCount + 1) [] direct ↔
      Reaches resolver.Keeps resolver.controlModules root name := by
  have hkeeps (n : String) : resolver.Keeps root n ↔ n ∈ direct := by
    rw [hdirect]
    rfl
  constructor
  · refine reaches_of_mem_closure (fun _ hn => absurd hn List.not_mem_nil) ?_
    intro n hn
    exact .direct ((hkeeps n).2 hn)
  · have hstart : Expanding resolver direct [] direct :=
      ⟨fun _ hn => Or.inr hn, fun _ hn => absurd hn List.not_mem_nil⟩
    have hsteps : direct.length + unexpanded [] resolver.direct <
        direct.length + resolver.edgeCount + 1 := by
      rw [unexpanded_nil]
      exact Nat.lt_succ_self _
    have hend := closure_expanding hstart hsteps
    -- Nothing is pending at the end, so what was seen is closed under dependencies.
    intro hreaches
    induction hreaches with
    | direct h =>
        rcases hend.covered _ ((hkeeps _).1 h) with hseen | hpending
        · exact hseen
        · exact absurd hpending List.not_mem_nil
    | through _ hcontrol hdepends ih =>
        rcases hend.expanded _ ih hcontrol _ hdepends with hseen | hpending
        · exact hseen
        · exact absurd hpending List.not_mem_nil

end Resolver

end ModuleGraph
