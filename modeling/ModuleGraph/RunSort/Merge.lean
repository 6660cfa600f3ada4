import ModuleGraph.RunSort.Search

/-!
# Merging two rows

Two neighbouring rows are merged into one. What is already in place at both ends is left there, and
the rest is merged from that end where the shorter of the two lies. The merge compares the heads of
the rows until one of them has won a number of times in a row. Then it gallops: it looks up how many
items of a row come before the head of the other, until that is only few of them.

The number of wins that lead to galloping adapts to the data, and is carried from merge to merge.
-/

namespace ModuleGraph.RunSort

variable {α : Type}

/-- How many items make a gallop worth while. -/
def gallopLength : Nat := 7

/-- How two rows are merged from one end, at which both of them start here. -/
structure Direction (α : Type) where
  /-- The head of the second row goes before that of the first. -/
  takesSecond : α → α → Bool
  /-- The number of items of the first row that go before a head of the second. -/
  countFirst : α → List α → Nat
  /-- The number of items of the second row that go before a head of the first. -/
  countSecond : α → List α → Nat
  /-- A gallop looks at the first row first. -/
  firstLeads : Bool

/-- Merging from the front. -/
def forwards (less : α → α → Bool) : Direction α where
  takesSecond first second := less second first
  countFirst head row := gallopRight less head row.toArray 0
  countSecond head row := gallopLeft less head row.toArray 0
  firstLeads := true

/-- Merging from the back: the rows are given in reverse, and the later one is the first. -/
def backwards (less : α → α → Bool) : Direction α where
  takesSecond first second := less first second
  countFirst head row := row.length - gallopLeft less head row.reverse.toArray (row.length - 1)
  countSecond head row := row.length - gallopRight less head row.reverse.toArray (row.length - 1)
  firstLeads := false

/-- A merge that is under way. -/
structure Merge (α : Type) where
  /-- What has been put out, last first. -/
  done : List α
  /-- The rest of the first row. -/
  first : List α
  /-- The rest of the second row. -/
  second : List α

namespace Merge

/-- Nothing is left to compare: the last item of the first row comes last. -/
def isOver (merge : Merge α) : Bool :=
  merge.first.length ≤ 1 || merge.second.isEmpty

/-- The merged row. -/
def result (merge : Merge α) : List α :=
  merge.done.reverse ++ merge.second ++ merge.first

/-- Puts out the items of the first row that go before the head of the second, then that head, and
counts the former. -/
def passFirst (direction : Direction α) (merge : Merge α) : Nat × Merge α :=
  match merge.second with
  | [] => (0, merge)
  | head :: rest =>
    let count := direction.countFirst head merge.first
    let passed : Merge α :=
      { merge with
        done := (merge.first.take count).reverse ++ merge.done
        first := merge.first.drop count }
    if passed.isOver then (count, passed)
    else (count, { passed with done := head :: passed.done, second := rest })

/-- Puts out the items of the second row that go before the head of the first, then that head, and
counts the former. -/
def passSecond (direction : Direction α) (merge : Merge α) : Nat × Merge α :=
  match merge.first with
  | [] => (0, merge)
  | head :: rest =>
    let count := direction.countSecond head merge.second
    let passed : Merge α :=
      { merge with
        done := (merge.second.take count).reverse ++ merge.done
        second := merge.second.drop count }
    if passed.isOver then (count, passed)
    else (count, { passed with done := head :: passed.done, first := rest })

end Merge

/-- What a merge is doing. -/
inductive Phase
  /-- It compares heads; each row has won a number of times in a row. -/
  | pairing (first second : Nat)
  /-- It gallops, for the first time or once more. -/
  | galloping (again : Bool)

/-- Carries a merge on. Every step puts something out, so as many steps as there are items suffice.
The result comes with the number of wins that now lead to galloping. -/
def carryOn (direction : Direction α) : Nat → Phase → Nat → Merge α → List α × Nat
  | 0, _, wins, merge => (merge.result, wins)
  | steps + 1, phase, wins, merge =>
    if merge.isOver then (merge.result, wins)
    else
      match phase, merge.first, merge.second with
      | .pairing won lost, a :: first, b :: second =>
        if direction.takesSecond a b then
          let phase := if wins ≤ lost + 1 then .galloping false else .pairing 0 (lost + 1)
          carryOn direction steps phase wins ⟨b :: merge.done, merge.first, second⟩
        else
          let phase := if wins ≤ won + 1 then .galloping false else .pairing (won + 1) 0
          carryOn direction steps phase wins ⟨a :: merge.done, first, merge.second⟩
      | .galloping again, _, _ =>
        let wins := if again && 1 < wins then wins - 1 else wins
        let lead := if direction.firstLeads then Merge.passFirst else Merge.passSecond
        let follow := if direction.firstLeads then Merge.passSecond else Merge.passFirst
        let (some₁, merge) := lead direction merge
        if merge.isOver then (merge.result, wins)
        else
          let (some₂, merge) := follow direction merge
          if merge.isOver then (merge.result, wins)
          else if gallopLength ≤ some₁ || gallopLength ≤ some₂ then
            carryOn direction steps (.galloping true) wins merge
          else carryOn direction steps (.pairing 0 0) (wins + 1) merge
      | .pairing _ _, _, _ => (merge.result, wins)

/-- Merges two rows of which the second starts with an item that comes first. -/
def mergeFrom (direction : Direction α) (wins : Nat) (first second : List α) : List α × Nat :=
  match second with
  | [] => (first, wins)
  | head :: rest =>
    carryOn direction (first.length + second.length) (.pairing 0 0) wins ⟨[head], first, rest⟩

/-- Merges two neighbouring rows, of which neither is empty. -/
def mergeRows (less : α → α → Bool) (wins : Nat) (first second : List α) : List α × Nat :=
  match second with
  | [] => (first, wins)
  | head :: _ =>
    let start := gallopRight less head first.toArray 0
    let moved := first.drop start
    match moved.getLast? with
    | none => (first ++ second, wins)
    | some last =>
      let count := gallopLeft less last second.toArray (second.length - 1)
      let other := second.take count
      let (merged, wins) :=
        if other.isEmpty then (moved, wins)
        else if moved.length ≤ other.length then mergeFrom (forwards less) wins moved other
        else
          let (merged, wins) := mergeFrom (backwards less) wins other.reverse moved.reverse
          (merged.reverse, wins)
      (first.take start ++ merged ++ second.drop count, wins)

end ModuleGraph.RunSort
