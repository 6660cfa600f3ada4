import Mathlib.Data.List.Basic
import ModuleGraph.Text.Search

/-!
# Searching for words

`expect?` removes a word from exactly the texts that begin with it (`expect?_eq_some`). A search
finds something if there is something to find (`search_isSome`), and it passes over a text at none
of whose positions there is (`search_append_of_none`).
-/

namespace ModuleGraph.Text

/-- A fixed word is removed from the texts that begin with it. -/
theorem expect?_eq_some {word text rest : List Char} :
    expect? word text = some rest ↔ text = word ++ rest := by
  induction word generalizing text with
  | nil => simp [expect?]
  | cons c word ih =>
      cases text with
      | nil => simp [expect?]
      | cons d text =>
          simp only [expect?, List.cons_append, List.cons.injEq]
          split
          · next hc => simp [ih, hc]
          · next hc => simp [Ne.symm hc]

/-- So is a fixed string. -/
theorem expectString?_eq_some {word : String} {text rest : List Char} :
    expectString? word text = some rest ↔ text = word.toList ++ rest :=
  expect?_eq_some

/-- A fixed string is removed from what was put behind it. -/
@[simp] theorem expectString?_append (word : String) (rest : List Char) :
    expectString? word (word.toList ++ rest) = some rest :=
  expectString?_eq_some.2 rfl

variable {α : Type} {recognise : List Char → Option α}

/-- What is recognised somewhere is found by a search. -/
theorem search_isSome {text : List Char} (h : (recognise text).isSome = true) (front : List Char) :
    (search recognise (front ++ text)).isSome = true := by
  induction front with
  | nil =>
      obtain ⟨result, hresult⟩ := Option.isSome_iff_exists.1 h
      cases text with
      | nil => exact h
      | cons c rest =>
          rw [List.nil_append, search, hresult]
          rfl
  | cons c front ih =>
      rw [List.cons_append, search]
      split
      · rfl
      · exact ih

/-- What is recognised at the front of a text is found first. -/
theorem search_of_recognise {text : List Char} {result : α} (h : recognise text = some result) :
    search recognise text = some result := by
  cases text with
  | nil => exact h
  | cons c rest => rw [search, h]

/-- A search goes on if nothing is recognised at the front. -/
theorem search_cons_of_none {c : Char} {rest : List Char} (h : recognise (c :: rest) = none) :
    search recognise (c :: rest) = search recognise rest := by
  rw [search, h]

/-- A search passes over a text if nothing is recognised where a part of it begins. -/
theorem search_append_of_none {front text : List Char}
    (h : ∀ part, part <:+ front → part ≠ [] → recognise (part ++ text) = none) :
    search recognise (front ++ text) = search recognise text := by
  induction front with
  | nil => rfl
  | cons c front ih =>
      have hfirst : recognise (c :: (front ++ text)) = none :=
        h (c :: front) List.suffix_rfl (List.cons_ne_nil c front)
      rw [List.cons_append, search_cons_of_none hfirst]
      exact ih fun part hpart => h part (hpart.trans (List.suffix_cons c front))

/-- A search fails if nothing is recognised at any position. -/
theorem search_eq_none {text : List Char} (h : ∀ part, part <:+ text → recognise part = none) :
    search recognise text = none := by
  have hpassed : search recognise (text ++ []) = search recognise [] :=
    search_append_of_none fun part hpart _ => by rw [List.append_nil, h part hpart]
  rw [List.append_nil] at hpassed
  exact hpassed.trans (h [] List.nil_suffix)

end ModuleGraph.Text
