import Mathlib.Data.List.MinMax

/-! The first of the least items of a list. -/

namespace Library

open List

variable {α β κ : Type} [LinearOrder κ] {rank : α → κ} {items : List α} {chosen : α}

/-- The chosen item ranks below those before it, and not above those behind it. -/
theorem argmin_split (least : items.argmin rank = some chosen)
    : ∃ before after,
        items = before ++ chosen :: after
        ∧ (∀ item ∈ before, rank chosen < rank item)
        ∧ ∀ item ∈ after, rank chosen ≤ rank item := by
  induction items with
  | nil => cases least
  | cons first rest ih =>
    rw [argmin_cons] at least
    cases later : rest.argmin rank with
    | none =>
      rw [later] at least
      cases Option.some.inj least
      rw [argmin_eq_none.mp later]
      exact ⟨[], [], rfl, by simp, by simp⟩
    | some best =>
      rw [later] at least
      dsimp only at least
      split at least
      next below =>
        cases Option.some.inj least
        obtain ⟨before, after, rfl, above, behind⟩ := ih later
        refine ⟨first :: before, after, rfl, ?_, behind⟩
        intro item mem
        rcases mem_cons.mp mem with rfl | mem
        · exact below
        · exact above item mem
      next notBelow =>
        cases Option.some.inj least
        refine ⟨[], rest, rfl, by simp, ?_⟩
        intro item mem
        exact (not_lt.mp notBelow).trans (le_of_mem_argmin mem later)

/-- The choice among the items that pass a test, read in the whole list. -/
theorem argmin_filter_split {passes : α → Bool}
    (least : (items.filter passes).argmin rank = some chosen)
    : ∃ before after,
        items = before ++ chosen :: after
        ∧ passes chosen = true
        ∧ (∀ item ∈ before, passes item = true → rank chosen < rank item)
        ∧ ∀ item ∈ after, passes item = true → rank chosen ≤ rank item := by
  obtain ⟨before, after, split, above, behind⟩ := argmin_split least
  obtain ⟨first, rest, rfl, rfl, kept⟩ := filter_eq_append_iff.mp split
  obtain ⟨skipped, others, rfl, refused, passed, rfl⟩ := filter_eq_cons_iff.mp kept
  refine ⟨first ++ skipped, others, by simp, passed, ?_, ?_⟩
  · intro item mem accepted
    rcases mem_append.mp mem with mem | mem
    · exact above item (mem_filter.mpr ⟨mem, accepted⟩)
    · exact absurd accepted (refused item mem)
  · intro item mem accepted
    exact behind item (mem_filter.mpr ⟨mem, accepted⟩)

end Library
