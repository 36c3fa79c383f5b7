import Mathlib.Data.List.Dedup
import Mathlib.Data.List.MinMax
import Mathlib.Data.List.Sort

/-! Lists sorted and grouped by a key.
The sort is stable, so that a sorted list is told by its items of each key.
-/

namespace Library

open List

variable {α κ : Type}

/-- Where each group holds items of its own key only, a group is what the whole has of its key. -/
theorem filter_flatMap_of_nodup [DecidableEq κ] {keys : List κ} {group : κ → List α}
    {part : α → κ} (own : ∀ key, ∀ item ∈ group key, part item = key) (nodup : keys.Nodup)
    (wanted : κ)
    : (keys.flatMap group).filter (part · = wanted)
      = if wanted ∈ keys then group wanted else [] := by
  have each (key : κ) : (group key).filter (part · = wanted)
      = if key = wanted then group wanted else [] := by
    split
    next same =>
      subst same
      exact filter_eq_self.mpr fun item mem => by simpa using own key item mem
    next other =>
      exact filter_eq_nil_iff.mpr fun item mem => by
        simpa [own key item mem] using other
  induction keys with
  | nil => rfl
  | cons key rest ih =>
    obtain ⟨fresh, nodup⟩ := nodup_cons.mp nodup
    rw [flatMap_cons, filter_append, each, ih nodup]
    by_cases same : key = wanted
    · subst same
      simp [fresh]
    · simp [same, Ne.symm same]

/-- Joined with keys that are listed once, items are only chosen. -/
theorem flatMap_keys [DecidableEq κ] {keys : List κ} (nodup : keys.Nodup) (part : α → κ)
    (items : List α)
    : (items.flatMap fun item => (keys.filter (· = part item)).map fun _ => item)
      = items.filter (part · ∈ keys) := by
  induction items with
  | nil => rfl
  | cons item rest ih =>
    rw [flatMap_cons, ih, filter_eq, nodup.count]
    by_cases known : part item ∈ keys <;> simp [known]

section Distinct

variable {ρ : Type} [DecidableEq κ] [LinearOrder ρ] (part : α → κ) (rank : α → ρ)

/-- `DISTINCT ON`: the first item of each key in the order of the ranks. -/
def distinctOn (items : List α) : List α :=
  (items.map part).dedup.flatMap fun key => ((items.filter (part · = key)).argmin rank).toList

end Distinct

variable [LinearOrder κ] {key : α → κ} {items others : List α}

instance keyTotal : Std.Total (fun left right : α => key left ≤ key right) :=
  ⟨fun _ _ => le_total _ _⟩

instance keyTrans : IsTrans α (fun left right : α => key left ≤ key right) :=
  ⟨fun _ _ _ => le_trans⟩

/-- A stable sort leaves the items of one key as they were. -/
theorem filter_insertionSort (items : List α) (wanted : κ)
    : (items.insertionSort (fun left right => key left ≤ key right)).filter (key · = wanted)
      = items.filter (key · = wanted) := by
  have alike : (items.filter (key · = wanted)).Pairwise (key · ≤ key ·) :=
    pairwise_of_forall_mem_list fun left first right second => by
      simp only [mem_filter, decide_eq_true_eq] at first second
      rw [first.2, second.2]
  have kept := (sublist_insertionSort alike filter_sublist).filter (key · = wanted)
  rw [filter_filter] at kept
  simp only [Bool.and_self] at kept
  exact (kept.eq_of_length ((perm_insertionSort _ _).filter _).length_eq.symm).symm

/-- Lists sorted by a key are equal if they have the same items of each key. -/
theorem eq_of_sorted (sorted : items.Pairwise (key · ≤ key ·))
    (ordered : others.Pairwise (key · ≤ key ·))
    (same : ∀ wanted, items.filter (key · = wanted) = others.filter (key · = wanted))
    : items = others := by
  induction items generalizing others with
  | nil =>
    cases others with
    | nil => rfl
    | cons other rest => simpa using same (key other)
  | cons item rest ih =>
    cases others with
    | nil => simpa using same (key item)
    | cons other tail =>
      obtain ⟨least, restSorted⟩ := pairwise_cons.mp sorted
      obtain ⟨first, tailSorted⟩ := pairwise_cons.mp ordered
      have heads : key item = key other := by
        have left : other ∈ (item :: rest).filter (key · = key other) := by rw [same]; simp
        have right : item ∈ (other :: tail).filter (key · = key item) := by rw [← same]; simp
        rcases mem_cons.mp (mem_of_mem_filter left) with rfl | left
        · rfl
        rcases mem_cons.mp (mem_of_mem_filter right) with rfl | right
        · rfl
        exact le_antisymm (least _ left) (first _ right)
      have whole := same (key item)
      rw [filter_cons_of_pos (by simp), filter_cons_of_pos (by simp [heads])] at whole
      obtain ⟨rfl, _⟩ := List.cons.inj whole
      congr 1
      refine ih restSorted tailSorted fun wanted => ?_
      have tails := same wanted
      rw [filter_cons, filter_cons] at tails
      split at tails
      · exact (List.cons.inj tails).2
      · exact tails

/-- What has the same items of each key is sorted to the same list. -/
theorem insertionSort_congr
    (same : ∀ wanted, items.filter (key · = wanted) = others.filter (key · = wanted))
    : items.insertionSort (fun left right => key left ≤ key right)
      = others.insertionSort (fun left right => key left ≤ key right) :=
  eq_of_sorted (pairwise_insertionSort _ _) (pairwise_insertionSort _ _) fun wanted => by
    rw [filter_insertionSort, filter_insertionSort, same]

theorem perm_of_filter
    (same : ∀ wanted, items.filter (key · = wanted) = others.filter (key · = wanted))
    : items.Perm others :=
  (perm_insertionSort _ items).symm.trans
    (insertionSort_congr same ▸ perm_insertionSort _ others)

end Library
