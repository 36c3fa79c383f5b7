import Mathlib.Data.List.Sort

/-! Reading a log in pages.
The records of a log have increasing positions; a window is the part of the log between two
positions. Pages of neighbouring windows put together give the window from the first to the last.
-/

namespace Library

open List

variable {α : Type} (position : α → Nat)

def Increasing (log : List α) : Prop :=
  log.Pairwise fun earlier later => position earlier < position later

def window (after through : Nat) (log : List α) : List α :=
  log.filter fun record => after < position record ∧ position record ≤ through

variable {position} {log : List α}

theorem Increasing.filter (increasing : Increasing position log) (keep : α → Bool)
    : Increasing position (log.filter keep) := Pairwise.filter keep increasing

theorem Increasing.window (increasing : Increasing position log) (after through : Nat)
    : Increasing position (window position after through log) := increasing.filter _

/-- Sorting a log by descending positions turns it round. -/
theorem Increasing.insertionSort_newest (increasing : Increasing position log)
    : log.insertionSort (fun left right => position right ≤ position left) = log.reverse := by
  have distinct : (log.map position).Nodup := (pairwise_map.mpr increasing).imp Nat.ne_of_lt
  have same : log.insertionSort (fun left right => position right ≤ position left)
      |>.Perm log.reverse :=
    (perm_insertionSort _ log).trans (reverse_perm log).symm
  refine same.eq_of_pairwise ?_ (pairwise_insertionSort _ log) ?_
  · intro left right first second down up
    exact inj_on_of_nodup_map distinct ((mem_insertionSort _).mp first)
      (mem_reverse.mp second) (Nat.le_antisymm up down)
  · rw [pairwise_reverse]
    exact increasing.imp le_of_lt

theorem mem_window {after through : Nat} {record : α}
    : record ∈ window position after through log
      ↔ record ∈ log ∧ after < position record ∧ position record ≤ through := by
  simp [window]

/-- Only the records of a window decide what is kept in it. -/
theorem window_filter_congr {after through : Nat} {keep other : α → Bool}
    (same : ∀ record, after < position record → position record ≤ through
      → keep record = other record)
    : window position after through (log.filter keep)
      = window position after through (log.filter other) := by
  rw [window, window, filter_filter, filter_filter]
  refine filter_congr fun record _ => ?_
  by_cases inside : after < position record ∧ position record ≤ through
  · rw [same record inside.1 inside.2]
  · rw [decide_eq_false inside, Bool.false_and, Bool.false_and]

theorem window_self (bound : Nat) : window position bound bound log = [] := by
  rw [window]
  simp

/-- Two neighbouring windows are one.
Witness: induction over the log; a record beyond the middle has only such records behind it.
-/
theorem Increasing.window_append (increasing : Increasing position log)
    {after middle through : Nat} (first : after ≤ middle) (second : middle ≤ through)
    : Library.window position after middle log ++ Library.window position middle through log
      = Library.window position after through log := by
  induction log with
  | nil => rfl
  | cons record rest ih =>
    obtain ⟨behind, later⟩ := pairwise_cons.mp increasing
    have tail := ih later
    unfold Library.window at tail ⊢
    simp only [filter_cons]
    by_cases beyond : middle < position record
    · have none_before : rest.filter (fun record =>
          after < position record ∧ position record ≤ middle) = [] := by
        rw [filter_eq_nil_iff]
        intro other mem
        have := behind other mem
        simp only [decide_eq_true_eq]
        omega
      rw [none_before] at tail ⊢
      have outside : ¬ (after < position record ∧ position record ≤ middle) := by omega
      have same : (middle < position record ∧ position record ≤ through)
          ↔ (after < position record ∧ position record ≤ through) := by omega
      simp only [outside, same, decide_false, Bool.false_eq_true, if_false, nil_append] at tail ⊢
      rw [tail]
    · have outside : ¬ (middle < position record ∧ position record ≤ through) := by omega
      have same : (after < position record ∧ position record ≤ middle)
          ↔ (after < position record ∧ position record ≤ through) := by omega
      simp only [outside, same, decide_false, Bool.false_eq_true, if_false]
      split
      · rw [cons_append, tail]
      · exact tail

/-- What is added to a log beyond a window does not change the window. -/
theorem window_grown {after through : Nat} {added : List α}
    (beyond : ∀ record ∈ added, through < position record)
    : window position after through (log ++ added) = window position after through log := by
  have none_added : window position after through added = [] := by
    rw [window, filter_eq_nil_iff]
    intro record mem
    have := beyond record mem
    simp only [decide_eq_true_eq]
    omega
  rw [window, filter_append]
  exact (congrArg _ none_added).trans (append_nil _)

/-- A page is the window up to its last record. -/
theorem Increasing.take_window (increasing : Increasing position log) {after through size : Nat}
    {last : α} (ends : ((Library.window position after through log).take size).getLast? = some last)
    : (Library.window position after through log).take size
      = Library.window position after (position last) log := by
  have sorted := increasing.window after through
  generalize whole : Library.window position after through log = records at ends sorted ⊢
  obtain ⟨before, page⟩ := getLast?_eq_some_iff.mp ends
  have split : records = before ++ last :: records.drop size := by
    rw [append_cons, ← page]
    exact (take_append_drop size records).symm
  have narrowed : Library.window position after (position last) log
      = records.filter (fun record => position record ≤ position last) := by
    have inside : last ∈ records := by
      rw [split]
      simp
    rw [← whole, mem_window] at inside
    rw [← whole, Library.window, Library.window, filter_filter]
    refine filter_congr fun record _ => ?_
    rw [← Bool.decide_and, decide_eq_decide]
    omega
  rw [split] at sorted
  obtain ⟨_, ahead, behind⟩ := pairwise_append.mp sorted
  have kept : before.filter (fun record => position record ≤ position last) = before := by
    rw [filter_eq_self]
    intro record mem
    exact decide_eq_true (le_of_lt (behind record mem last mem_cons_self))
  have dropped : (records.drop size).filter
      (fun record => position record ≤ position last) = [] := by
    rw [filter_eq_nil_iff]
    intro record mem
    have := (pairwise_cons.mp ahead).1 record mem
    simp only [decide_eq_true_eq]
    omega
  rw [narrowed, page]
  conv_rhs => rw [split, filter_append, filter_cons, kept, dropped]
  simp

end Library
