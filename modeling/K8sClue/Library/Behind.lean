import Mathlib.Data.List.Basic

/-! The part of a log that comes behind the first entry of some kind. -/

namespace Library

open List

variable {α : Type}

/-- What comes behind the first entry that starts it. -/
def behind (starts : α → Bool) : List α → List α
  | [] => []
  | entry :: rest => if starts entry then rest else behind starts rest

variable {starts : α → Bool} {log : List α} {entry : α}

/-- Nothing is behind an entry that is not there. -/
theorem behind_eq_nil (missing : log.any starts = false) : behind starts log = [] := by
  induction log with
  | nil => rfl
  | cons first rest ih =>
    rw [any_cons, Bool.or_eq_false_iff] at missing
    rw [behind, missing.1, if_neg Bool.false_ne_true, ih missing.2]

/-- A new entry comes behind one that is there. -/
theorem behind_concat_of_any (found : log.any starts = true)
    : behind starts (log ++ [entry]) = behind starts log ++ [entry] := by
  induction log with
  | nil => cases found
  | cons first rest ih =>
    rw [cons_append, behind, behind]
    cases here : starts first with
    | true => rfl
    | false =>
      rw [any_cons, here] at found
      exact ih found

/-- A new entry has nothing behind it. -/
theorem behind_concat_of_none (missing : log.any starts = false)
    : behind starts (log ++ [entry]) = [] := by
  induction log with
  | nil =>
    rw [nil_append, behind]
    split <;> rfl
  | cons first rest ih =>
    rw [any_cons, Bool.or_eq_false_iff] at missing
    rw [cons_append, behind, missing.1, if_neg Bool.false_ne_true, ih missing.2]

/-- What is behind an entry tells that the entry is there. -/
theorem any_of_mem_behind (mem : entry ∈ behind starts log) : log.any starts = true := by
  cases found : log.any starts with
  | true => rfl
  | false =>
    rw [behind_eq_nil found] at mem
    cases mem

theorem behind_sublist : (behind starts log).Sublist log := by
  induction log with
  | nil => exact .slnil
  | cons first rest ih =>
    rw [behind]
    split
    · exact sublist_cons_self _ _
    · exact ih.cons _

end Library
