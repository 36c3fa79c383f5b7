import Mathlib.Data.List.Basic

/-! Lists of parts with a separator between them.
Where two such lists are equal and the separators on one side of a place are equally many, the
place is the same in both.
-/

namespace Library

open List

variable {α : Type} [DecidableEq α] {separator : α} {first second after behind : List α}

variable (same : first ++ separator :: after = second ++ separator :: behind)
include same

/-- Equal lists are separated at the same place if the separators before it are as many. -/
theorem separated_before
    (many : first.count separator = second.count separator)
    : first = second ∧ after = behind := by
  rcases append_eq_append_iff.mp same with ⟨between, longer, rest⟩ | ⟨between, longer, rest⟩
  all_goals
    cases between with
    | nil => simp_all
    | cons item items =>
      obtain ⟨rfl, _⟩ := List.cons.inj rest
      rw [longer, count_append, count_cons_self] at many
      omega

/-- Equal lists are separated at the same place if the separators behind it are as many. -/
theorem separated_behind
    (many : after.count separator = behind.count separator)
    : first = second ∧ after = behind := by
  refine separated_before same ?_
  have total := congrArg (List.count separator) same
  simp only [count_append, count_cons_self] at total
  omega

/-- The same for parts in which the separator does not occur. -/
theorem separated_first
    (left : separator ∉ first) (right : separator ∉ second)
    : first = second ∧ after = behind :=
  separated_before same (by rw [count_eq_zero.mpr left, count_eq_zero.mpr right])

theorem separated_last
    (left : separator ∉ after) (right : separator ∉ behind)
    : first = second ∧ after = behind :=
  separated_behind same (by rw [count_eq_zero.mpr left, count_eq_zero.mpr right])

omit same

end Library
