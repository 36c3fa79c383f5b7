import K8sClue.Library.Runs
import Mathlib.Data.List.Nodup

/-! Exclusive claims on keyed work.
A holder takes a key, and completes it, drops it or gives it back; it may also vanish without a
word. If a held key is taken over only when its holder is gone, then no key is completed twice,
and a completed or dropped key stays what it is.
-/

namespace Library.Claims

open List Function

inductive Phase where
  | available
  | held
  | completed
  | dropped
  deriving DecidableEq

def Phase.closed : Phase → Bool
  | .completed => true
  | .dropped => true
  | _ => false

/-- The phases of all keys, what each holder holds, and the keys that were completed. -/
structure Board (ι κ : Type) where
  phase : κ → Phase
  holding : ι → Option κ
  completions : List κ

variable {ι κ : Type} [DecidableEq ι] [DecidableEq κ]

/-- What may happen on the board. -/
inductive Step (board : Board ι κ) : Board ι κ → Prop where
  | stay : Step board board
  /-- a holder vanishes; the phase of its key does not tell -/
  | vanish (holder : ι)
    : Step board { board with holding := update board.holding holder none }
  | take (holder : ι) (key : κ) (isOpen : (board.phase key).closed = false)
      (abandoned : board.phase key = .held → ∀ other, board.holding other ≠ some key)
    : Step board { board with
        phase := update board.phase key .held
        holding := update board.holding holder (some key) }
  | complete (holder : ι) (key : κ) (holds : board.holding holder = some key)
    : Step board
        { phase := update board.phase key .completed
          holding := update board.holding holder none
          completions := board.completions ++ [key] }
  | drop (holder : ι) (key : κ) (holds : board.holding holder = some key)
    : Step board { board with
        phase := update board.phase key .dropped
        holding := update board.holding holder none }
  | giveBack (holder : ι) (key : κ) (holds : board.holding holder = some key)
    : Step board { board with
        phase := update board.phase key .available
        holding := update board.holding holder none }

/-- What is held is in the phase `held`, by one holder; the completed keys are those in the phase
`completed`, once each.
-/
structure Exclusive (board : Board ι κ) : Prop where
  held : ∀ holder key, board.holding holder = some key → board.phase key = .held
  alone : ∀ holder other key, board.holding holder = some key → board.holding other = some key
    → holder = other
  completed : ∀ key, key ∈ board.completions ↔ board.phase key = .completed
  once : board.completions.Nodup

section Leaving

variable {board : Board ι κ}

variable (exclusive : Exclusive board)
include exclusive

omit [DecidableEq κ] in
theorem Exclusive.vanish (holder : ι)
    : Exclusive { board with holding := update board.holding holder none } where
  held other key holds := exclusive.held other key (of_update_none holds).2
  alone first second key left right :=
    exclusive.alone first second key (of_update_none left).2 (of_update_none right).2
  completed := exclusive.completed
  once := exclusive.once

variable {holder : ι} {key : κ} {phase : Phase} {next : Board ι κ}

/-- A holder leaves its key in another phase than `held`. The others hold other keys. -/
theorem Exclusive.leave {completions : List κ} (holds : board.holding holder = some key)
    (completed
      : ∀ other, other ∈ completions ↔ update board.phase key phase other = .completed)
    (once : completions.Nodup)
    : Exclusive
        { phase := update board.phase key phase
          holding := update board.holding holder none
          completions } where
  held other wanted found := by
    obtain ⟨different, before⟩ := of_update_none found
    have apart : wanted ≠ key := by
      intro same
      subst same
      exact different (exclusive.alone other holder wanted before holds)
    exact (update_of_ne apart _ _).trans (exclusive.held other wanted before)
  alone first second wanted left right :=
    exclusive.alone first second wanted (of_update_none left).2 (of_update_none right).2
  completed := completed
  once := once

omit [DecidableEq ι] in
/-- Leaving a key in a phase that is not `completed` adds no completion. -/
theorem Exclusive.completed_update (before : board.phase key ≠ .completed)
    (after : phase ≠ .completed) (other : κ)
    : other ∈ board.completions ↔ update board.phase key phase other = .completed := by
  rw [exclusive.completed]
  by_cases same : other = key
  · subst same
    rw [update_self]
    exact ⟨fun now => absurd now before, fun now => absurd now after⟩
  · rw [update_of_ne same]

omit [DecidableEq ι] [DecidableEq κ] in
theorem Exclusive.not_completed (holds : board.holding holder = some key)
    : board.phase key ≠ .completed := by
  rw [exclusive.held holder key holds]
  decide

theorem Exclusive.take (isOpen : (board.phase key).closed = false)
    (abandoned : board.phase key = .held → ∀ other, board.holding other ≠ some key)
    : Exclusive { board with
        phase := update board.phase key .held
        holding := update board.holding holder (some key) } := by
  have nobody : ∀ other, board.holding other ≠ some key := by
    intro other holds
    exact abandoned (exclusive.held other key holds) other holds
  have notCompleted : board.phase key ≠ .completed := by
    intro completed
    rw [completed] at isOpen
    cases isOpen
  refine ⟨?_, ?_, exclusive.completed_update notCompleted (by decide), exclusive.once⟩
  · intro other wanted holds
    rcases of_update_some holds with ⟨_, ⟨⟩⟩ | ⟨_, before⟩
    · exact update_self ..
    · refine (update_of_ne ?_ _ _).trans (exclusive.held other wanted before)
      rintro rfl
      exact nobody other before
  · intro first second wanted left right
    rcases of_update_some left with ⟨rfl, ⟨⟩⟩ | ⟨_, before⟩ <;>
      rcases of_update_some right with ⟨rfl, ⟨⟩⟩ | ⟨_, also⟩
    · rfl
    · exact absurd also (nobody second)
    · exact absurd before (nobody first)
    · exact exclusive.alone first second wanted before also

theorem Exclusive.complete (holds : board.holding holder = some key)
    : Exclusive
        { phase := update board.phase key .completed
          holding := update board.holding holder none
          completions := board.completions ++ [key] } := by
  have fresh : key ∉ board.completions := by
    rw [exclusive.completed]
    exact exclusive.not_completed holds
  refine exclusive.leave holds ?_ ?_
  · intro other
    by_cases same : other = key
    · simp [same]
    · rw [update_of_ne same, ← exclusive.completed]
      simp [same]
  · exact nodup_append.mpr ⟨exclusive.once, by simp, by
      intro other mem wanted single same
      rw [mem_singleton.mp single] at same
      exact fresh (same ▸ mem)⟩

/-- The invariant is kept by every step.
Witness: the taker of a key is alone with it, as nobody held it before, and a key that is left was
held by its holder only.
-/
theorem Exclusive.step (step : Step board next) : Exclusive next := by
  cases step with
  | stay => exact exclusive
  | vanish holder => exact exclusive.vanish holder
  | take holder key isOpen abandoned => exact exclusive.take isOpen abandoned
  | complete holder key holds => exact exclusive.complete holds
  | drop holder key holds =>
    exact exclusive.leave holds
      (exclusive.completed_update (exclusive.not_completed holds) (by decide)) exclusive.once
  | giveBack holder key holds =>
    exact exclusive.leave holds
      (exclusive.completed_update (exclusive.not_completed holds) (by decide)) exclusive.once

/-- A closed key is out of reach: it is not taken, and nobody holds it. -/
theorem Exclusive.closed_kept (step : Step board next) (closed : (board.phase key).closed = true)
    : next.phase key = board.phase key := by
  have unheld : ∀ holder wanted, board.holding holder = some wanted → key ≠ wanted := by
    intro holder wanted holds same
    rw [same, exclusive.held holder wanted holds] at closed
    cases closed
  cases step with
  | stay => rfl
  | vanish => rfl
  | take holder wanted isOpen =>
    refine update_of_ne ?_ _ _
    intro same
    rw [same, isOpen] at closed
    cases closed
  | complete holder wanted holds => exact update_of_ne (unheld holder wanted holds) _ _
  | drop holder wanted holds => exact update_of_ne (unheld holder wanted holds) _ _
  | giveBack holder wanted holds => exact update_of_ne (unheld holder wanted holds) _ _

end Leaving

end Library.Claims
