import Mathlib.Data.List.Basic

/-! Finite runs of a deterministic machine that emits effects.
A run is an arbitrary list of actions, so a statement about every run is a statement about
every interleaving of the parties whose steps the actions name.
-/

namespace Library

open List Function

section Parties

variable {ι β : Type} [DecidableEq ι] {parties : ι → Option β} {changed other : ι} {found : β}

/-- After the change of one party, a party is the changed one or as it was. -/
theorem of_update_some {value : Option β}
    (known : update parties changed value other = some found)
    : (other = changed ∧ value = some found) ∨ (other ≠ changed ∧ parties other = some found) := by
  by_cases same : other = changed
  · rw [same, update_self] at known
    exact .inl ⟨same, known⟩
  · rw [update_of_ne same] at known
    exact .inr ⟨same, known⟩

theorem of_update_none (known : update parties changed none other = some found)
    : other ≠ changed ∧ parties other = some found :=
  (of_update_some known).resolve_left fun gone => nomatch gone.2

end Parties

/-- One atomic step moves the state and emits a list of effects. -/
structure Machine (σ α ε : Type) where
  step : σ → α → σ × List ε

namespace Machine

variable {σ α ε : Type}

def run (machine : Machine σ α ε) (state : σ) : List α → σ
  | [] => state
  | action :: rest => machine.run (machine.step state action).1 rest

/-- All effects of a list of actions, oldest first. -/
def trace (machine : Machine σ α ε) (state : σ) : List α → List ε
  | [] => []
  | action :: rest =>
    (machine.step state action).2 ++ machine.trace (machine.step state action).1 rest

/-- Every action of the run meets `allowed` in the state it is taken from. -/
def Admits (machine : Machine σ α ε) (allowed : σ → α → Prop) (state : σ) : List α → Prop
  | [] => True
  | action :: rest =>
    allowed state action ∧ machine.Admits allowed (machine.step state action).1 rest

instance decidableAdmits (machine : Machine σ α ε) (allowed : σ → α → Prop)
    [∀ state action, Decidable (allowed state action)] (state : σ)
    : (actions : List α) → Decidable (machine.Admits allowed state actions)
  | [] => isTrue trivial
  | action :: rest =>
    @instDecidableAnd _ _ _ (decidableAdmits machine allowed (machine.step state action).1 rest)

variable {machine : Machine σ α ε} (state : σ)

@[simp] theorem run_nil : machine.run state [] = state := rfl

@[simp] theorem run_cons (action : α) (rest : List α)
    : machine.run state (action :: rest)
      = machine.run (machine.step state action).1 rest := rfl

@[simp] theorem trace_nil : machine.trace state [] = [] := rfl

@[simp] theorem trace_cons (action : α) (rest : List α)
    : machine.trace state (action :: rest)
      = (machine.step state action).2
        ++ machine.trace (machine.step state action).1 rest := rfl

/-- A run may be cut anywhere: the second part starts where the first one ended. -/
theorem run_append (first second : List α)
    : machine.run state (first ++ second) = machine.run (machine.run state first) second := by
  induction first generalizing state with
  | nil => rfl
  | cons action rest ih => exact ih _

/-- The effects of a run that is cut are those of its two parts. -/
theorem trace_append (first second : List α)
    : machine.trace state (first ++ second)
      = machine.trace state first ++ machine.trace (machine.run state first) second := by
  induction first generalizing state with
  | nil => rfl
  | cons action rest ih => simp [ih]

/-- The last action of a run is taken from the state its predecessors reached. -/
theorem run_concat (actions : List α) (action : α)
    : machine.run state (actions ++ [action])
      = (machine.step (machine.run state actions) action).1 := by
  rw [run_append]
  rfl

/-- A run of unrestricted steps admits every action. -/
theorem admits_true (actions : List α) : machine.Admits (fun _ _ => True) state actions := by
  induction actions generalizing state with
  | nil => trivial
  | cons action rest ih => exact ⟨trivial, ih _⟩

variable {allowed : σ → α → Prop} {state : σ} {actions : List α}

/-- A run that is cut is admitted in both its parts. -/
theorem admits_append {first second : List α}
    : machine.Admits allowed state (first ++ second)
      ↔ machine.Admits allowed state first
        ∧ machine.Admits allowed (machine.run state first) second := by
  induction first generalizing state with
  | nil => simp [Admits]
  | cons action rest ih =>
    rw [cons_append, Admits, Admits, run_cons, ih, and_assoc]

/-- An invariant kept by each admitted step holds at the end of each admitted run.
Witness: induction over the actions, carrying the invariant to the next state.
-/
theorem run_invariant {invariant : σ → Prop}
    (keeps : ∀ state action,
        invariant state → allowed state action → invariant (machine.step state action).1)
    (start : invariant state) (admitted : machine.Admits allowed state actions)
    : invariant (machine.run state actions) := by
  induction actions generalizing state with
  | nil => exact start
  | cons action rest ih => exact ih (keeps state action start admitted.1) admitted.2

/-- The actions that are not silent in the states they are taken from. -/
def without (machine : Machine σ α ε) (silent : σ → α → Bool) (state : σ) : List α → List α
  | [] => []
  | action :: rest =>
    if silent state action then
      machine.without silent (machine.step state action).1 rest
    else
      action :: machine.without silent (machine.step state action).1 rest

/-- A run stays related to the run without its silent actions.
Witness: induction over the actions; a silent one moves only the first of the two runs.
-/
theorem run_without {silent : σ → α → Bool} {related : σ → σ → Prop}
    (skips : ∀ state other action, related state other → allowed state action
      → silent state action = true → related (machine.step state action).1 other)
    (follows : ∀ state other action, related state other → allowed state action
      → silent state action = false
      → related (machine.step state action).1 (machine.step other action).1)
    {state other : σ} (start : related state other)
    (admitted : machine.Admits allowed state actions)
    : related (machine.run state actions)
        (machine.run other (machine.without silent state actions)) := by
  induction actions generalizing state other with
  | nil => exact start
  | cons action rest ih =>
    unfold without
    cases quiet : silent state action with
    | true => exact ih (skips state other action start admitted.1 quiet) admitted.2
    | false => exact ih (follows state other action start admitted.1 quiet) admitted.2

variable {invariant : σ → List ε → Prop}

/-- The same for an invariant of the state together with all effects emitted so far. -/
theorem run_trace_invariant
    (keeps : ∀ state past action,
        invariant state past
        → allowed state action
        → invariant (machine.step state action).1 (past ++ (machine.step state action).2))
    {past : List ε} (start : invariant state past) (admitted : machine.Admits allowed state actions)
    : invariant (machine.run state actions) (past ++ machine.trace state actions) := by
  induction actions generalizing state past with
  | nil => simpa using start
  | cons action rest ih =>
    rw [trace_cons, ← append_assoc]
    exact ih (keeps state past action start admitted.1) admitted.2

/-- Where every step keeps it, such an invariant holds after every run. -/
theorem trace_invariant
    (keeps : ∀ {state past} action,
        invariant state past
        → invariant (machine.step state action).1 (past ++ (machine.step state action).2))
    (start : invariant state []) (actions : List α)
    : invariant (machine.run state actions) (machine.trace state actions) :=
  run_trace_invariant (fun _ _ action kept _ => keeps action kept) start (admits_true _ actions)

/-- Where a good state stays good exactly by the admitted steps, all states of a run are good
exactly if all its steps are admitted.
-/
theorem good_iff_admits {invariant good : σ → Prop}
    (keeps : ∀ state action, invariant state → invariant (machine.step state action).1)
    (exact_ : ∀ state action,
        invariant state
        → good state
        → (good (machine.step state action).1 ↔ allowed state action))
    (start : invariant state) (goodStart : good state)
    : (∀ taken, taken <+: actions → good (machine.run state taken))
      ↔ machine.Admits allowed state actions := by
  induction actions generalizing state with
  | nil => simp [Admits, goodStart]
  | cons action rest ih =>
    have tail := ih (keeps state action start)
    constructor
    · intro reached
      have next : good (machine.step state action).1 := reached [action] (by simp)
      refine ⟨(exact_ state action start goodStart).mp next, (tail next).mp ?_⟩
      intro taken earlier
      exact reached (action :: taken) (cons_prefix_cons.mpr ⟨rfl, earlier⟩)
    · intro all
      obtain ⟨admitted, later⟩ := all
      have next := (exact_ state action start goodStart).mpr admitted
      intro taken earlier
      cases taken with
      | nil => exact goodStart
      | cons first others =>
        obtain ⟨rfl, within⟩ := cons_prefix_cons.mp earlier
        exact (tail next).mpr later others within

/-- An effect property established by each admitted step holds of the whole trace. -/
theorem trace_forall {invariant : σ → Prop} {good : ε → Prop}
    (keeps : ∀ state action,
        invariant state → allowed state action → invariant (machine.step state action).1)
    (emits : ∀ state action,
        invariant state
        → allowed state action
        → ∀ effect ∈ (machine.step state action).2, good effect)
    (start : invariant state) (admitted : machine.Admits allowed state actions)
    : ∀ effect ∈ machine.trace state actions, good effect := by
  induction actions generalizing state with
  | nil => simp
  | cons action rest ih =>
    intro effect mem
    rcases mem_append.mp mem with now | later
    · exact emits state action start admitted.1 effect now
    · exact ih (keeps state action start admitted.1) admitted.2 effect later

end Machine

end Library
