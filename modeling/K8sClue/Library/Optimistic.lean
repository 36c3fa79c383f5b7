import K8sClue.Library.Runs

/-! One shared row that handlers read without a lock and write back by compare-and-set.
Between its read and its write a handler holds the write it has prepared; any steps of other
handlers and any atomic operations may come in between. An epoch counts the changes after
which an older read is out of date.
-/

namespace Library

open List Function

/-- How handlers with inputs `ι` prepare writes `ω` from a row `ρ`, and how writes and atomic
operations `α` change the row and emit effects `ε`. `none` refuses the change.
-/
structure Store (ρ ι ω α ε : Type) where
  prepare : Nat → ρ → ι → Option ω
  commit : ρ → ω → Option (ρ × List ε)
  apply : ρ → α → Option (ρ × List ε)
  /-- The change starts a new epoch. -/
  commitOpens : ρ → ω → Bool
  applyOpens : ρ → α → Bool

inductive StoreAction (ι α : Type) where
  | read (handler : Nat) (input : ι)
  | write (handler : Nat)
  | apply (operation : α)
  deriving DecidableEq

/-- A prepared write, and the epoch of the read it was computed from. -/
structure Ticket (ω : Type) where
  write : ω
  since : Nat

structure StoreState (ρ ω : Type) where
  row : ρ
  epoch : Nat
  pending : Nat → Option (Ticket ω)

/-- A change of the row, by a prepared write or by an atomic operation. -/
structure Change (ρ ω ε : Type) where
  (before after : ρ)
  ticket : Option (Ticket ω)
  epoch : Nat
  effects : List ε

namespace Store

variable {ρ ι ω α ε : Type}

def nextEpoch (epoch : Nat) (opens : Bool) : Nat := if opens then epoch + 1 else epoch

def initial (row : ρ) : StoreState ρ ω := { row, epoch := 0, pending := fun _ => none }

/-- The handler gives up what it holds. -/
def release (state : StoreState ρ ω) (handler : Nat) : StoreState ρ ω :=
  { state with pending := update state.pending handler none }

variable (store : Store ρ ι ω α ε)

def stepRead (state : StoreState ρ ω) (handler : Nat) (input : ι) : StoreState ρ ω :=
  let held := (store.prepare state.epoch state.row input).map
    (fun write => { write, since := state.epoch })
  { state with pending := update state.pending handler held }

def stepWrite (state : StoreState ρ ω) (handler : Nat) : StoreState ρ ω × List (Change ρ ω ε) :=
  match state.pending handler with
  | none => (state, [])
  | some ticket =>
    match store.commit state.row ticket.write with
    | none => (release state handler, [])
    | some (after, effects) =>
      ({
        row := after
        epoch := nextEpoch state.epoch (store.commitOpens state.row ticket.write)
        pending := (release state handler).pending },
      [{ before := state.row, after, ticket := some ticket, epoch := state.epoch, effects }])

def stepApply (state : StoreState ρ ω) (operation : α) : StoreState ρ ω × List (Change ρ ω ε) :=
  match store.apply state.row operation with
  | none => (state, [])
  | some (after, effects) =>
    ({
      row := after
      epoch := nextEpoch state.epoch (store.applyOpens state.row operation)
      pending := state.pending },
    [{ before := state.row, after, ticket := none, epoch := state.epoch, effects }])

/-- All interleavings of the handlers' reads and writes and of the atomic operations. -/
def machine : Machine (StoreState ρ ω) (StoreAction ι α) (Change ρ ω ε) where
  step state
    | .read handler input => (store.stepRead state handler input, [])
    | .write handler => store.stepWrite state handler
    | .apply operation => store.stepApply state operation

/-- The four things a step can do to the state, with the change it reports. -/
inductive Stepped (store : Store ρ ι ω α ε) (state : StoreState ρ ω)
    : StoreAction ι α → StoreState ρ ω → List (Change ρ ω ε) → Prop where
  | read (handler : Nat) (input : ι)
    : Stepped store state (.read handler input) (store.stepRead state handler input) []
  | refused (action : StoreAction ι α) (next : StoreState ρ ω)
      (row : next.row = state.row) (epoch : next.epoch = state.epoch)
      (pending
        : ∀ other ticket, next.pending other = some ticket → state.pending other = some ticket)
    : Stepped store state action next []
  | committed (handler : Nat) {ticket : Ticket ω} {after : ρ} {effects : List ε}
      (held : state.pending handler = some ticket)
      (done : store.commit state.row ticket.write = some (after, effects))
    : Stepped store state (.write handler)
        {
          row := after
          epoch := nextEpoch state.epoch (store.commitOpens state.row ticket.write)
          pending := (release state handler).pending }
        [{ before := state.row, after, ticket := some ticket, epoch := state.epoch, effects }]
  | applied (operation : α) {after : ρ} {effects : List ε}
      (done : store.apply state.row operation = some (after, effects))
    : Stepped store state (.apply operation)
        {
          row := after
          epoch := nextEpoch state.epoch (store.applyOpens state.row operation)
          pending := state.pending }
        [{ before := state.row, after, ticket := none, epoch := state.epoch, effects }]

variable {state : StoreState ρ ω} {handler other : Nat} {ticket : Ticket ω}
  {actions : List (StoreAction ι α)}

theorem release_pending (held : (release state handler).pending other = some ticket)
    : other ≠ handler ∧ state.pending other = some ticket := by
  by_cases same : other = handler
  · simp [release, same] at held
  · exact ⟨same, by simpa [release, same] using held⟩

theorem machine_step (store : Store ρ ι ω α ε) (state : StoreState ρ ω) (action : StoreAction ι α)
    : Stepped store state action (store.machine.step state action).1
        (store.machine.step state action).2 := by
  cases action with
  | read handler input => exact .read handler input
  | write handler =>
    simp only [machine, stepWrite]
    split
    · exact .refused _ _ rfl rfl (fun _ _ held => held)
    rename_i ticket held
    split
    · exact .refused _ _ rfl rfl (fun _ _ kept => (release_pending kept).2)
    · rename_i after effects done
      exact .committed handler held done
  | apply operation =>
    simp only [machine, stepApply]
    split
    · exact .refused _ _ rfl rfl (fun _ _ held => held)
    · rename_i after effects done
      exact .applied operation done

theorem stepRead_pending {store : Store ρ ι ω α ε} {input : ι}
    (held : (store.stepRead state handler input).pending other = some ticket)
    : state.pending other = some ticket
      ∨ (ticket.since = state.epoch
        ∧ store.prepare state.epoch state.row input = some ticket.write) := by
  by_cases same : other = handler
  · simp only [stepRead, same, update_self, Option.map_eq_some_iff] at held
    obtain ⟨write, prepared, rfl⟩ := held
    exact .inr ⟨rfl, prepared⟩
  · exact .inl (by simpa [stepRead, same] using held)

/-- The row satisfies an invariant of its epoch, and every prepared write is valid. -/
structure Sound (invariant : Nat → ρ → Prop) (valid : Ticket ω → Prop)
    (state : StoreState ρ ω)
    : Prop where
  row : invariant state.epoch state.row
  pending : ∀ handler ticket, state.pending handler = some ticket → valid ticket

/-- What has to be shown of a store so that an invariant holds in all interleavings. -/
structure Maintains (store : Store ρ ι ω α ε)
    (allowed : StoreState ρ ω → StoreAction ι α → Prop) (invariant : Nat → ρ → Prop)
    (valid : Ticket ω → Prop)
    : Prop where
  prepares
    : ∀ epoch row input write, invariant epoch row → store.prepare epoch row input = some write
        → valid { write, since := epoch }
  commits : ∀ state handler ticket after effects, Sound invariant valid state
      → allowed state (.write handler) → state.pending handler = some ticket
      → store.commit state.row ticket.write = some (after, effects)
      → invariant (nextEpoch state.epoch (store.commitOpens state.row ticket.write)) after
  applies : ∀ epoch row operation after effects, invariant epoch row
      → store.apply row operation = some (after, effects)
      → invariant (nextEpoch epoch (store.applyOpens row operation)) after

variable {store : Store ρ ι ω α ε} {allowed : StoreState ρ ω → StoreAction ι α → Prop}
  {invariant : Nat → ρ → Prop} {valid : Ticket ω → Prop}

/-- One step keeps the invariant and the validity of what handlers hold. -/
theorem Maintains.step (maintains : store.Maintains allowed invariant valid)
    {action : StoreAction ι α} (sound : Sound invariant valid state)
    (admitted : allowed state action)
    : Sound invariant valid (store.machine.step state action).1 := by
  have stepped := store.machine_step state action
  generalize (store.machine.step state action).1 = next,
    (store.machine.step state action).2 = changes at stepped
  cases stepped with
  | read handler input =>
    refine ⟨sound.row, ?_⟩
    intro other ticket held
    rcases stepRead_pending held with before | ⟨since, prepared⟩
    · exact sound.pending other ticket before
    · have valid := maintains.prepares _ _ _ _ sound.row prepared
      rwa [← since] at valid
  | refused _ _ row epoch pending =>
    refine ⟨row ▸ epoch ▸ sound.row, ?_⟩
    intro other ticket held
    exact sound.pending other ticket (pending other ticket held)
  | committed handler held done =>
    refine ⟨maintains.commits state handler _ _ _ sound admitted held done, ?_⟩
    intro other ticket kept
    exact sound.pending other ticket (release_pending kept).2
  | applied operation done =>
    exact ⟨maintains.applies _ _ _ _ _ sound.row done, sound.pending⟩

/-- Every reachable state is sound. -/
theorem Maintains.run (maintains : store.Maintains allowed invariant valid)
    (sound : Sound invariant valid state) (admitted : store.machine.Admits allowed state actions)
    : Sound invariant valid (store.machine.run state actions) :=
  Machine.run_invariant (fun _ _ kept admittedStep => maintains.step kept admittedStep) sound
    admitted

/-- What each kind of change guarantees, all changes of a run guarantee. -/
theorem Maintains.changes (maintains : store.Maintains allowed invariant valid)
    {good : Change ρ ω ε → Prop}
    (committed : ∀ state handler ticket after effects, Sound invariant valid state
        → allowed state (.write handler) → state.pending handler = some ticket
        → store.commit state.row ticket.write = some (after, effects)
        → good { before := state.row, after, ticket := some ticket, epoch := state.epoch, effects })
    (applied : ∀ epoch row operation after effects, invariant epoch row
        → store.apply row operation = some (after, effects)
        → good { before := row, after, ticket := none, epoch, effects })
    (sound : Sound invariant valid state) (admitted : store.machine.Admits allowed state actions)
    : ∀ change ∈ store.machine.trace state actions, good change := by
  refine Machine.trace_forall (fun _ _ kept admittedStep => maintains.step kept admittedStep)
    ?_ sound admitted
  intro state action sound admittedStep
  have stepped := store.machine_step state action
  generalize (store.machine.step state action).1 = next,
    (store.machine.step state action).2 = changes at stepped
  cases stepped with
  | read | refused => simp
  | committed handler held done =>
    intro change mem
    obtain rfl := mem_singleton.mp mem
    exact committed state handler _ _ _ sound admittedStep held done
  | applied operation done =>
    intro change mem
    obtain rfl := mem_singleton.mp mem
    exact applied _ _ _ _ _ sound.row done

/-- A step leaves the row as it is, or reports the one change it makes. -/
theorem step_change (store : Store ρ ι ω α ε) (state : StoreState ρ ω) (action : StoreAction ι α)
    : ((store.machine.step state action).2 = []
        ∧ (store.machine.step state action).1.row = state.row)
      ∨ ∃ change, (store.machine.step state action).2 = [change]
          ∧ change.before = state.row
          ∧ change.after = (store.machine.step state action).1.row := by
  have stepped := store.machine_step state action
  generalize (store.machine.step state action).1 = next,
    (store.machine.step state action).2 = changes at stepped
  cases stepped with
  | read => exact .inl ⟨rfl, rfl⟩
  | refused _ _ row => exact .inl ⟨rfl, row⟩
  | committed => exact .inr ⟨_, rfl, rfl, rfl⟩
  | applied => exact .inr ⟨_, rfl, rfl, rfl⟩

/-- What every change of a run keeps of a row, the run keeps. -/
theorem run_keeps {kept : ρ → Prop}
    (keeps : ∀ change ∈ store.machine.trace state actions, kept change.before → kept change.after)
    (start : kept state.row)
    : kept (store.machine.run state actions).row := by
  induction actions generalizing state with
  | nil => exact start
  | cons action rest ih =>
    refine ih (fun change mem => keeps change (mem_append_right _ mem)) ?_
    rcases store.step_change state action with ⟨_, row⟩ | ⟨change, made, before, after⟩
    · rwa [row]
    · rw [← after]
      refine keeps change (mem_append_left _ ?_) (before ▸ start)
      simp [made]

/-- Effects that every change pays for out of a potential are emitted at most as often as the
potential of the first row allows.
-/
theorem trace_countP_le {selected : ε → Bool} {potential : ρ → Nat}
    (pays : ∀ change ∈ store.machine.trace state actions,
        change.effects.countP selected + potential change.after ≤ potential change.before)
    : ((store.machine.trace state actions).flatMap Change.effects).countP selected
        + potential (store.machine.run state actions).row
      ≤ potential state.row := by
  induction actions generalizing state with
  | nil => simp
  | cons action rest ih =>
    have later := ih (fun change mem => pays change (mem_append_right _ mem))
    rcases store.step_change state action with ⟨made, row⟩ | ⟨change, made, before, after⟩
    · simp only [Machine.trace_cons, made]
      rwa [row] at later
    · have now := pays change (mem_append_left _ (by simp [made]))
      rw [before, after] at now
      simp only [Machine.trace_cons, Machine.run_cons, made, singleton_append,
        flatMap_cons, countP_append]
      omega

def Opens (store : Store ρ ι ω α ε) (state : StoreState ρ ω) : StoreAction ι α → Prop
  | .read _ _ => False
  | .write handler =>
    ∃ ticket, state.pending handler = some ticket
      ∧ (store.commit state.row ticket.write).isSome
      ∧ store.commitOpens state.row ticket.write = true
  | .apply operation =>
    (store.apply state.row operation).isSome ∧ store.applyOpens state.row operation = true

/-- A new epoch starts only while no other handler is between its read and its write. -/
def Quiet (store : Store ρ ι ω α ε) (state : StoreState ρ ω) (action : StoreAction ι α) : Prop :=
  store.Opens state action
    → ∀ other ticket, state.pending other = some ticket → action = .write other

theorem nextEpoch_of_not_opens {epoch : Nat} {opens : Bool} (closed : opens ≠ true)
    : nextEpoch epoch opens = epoch := by
  simp [nextEpoch, closed]

/-- Every prepared write was computed from a read of the current epoch. -/
def Current (state : StoreState ρ ω) : Prop :=
  ∀ handler ticket, state.pending handler = some ticket → ticket.since = state.epoch

/-- A quiet step leaves no handler with a write of an older epoch. -/
theorem quiet_step (state : StoreState ρ ω) (action : StoreAction ι α)
    (current : Current state) (quiet : store.Quiet state action)
    : Current (store.machine.step state action).1 := by
  have stepped := store.machine_step state action
  generalize (store.machine.step state action).1 = next,
    (store.machine.step state action).2 = changes at stepped
  intro other ticket held
  cases stepped with
  | read handler input =>
    rcases stepRead_pending held with before | ⟨since, _⟩
    · exact current other ticket before
    · exact since
  | refused _ _ row epoch pending =>
    rw [epoch]
    exact current other ticket (pending other ticket held)
  | @committed handler landed after effects before done =>
    obtain ⟨different, kept⟩ := release_pending held
    by_cases opens : store.commitOpens state.row landed.write = true
    · have same := quiet ⟨landed, before, by simp [done], opens⟩ other ticket kept
      exact absurd (StoreAction.write.inj same).symm different
    · rw [nextEpoch_of_not_opens opens]
      exact current other ticket kept
  | applied operation done =>
    by_cases opens : store.applyOpens state.row operation = true
    · have same := quiet ⟨by simp [done], opens⟩ other ticket held
      cases same
    · rw [nextEpoch_of_not_opens opens]
      exact current other ticket held

/-- In quiet runs every write lands in the epoch of its own read. -/
theorem quiet_changes (current : Current state)
    (quiet : store.machine.Admits store.Quiet state actions)
    : ∀ change ∈ store.machine.trace state actions, ∀ ticket,
        change.ticket = some ticket → ticket.since = change.epoch := by
  refine Machine.trace_forall quiet_step ?_ current quiet
  intro state action current _
  have stepped := store.machine_step state action
  generalize (store.machine.step state action).1 = next,
    (store.machine.step state action).2 = changes at stepped
  cases stepped with
  | read | refused => simp
  | committed handler held done =>
    intro change mem ticket landed
    obtain rfl := mem_singleton.mp mem
    cases landed
    exact current handler _ held
  | applied operation done =>
    intro change mem ticket landed
    obtain rfl := mem_singleton.mp mem
    cases landed

end Store

end Library
