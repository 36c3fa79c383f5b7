import K8sClue.Library.Runs

/-! Transactions over a family of cells, each guarded by an exclusive lock.
A transaction takes a cell's lock with its first call on the cell and keeps it until it ends;
its changes are visible to itself at once and to the others when it commits. What has been
committed to a cell is then always one serial replay of the committed calls on it.
-/

namespace Library

open List Function

/-- An answered call of a transaction on one cell. -/
structure Call (τ κ ω ε : Type) where
  owner : τ
  key : κ
  operation : ω
  answer : ε

inductive LockAction (τ κ ω : Type) where
  | call (owner : τ) (key : κ) (operation : ω)
  | commit (owner : τ)
  | abort (owner : τ)
  deriving DecidableEq

/-- The committed cells, the locked ones with what their holder sees, and the answered calls
of the transactions that have not ended.
-/
structure LockState (τ κ ρ ω ε : Type) where
  committed : κ → ρ
  held : κ → Option (τ × ρ)
  pending : List (Call τ κ ω ε)

namespace Locking

variable {τ κ ρ ω ε : Type}

def initial (cells : κ → ρ) : LockState τ κ ρ ω ε :=
  { committed := cells, held := fun _ => none, pending := [] }

def callsAt [DecidableEq κ] (key : κ) (calls : List (Call τ κ ω ε)) : List (Call τ κ ω ε) :=
  calls.filter (·.key = key)

@[simp] theorem callsAt_append [DecidableEq κ] (key : κ) (first second : List (Call τ κ ω ε))
    : callsAt key (first ++ second) = callsAt key first ++ callsAt key second :=
  filter_append ..

/-- The calls, made one after the other, lead from one cell to the other and were answered as
they are then.
-/
def Replays (apply : ρ → ω → ρ × ε) : ρ → List (Call τ κ ω ε) → ρ → Prop
  | cell, [], final => cell = final
  | cell, call :: rest, final =>
    (apply cell call.operation).2 = call.answer
    ∧ Replays apply (apply cell call.operation).1 rest final

variable {apply : ρ → ω → ρ × ε}

variable {first middle last cell : ρ} {earlier later calls : List (Call τ κ ω ε)} {key : κ}

theorem Replays.append (before : Replays apply first earlier middle)
    (after : Replays apply middle later last)
    : Replays apply first (earlier ++ later) last := by
  induction earlier generalizing first with
  | nil =>
    cases before
    exact after
  | cons call rest ih => exact ⟨before.1, ih before.2⟩

/-- A replay leads on from where a part of its calls has led. -/
theorem Replays.rest (whole : Replays apply first (earlier ++ later) last)
    (before : Replays apply first earlier middle)
    : Replays apply middle later last := by
  induction earlier generalizing first with
  | nil =>
    cases before
    exact whole
  | cons call rest ih => exact ih whole.2 before.2

/-- What each call keeps of a cell and the calls made on it, a whole replay keeps. -/
theorem Replays.invariant {holds : ρ → List (Call τ κ ω ε) → Prop}
    (keeps : ∀ cell past, ∀ call ∈ calls, holds cell past
      → (apply cell call.operation).2 = call.answer
      → holds (apply cell call.operation).1 (past ++ [call]))
    {past : List (Call τ κ ω ε)} (start : holds first past)
    (replay : Replays apply first calls last)
    : holds last (past ++ calls) := by
  induction calls generalizing first past with
  | nil =>
    cases replay
    simpa using start
  | cons call rest ih =>
    have next := ih (fun cell past later mem => keeps cell past later (by simp [mem]))
      (keeps first past call (by simp) start replay.1) replay.2
    simpa using next

/-- A preorder that each call moves up along relates the two ends of a replay. -/
theorem Replays.related {R : ρ → ρ → Prop} (refl : ∀ cell, R cell cell)
    (trans : ∀ {first middle last}, R first middle → R middle last → R first last)
    (moves : ∀ cell operation, R cell (apply cell operation).1)
    (replay : Replays apply first calls last)
    : R first last := by
  induction calls generalizing first with
  | nil =>
    cases replay
    exact refl _
  | cons call rest ih => exact trans (moves first call.operation) (ih replay.2)

/-- A replay of a machine's steps is a run of the machine. -/
theorem Replays.run {machine : Machine ρ ω ε} {calls : List (Call τ κ ω (List ε))}
    (replay : Replays machine.step first calls last)
    : machine.run first (calls.map (·.operation)) = last := by
  induction calls generalizing first with
  | nil => exact replay
  | cons call rest ih => exact ih replay.2

variable [DecidableEq τ] (state : LockState τ κ ρ ω ε)

/-- The cell as a transaction may use it, unless another one holds it. -/
def visible (owner : τ) (key : κ) : Option ρ :=
  match state.held key with
  | none => some (state.committed key)
  | some (holder, cell) => if holder = owner then some cell else none

/-- The transaction gives up its locks and its calls. -/
def release (owner : τ) : LockState τ κ ρ ω ε where
  committed := state.committed
  held := fun key => (state.held key).filter (·.1 ≠ owner)
  pending := state.pending.filter (·.owner ≠ owner)

/-- What each cell holds once the transaction's changes count. -/
def published (owner : τ) (key : κ) : ρ :=
  match state.held key with
  | none => state.committed key
  | some (holder, cell) => if holder = owner then cell else state.committed key

variable [DecidableEq κ]

/-- The state after a transaction's call on a cell that it may use. -/
def called (apply : ρ → ω → ρ × ε) (state : LockState τ κ ρ ω ε) (owner : τ) (key : κ)
    (operation : ω) (cell : ρ)
    : LockState τ κ ρ ω ε where
  committed := state.committed
  held := update state.held key (some (owner, (apply cell operation).1))
  pending :=
    state.pending ++ [{ owner, key, operation, answer := (apply cell operation).2 }]

/-- A call on a cell that another transaction holds waits: it does not happen. The effects of
a commit are the transaction's calls.
-/
def step (apply : ρ → ω → ρ × ε) (state : LockState τ κ ρ ω ε)
    : LockAction τ κ ω → LockState τ κ ρ ω ε × List (Call τ κ ω ε)
  | .call owner key operation =>
    match visible state owner key with
    | none => (state, [])
    | some cell => (called apply state owner key operation cell, [])
  | .commit owner =>
    ({ release state owner with committed := published state owner },
      state.pending.filter (·.owner = owner))
  | .abort owner => (release state owner, [])

def machine (apply : ρ → ω → ρ × ε)
    : Machine (LockState τ κ ρ ω ε) (LockAction τ κ ω) (Call τ κ ω ε) where
  step := step apply

/-- What a lock protects: a held cell is a replay of its holder's calls over the committed
cell, and nobody else has called it.
-/
structure Guarded (apply : ρ → ω → ρ × ε) (state : LockState τ κ ρ ω ε) (key : κ) : Prop where
  free : state.held key = none → callsAt key state.pending = []
  owned : ∀ holder cell, state.held key = some (holder, cell)
    → (∀ call ∈ callsAt key state.pending, call.owner = holder)
      ∧ Replays apply (state.committed key) (callsAt key state.pending) cell

/-- Every cell is guarded, and what is committed to it replays the committed calls. -/
structure Serial (apply : ρ → ω → ρ × ε) (cells : κ → ρ) (state : LockState τ κ ρ ω ε)
    (past : List (Call τ κ ω ε))
    : Prop where
  guarded : ∀ key, Guarded apply state key
  replays : ∀ key, Replays apply (cells key) (callsAt key past) (state.committed key)

omit [DecidableEq τ] in
theorem initial_serial (cells : κ → ρ)
    : Serial apply cells (initial cells : LockState τ κ ρ ω ε) [] where
  guarded := fun _ => { free := fun _ => rfl, owned := by simp [initial] }
  replays := fun _ => rfl

variable {state : LockState τ κ ρ ω ε}

/-- A transaction that ends leaves the cells of the others guarded. -/
theorem Guarded.release (guarded : Guarded apply state key) (owner : τ)
    : Guarded apply (release state owner) key := by
  have swap : callsAt key (Locking.release state owner).pending
      = (callsAt key state.pending).filter (·.owner ≠ owner) := filter_comm ..
  cases locked : state.held key with
  | none =>
    refine ⟨fun _ => ?_, ?_⟩
    · rw [swap, guarded.free locked]
      rfl
    · simp [Locking.release, locked]
  | some pair =>
    obtain ⟨holder, cell⟩ := pair
    obtain ⟨mine, replay⟩ := guarded.owned holder cell locked
    by_cases same : holder = owner
    · refine ⟨fun _ => ?_, ?_⟩
      · rw [swap, filter_eq_nil_iff]
        intro call mem
        simp [mine call mem, same]
      · simp [Locking.release, locked, same]
    · have kept : callsAt key (Locking.release state owner).pending
          = callsAt key state.pending := by
        rw [swap, filter_eq_self]
        intro call mem
        simp [mine call mem, same]
      constructor
      · simp [Locking.release, locked, same]
      · intro other visible still
        simp only [Locking.release, locked, Option.filter_some] at still
        simp only [same, ne_eq, not_false_eq_true, decide_true, ite_true, Option.some.injEq,
          Prod.mk.injEq] at still
        obtain ⟨rfl, rfl⟩ := still
        rw [kept]
        exact ⟨mine, replay⟩

/-- What a transaction sees of a guarded cell replays its own calls, and only those. -/
theorem Guarded.visible (guarded : Guarded apply state key)
    {owner : τ} (seen : visible state owner key = some cell)
    : (∀ call ∈ callsAt key state.pending, call.owner = owner)
      ∧ Replays apply (state.committed key) (callsAt key state.pending) cell := by
  unfold Locking.visible at seen
  split at seen
  next free =>
    cases seen
    rw [guarded.free free]
    exact ⟨by simp, rfl⟩
  next holder held locked =>
    split at seen
    next own =>
      obtain rfl := Option.some.inj seen
      exact own ▸ guarded.owned holder held locked
    · simp at seen

/-- A call keeps every cell guarded: its own cell's replay grows, the others are as before. -/
theorem Guarded.called {other : κ} (guarded : Guarded apply state other) {owner : τ} (operation : ω)
    (seen : Locking.visible state owner key = some cell)
    : Guarded apply (called apply state owner key operation cell) other := by
  by_cases same : other = key
  · subst same
    obtain ⟨mine, replay⟩ := guarded.visible seen
    refine ⟨by simp [Locking.called], ?_⟩
    intro holder next locked
    simp only [Locking.called, update_self, Option.some.injEq, Prod.mk.injEq] at locked
    obtain ⟨rfl, rfl⟩ := locked
    simp only [Locking.called, callsAt_append]
    refine ⟨?_, replay.append ?_⟩
    · intro call mem
      rcases mem_append.mp mem with earlier | last
      · exact mine call earlier
      · simp only [callsAt, mem_filter, mem_singleton] at last
        rw [last.1]
    · simp [callsAt, Replays]
  · have kept : callsAt other (Locking.called apply state owner key operation cell).pending
        = callsAt other state.pending := by
      simp [Locking.called, callsAt, Ne.symm same]
    have unlocked
        : (Locking.called apply state owner key operation cell).held other = state.held other :=
      update_of_ne same _ _
    constructor
    · rw [kept, unlocked]
      exact guarded.free
    · intro holder held
      rw [kept, unlocked]
      exact guarded.owned holder held

section Steps

variable {cells : κ → ρ} {past : List (Call τ κ ω ε)}
  (serial : Serial apply cells state past) (owner : τ)
include serial

theorem Serial.call (key : κ) (operation : ω)
    : Serial apply cells (step apply state (.call owner key operation)).1 past := by
  simp only [step]
  split
  · exact serial
  next cell seen =>
    exact ⟨fun other => (serial.guarded other).called operation seen, serial.replays⟩

/-- A commit appends the transaction's calls to the replay of each cell it holds. -/
theorem Serial.commit
    : Serial apply cells (step apply state (.commit owner)).1
        (past ++ (step apply state (.commit owner)).2) := by
  simp only [step]
  have swap : ∀ key, callsAt key (state.pending.filter (·.owner = owner))
      = (callsAt key state.pending).filter (·.owner = owner) := fun _ => filter_comm ..
  constructor
  · intro key
    have released := (serial.guarded key).release owner
    refine ⟨released.free, ?_⟩
    intro holder cell locked
    have others : published state owner key = state.committed key := by
      unfold published
      cases before : state.held key with
      | none => rfl
      | some pair =>
        have foreign : pair.1 ≠ owner := by
          simp only [Locking.release, before, Option.filter_eq_some_iff,
            decide_eq_true_eq, Option.some.injEq] at locked
          exact locked.1 ▸ locked.2
        simp [foreign]
    simpa [others, Locking.release] using released.owned holder cell locked
  · intro key
    rw [callsAt_append, swap]
    refine (serial.replays key).append ?_
    dsimp only
    unfold published
    split
    next free => simp [(serial.guarded key).free free, Replays]
    next holder cell locked =>
      obtain ⟨mine, replay⟩ := (serial.guarded key).owned holder cell locked
      split
      next own =>
        rw [filter_eq_self.mpr]
        · exact replay
        · intro call mem
          simp [mine call mem, own]
      next foreign =>
        rw [filter_eq_nil_iff.mpr]
        · rfl
        · intro call mem
          simp [mine call mem, foreign]

theorem Serial.abort : Serial apply cells (step apply state (.abort owner)).1 past where
  guarded := fun key => (serial.guarded key).release owner
  replays := serial.replays

theorem Serial.step (action : LockAction τ κ ω)
    : Serial apply cells (step apply state action).1
        (past ++ (Locking.step apply state action).2) := by
  cases action with
  | call owner key operation =>
    have silent : (Locking.step apply state (.call owner key operation)).2 = [] := by
      simp only [Locking.step]
      split <;> rfl
    rw [silent, append_nil]
    exact serial.call owner key operation
  | commit owner => exact serial.commit owner
  | abort owner => simpa [Locking.step] using serial.abort owner

end Steps

/-- After every interleaving of calls, commits and aborts, what is committed to each cell
replays the calls of the committed transactions in the order of their commits.
-/
theorem run_serial (apply : ρ → ω → ρ × ε) (cells : κ → ρ) (actions : List (LockAction τ κ ω))
    : Serial apply cells ((machine apply).run (initial cells) actions)
        ((machine apply).trace (initial cells) actions) :=
  Machine.trace_invariant (fun action serial => serial.step action) (initial_serial cells) actions

/-- What is committed to a cell only changes by further calls. -/
theorem run_replays_on (apply : ρ → ω → ρ × ε) (cells : κ → ρ)
    (first second : List (LockAction τ κ ω)) (key : κ)
    : Replays apply (((machine apply).run (initial cells) first).committed key) (callsAt key
          ((machine apply).trace ((machine apply).run (initial cells) first) second))
        (((machine apply).run (initial cells) (first ++ second)).committed key) := by
  have whole := (run_serial apply cells (first ++ second)).replays key
  rw [Machine.trace_append, callsAt_append] at whole
  exact whole.rest ((run_serial apply cells first).replays key)

def GoodAction (good : κ → ω → Prop) : LockAction τ κ ω → Prop
  | .call _ key operation => good key operation
  | _ => True

def GoodPending (good : κ → ω → Prop) (state : LockState τ κ ρ ω ε) : Prop :=
  ∀ call ∈ state.pending, good call.key call.operation

variable {good : κ → ω → Prop} {actions : List (LockAction τ κ ω)}

omit [DecidableEq κ] in
theorem GoodPending.release (pending : GoodPending good state) (owner : τ)
    : GoodPending good (release state owner) :=
  fun call mem => pending call (mem_of_mem_filter mem)

theorem GoodPending.step (pending : GoodPending good state)
    {action : LockAction τ κ ω} (allowed : GoodAction good action)
    : GoodPending good (step apply state action).1 := by
  cases action with
  | call owner key operation =>
    simp only [Locking.step]
    split
    · exact pending
    next cell seen =>
      intro call mem
      rcases mem_append.mp mem with earlier | last
      · exact pending call earlier
      · rw [mem_singleton.mp last]
        exact allowed
  | commit owner => exact pending.release owner
  | abort owner => exact pending.release owner

theorem GoodPending.emits (pending : GoodPending good state) (action : LockAction τ κ ω)
    : ∀ call ∈ (Locking.step apply state action).2, good call.key call.operation := by
  intro call mem
  cases action with
  | call owner key operation =>
    simp only [Locking.step] at mem
    split at mem <;> simp at mem
  | commit owner => exact pending call (mem_of_mem_filter mem)
  | abort owner => simp [Locking.step] at mem

theorem admits_good (all : ∀ action ∈ actions, GoodAction good action)
    : (machine apply).Admits (fun _ action => GoodAction good action) state actions := by
  induction actions generalizing state with
  | nil => trivial
  | cons action rest ih =>
    exact ⟨all action (by simp), ih (fun other mem => all other (by simp [mem]))⟩

/-- If all calls of a run are good, so are those it commits. -/
theorem trace_good (apply : ρ → ω → ρ × ε) (cells : κ → ρ)
    (all : ∀ action ∈ actions, GoodAction good action)
    : ∀ call ∈ (machine apply).trace (initial cells) actions, good call.key call.operation := by
  have start : GoodPending good (initial cells : LockState τ κ ρ ω ε) := by
    intro call mem
    simp [initial] at mem
  exact Machine.trace_forall (fun state action pending allowed => pending.step allowed)
    (fun state action pending _ => pending.emits action) start (admits_good all)

/-- Where some calls yield a value, what each call keeps of a cell and of the values yielded so far
holds of the committed cell and the values of the committed calls.
-/
theorem yields_invariant {β : Type} {apply : ρ → ω → ρ × Option β} {holds : ρ → List β → Prop}
    (keeps : ∀ {cell past} operation, holds cell past
      → holds (apply cell operation).1 (past ++ (apply cell operation).2.toList))
    (cells : κ → ρ) (key : κ) (start : holds (cells key) []) (actions : List (LockAction τ κ ω))
    : holds (((machine apply).run (initial cells) actions).committed key)
        ((callsAt key ((machine apply).trace (initial cells) actions)).filterMap (·.answer)) := by
  have step (cell : ρ) (past : List (Call τ κ ω (Option β))) (call : Call τ κ ω (Option β))
      (before : holds cell (past.filterMap (·.answer)))
      (answered : (apply cell call.operation).2 = call.answer)
      : holds (apply cell call.operation).1 ((past ++ [call]).filterMap (·.answer)) := by
    have next := keeps call.operation before
    rw [answered] at next
    rw [filterMap_append]
    cases told : call.answer <;> simpa [told] using next
  have first : holds (cells key) (([] : List (Call τ κ ω (Option β))).filterMap (·.answer)) := start
  exact ((run_serial apply cells actions).replays key).invariant
    (fun cell past call _ => step cell past call) first

end Locking

end Library
