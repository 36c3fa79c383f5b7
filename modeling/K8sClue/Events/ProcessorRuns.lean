import K8sClue.Events.Processor
import K8sClue.Library.Claims

/-! The workers on one ledger.
Seen through the statuses of its rows, the ledger is a board of exclusive claims: the workers
take, complete, give back and drop its keys. Their acknowledgements rest on what is committed.
-/

namespace K8sClue.Events

open Python Library

section Board

variable {ω : Type}

def EventStore.status (store : EventStore ω) (key : String × String)
    : Option EventProcessingStatus :=
  (Keyed.find ProcessingRow.key store.processing key).map (·.status)

def phaseOf : Option EventProcessingStatus → Claims.Phase
  | some .processing => .held
  | some .processed => .completed
  | some .deadLettered => .dropped
  | some .retrying => .available
  | none => .available

def Attempt.heldKey (attempt : Attempt) : Option (String × String) :=
  attempt.stage.holds.map attempt.spec.keyFor

variable (state : ProcessorState ω)

def ProcessorState.board : Claims.Board Nat (String × String) where
  phase key := phaseOf (state.store.status key)
  holding call := (state.running call).bind Attempt.heldKey
  completions := state.store.business.map BusinessCommit.key

/-- A claim on a row that is being processed is taken over only after the call that holds it has
ended.
-/
def TakesOverAbandoned : ProcessorAction ω → Prop
  | .act call (.claim true) =>
    ∀ attempt event, state.running call = some attempt → attempt.stage = .claiming event
    → state.store.status (attempt.spec.keyFor event) = some .processing
    → ∀ other, state.board.holding other ≠ some (attempt.spec.keyFor event)
  | _ => True

/-- The board after a step that moved one call. -/
theorem board_update (store : EventStore ω) (call : Nat) (next : Option Attempt)
    : ProcessorState.board { store, running := Function.update state.running call next }
      = { phase := fun key => phaseOf (store.status key)
          holding := Function.update state.board.holding call (next.bind Attempt.heldKey)
          completions := store.business.map BusinessCommit.key } := by
  unfold ProcessorState.board
  congr 1
  funext other
  by_cases same : other = call
  · simp [same]
  · simp [Function.update_of_ne same]

variable {state : ProcessorState ω} {store next : EventStore ω} {call : Nat} {attempt : Attempt}
  {key : String × String} {status : EventProcessingStatus} {lastError : Option String}

/-- A call that ends up without a claim, on an unchanged ledger. -/
theorem board_vanish {next : Option Attempt} (ledger : store.processing = state.store.processing)
    (business : store.business = state.store.business) (unheld : next.bind Attempt.heldKey = none)
    : Claims.Step state.board
        (ProcessorState.board { store, running := Function.update state.running call next }) := by
  rw [board_update, unheld, business]
  have same : store.status = state.store.status := by
    funext key
    rw [EventStore.status, EventStore.status, ledger]
  rw [same]
  exact .vanish call

/-- A call that keeps its claim, on an unchanged ledger. -/
theorem board_stay {next : Attempt} (ledger : store.processing = state.store.processing)
    (business : store.business = state.store.business) (runs : state.running call = some attempt)
    (held : next.heldKey = attempt.heldKey)
    : Claims.Step state.board (ProcessorState.board
          { store, running := Function.update state.running call (some next) }) := by
  have holding : state.board.holding call = next.heldKey := by
    simp [ProcessorState.board, runs, held]
  have same : store.status = state.store.status := by
    funext key
    rw [EventStore.status, EventStore.status, ledger]
  rw [board_update, Option.bind_some, ← holding, Function.update_eq_self, business, same]
  exact .stay

/-- The statuses after one of them is set. -/
theorem status_setStatus
    (written : next.processing = setStatus store.processing key status lastError)
    (other : String × String)
    : next.status other
      = if other = key then (store.status other).map fun _ => status
        else store.status other := by
  unfold EventStore.status
  rw [written, find_setStatus, Option.map_map]
  by_cases same : other = key
  · simp [same, Function.comp_def]
  · simp [same, Function.comp_def]

/-- Setting the status of a held row moves its key on the board. -/
theorem phase_setStatus (held : phaseOf (store.status key) = .held)
    (written : next.processing = setStatus store.processing key status lastError)
    : (fun other => phaseOf (next.status other))
      = Function.update (fun other => phaseOf (store.status other)) key
          (phaseOf (some status)) := by
  funext other
  rw [status_setStatus written]
  by_cases same : other = key
  · subst same
    rw [if_pos rfl, Function.update_self]
    cases found : store.status other with
    | none =>
      rw [found] at held
      cases held
    | some before => rfl
  · rw [if_neg same, Function.update_of_ne same]

/-- A successful claim takes its key. -/
theorem board_claimed {event : EventEnvelope} {stale : Bool} {processing : List ProcessingRow}
    {row : ProcessingRow}
    (claims
      : claimEventProcessing state.store.processing event (attempt.spec.consumerFor event) stale
        = some (processing, row))
    (abandoned : stale = true → state.store.status (attempt.spec.keyFor event) = some .processing
      → ∀ other, state.board.holding other ≠ some (attempt.spec.keyFor event))
    : Claims.Step state.board (ProcessorState.board
          { store := { state.store.recordEvent event with processing }
            running := Function.update state.running call
              (some { attempt with stage := .handling event row.attempts }) }) := by
  obtain ⟨claimable, taken, status, kept⟩ := claimEventProcessing_some claims
  have phases : (fun key => phaseOf
        (EventStore.status { state.store.recordEvent event with processing } key))
      = Function.update state.board.phase (attempt.spec.keyFor event) .held := by
    funext key
    by_cases same : key = attempt.spec.keyFor event
    · rw [same]
      simp [EventStore.status, EventHandlerSpec.keyFor, taken, status, phaseOf]
    · rw [Function.update_of_ne same]
      simp only [EventStore.status, kept key same, ProcessorState.board]
  rw [board_update, phases]
  refine .take call (attempt.spec.keyFor event) ?_ ?_
  · cases found : state.store.status (attempt.spec.keyFor event) with
    | none => simp [ProcessorState.board, found, phaseOf, Claims.Phase.closed]
    | some before =>
      obtain ⟨known, at_, rfl⟩ := Option.map_eq_some_iff.mp found
      have may := claimable known at_
      cases standing : known.status <;>
        simp_all [ProcessorState.board, phaseOf, Claims.Phase.closed, ProcessingRow.claimable,
          EventProcessingStatus.terminal]
  · intro held
    cases found : state.store.status (attempt.spec.keyFor event) with
    | none => simp [ProcessorState.board, found, phaseOf] at held
    | some before =>
      obtain ⟨known, at_, rfl⟩ := Option.map_eq_some_iff.mp found
      have may := claimable known at_
      have processing : known.status = .processing := by
        cases standing : known.status <;>
          simp_all [ProcessorState.board, phaseOf]
      refine abandoned ?_ (by rw [found, processing])
      simpa [ProcessingRow.claimable, processing, EventProcessingStatus.terminal] using may

/-- The workers play by the rules of the board. -/
theorem ProcessorMoves.board {setting : ProcessorSetting} {action : ProcessorAction ω}
    {next : ProcessorState ω × List Acknowledged} (moves : ProcessorMoves setting state action next)
    (exclusive : Claims.Exclusive state.board) (admitted : TakesOverAbandoned state action)
    : Claims.Step state.board next.1.board := by
  cases moves with
  | idle => exact .stay
  | delivered call spec data free =>
    refine board_vanish rfl rfl ?_
    unfold firstStage
    split <;> rfl
  | acted call attempt action step runs moves =>
    -- the phase of a row whose claim the call holds
    have held (event : EventEnvelope) (holds : attempt.stage.holds = some event)
        : state.board.holding call = some (attempt.spec.keyFor event)
          ∧ phaseOf (state.store.status (attempt.spec.keyFor event)) = .held := by
      have holding : state.board.holding call = some (attempt.spec.keyFor event) := by
        simp [ProcessorState.board, runs, Attempt.heldKey, holds]
      exact ⟨holding, exclusive.held _ _ holding⟩
    cases moves with
    | captureRaw outcome at_ =>
      refine board_vanish rfl rfl ?_
      split <;> rfl
    | claimed event stale processing row at_ claims =>
      refine board_claimed claims ?_
      intro isStale
      subst isStale
      exact admitted attempt event runs at_
    | refused event stale at_ => exact board_vanish rfl rfl rfl
    | inspected event at_ =>
      refine board_vanish rfl rfl ?_
      unfold inspectStep
      dsimp only
      split <;> rfl
    | committed event attempts writes events outbox at_ staged =>
      obtain ⟨holding, phase⟩ := held event (by rw [at_]; rfl)
      rw [board_update, phase_setStatus phase rfl, List.map_append]
      exact .complete call _ holding
    | rolledBack event attempts error at_ =>
      refine board_stay rfl rfl runs ?_
      simp [Attempt.heldKey, at_, Stage.holds]
    | captured event attempts error outcome at_ exhausted =>
      refine board_stay rfl rfl runs ?_
      cases outcome <;> simp [Attempt.heldKey, at_, Stage.holds]
    | retried event error holds =>
      obtain ⟨holding, phase⟩ := held event holds
      rw [board_update, phase_setStatus phase rfl]
      exact .giveBack call _ holding
    | deadLettered event error at_ =>
      obtain ⟨holding, phase⟩ := held event (by rw [at_]; rfl)
      rw [board_update, phase_setStatus phase rfl]
      exact .drop call _ holding
    | acknowledged at_ => exact board_vanish rfl rfl rfl
    | stopped => exact board_vanish rfl rfl rfl

theorem exclusive_start : Claims.Exclusive (ProcessorState.board ({} : ProcessorState ω)) where
  held _ _ holds := nomatch holds
  alone _ _ _ holds := nomatch holds
  completed key := by
    constructor
    · intro mem
      cases mem
    · intro completed
      cases completed
  once := List.nodup_nil

theorem exclusive_step (setting : ProcessorSetting) (state : ProcessorState ω)
    (action : ProcessorAction ω) (exclusive : Claims.Exclusive state.board)
    (admitted : TakesOverAbandoned state action)
    : Claims.Exclusive ((processorMachine setting).step state action).1.board :=
  exclusive.step ((processorStep_moves setting state action).board exclusive admitted)

end Board

section AtMostOnce

variable {ω : Type} {setting : ProcessorSetting}

variable {status : EventProcessingStatus} {state : ProcessorState ω} {key : String × String}

/-- A terminal status is a closed phase, and the phase tells which. -/
theorem status_of_phase {before after : Option EventProcessingStatus}
    (terminal : status.terminal = true) (found : before = some status)
    (kept : phaseOf after = phaseOf before)
    : after = some status := by
  subst found
  cases status with
  | processing => cases terminal
  | retrying => cases terminal
  | processed =>
    match after, kept with
    | some .processed, _ => rfl
  | deadLettered =>
    match after, kept with
    | some .deadLettered, _ => rfl

theorem phaseOf_closed (terminal : status.terminal = true)
    : (phaseOf (some status)).closed = true := by
  cases status with
  | processing => cases terminal
  | retrying => cases terminal
  | processed => rfl
  | deadLettered => rfl

theorem terminal_step {action : ProcessorAction ω} (exclusive : Claims.Exclusive state.board)
    (admitted : TakesOverAbandoned state action) (terminal : status.terminal = true)
    (found : state.store.status key = some status)
    : ((processorMachine setting).step state action).1.store.status key = some status := by
  have closed : (state.board.phase key).closed = true := by
    have phase : state.board.phase key = phaseOf (some status) := by
      rw [← found]
      rfl
    rw [phase]
    exact phaseOf_closed terminal
  exact status_of_phase terminal found
    (exclusive.closed_kept
      ((processorStep_moves setting state action).board exclusive admitted) closed)

theorem terminal_run {actions : List (ProcessorAction ω)} (exclusive : Claims.Exclusive state.board)
    (admitted : (processorMachine setting).Admits TakesOverAbandoned state actions)
    (terminal : status.terminal = true) (found : state.store.status key = some status)
    : ((processorMachine setting).run state actions).store.status key = some status := by
  induction actions generalizing state with
  | nil => exact found
  | cons action rest ih =>
    exact ih (exclusive_step setting state action exclusive admitted.1) admitted.2
      (terminal_step exclusive admitted.1 terminal found)

/-- Committed business transactions stay. -/
theorem business_step (state : ProcessorState ω) (action : ProcessorAction ω)
    : state.store.business
      <+: ((processorMachine setting).step state action).1.store.business := by
  have moves := processorStep_moves setting state action
  generalize (processorMachine setting).step state action = next at moves
  cases moves with
  | idle => exact List.prefix_rfl
  | delivered => exact List.prefix_rfl
  | acted call attempt action step runs moves =>
    cases moves
    case committed => exact List.prefix_append _ _
    all_goals exact List.prefix_rfl

theorem business_run (state : ProcessorState ω) (actions : List (ProcessorAction ω))
    : state.store.business <+: ((processorMachine setting).run state actions).store.business := by
  induction actions generalizing state with
  | nil => exact List.prefix_rfl
  | cons action rest ih => exact (business_step state action).trans (ih _)

/-- Of each event and consumer at most one business transaction commits, and a terminal status
does not change again.
-/
structure AtMostOnce (setting : ProcessorSetting) (actions : List (ProcessorAction ω)) : Prop where
  once : ∀ key, (((processorMachine setting).run {} actions).store.business.filter
      (fun commit => commit.key = key)).length ≤ 1
  /-- what committed stays, so the transactions counted are all that ever committed -/
  stays : ∀ earlier, earlier <+: actions
    → ((processorMachine setting).run {} earlier).store.business
      <+: ((processorMachine setting).run {} actions).store.business
  terminal : ∀ earlier, earlier <+: actions → ∀ key status, status.terminal = true
    → ((processorMachine setting).run {} earlier).store.status key = some status
    → ((processorMachine setting).run {} actions).store.status key = some status

theorem business_at_most_once (setting : ProcessorSetting) (actions : List (ProcessorAction ω))
    (admitted : (processorMachine setting).Admits TakesOverAbandoned {} actions)
    : AtMostOnce setting actions := by
  have exclusive (taken : List (ProcessorAction ω))
      (allowed : (processorMachine setting).Admits TakesOverAbandoned {} taken)
      : Claims.Exclusive ((processorMachine setting).run {} taken).board :=
    Machine.run_invariant (exclusive_step setting) exclusive_start allowed
  refine ⟨?_, ?_, ?_⟩
  · intro key
    have once := (exclusive actions admitted).once
    have count : (((processorMachine setting).run {} actions).store.business.map
        BusinessCommit.key).count key ≤ 1 := List.nodup_iff_count_le_one.mp once key
    rw [List.count_eq_countP, List.countP_map, List.countP_eq_length_filter] at count
    simpa only [Function.comp_def, beq_eq_decide] using count
  · rintro earlier ⟨later, rfl⟩
    rw [Machine.run_append]
    exact business_run _ later
  · rintro earlier ⟨later, rfl⟩ key status terminal found
    obtain ⟨first, second⟩ := Machine.admits_append.mp admitted
    rw [Machine.run_append]
    exact terminal_run (exclusive earlier first) second terminal found

end AtMostOnce

def plainEvent : EventEnvelope where
  eventId := "e"
  subject := "s"
  source := "a"
  correlationId := "c"
  createdAt := "t"
  payload := []

def plainSpec : EventHandlerSpec where
  serviceName := "w"
  maxAttempts := 3

/-- One decodable message, and columns that take everything as it is. -/
def plainSetting : ProcessorSetting where
  columns := { jsonb := some, texts := fun _ => true, integers := fun _ => true }
  decode data := if data = "m" then some plainEvent else none

/-- A worker crashes in its handler. The message is delivered again, the claim is taken over and
the business transaction commits; a third delivery finds the event processed.
-/
def redelivery : List (ProcessorAction Unit) :=
  [.deliver 0 plainSpec "m", .act 0 (.claim false), .act 0 .stop,
    .deliver 1 plainSpec "m", .act 1 (.claim true),
    .act 1 (.commit () [{ plainEvent with eventId := "f" }]), .act 1 .acknowledge,
    .deliver 2 plainSpec "m", .act 2 (.claim false), .act 2 .inspect, .act 2 .acknowledge]

theorem redelivery_admitted
    : (processorMachine plainSetting).Admits TakesOverAbandoned {} redelivery := by
  refine ⟨trivial, trivial, trivial, trivial, ?_, trivial, trivial, trivial, trivial, trivial,
    trivial, trivial⟩
  intro attempt event runs at_ status other
  -- call 0 has ended, and call 1 holds nothing before its claim
  match other with
  | 0 => exact nofun
  | 1 => exact nofun
  | more + 2 => exact nofun

theorem business_at_most_once_redelivered
    : ((processorMachine plainSetting).run {} redelivery).store.business.map BusinessCommit.key
        = [("e", "w")]
      ∧ AtMostOnce plainSetting redelivery :=
  ⟨rfl, business_at_most_once plainSetting redelivery redelivery_admitted⟩

end K8sClue.Events
