import K8sClue.Events.Store
import K8sClue.Library.Runs

/-! Workers that process the messages of the event bus.
Each call of `EventProcessor.process` claims its event, runs the handler in one transaction with
the outbox and the ledger, and acknowledges the message at the end. The calls of all workers are
interleaved; each of their transactions is one step, and a crash may stop them between any two.
-/

namespace K8sClue.Events

open Python Library Function

structure EventHandlerSpec where
  serviceName : String
  consumers : List (String × String) := []
  maxAttempts : Nat
  deriving DecidableEq

def EventHandlerSpec.consumerFor (spec : EventHandlerSpec) (event : EventEnvelope) : String :=
  ((spec.consumers.find? (·.1 = event.subject)).map Prod.snd).getD spec.serviceName

def EventHandlerSpec.keyFor (spec : EventHandlerSpec) (event : EventEnvelope) : String × String :=
  (event.eventId, spec.consumerFor event)

/-- A business transaction: what the handler wrote and the events that it returned, with the
ledger row that it finished.
-/
structure BusinessCommit (ω : Type) where
  key : String × String
  writes : ω
  events : List EventEnvelope

structure RawDeadLetter where
  (raw consumer : String)
  deriving DecidableEq

structure EventStore (ω : Type) where
  events : List EventEnvelope := []
  processing : List ProcessingRow := []
  business : List (BusinessCommit ω) := []
  outbox : List OutboxRow := []
  deadLetters : List DeadLetterRow := []
  rawDeadLetters : List RawDeadLetter := []

def EventStore.recordEvent {ω : Type} (store : EventStore ω) (event : EventEnvelope)
    : EventStore ω :=
  { store with
    events := Keyed.put EventEnvelope.eventId (fun known _ => known) store.events event }

inductive Stage where
  /-- the message cannot be decoded -/
  | undecodable
  | claiming (event : EventEnvelope)
  /-- the claim was refused, and the row is about to be read -/
  | inspecting (event : EventEnvelope)
  /-- the claim is committed, and the business transaction is open -/
  | handling (event : EventEnvelope) (attempts : Nat)
  /-- the business transaction is rolled back -/
  | failing (event : EventEnvelope) (attempts : Nat) (error : String)
  /-- the dead letter is captured, and the ledger does not say so yet -/
  | captured (event : EventEnvelope) (error : String)
  | uncaptured (event : EventEnvelope) (error : String)
  | acknowledging

/-- The event that a call holds the claim on. -/
def Stage.holds : Stage → Option EventEnvelope
  | .handling event _ => some event
  | .failing event _ _ => some event
  | .captured event _ => some event
  | .uncaptured event _ => some event
  | _ => none

structure Attempt where
  spec : EventHandlerSpec
  data : String
  stage : Stage

structure ProcessorState (ω : Type) where
  store : EventStore ω := {}
  running : Nat → Option Attempt := fun _ => none

/-- How a capture of a dead letter ends; one that fails may have stored the dead letter. -/
inductive CaptureOutcome where
  | captured
  | failedAfterStoring
  | failed
  deriving DecidableEq

def CaptureOutcome.stores : CaptureOutcome → Bool
  | .failed => false
  | _ => true

inductive CallAction (ω : Type) where
  | captureRaw (outcome : CaptureOutcome)
  | claim (stale : Bool)
  | inspect
  | commit (writes : ω) (events : List EventEnvelope)
  | rollback (error : String)
  | capture (outcome : CaptureOutcome)
  | mark
  | acknowledge
  /-- a crash, or an error that ends the call with a negative acknowledgement -/
  | stop

inductive ProcessorAction (ω : Type) where
  | deliver (call : Nat) (spec : EventHandlerSpec) (data : String)
  | act (call : Nat) (action : CallAction ω)

structure Acknowledged where
  spec : EventHandlerSpec
  data : String
  deriving DecidableEq

structure ProcessorSetting where
  columns : OutboxColumns
  /-- `codec.decode` -/
  decode : String → Option EventEnvelope

def deadLetterOf (spec : EventHandlerSpec) (event : EventEnvelope) (attempts : Nat) (error : String)
    : DeadLetterRow where
  originalEventId := event.eventId
  originalSubject := event.subject
  consumer := spec.consumerFor event
  correlationId := event.correlationId
  attempts := attempts
  error := compactError error
  payload := event.payload

/-- What one step of a call leaves: the tables, the place where the call stands unless it ended,
and the messages that it acknowledged.
-/
structure CallStep (ω : Type) where
  store : EventStore ω
  stage : Option Stage
  acknowledged : List Acknowledged := []

section Step

variable {ω : Type} (setting : ProcessorSetting) (store : EventStore ω) (spec : EventHandlerSpec)

variable (event : EventEnvelope)

def EventStore.failed (error : String) (status : EventProcessingStatus) : EventStore ω :=
  { store with
    processing := failEventProcessing store.processing (spec.keyFor event) error status }

def claimStep (stale : Bool) : CallStep ω :=
  match claimEventProcessing store.processing event (spec.consumerFor event) stale with
  | some (processing, row) =>
    { store := { store.recordEvent event with processing }
      stage := some (.handling event row.attempts) }
  | none => { store, stage := some (.inspecting event) }

/-- `begin_event_processing` after a refused claim: a row that is terminal now is acknowledged,
and any other one is left to a later delivery.
-/
def inspectStep : CallStep ω :=
  let row := Keyed.find ProcessingRow.key store.processing (spec.keyFor event)
  { store := store.recordEvent event
    stage := if row.any (·.status.terminal) then some .acknowledging else none }

/-- The commit of the business transaction: the handler's writes, the events that it returned and
the ledger. A refused event leaves the transaction open, to be rolled back.
-/
def commitStep (writes : ω) (events : List EventEnvelope) : Option (CallStep ω) :=
  (stageEvents setting.columns store.outbox events).map fun outbox =>
    { store := { store with
        business := store.business ++ [{ key := spec.keyFor event, writes, events }]
        outbox
        processing := finishEventProcessing store.processing (spec.keyFor event) }
      stage := some .acknowledging }

def CaptureOutcome.adds {α : Type} (outcome : CaptureOutcome) (letters : List α) (letter : α)
    : List α :=
  if outcome.stores then letters ++ [letter] else letters

def callStep (attempt : Attempt) (action : CallAction ω) : Option (CallStep ω) :=
  match attempt.stage, action with
  | .undecodable, .captureRaw outcome =>
    some
      { store := { store with
          rawDeadLetters := outcome.adds store.rawDeadLetters
            { raw := attempt.data, consumer := attempt.spec.serviceName } }
        stage := if outcome = .captured then some .acknowledging else none }
  | .claiming event, .claim stale => some (claimStep store attempt.spec event stale)
  | .inspecting event, .inspect => some (inspectStep store attempt.spec event)
  | .handling event _, .commit writes events =>
    commitStep setting store attempt.spec event writes events
  | .handling event attempts, .rollback error =>
    some { store, stage := some (.failing event attempts error) }
  | .failing event attempts error, .capture outcome =>
    if attempt.spec.maxAttempts ≤ attempts then
      some
        { store := { store with
            deadLetters := outcome.adds store.deadLetters
              (deadLetterOf attempt.spec event attempts error) }
          stage := some
            (if outcome = .captured then .captured event error else .uncaptured event error) }
    else
      none
  | .failing event attempts error, .mark =>
    if attempt.spec.maxAttempts ≤ attempts then
      none
    else
      some { store := store.failed attempt.spec event error .retrying, stage := none }
  | .uncaptured event error, .mark =>
    some { store := store.failed attempt.spec event error .retrying, stage := none }
  | .captured event error, .mark =>
    some
      { store := store.failed attempt.spec event error .deadLettered
        stage := some .acknowledging }
  | .acknowledging, .acknowledge =>
    some { store, stage := none, acknowledged := [{ spec := attempt.spec, data := attempt.data }] }
  | _, .stop => some { store, stage := none }
  | _, _ => none

def firstStage (data : String) : Stage :=
  match setting.decode data with
  | some event => .claiming event
  | none => .undecodable

/-- One step of all workers. A step that does not fit the stage of its call does not happen. -/
def processorStep (state : ProcessorState ω)
    : ProcessorAction ω → ProcessorState ω × List Acknowledged
  | .deliver call spec data =>
    match state.running call with
    | some _ => (state, [])
    | none =>
      ({ state with
          running := update state.running call
            (some { spec, data, stage := firstStage setting data }) }, [])
  | .act call action =>
    match state.running call with
    | none => (state, [])
    | some attempt =>
      match callStep setting state.store attempt action with
      | none => (state, [])
      | some step =>
        ({ store := step.store
           running := update state.running call
            (step.stage.map fun stage => { attempt with stage }) }, step.acknowledged)

def processorMachine : Machine (ProcessorState ω) (ProcessorAction ω) Acknowledged where
  step := processorStep setting

end Step

section Inversion

variable {ω : Type} {setting : ProcessorSetting} {store : EventStore ω} {attempt : Attempt}

variable (setting : ProcessorSetting) (store : EventStore ω) (attempt : Attempt) in
inductive CallMoves : CallAction ω → CallStep ω → Prop where
  | captureRaw (outcome : CaptureOutcome) (at_ : attempt.stage = .undecodable)
    : CallMoves (.captureRaw outcome)
        { store := { store with
            rawDeadLetters := outcome.adds store.rawDeadLetters
              { raw := attempt.data, consumer := attempt.spec.serviceName } }
          stage := if outcome = .captured then some .acknowledging else none }
  | claimed (event : EventEnvelope) (stale : Bool) (processing : List ProcessingRow)
      (row : ProcessingRow) (at_ : attempt.stage = .claiming event)
      (claims : claimEventProcessing store.processing event (attempt.spec.consumerFor event) stale
        = some (processing, row))
    : CallMoves (.claim stale)
        { store := { store.recordEvent event with processing }
          stage := some (.handling event row.attempts) }
  | refused (event : EventEnvelope) (stale : Bool) (at_ : attempt.stage = .claiming event)
    : CallMoves (.claim stale)
        { store, stage := some (.inspecting event) }
  | inspected (event : EventEnvelope) (at_ : attempt.stage = .inspecting event)
    : CallMoves .inspect (inspectStep store attempt.spec event)
  | committed (event : EventEnvelope) (attempts : Nat) (writes : ω) (events : List EventEnvelope)
      (outbox : List OutboxRow) (at_ : attempt.stage = .handling event attempts)
      (staged : stageEvents setting.columns store.outbox events = some outbox)
    : CallMoves (.commit writes events)
        { store := { store with
            business := store.business
              ++ [{ key := attempt.spec.keyFor event, writes, events }]
            outbox
            processing := finishEventProcessing store.processing (attempt.spec.keyFor event) }
          stage := some .acknowledging }
  | rolledBack (event : EventEnvelope) (attempts : Nat) (error : String)
      (at_ : attempt.stage = .handling event attempts)
    : CallMoves (.rollback error)
        { store, stage := some (.failing event attempts error) }
  | captured (event : EventEnvelope) (attempts : Nat) (error : String) (outcome : CaptureOutcome)
      (at_ : attempt.stage = .failing event attempts error)
      (exhausted : attempt.spec.maxAttempts ≤ attempts)
    : CallMoves (.capture outcome)
        { store := { store with
            deadLetters := outcome.adds store.deadLetters
              (deadLetterOf attempt.spec event attempts error) }
          stage := some
            (if outcome = .captured then .captured event error else .uncaptured event error) }
  | retried (event : EventEnvelope) (error : String)
      (held : attempt.stage.holds = some event)
    : CallMoves .mark
        { store := store.failed attempt.spec event error .retrying, stage := none }
  | deadLettered (event : EventEnvelope) (error : String)
      (at_ : attempt.stage = .captured event error)
    : CallMoves .mark
        { store := store.failed attempt.spec event error .deadLettered
          stage := some .acknowledging }
  | acknowledged (at_ : attempt.stage = .acknowledging)
    : CallMoves .acknowledge
        { store, stage := none
          acknowledged := [{ spec := attempt.spec, data := attempt.data }] }
  | stopped : CallMoves .stop { store, stage := none }

theorem callStep_moves {action : CallAction ω} {step : CallStep ω}
    (stepped : callStep setting store attempt action = some step)
    : CallMoves setting store attempt action step := by
  unfold callStep at stepped
  split at stepped
  next outcome at_ =>
    cases stepped
    exact .captureRaw outcome at_
  next event stale at_ =>
    cases stepped
    unfold claimStep
    split
    next processing row claims => exact .claimed event stale processing row at_ claims
    · exact .refused event stale at_
  next event at_ =>
    cases stepped
    exact .inspected event at_
  next event attempts writes events at_ =>
    obtain ⟨outbox, staged, rfl⟩ := Option.map_eq_some_iff.mp stepped
    exact .committed event attempts writes events outbox at_ staged
  next event attempts error at_ =>
    cases stepped
    exact .rolledBack event attempts error at_
  next event attempts error outcome at_ =>
    split at stepped <;> cases stepped
    rename_i exhausted
    exact .captured event attempts error outcome at_ exhausted
  next event attempts error at_ =>
    split at stepped <;> cases stepped
    exact .retried event error (by rw [at_]; rfl)
  next event error at_ =>
    cases stepped
    exact .retried event error (by rw [at_]; rfl)
  next event error at_ =>
    cases stepped
    exact .deadLettered event error at_
  next at_ =>
    cases stepped
    exact .acknowledged at_
  · cases stepped
    exact .stopped
  · cases stepped

inductive ProcessorMoves (setting : ProcessorSetting) (state : ProcessorState ω)
    : ProcessorAction ω → ProcessorState ω × List Acknowledged → Prop where
  | idle (action : ProcessorAction ω) : ProcessorMoves setting state action (state, [])
  | delivered (call : Nat) (spec : EventHandlerSpec) (data : String)
      (free : state.running call = none)
    : ProcessorMoves setting state (.deliver call spec data)
        ({ state with
            running := update state.running call
              (some { spec, data, stage := firstStage setting data }) }, [])
  | acted (call : Nat) (attempt : Attempt) (action : CallAction ω) (step : CallStep ω)
      (runs : state.running call = some attempt)
      (moves : CallMoves setting state.store attempt action step)
    : ProcessorMoves setting state (.act call action)
        ({ store := step.store
           running := update state.running call
            (step.stage.map fun stage => { attempt with stage }) }, step.acknowledged)

theorem processorStep_moves (setting : ProcessorSetting) (state : ProcessorState ω)
    (action : ProcessorAction ω)
    : ProcessorMoves setting state action ((processorMachine setting).step state action) := by
  cases action with
  | deliver call spec data =>
    cases runs : state.running call with
    | some attempt =>
      simp only [processorMachine, processorStep, runs]
      exact .idle _
    | none =>
      simp only [processorMachine, processorStep, runs]
      exact .delivered call spec data runs
  | act call action =>
    cases runs : state.running call with
    | none =>
      simp only [processorMachine, processorStep, runs]
      exact .idle _
    | some attempt =>
      cases stepped : callStep setting state.store attempt action with
      | none =>
        simp only [processorMachine, processorStep, runs, stepped]
        exact .idle _
      | some step =>
        simp only [processorMachine, processorStep, runs, stepped]
        exact .acted call attempt action step runs (callStep_moves stepped)

end Inversion

end K8sClue.Events
