import K8sClue.Events.Store
import K8sClue.Library.Runs

/-! Relays that publish the outbox.
Each `OutboxRelay.run_once` leases a batch of unsent rows, publishes them one by one and marks
what it published. Relays run concurrently; each of their transactions and publish calls is one
step, and a crash may stop them between any two.
-/

namespace K8sClue.Events

open Python Library Function

def OutboxRow.available (row : OutboxRow) (now : Int) : Bool :=
  row.leaseId.isNone || row.leasedUntil.any (· < now)

/-- A call of `unsent_events`; `locked` are the events whose rows other transactions have locked
when the rows are selected.
-/
structure LeaseQuery where
  leaseId : String
  leasedUntil : Int
  source : Option String
  limit : Nat
  locked : List String := []
  deriving DecidableEq

def LeaseQuery.filters (query : LeaseQuery) (now : Int) (row : OutboxRow) : Bool :=
  row.sentAt.isNone && row.available now && query.source.all (row.envelope.source = ·)

variable (outbox : List OutboxRow) (now : Int)

def claimableOutbox (query : LeaseQuery) : List OutboxRow :=
  (outbox.filter fun row =>
    query.filters now row && !query.locked.contains row.eventId).take query.limit

def OutboxRow.leased (row : OutboxRow) (query : LeaseQuery) : OutboxRow :=
  { row with leaseId := some query.leaseId, leasedUntil := some query.leasedUntil }

def leaseRows (query : LeaseQuery) : List OutboxRow :=
  let ids := (claimableOutbox outbox now query).map OutboxRow.eventId
  outbox.map fun row => if ids.contains row.eventId then row.leased query else row

/-- The update that both `mark_events_sent` and `mark_events_dead_lettered` make: it does not ask
who leased the rows.
-/
def markRows (eventIds : List String) : List OutboxRow :=
  outbox.map fun row =>
    if eventIds.contains row.eventId then
      { row with sentAt := some now, leaseId := none, leasedUntil := none }
    else
      row

structure OutboxStore where
  outbox : List OutboxRow := []
  staged : List EventEnvelope := []
  deadLetters : List DeadLetterRow := []

def OutboxStore.markEventsSent (store : OutboxStore) (now : Int) (eventIds : List String)
    : OutboxStore :=
  { store with outbox := markRows store.outbox now eventIds }

def OutboxStore.markEventDeadLettered (store : OutboxStore) (now : Int) (event : EventEnvelope)
    (consumer error : String)
    : OutboxStore :=
  { store with
    deadLetters := store.deadLetters ++
      [{ originalEventId := event.eventId
         originalSubject := event.subject
         consumer
         correlationId := event.correlationId
         attempts := 1
         error := compactError error
         payload := event.payload }]
    outbox := markRows store.outbox now [event.eventId] }

inductive RelayStage where
  | publishing (event : EventEnvelope) (rest : List EventEnvelope) (published : List String)
  /-- the broker has refused the event for good -/
  | refused (event : EventEnvelope) (error : String) (rest : List EventEnvelope)
      (published : List String)
  /-- the `finally` block, after the loop or an error in it -/
  | ending (published : List String)

def RelayStage.loop (published : List String) : List EventEnvelope → RelayStage
  | [] => .ending published
  | event :: rest => .publishing event rest published

def RelayStage.pending : RelayStage → List EventEnvelope
  | .publishing event rest _ => event :: rest
  | .refused event _ rest _ => event :: rest
  | .ending _ => []

def RelayStage.published : RelayStage → List String
  | .publishing _ _ published => published
  | .refused _ _ _ published => published
  | .ending published => published

structure RelayRun where
  source : Option String
  stage : RelayStage

def consumerName (source : Option String) : String :=
  "outbox-relay:" ++ (source.filter (· ≠ "")).getD "all"

/-- How a publish call ends; it may fail or time out after the broker accepted the message, and
`permanent` says that its error is one of `NON_RETRYABLE_PUBLISH_ERRORS`.
-/
inductive PublishOutcome where
  | accepted
  | raised (accepted permanent : Bool) (error : String)
  deriving DecidableEq

inductive CommitOutcome where
  | committed
  | committedUnreported
  | failed
  deriving DecidableEq

def CommitOutcome.commits : CommitOutcome → Bool
  | .failed => false
  | _ => true

inductive RelayCallAction where
  | publish (outcome : PublishOutcome)
  | deadLetter (outcome : CommitOutcome)
  | finish (outcome : CommitOutcome)
  | crash
  deriving DecidableEq

/-- What one step of a call leaves: the tables, the stage unless the call ended, and what the
broker accepted.
-/
structure RelayStep where
  store : OutboxStore
  stage : Option RelayStage
  accepted : List EventEnvelope := []

def relayCallStep (store : OutboxStore) (run : RelayRun) (action : RelayCallAction)
    : Option RelayStep :=
  match run.stage, action with
  | .publishing event rest published, .publish .accepted =>
    some
      { store
        stage := some (.loop (published ++ [event.eventId]) rest)
        accepted := [event] }
  | .publishing event rest published, .publish (.raised accepted permanent error) =>
    some
      { store
        stage := some (if permanent then .refused event error rest published else .ending published)
        accepted := if accepted then [event] else [] }
  | .refused event error rest published, .deadLetter outcome =>
    some
      { store := if outcome.commits then
          store.markEventDeadLettered now event (consumerName run.source) error else store
        stage := some (if outcome = .committed then .loop published rest else .ending published) }
  | .ending published, .finish outcome =>
    some
      { store := if !published.isEmpty && outcome.commits then
          store.markEventsSent now published else store
        stage := none }
  | _, .crash => some { store, stage := none }
  | _, _ => none

structure OutboxState where
  now : Int := 0
  store : OutboxStore := {}
  relays : Nat → Option RelayRun := fun _ => none

inductive OutboxAction where
  | tick (seconds : Nat)
  /-- a transaction with `stage_events` in it commits -/
  | stage (events : List EventEnvelope)
  /-- `unsent_events`; the database returns the rows in any order -/
  | lease (relay : Nat) (query : LeaseQuery) (order : List String)
  | act (relay : Nat) (action : RelayCallAction)

def arranged (rows : List OutboxRow) (order : List String) : List EventEnvelope :=
  order.filterMap fun eventId =>
    (Keyed.find OutboxRow.eventId rows eventId).map OutboxRow.envelope

/-- One step of all relays and of the transactions that stage events. A step that does not fit
does not happen.
-/
def outboxStep (columns : OutboxColumns) (state : OutboxState)
    : OutboxAction → OutboxState × List EventEnvelope
  | .tick seconds => ({ state with now := state.now + seconds }, [])
  | .stage events =>
    match stageEvents columns state.store.outbox events with
    | none => (state, [])
    | some outbox =>
      ({ state with
          store := { state.store with outbox, staged := state.store.staged ++ events } }, [])
  | .lease relay query order =>
    let rows := claimableOutbox state.store.outbox state.now query
    if (state.relays relay).isNone && order.isPerm (rows.map OutboxRow.eventId) then
      ({ state with
          store := { state.store with outbox := leaseRows state.store.outbox state.now query }
          relays := update state.relays relay
            (some { source := query.source, stage := .loop [] (arranged rows order) }) }, [])
    else
      (state, [])
  | .act relay action =>
    match state.relays relay with
    | none => (state, [])
    | some run =>
      match relayCallStep state.now state.store run action with
      | none => (state, [])
      | some step =>
        ({ state with
            store := step.store
            relays := update state.relays relay
              (step.stage.map fun stage => { run with stage }) }, step.accepted)

def outboxMachine (columns : OutboxColumns) : Machine OutboxState OutboxAction EventEnvelope where
  step := outboxStep columns

section Inversion

variable {columns : OutboxColumns} {now : Int} {store : OutboxStore} {run : RelayRun}

variable (now : Int) (store : OutboxStore) (run : RelayRun) in
inductive RelayMoves : RelayStep → Prop where
  | published (event : EventEnvelope) (rest : List EventEnvelope) (published : List String)
      (at_ : run.stage = .publishing event rest published)
    : RelayMoves
        { store
          stage := some (.loop (published ++ [event.eventId]) rest)
          accepted := [event] }
  | raised (event : EventEnvelope) (rest : List EventEnvelope) (published : List String)
      (accepted : List EventEnvelope) (stage : RelayStage)
      (at_ : run.stage = .publishing event rest published)
      (next : (∃ error, stage = .refused event error rest published) ∨ stage = .ending published)
    : RelayMoves { store, stage := some stage, accepted }
  | deadLettered (event : EventEnvelope) (error : String) (rest : List EventEnvelope)
      (published : List String) (stage : RelayStage)
      (at_ : run.stage = .refused event error rest published)
      (next : stage = .loop published rest ∨ stage = .ending published)
    : RelayMoves
        { store := store.markEventDeadLettered now event (consumerName run.source) error
          stage := some stage }
  | unmarked (event : EventEnvelope) (error : String) (rest : List EventEnvelope)
      (published : List String) (at_ : run.stage = .refused event error rest published)
    : RelayMoves { store, stage := some (.ending published) }
  | marked (published : List String) (at_ : run.stage = .ending published)
    : RelayMoves { store := store.markEventsSent now published, stage := none }
  | ended : RelayMoves { store, stage := none }

theorem relayCallStep_moves {action : RelayCallAction} {step : RelayStep}
    (stepped : relayCallStep now store run action = some step)
    : RelayMoves now store run step := by
  unfold relayCallStep at stepped
  split at stepped
  next event rest published at_ =>
    cases stepped
    exact .published event rest published at_
  next event rest published accepted permanent error at_ =>
    cases stepped
    refine .raised event rest published _ _ at_ ?_
    cases permanent with
    | true => exact .inl ⟨error, rfl⟩
    | false => exact .inr rfl
  next event error rest published outcome at_ =>
    cases stepped
    cases outcome with
    | committed => exact .deadLettered event error rest published _ at_ (.inl rfl)
    | committedUnreported => exact .deadLettered event error rest published _ at_ (.inr rfl)
    | failed => exact .unmarked event error rest published at_
  next published outcome at_ =>
    cases stepped
    split
    · exact .marked published at_
    · exact .ended
  · cases stepped
    exact .ended
  · cases stepped

variable (columns : OutboxColumns) (state : OutboxState) in
inductive OutboxMoves : OutboxAction → OutboxState × List EventEnvelope → Prop where
  | idle (action : OutboxAction) : OutboxMoves action (state, [])
  | ticked (seconds : Nat)
    : OutboxMoves (.tick seconds) ({ state with now := state.now + seconds }, [])
  | staged (events : List EventEnvelope) (outbox : List OutboxRow)
      (staged : stageEvents columns state.store.outbox events = some outbox)
    : OutboxMoves (.stage events) ({ state with
            store := { state.store with outbox, staged := state.store.staged ++ events } }, [])
  | leased (relay : Nat) (query : LeaseQuery) (order : List String)
    : OutboxMoves (.lease relay query order) ({ state with
            store := { state.store with outbox := leaseRows state.store.outbox state.now query }
            relays := update state.relays relay (some
                { source := query.source
                  stage := .loop []
                    (arranged (claimableOutbox state.store.outbox state.now query) order) }) },
          [])
  | acted (relay : Nat) (run : RelayRun) (action : RelayCallAction) (step : RelayStep)
      (runs : state.relays relay = some run)
      (moves : RelayMoves state.now state.store run step)
    : OutboxMoves (.act relay action) ({ state with
            store := step.store
            relays := update state.relays relay
              (step.stage.map fun stage => { run with stage }) }, step.accepted)

theorem outboxStep_moves (columns : OutboxColumns) (state : OutboxState) (action : OutboxAction)
    : OutboxMoves columns state action ((outboxMachine columns).step state action) := by
  cases action with
  | tick seconds => exact .ticked seconds
  | stage events =>
    cases staged : stageEvents columns state.store.outbox events with
    | none =>
      simp only [outboxMachine, outboxStep, staged]
      exact .idle _
    | some outbox =>
      simp only [outboxMachine, outboxStep, staged]
      exact .staged events outbox staged
  | lease relay query order =>
    simp only [outboxMachine, outboxStep]
    split
    · exact .leased relay query order
    · exact .idle _
  | act relay action =>
    cases runs : state.relays relay with
    | none =>
      simp only [outboxMachine, outboxStep, runs]
      exact .idle _
    | some run =>
      cases stepped : relayCallStep state.now state.store run action with
      | none =>
        simp only [outboxMachine, outboxStep, runs, stepped]
        exact .idle _
      | some step =>
        simp only [outboxMachine, outboxStep, runs, stepped]
        exact .acted relay run action step runs (relayCallStep_moves stepped)

end Inversion

end K8sClue.Events
