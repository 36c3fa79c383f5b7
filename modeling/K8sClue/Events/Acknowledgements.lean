import K8sClue.Events.ProcessorRuns

/-! What is durable when a message is acknowledged.
An acknowledgement follows a commit, a captured dead letter, or a terminal row that another call
may have written long before. The invariant ties each terminal row to what was committed with it.
-/

namespace K8sClue.Events

open Python Library List

section Durability

variable {ω : Type} {setting : ProcessorSetting} {store next : EventStore ω}

def EventStore.HasLetter (store : EventStore ω) (key : String × String) : Prop :=
  ∃ letter ∈ store.deadLetters, (letter.originalEventId, letter.consumer) = key

/-- The outbox has a row of the event. It is the event as the columns store it, unless another
event was committed under its id: `stage_events` keeps the row that is there.
-/
def EventStore.Staged (columns : OutboxColumns) (store : EventStore ω) (event : EventEnvelope)
    : Prop :=
  ∃ row ∈ store.outbox, row.eventId = event.eventId
    ∧ ((∀ commit ∈ store.business, ∀ other ∈ commit.events,
          other.eventId = event.eventId → other = event)
      → columns.stored event = some row.envelope)

/-- What an acknowledged message rests on. -/
inductive Settled (setting : ProcessorSetting) (store : EventStore ω) (message : Acknowledged)
    : Prop where
  | undecodable (broken : setting.decode message.data = none)
      (captured
        : { raw := message.data, consumer := message.spec.serviceName } ∈ store.rawDeadLetters)
  | processed (event : EventEnvelope) (decoded : setting.decode message.data = some event)
      (status : store.status (message.spec.keyFor event) = some .processed)
      (commit : BusinessCommit ω) (committed : commit ∈ store.business)
      (key : commit.key = message.spec.keyFor event)
      (staged : ∀ returned ∈ commit.events, store.Staged setting.columns returned)
  | deadLettered (event : EventEnvelope) (decoded : setting.decode message.data = some event)
      (status : store.status (message.spec.keyFor event) = some .deadLettered)
      (captured : store.HasLetter (message.spec.keyFor event))

def Attempt.Placed (setting : ProcessorSetting) (store : EventStore ω) (attempt : Attempt) : Prop :=
  match attempt.stage with
  | .undecodable => setting.decode attempt.data = none
  | .claiming event => setting.decode attempt.data = some event
  | .inspecting event => setting.decode attempt.data = some event
  | .handling event _ => setting.decode attempt.data = some event
  | .failing event _ _ => setting.decode attempt.data = some event
  | .uncaptured event _ => setting.decode attempt.data = some event
  | .captured event _ =>
    setting.decode attempt.data = some event ∧ store.HasLetter (attempt.spec.keyFor event)
  | .acknowledging => Settled setting store { spec := attempt.spec, data := attempt.data }

structure EventStore.Grows (store next : EventStore ω) : Prop where
  business : store.business ⊆ next.business
  outbox : store.outbox ⊆ next.outbox
  deadLetters : store.deadLetters ⊆ next.deadLetters
  rawDeadLetters : store.rawDeadLetters ⊆ next.rawDeadLetters
  terminal : ∀ key status, status.terminal = true → store.status key = some status
    → next.status key = some status

theorem EventStore.Grows.letter (grows : store.Grows next) {key : String × String}
    (letter : store.HasLetter key)
    : next.HasLetter key := by
  obtain ⟨row, mem, same⟩ := letter
  exact ⟨row, grows.deadLetters mem, same⟩

variable {event : EventEnvelope} {message : Acknowledged}

theorem EventStore.Grows.staged (grows : store.Grows next) {columns : OutboxColumns}
    (staged : store.Staged columns event)
    : next.Staged columns event := by
  obtain ⟨row, mem, same, exact_⟩ := staged
  refine ⟨row, grows.outbox mem, same, ?_⟩
  intro alone
  exact exact_ fun commit committed => alone commit (grows.business committed)

theorem EventStore.Grows.settled (grows : store.Grows next)
    (settled : Settled setting store message)
    : Settled setting next message := by
  cases settled with
  | undecodable broken captured => exact .undecodable broken (grows.rawDeadLetters captured)
  | processed event decoded status commit committed key staged =>
    exact .processed event decoded (grows.terminal _ _ rfl status) commit
      (grows.business committed) key fun returned mem => grows.staged (staged returned mem)
  | deadLettered event decoded status captured =>
    exact .deadLettered event decoded (grows.terminal _ _ rfl status) (grows.letter captured)

theorem EventStore.Grows.placed (grows : store.Grows next) {attempt : Attempt}
    (placed : attempt.Placed setting store)
    : attempt.Placed setting next := by
  unfold Attempt.Placed at placed ⊢
  split at placed
  case h_7 => exact ⟨placed.1, grows.letter placed.2⟩
  case h_8 => exact grows.settled placed
  all_goals exact placed

structure EventStore.Accounted (setting : ProcessorSetting) (store : EventStore ω) : Prop where
  processed
    : ∀ key, store.status key = some .processed → ∃ commit ∈ store.business, commit.key = key
  letters : ∀ key, store.status key = some .deadLettered → store.HasLetter key
  returned : ∀ row ∈ store.outbox, ∃ commit ∈ store.business, ∃ event ∈ commit.events,
      setting.columns.stored event = some row.envelope
  kept : ∀ commit ∈ store.business, ∀ event ∈ commit.events,
      ∃ row ∈ store.outbox, row.eventId = event.eventId

structure Durable (setting : ProcessorSetting) (state : ProcessorState ω) : Prop where
  accounted : state.store.Accounted setting
  placed : ∀ call attempt, state.running call = some attempt → attempt.Placed setting state.store

theorem EventStore.Accounted.staged (accounted : store.Accounted setting)
    {commit : BusinessCommit ω} (committed : commit ∈ store.business)
    (mem : event ∈ commit.events)
    : store.Staged setting.columns event := by
  obtain ⟨row, inside, same⟩ := accounted.kept commit committed event mem
  refine ⟨row, inside, same, fun alone => ?_⟩
  obtain ⟨other, before, first, given, stored⟩ := accounted.returned row inside
  have ids : first.eventId = event.eventId := by
    obtain ⟨payload, -, read⟩ := OutboxColumns.stored_some stored
    rw [← same, OutboxRow.eventId, read]
  rw [← alone other before first given ids]
  exact stored

/-- A terminal row settles the messages of its event. -/
theorem EventStore.Accounted.settled (accounted : store.Accounted setting)
    (decoded : setting.decode message.data = some event) {status : EventProcessingStatus}
    (terminal : status.terminal = true)
    (found : store.status (message.spec.keyFor event) = some status)
    : Settled setting store message := by
  cases status with
  | processing => cases terminal
  | retrying => cases terminal
  | deadLettered => exact .deadLettered event decoded found (accounted.letters _ found)
  | processed =>
    obtain ⟨commit, committed, key⟩ := accounted.processed _ found
    exact .processed event decoded found commit committed key fun returned mem =>
      accounted.staged committed mem

variable {state : ProcessorState ω}

theorem processed_of_exclusive
    (exclusive : Claims.Exclusive state.board) (key : String × String)
    (found : state.store.status key = some .processed)
    : ∃ commit ∈ state.store.business, commit.key = key := by
  have completed : key ∈ state.board.completions := by
    rw [exclusive.completed]
    simp only [ProcessorState.board, found, phaseOf]
  exact mem_map.mp completed

theorem CaptureOutcome.subset_adds {α : Type} (outcome : CaptureOutcome) (letters : List α)
    (letter : α)
    : letters ⊆ outcome.adds letters letter := by
  unfold CaptureOutcome.adds
  split
  · exact subset_append_left _ _
  · exact Subset.refl _

/-- The tables only grow in a step; the terminal rows are the board's closed keys. -/
theorem grows_step (setting : ProcessorSetting) {action : ProcessorAction ω}
    (exclusive : Claims.Exclusive state.board) (admitted : TakesOverAbandoned state action)
    : state.store.Grows ((processorMachine setting).step state action).1.store := by
  have terminal : ∀ key status, status.terminal = true → state.store.status key = some status
      → ((processorMachine setting).step state action).1.store.status key = some status :=
    fun key status terminal found => terminal_step exclusive admitted terminal found
  have moves := processorStep_moves setting state action
  generalize (processorMachine setting).step state action = next at moves terminal
  cases moves with
  | idle => exact ⟨fun _ => id, fun _ => id, fun _ => id, fun _ => id, terminal⟩
  | delivered => exact ⟨fun _ => id, fun _ => id, fun _ => id, fun _ => id, terminal⟩
  | acted call attempt action step runs moves =>
    cases moves
    case captureRaw outcome _ =>
        exact ⟨fun _ => id, fun _ => id, fun _ => id, outcome.subset_adds _ _, terminal⟩
    case committed event attempts writes events outbox _ staged =>
        obtain ⟨added, behind, -, -⟩ := stageEvents_some staged
        refine ⟨subset_append_left _ _, ?_, fun _ => id, fun _ => id, terminal⟩
        rw [behind]
        exact subset_append_left _ _
    case captured event attempts error outcome _ _ =>
        exact ⟨fun _ => id, fun _ => id, outcome.subset_adds _ _, fun _ => id, terminal⟩
    all_goals exact ⟨fun _ => id, fun _ => id, fun _ => id, fun _ => id, terminal⟩

variable {state : ProcessorState ω} {attempt : Attempt} {action : CallAction ω} {step : CallStep ω}

/-- A row is dead-lettered only by a call whose capture of the dead letter has succeeded. -/
theorem CallMoves.letters (moves : CallMoves setting store attempt action step)
    (placed : attempt.Placed setting store)
    (letters : ∀ key, store.status key = some .deadLettered → store.HasLetter key)
    (grows : store.Grows step.store) (key : String × String)
    (dead : step.store.status key = some .deadLettered)
    : step.store.HasLetter key := by
  cases moves
  case claimed event stale processing row at_ claims =>
      obtain ⟨-, taken, status, kept⟩ := claimEventProcessing_some claims
      by_cases same : key = attempt.spec.keyFor event
      · rw [same] at dead
        simp [EventStore.status, EventHandlerSpec.keyFor, taken, status] at dead
      · refine grows.letter (letters key ?_)
        rw [EventStore.status, ← kept key same]
        exact dead
  case committed event attempts writes events outbox at_ staged =>
      rw [status_setStatus rfl] at dead
      split at dead
      · simp at dead
      · exact grows.letter (letters key dead)
  case retried event error holds =>
      rw [status_setStatus rfl] at dead
      split at dead
      · simp at dead
      · exact grows.letter (letters key dead)
  case deadLettered event error at_ =>
      rw [status_setStatus rfl] at dead
      split at dead
      next same =>
        simp only [Attempt.Placed, at_] at placed
        rw [same]
        exact grows.letter placed.2
      · exact grows.letter (letters key dead)
  all_goals exact grows.letter (letters key dead)

/-- The outbox and the business transactions move together. -/
theorem CallMoves.outbox (moves : CallMoves setting store attempt action step)
    (returned : ∀ row ∈ store.outbox, ∃ commit ∈ store.business, ∃ event ∈ commit.events,
        setting.columns.stored event = some row.envelope)
    (kept : ∀ commit ∈ store.business, ∀ event ∈ commit.events,
        ∃ row ∈ store.outbox, row.eventId = event.eventId)
    : (∀ row ∈ step.store.outbox, ∃ commit ∈ step.store.business, ∃ event ∈ commit.events,
          setting.columns.stored event = some row.envelope)
      ∧ ∀ commit ∈ step.store.business, ∀ event ∈ commit.events,
          ∃ row ∈ step.store.outbox, row.eventId = event.eventId := by
  cases moves
  case committed event attempts writes events outbox at_ staged =>
      obtain ⟨added, rfl, stored, found⟩ := stageEvents_some staged
      constructor
      · intro row mem
        rcases mem_append.mp mem with before | new
        · obtain ⟨commit, committed, event, given, same⟩ := returned row before
          exact ⟨commit, mem_append_left _ committed, event, given, same⟩
        · obtain ⟨event, given, envelope, same, rfl⟩ := stored row new
          exact ⟨_, mem_append_right _ mem_cons_self, event, given, same⟩
      · intro commit mem event given
        rcases mem_append.mp mem with before | new
        · obtain ⟨row, inside, same⟩ := kept commit before event given
          exact ⟨row, mem_append_left _ inside, same⟩
        · rw [mem_singleton.mp new] at given
          exact found event given
  all_goals exact ⟨returned, kept⟩

/-- Where a call stands after its own step. -/
theorem CallMoves.placed (moves : CallMoves setting store attempt action step)
    (placed : attempt.Placed setting store)
    (held : ∀ event, attempt.stage.holds = some event
      → (store.status (attempt.spec.keyFor event)).isSome)
    (grows : store.Grows step.store) (accounted : step.store.Accounted setting)
    {stage : Stage} (reached : step.stage = some stage)
    : Attempt.Placed setting step.store { attempt with stage } := by
  cases moves
  case captureRaw outcome at_ =>
      split at reached <;> cases reached
      rename_i captured
      rw [Attempt.Placed, at_] at placed
      refine .undecodable placed ?_
      rw [captured]
      exact mem_append_right _ mem_cons_self
  case claimed event stale processing row at_ claims =>
      cases reached
      rwa [Attempt.Placed, at_] at placed
  case refused event stale at_ =>
      cases reached
      rwa [Attempt.Placed, at_] at placed
  case inspected event at_ =>
      rw [Attempt.Placed, at_] at placed
      unfold inspectStep at reached
      dsimp only at reached
      split at reached <;> cases reached
      rename_i terminal
      obtain ⟨row, found, closed⟩ := (Option.any_eq_true _ _).mp terminal
      refine accounted.settled placed closed ?_
      exact Option.map_eq_some_iff.mpr ⟨row, found, rfl⟩
  case committed event attempts writes events outbox at_ staged =>
      cases reached
      obtain ⟨before, found⟩ := Option.isSome_iff_exists.mp (held event (by rw [at_]; rfl))
      rw [Attempt.Placed, at_] at placed
      have processed : EventProcessingStatus.processed.terminal = true := rfl
      refine accounted.settled placed processed ?_
      rw [status_setStatus rfl, if_pos rfl, found]
      rfl
  case rolledBack event attempts error at_ =>
      cases reached
      rwa [Attempt.Placed, at_] at placed
  case captured event attempts error outcome at_ exhausted =>
      cases reached
      rw [Attempt.Placed, at_] at placed
      by_cases captured : outcome = .captured
      · rw [if_pos captured]
        refine ⟨placed, deadLetterOf attempt.spec event attempts error, ?_, rfl⟩
        rw [captured]
        exact mem_append_right _ mem_cons_self
      · rw [if_neg captured]
        exact placed
  case deadLettered event error at_ =>
      cases reached
      obtain ⟨before, found⟩ := Option.isSome_iff_exists.mp (held event (by rw [at_]; rfl))
      rw [Attempt.Placed, at_] at placed
      have deadLettered : EventProcessingStatus.deadLettered.terminal = true := rfl
      refine accounted.settled placed.1 deadLettered ?_
      rw [status_setStatus rfl, if_pos rfl, found]
      rfl
  all_goals cases reached

theorem durable_start : Durable setting ({} : ProcessorState ω) where
  accounted :=
    { processed := fun _ found => nomatch found
      letters := fun _ found => nomatch found
      returned := fun _ mem => nomatch mem
      kept := fun _ mem => nomatch mem }
  placed _ _ runs := nomatch runs

/-- The invariant is kept by every step.
Witness: the tables grow, so the other calls stay where they are; the ledger's board tells that
the row of a call that holds a claim is there.
-/
theorem durable_step (state : ProcessorState ω) (action : ProcessorAction ω)
    (durable : Durable setting state) (exclusive : Claims.Exclusive state.board)
    (admitted : TakesOverAbandoned state action)
    : Durable setting ((processorMachine setting).step state action).1 := by
  have grows := grows_step setting exclusive admitted
  have later := exclusive_step setting state action exclusive admitted
  have moves := processorStep_moves setting state action
  generalize (processorMachine setting).step state action = next at moves grows later
  cases moves with
  | idle => exact durable
  | delivered call spec data free =>
    refine ⟨durable.accounted, ?_⟩
    intro other attempt runs
    rcases of_update_some runs with ⟨_, ⟨⟩⟩ | ⟨_, before⟩
    · unfold Attempt.Placed firstStage
      cases setting.decode data <;> rfl
    · exact durable.placed other attempt before
  | acted call attempt action step runs moves =>
    have placed := durable.placed call attempt runs
    have accounted : step.store.Accounted setting :=
      { processed := processed_of_exclusive later
        letters := moves.letters placed durable.accounted.letters grows
        returned := (moves.outbox durable.accounted.returned durable.accounted.kept).1
        kept := (moves.outbox durable.accounted.returned durable.accounted.kept).2 }
    refine ⟨accounted, ?_⟩
    intro other running runs'
    rcases of_update_some runs' with ⟨_, moved⟩ | ⟨_, before⟩
    · obtain ⟨stage, reached, rfl⟩ := Option.map_eq_some_iff.mp moved
      refine moves.placed placed ?_ grows accounted reached
      intro event holds
      have held := exclusive.held call (attempt.spec.keyFor event)
        (by simp [ProcessorState.board, runs, Attempt.heldKey, holds])
      cases found : state.store.status (attempt.spec.keyFor event) with
      | none =>
        simp only [ProcessorState.board, found] at held
        cases held
      | some status => rfl
    · exact grows.placed (durable.placed other running before)

/-- What a call acknowledges is settled before it does. -/
theorem acknowledged_settled (durable : Durable setting state)
    (action : ProcessorAction ω) (message : Acknowledged)
    (mem : message ∈ ((processorMachine setting).step state action).2)
    : Settled setting state.store message := by
  have moves := processorStep_moves setting state action
  generalize (processorMachine setting).step state action = next at moves mem
  cases moves with
  | idle => cases mem
  | delivered => cases mem
  | acted call attempt action step runs moves =>
    have placed := durable.placed call attempt runs
    cases moves
    case acknowledged at_ =>
        rw [mem_singleton.mp mem]
        rwa [Attempt.Placed, at_] at placed
    all_goals cases mem

/-- Every message that was acknowledged along a run was settled by then; the outbox holds the
events of the committed business transactions, and no others.
-/
structure AcknowledgedDurable (setting : ProcessorSetting) (actions : List (ProcessorAction ω))
    : Prop where
  settled : ∀ earlier action, earlier ++ [action] <+: actions
    → ∀ message ∈ ((processorMachine setting).step
        ((processorMachine setting).run {} earlier) action).2,
      Settled setting ((processorMachine setting).run {} earlier).store message
  staged : ∀ commit ∈ ((processorMachine setting).run {} actions).store.business,
      ∀ event ∈ commit.events,
        ((processorMachine setting).run {} actions).store.Staged setting.columns event
  onlyCommitted : ∀ row ∈ ((processorMachine setting).run {} actions).store.outbox,
      ∃ commit ∈ ((processorMachine setting).run {} actions).store.business,
      ∃ event ∈ commit.events, setting.columns.stored event = some row.envelope

theorem acknowledged_only_durable (setting : ProcessorSetting) (actions : List (ProcessorAction ω))
    (admitted : (processorMachine setting).Admits TakesOverAbandoned {} actions)
    : AcknowledgedDurable setting actions := by
  have durable (taken : List (ProcessorAction ω))
      (allowed : (processorMachine setting).Admits TakesOverAbandoned {} taken)
      : Durable setting ((processorMachine setting).run {} taken)
        ∧ Claims.Exclusive ((processorMachine setting).run {} taken).board := by
    have keeps (state : ProcessorState ω) (action : ProcessorAction ω)
        (before : Durable setting state ∧ Claims.Exclusive state.board)
        (may : TakesOverAbandoned state action)
        : Durable setting ((processorMachine setting).step state action).1
          ∧ Claims.Exclusive ((processorMachine setting).step state action).1.board :=
      ⟨durable_step state action before.1 before.2 may,
        exclusive_step setting state action before.2 may⟩
    exact Machine.run_invariant keeps ⟨durable_start, exclusive_start⟩ allowed
  have accounted := (durable actions admitted).1.accounted
  refine ⟨?_, ?_, accounted.returned⟩
  · rintro earlier action ⟨later, rfl⟩ message mem
    have before := (Machine.admits_append.mp (Machine.admits_append.mp admitted).1).1
    exact acknowledged_settled (durable earlier before).1 action message mem
  · intro commit committed event mem
    exact accounted.staged committed mem

end Durability

/-- The message of the redelivered event is acknowledged twice, for one commit. -/
theorem acknowledged_only_durable_redelivered
    : (processorMachine plainSetting).trace {} redelivery
        = [{ spec := plainSpec, data := "m" }, { spec := plainSpec, data := "m" }]
      ∧ AcknowledgedDurable plainSetting redelivery :=
  ⟨rfl, acknowledged_only_durable plainSetting redelivery redelivery_admitted⟩

end K8sClue.Events
