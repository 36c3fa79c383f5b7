import K8sClue.Library.Keyed
import K8sClue.Library.Results
import K8sClue.Python.Conversions

/-! The tables of the event bus: the processing ledger of each consumer, the outbox and the dead
letters.
-/

namespace K8sClue.Events

open Python Library List Keyed

structure EventEnvelope where
  (eventId subject source correlationId : String)
  causationId : Option String := none
  createdAt : String
  payload : PyDict
  schemaVersion : Int := 1
  workspaceId : Option String := none

inductive EventProcessingStatus where
  | processing
  | processed
  | retrying
  | deadLettered
  deriving DecidableEq

def EventProcessingStatus.terminal : EventProcessingStatus → Bool
  | .processed => true
  | .deadLettered => true
  | _ => false

/-- A row of `event_processing`. Its times are left out: they are read only to decide whether a
claim is stale.
-/
structure ProcessingRow where
  (eventId consumer subject correlationId : String)
  status : EventProcessingStatus
  attempts : Nat
  lastError : Option String := none
  deriving DecidableEq

variable (row : ProcessingRow)

def ProcessingRow.key : String × String := (row.eventId, row.consumer)

def errorMessageLimit : Nat := 2000

def compactError (error : String) : String :=
  String.ofList (error.toList.take errorMessageLimit)

structure DeadLetterRow where
  (originalEventId originalSubject consumer correlationId : String)
  attempts : Nat
  error : String
  payload : PyDict

structure OutboxRow where
  envelope : EventEnvelope
  leaseId : Option String := none
  leasedUntil : Option Int := none
  sentAt : Option Int := none

def OutboxRow.eventId (row : OutboxRow) : String := row.envelope.eventId

/-- What the columns of the outbox give back of a staged envelope, or their refusal. The texts
and numbers of an envelope come back as they are; its payload is a `jsonb` column.
-/
structure OutboxColumns where
  jsonb : PyDict → Option PyDict
  texts : String → Bool
  integers : Int → Bool

def OutboxColumns.stored (columns : OutboxColumns) (event : EventEnvelope) : Option EventEnvelope :=
  let written := [event.eventId, event.subject, event.source, event.correlationId,
    event.createdAt] ++ event.causationId.toList ++ event.workspaceId.toList
  if written.all columns.texts && columns.integers event.schemaVersion then
    (columns.jsonb event.payload).map fun payload => { event with payload }
  else
    none

def stageEvents (columns : OutboxColumns) (outbox : List OutboxRow) (events : List EventEnvelope)
    : Option (List OutboxRow) := do
  let envelopes ← events.mapM columns.stored
  return Keyed.putAll OutboxRow.eventId (fun known _ => known) outbox
    (envelopes.map fun envelope => { envelope })

section Outbox

variable {columns : OutboxColumns} {outbox next : List OutboxRow} {events : List EventEnvelope}

theorem OutboxColumns.stored_some {event envelope : EventEnvelope}
    (stored : columns.stored event = some envelope)
    : ∃ payload, columns.jsonb event.payload = some payload
        ∧ envelope = { event with payload } := by
  unfold OutboxColumns.stored at stored
  dsimp only at stored
  split at stored
  · obtain ⟨payload, given, rfl⟩ := Option.map_eq_some_iff.mp stored
    exact ⟨payload, given, rfl⟩
  · cases stored

/-- The rows of the outbox stay, and rows of staged events come behind them. -/
theorem stageEvents_some (staged : stageEvents columns outbox events = some next)
    : ∃ added, next = outbox ++ added
        ∧ (∀ row ∈ added, ∃ event ∈ events, ∃ envelope,
            columns.stored event = some envelope ∧ row = { envelope })
        ∧ ∀ event ∈ events, ∃ row ∈ next, row.eventId = event.eventId := by
  obtain ⟨envelopes, stored, all⟩ := Option.bind_eq_some_iff.mp staged
  cases all
  have each := mapM_some.mp stored
  let rows : List OutboxRow := envelopes.map fun envelope => { envelope }
  obtain ⟨added, behind, part⟩ :
      ∃ added, Keyed.putAll OutboxRow.eventId (fun known _ => known) outbox rows = outbox ++ added
        ∧ added.Sublist rows := putAll_keeping
  refine ⟨added, behind, ?_, ?_⟩
  · intro row mem
    obtain ⟨envelope, given, rfl⟩ := mem_map.mp (part.mem mem)
    obtain ⟨event, source, found⟩ := forall₂_mem_right each given
    exact ⟨event, source, envelope, found, rfl⟩
  · intro event mem
    obtain ⟨envelope, given, found⟩ := forall₂_mem_left each mem
    obtain ⟨payload, -, rfl⟩ := OutboxColumns.stored_some found
    have known : event.eventId ∈ rows.map OutboxRow.eventId := by
      refine mem_map.mpr ⟨_, mem_map_of_mem given, rfl⟩
    have present
        : event.eventId ∈ (Keyed.putAll OutboxRow.eventId (fun known _ => known) outbox rows).map
            OutboxRow.eventId :=
      (mem_keys_putAll (fun _ _ same => same)).mpr (.inr known)
    exact mem_map.mp present

theorem stageEvents_unique (staged : stageEvents columns outbox events = some next)
    (unique : Unique OutboxRow.eventId outbox)
    : Unique OutboxRow.eventId next := by
  obtain ⟨envelopes, stored, all⟩ := Option.bind_eq_some_iff.mp staged
  cases all
  exact unique.putAll fun _ _ same => same

end Outbox

def claimedRow (event : EventEnvelope) (consumer : String) : ProcessingRow where
  eventId := event.eventId
  consumer := consumer
  subject := event.subject
  correlationId := event.correlationId
  status := .processing
  attempts := 1

def ProcessingRow.claimed : ProcessingRow :=
  { row with status := .processing, attempts := row.attempts + 1, lastError := none }

/-- The condition of the claim's update: the row is not terminal, and it is not being processed
unless that claim is stale.
-/
def ProcessingRow.claimable (stale : Bool) : Bool :=
  !row.status.terminal && (row.status ≠ .processing || stale)

variable (rows : List ProcessingRow)

def claimEventProcessing (event : EventEnvelope) (consumer : String) (stale : Bool)
    : Option (List ProcessingRow × ProcessingRow) :=
  match Keyed.find ProcessingRow.key rows (event.eventId, consumer) with
  | none => some (rows ++ [claimedRow event consumer], claimedRow event consumer)
  | some row =>
    if row.claimable stale then
      some (rows.map (fun other => if other.key = row.key then other.claimed else other),
        row.claimed)
    else
      none

variable (key : String × String)

def setStatus
    (status : EventProcessingStatus) (lastError : Option String)
    : List ProcessingRow :=
  rows.map fun row => if row.key = key then { row with status, lastError } else row

def finishEventProcessing : List ProcessingRow :=
  setStatus rows key .processed none

def failEventProcessing (error : String) (status : EventProcessingStatus) : List ProcessingRow :=
  setStatus rows key status (some (compactError error))

section Ledger

variable {rows : List ProcessingRow} {key other : String × String}

theorem find_setStatus (status : EventProcessingStatus) (lastError : Option String)
    : Keyed.find ProcessingRow.key (setStatus rows key status lastError) other
      = (Keyed.find ProcessingRow.key rows other).map fun row =>
          if other = key then { row with status, lastError } else row := by
  rw [setStatus, find_map]
  · refine Option.map_congr fun row found => ?_
    rw [(mem_of_find found).2]
  · intro row
    split <;> rfl

/-- A claim succeeds on a row that is missing or claimable, and leaves all other rows. -/
theorem claimEventProcessing_some {event : EventEnvelope} {consumer : String} {stale : Bool}
    {next : List ProcessingRow} {row : ProcessingRow}
    (claimed : claimEventProcessing rows event consumer stale = some (next, row))
    : (∀ known, Keyed.find ProcessingRow.key rows (event.eventId, consumer) = some known
        → known.claimable stale = true)
      ∧ Keyed.find ProcessingRow.key next (event.eventId, consumer) = some row
      ∧ row.status = .processing
      ∧ ∀ wanted, wanted ≠ (event.eventId, consumer)
        → Keyed.find ProcessingRow.key next wanted = Keyed.find ProcessingRow.key rows wanted := by
  unfold claimEventProcessing at claimed
  split at claimed
  next absent =>
    obtain ⟨rfl, rfl⟩ := Prod.mk.inj (Option.some.inj claimed)
    refine ⟨fun known found => ?_, ?_, rfl, ?_⟩
    · rw [absent] at found
      cases found
    · rw [find_append, absent]
      simp [Keyed.find, claimedRow, ProcessingRow.key]
    · intro wanted different
      have apart : (claimedRow event consumer).key ≠ wanted := Ne.symm different
      rw [find_append, find_cons, if_neg apart, find_nil, Option.or_none]
  next known found =>
    split at claimed <;> cases claimed
    rename_i may
    have key := (mem_of_find found).2
    have kept : ∀ row : ProcessingRow,
        (if row.key = known.key then row.claimed else row).key = row.key := by
      intro row
      split <;> rfl
    refine ⟨fun same again => ?_, ?_, rfl, ?_⟩
    · rw [found] at again
      cases again
      exact may
    · rw [find_map kept, found]
      simp
    · intro wanted different
      rw [find_map kept]
      cases other : Keyed.find ProcessingRow.key rows wanted with
      | none => rfl
      | some row =>
        have apart : row.key ≠ known.key := by
          rw [(mem_of_find other).2, key]
          exact different
        rw [Option.map_some, if_neg apart]

end Ledger

end K8sClue.Events
