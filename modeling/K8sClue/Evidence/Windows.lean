import K8sClue.Events.Store
import K8sClue.Library.Runs
import K8sClue.Timeline.Contracts

/-! Evidence windows.
`record_evidence_event_once` inserts a window unless its key is taken;
`rotate_alertmanager_evidence_window` moves the window of a key to a new incident and archives
what it held. Each call is one transaction under READ COMMITTED. The rows a transaction inserts
and the row it has selected for update are its own until it ends, and only the second function
takes the advisory lock.
-/

namespace K8sClue.Evidence

open Python Events Timeline Library Function

/-- The two uses of SHA-256: the number of an advisory lock, and the first hexadecimal digits
of a history key, taken as injective.
-/
structure WindowPlatform where
  lockKey : String → Int
  digest : String → String
  digest_plain : ∀ raw, ':' ∉ (digest raw).toList
  digest_injective : Injective digest

structure WindowValues where
  (workspaceId clusterId sourceId windowStart : String)
  agentId : Option String
  (eventId correlationId : String)
  payload : PyDict

structure WindowRow extends WindowValues where
  evidenceKey : String

def WindowValues.ids (values : WindowValues) : String × String :=
  (values.eventId, values.correlationId)

def nul : Char := Char.ofNat 0

def storableText (text : String) : Bool := nul ∉ text.toList

def WindowRow.storable (row : WindowRow) : Bool :=
  [row.evidenceKey, row.workspaceId, row.clusterId, row.sourceId, row.windowStart, row.eventId,
    row.correlationId].all storableText
  && row.agentId.all storableText

def historySegment : String := ":history:"

def historyKey (env : WindowPlatform) (evidenceKey : String) (ids : String × String)
    : String :=
  evidenceKey ++ historySegment
    ++ env.digest (ids.1 ++ String.singleton nul ++ ids.2)

def WindowRow.archived (row : WindowRow) (env : WindowPlatform) : WindowRow where
  toWindowValues := row.toWindowValues
  evidenceKey := historyKey env row.evidenceKey row.ids

inductive CallKind where
  | record (timelineEvents : List TimelineEvent) (inventoryPayload : Option PyDict)
  | rotate (expectedEventId expectedCorrelationId : String)

structure EvidenceCall where
  kind : CallKind
  (evidenceKey workspaceId clusterId sourceId windowStart : String)
  agentId : Option String
  envelope : EventEnvelope
  payload : PyDict

structure SnapshotSave where
  (workspaceId clusterId agentId : String)
  payload : PyDict

namespace EvidenceCall

variable (call : EvidenceCall)

def eventId : String := call.envelope.eventId

def row : WindowRow where
  evidenceKey := call.evidenceKey
  workspaceId := call.workspaceId
  clusterId := call.clusterId
  sourceId := call.sourceId
  windowStart := call.windowStart
  agentId := call.agentId
  eventId := call.envelope.eventId
  correlationId := call.envelope.correlationId
  payload := call.payload

def trustedEnvelope : EventEnvelope :=
  { call.envelope with workspaceId := some call.workspaceId }

def facts : List TimelineEvent :=
  match call.kind with
  | .record timelineEvents _ => timelineEvents
  | .rotate .. => []

def snapshot : Option SnapshotSave :=
  match call.kind with
  | .record _ inventoryPayload =>
    inventoryPayload.map fun payload => {
      workspaceId := call.workspaceId
      clusterId := call.clusterId
      agentId := if call.agentId.getD "" = "" then "cluster-agent" else call.agentId.getD ""
      payload }
  | .rotate .. => none

def expected : Option (String × String) :=
  match call.kind with
  | .record .. => none
  | .rotate eventId correlationId => some (eventId, correlationId)

end EvidenceCall

structure CallResult where
  duplicate : Bool
  (eventId correlationId : String)
  deriving DecidableEq

def WindowRow.duplicateResult (row : WindowRow) : CallResult where
  duplicate := true
  eventId := row.eventId
  correlationId := row.correlationId

def EvidenceCall.newResult (call : EvidenceCall) : CallResult where
  duplicate := false
  eventId := call.row.eventId
  correlationId := call.row.correlationId

structure EvidenceJob where
  (evidenceKey workspaceId : String)
  result : Option PyDict

structure EvidenceTables where
  windows : List WindowRow := []
  events : List EventEnvelope := []
  outbox : List OutboxRow := []
  jobs : List EvidenceJob := []
  facts : List TimelineEvent := []
  snapshots : List SnapshotSave := []

structure WindowWrites where
  inserted : List WindowRow := []
  replaced : Option WindowRow := none
  events : List EventEnvelope := []
  outbox : List OutboxRow := []
  clearsJobs : Bool := false
  facts : List TimelineEvent := []
  snapshots : List SnapshotSave := []

inductive WindowStage where
  | started
  /-- the advisory lock is held -/
  | locked
  /-- the rotation has found no row -/
  | missing
  /-- the rotation has found a row and locked it -/
  | found (current : WindowRow)
  /-- the insert has done nothing -/
  | conflicted
  | inserted
  | archived
  | replaced
  | staged
  | answered (result : CallResult)

structure WindowTransaction where
  call : EvidenceCall
  stage : WindowStage := .started
  writes : WindowWrites := {}

/-- What a transaction can hold until it ends: an advisory lock, a row, the key of a window it has
inserted, and the id of an event it has staged.
-/
inductive WindowLock where
  | advisory (number : Int)
  | row (evidenceKey : String)
  | newWindow (evidenceKey : String)
  | newEvent (eventId : String)
  deriving DecidableEq

structure WindowState where
  tables : EvidenceTables := {}
  locks : WindowLock → Option Nat := fun _ => none
  transactions : Nat → Option WindowTransaction := fun _ => none
  issued : List String := []

inductive WindowEvent where
  | looked (call : EvidenceCall)
  | returned (call : EvidenceCall) (result : CallResult)

namespace WindowState

variable (state : WindowState)

def canLock (name : WindowLock) (id : Nat) : Bool := (state.locks name).all (· = id)

def lock (name : WindowLock) (id : Nat) : WindowState :=
  { state with locks := update state.locks name (some id) }

def keep (id : Nat) (tx : WindowTransaction) : WindowState :=
  { state with transactions := update state.transactions id (some tx) }

def finish (id : Nat) : WindowState :=
  { state with
    locks := fun name => (state.locks name).filter (· ≠ id)
    transactions := update state.transactions id none }

def window (evidenceKey : String) : Option WindowRow :=
  Keyed.find (·.evidenceKey) state.tables.windows evidenceKey

end WindowState

section Statements

variable (env : WindowPlatform) (state : WindowState) (id : Nat) (tx : WindowTransaction)

/-- `insert … on conflict (evidence_key) do nothing`. A key that another open transaction has
inserted is waited for; a text that cannot be stored ends the transaction.
-/
def insertWindow (row : WindowRow) (onInsert onConflict : WindowStage) : WindowState :=
  if !row.storable then
    state.finish id
  else if (state.window row.evidenceKey).isSome then
    state.keep id { tx with stage := onConflict }
  else if state.canLock (.newWindow row.evidenceKey) id then
    (state.lock (.newWindow row.evidenceKey) id).keep id { tx with
      stage := onInsert
      writes := { tx.writes with
        inserted := tx.writes.inserted ++ [row] } }
  else
    state

def lockAdvisory : WindowState :=
  let name := WindowLock.advisory (env.lockKey tx.call.evidenceKey)
  if state.canLock name id then
    (state.lock name id).keep id { tx with stage := .locked }
  else
    state

/-- `select … for update`. A row that another transaction has locked is waited for; a row that
is not committed is not seen.
-/
def selectForUpdate : WindowState × List WindowEvent :=
  match state.window tx.call.evidenceKey with
  | none => (state.keep id { tx with stage := .missing }, [.looked tx.call])
  | some current =>
    let name := WindowLock.row tx.call.evidenceKey
    if state.canLock name id then
      ((state.lock name id).keep id { tx with stage := .found current }, [.looked tx.call])
    else
      (state, [])

def selectExisting : WindowState :=
  match state.window tx.call.evidenceKey with
  | some row => state.keep id { tx with stage := .answered row.duplicateResult }
  | none => state.finish id

def compareExpected (current : WindowRow) : WindowState :=
  if tx.call.expected = some current.ids then
    insertWindow state id tx (current.archived env) .archived .archived
  else
    state.keep id { tx with stage := .answered current.duplicateResult }

def replaceWindow : WindowState :=
  let row := tx.call.row
  if !row.storable then
    state.finish id
  else
    let matched := (state.window row.evidenceKey).any fun current =>
      tx.call.expected = some current.ids
    state.keep id { tx with
      stage := .replaced
      writes := { tx.writes with replaced := if matched then some row else none } }

def stageEventEnvelope : WindowState :=
  let envelope := tx.call.trustedEnvelope
  let name := WindowLock.newEvent envelope.eventId
  if state.canLock name id then
    (state.lock name id).keep id { tx with
      stage := .staged
      writes := { tx.writes with
        events :=
          if envelope.eventId ∈ state.tables.events.map (·.eventId) then [] else [envelope]
        outbox :=
          if envelope.eventId ∈ state.tables.outbox.map (·.eventId) then []
          else [{ envelope }] } }
  else
    state

def finishCall : WindowState :=
  let call := tx.call
  state.keep id { tx with
    stage := .answered call.newResult
    writes := { tx.writes with
      clearsJobs := call.expected.isNone
      facts := call.facts
      snapshots := call.snapshot.toList } }

def advance : WindowState × List WindowEvent :=
  match tx.stage with
  | .started =>
    match tx.call.kind with
    | .record .. =>
      (insertWindow state id tx tx.call.row .inserted .conflicted, [])
    | .rotate .. => (lockAdvisory env state id tx, [])
  | .locked => selectForUpdate state id tx
  | .missing =>
    (insertWindow state id tx tx.call.row .inserted .conflicted, [])
  | .found current => (compareExpected env state id tx current, [])
  | .conflicted => (selectExisting state id tx, [])
  | .inserted => (stageEventEnvelope state id tx, [])
  | .archived => (replaceWindow state id tx, [])
  | .replaced => (stageEventEnvelope state id tx, [])
  | .staged => (finishCall state id tx, [])
  | .answered _ => (state, [])

def WindowWrites.update (writes : WindowWrites) (row : WindowRow) : WindowRow :=
  match writes.replaced with
  | some next => if row.evidenceKey = next.evidenceKey then next else row
  | none => row

def clearResults (call : EvidenceCall) (jobs : List EvidenceJob) : List EvidenceJob :=
  jobs.map fun job =>
    if job.evidenceKey = call.evidenceKey ∧ job.workspaceId = call.workspaceId then
      { job with result := none }
    else
      job

def EvidenceTables.commit (tables : EvidenceTables) (call : EvidenceCall) (writes : WindowWrites)
    : EvidenceTables where
  windows := tables.windows.map writes.update ++ writes.inserted
  events := tables.events ++ writes.events
  outbox := tables.outbox ++ writes.outbox
  jobs := if writes.clearsJobs then clearResults call tables.jobs else tables.jobs
  facts := tables.facts ++ writes.facts
  snapshots := tables.snapshots ++ writes.snapshots

def commitTransaction : WindowState × List WindowEvent :=
  match tx.stage with
  | .answered result =>
    ({ state.finish id with
        tables := state.tables.commit tx.call tx.writes },
      [.returned tx.call result])
  | _ => (state, [])

end Statements

inductive WindowAction where
  | begin (call : EvidenceCall)
  | advance
  | commit
  | abort

/-- The calls considered: the event id is new, and the key is no history key. -/
def WindowState.admits (state : WindowState) (call : EvidenceCall) : Bool :=
  call.eventId ∉ state.issued && !contains call.evidenceKey historySegment

def windowMachine (env : WindowPlatform)
    : Machine WindowState (Nat × WindowAction) WindowEvent where
  step := fun state action =>
    match state.transactions action.1, action.2 with
    | none, .begin call =>
      if state.admits call then
        ({ state.keep action.1 { call } with issued := call.eventId :: state.issued }, [])
      else
        (state, [])
    | some tx, .advance => advance env state action.1 tx
    | some tx, .commit => commitTransaction state action.1 tx
    | some _, .abort => (state.finish action.1, [])
    | _, _ => (state, [])

end K8sClue.Evidence
