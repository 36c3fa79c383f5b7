import K8sClue.Inventory.ClusterParts
import K8sClue.Library.Runs

/-! Concurrent snapshots of the clusters of one workspace.
A snapshot transaction holds the lock of its cluster from the start. It compares its rows with
the open versions either before it takes the workspace lock (`INVENTORY_LATE_PROJECTION_LOCK`, the
default) or after it has drawn its revision (the lock-first path). All locks are kept until the
transaction ends.
-/

namespace K8sClue.Inventory

open Python Timeline Library List Function

def inventoryChangeLedgerEpoch : String := "inventory_delta_v1"

/-- A row of `inventory_filter_revisions` with all its columns. -/
structure FilterRevision extends RevisionRow where
  observedAt : Int
  (labelsComplete resourcesComplete applicationBindingsComplete : Bool)
  changeLedgerEpoch : String
  partialReasonCodes : List String
  deriving DecidableEq

variable (payload : PyValue)

def labelsCompleteOf (sourceSummary : PyDict) : Bool :=
  resourcesCompleteOf payload sourceSummary && (sourceSummary.get "labels_complete").isBool true

def partialReasonCodesOf (sourceSummary : PyDict) : List String :=
  let truncated := ((sourceSummary.get "collection_limits").get "truncated").isBool true
  (if labelsCompleteOf payload sourceSummary then [] else ["source_labels_truncated"])
  ++ if truncated then
      ["source_resources_truncated"]
    else if resourcesCompleteOf payload sourceSummary then
      []
    else
      ["source_resources_incomplete"]

/-- The arguments of `sync_inventory_filter_projection` that only its revision row shows. -/
structure RevisionDetails where
  observedAt : Int
  (labelsComplete resourcesComplete : Bool)
  partialReasonCodes : List String

def revisionDetails (cut : SnapshotCut) : RevisionDetails :=
  let sourceSummary := (dictOrEmpty (payload.get "summary")).getD []
  {
    observedAt := cut.observedAt
    labelsComplete := labelsCompleteOf payload sourceSummary
    resourcesComplete := cut.resourcesComplete
    partialReasonCodes := partialReasonCodesOf payload sourceSummary }

def sortedCodes (codes : List String) : List String :=
  (fromKeys codes).insertionSort (· ≤ ·)

namespace RevisionDetails

variable (details : RevisionDetails) (bindingsComplete : Bool)

def reasons : List String :=
  details.partialReasonCodes
  ++ if bindingsComplete then [] else ["application_bindings_incomplete"]

variable (row : RevisionRow)

def insertedLate : FilterRevision where
  toRevisionRow := row
  observedAt := details.observedAt
  labelsComplete := details.labelsComplete
  resourcesComplete := details.resourcesComplete
  applicationBindingsComplete := bindingsComplete
  changeLedgerEpoch := inventoryChangeLedgerEpoch
  partialReasonCodes := sortedCodes (details.reasons bindingsComplete)

/-- The row that the lock-first path inserts before it compares anything. -/
def insertedFirst : FilterRevision where
  toRevisionRow := row
  observedAt := details.observedAt
  labelsComplete := details.labelsComplete
  resourcesComplete := details.resourcesComplete
  applicationBindingsComplete := false
  changeLedgerEpoch := inventoryChangeLedgerEpoch
  partialReasonCodes := sortedCodes details.partialReasonCodes

def updated (row : FilterRevision) : FilterRevision :=
  { row with
    applicationBindingsComplete := bindingsComplete
    partialReasonCodes := sortedCodes (details.reasons bindingsComplete) }

def lockFirst (revisions : List FilterRevision) : List FilterRevision :=
  (revisions ++ [details.insertedFirst row]).map fun held =>
    if held.revisionId = row.revisionId then details.updated bindingsComplete held else held

/-- With a new revision id both paths leave the same rows. -/
theorem lockFirst_eq {bindingsComplete : Bool} {row : RevisionRow} {revisions : List FilterRevision}
    (fresh : ∀ held ∈ revisions, held.revisionId ≠ row.revisionId)
    : details.lockFirst bindingsComplete row revisions
      = revisions ++ [details.insertedLate bindingsComplete row] := by
  have own : (details.insertedFirst row).revisionId = row.revisionId := rfl
  have others : revisions.map (fun held =>
      if held.revisionId = row.revisionId then details.updated bindingsComplete held else held)
      = revisions := by
    refine (map_congr_left fun held mem => ?_).trans (map_id _)
    exact if_neg (fresh held mem)
  rw [lockFirst, map_append, others, map_singleton, if_pos own]
  rfl

end RevisionDetails

structure PreparedCut where
  events : List TimelineEvent
  snapshot : SnapshotRow
  rows : List ResourceRow
  samples : List UsageSampleRow
  missing : List String

variable (env : Platform)

def prepareCut (store : InventoryStore) (workspaceId clusterId : String)
    (delivery : Delivery) (cut : SnapshotCut)
    : Except SaveError PreparedCut := do
  let previous := store.previousRows workspaceId clusterId
  let current := preserveExistingInventoryKeys cut.resources previous
  let events ← orError .invalidEvent
    (inventoryTimelineEvents env workspaceId clusterId cut previous current
      (store.previousBatch env workspaceId clusterId cut))
  let snapshot ← orError .refusedValue
    (storeSnapshot env workspaceId clusterId delivery cut cut.status)
  let _ ← store.insertSnapshot snapshot
  let rows ← orError .refusedValue (current.mapM env.storeResource)
  let samples ← orError .refusedValue (storeUsage env workspaceId clusterId delivery cut)
  return { events, snapshot, rows, samples, missing := missingInventoryKeys cut previous current }

inductive SnapshotWork where
  | stale (snapshot : SnapshotRow)
  | accepted (prepared : PreparedCut)

structure SnapshotTransaction where
  clusterId : String
  delivery : Delivery
  lateLock : Bool
  cut : SnapshotCut
  work : Option SnapshotWork := none
  diff : Option ProjectionDiff := none
  revision : Option FilterRevision := none
  firstId : Option Nat := none

namespace SnapshotTransaction

variable (env : Platform) (workspaceId : String) (tx : SnapshotTransaction)

def projected : ProjectedCut :=
  tx.cut.projected workspaceId tx.clusterId tx.delivery

def details : RevisionDetails :=
  revisionDetails tx.delivery.payload tx.cut

def revisionRow (revisionId : Nat) : RevisionRow where
  revisionId := revisionId
  snapshotId := tx.delivery.snapshotId
  workspaceId := workspaceId
  clusterId := tx.clusterId

def startWork (store : InventoryStore) : Except SaveError SnapshotWork :=
  if store.isStale workspaceId tx.clusterId tx.cut.observedAt then do
    let snapshot ← orError .refusedValue
      (storeSnapshot env workspaceId tx.clusterId tx.delivery tx.cut ignoredStale)
    let _ ← store.insertSnapshot snapshot
    return .stale snapshot
  else do
    let prepared ← prepareCut env store workspaceId tx.clusterId tx.delivery tx.cut
    return .accepted prepared

variable (prepared : PreparedCut)

def resources (store : InventoryStore) : List ResourceRow :=
  markDeleted workspaceId tx.clusterId tx.delivery.snapshotId tx.cut prepared.missing
    (Keyed.putAll (·.inventoryKey) ResourceRow.updated store.resources prepared.rows)

def compare (store : InventoryStore) : ProjectionDiff :=
  computeProjectionDiff env (tx.projected workspaceId)
    (tx.resources workspaceId prepared store) store.versions

variable (diff : ProjectionDiff) (revisionId firstId : Nat)

def published (store : InventoryStore) : InventoryStore where
  snapshots := store.snapshots ++ [prepared.snapshot]
  resources := tx.resources workspaceId prepared store
  usageSamples := store.usageSamples ++ prepared.samples
  versions :=
    (writeProjectionVersions env (tx.projected workspaceId) revisionId firstId diff
      store.versions).1
  revisions := store.revisions ++ [tx.revisionRow workspaceId revisionId]
  lastRevision := revisionId
  lastVersion := firstId + diff.desired.length

def projection : ProjectionMutation :=
  (writeProjectionVersions env (tx.projected workspaceId) revisionId firstId diff []).2

def correlates : Bool :=
  let projection := tx.projection env workspaceId diff revisionId firstId
  projection.wellFormed
    && (correlateInventoryTimelineEvents prepared.events tx.delivery.snapshotId projection).isOk

end SnapshotTransaction

inductive LockName where
  | cluster (clusterId : String)
  | workspace
  | snapshot (snapshotId : String)
  deriving DecidableEq

structure WorkspaceState where
  store : InventoryStore := {}
  filterRevisions : List FilterRevision := []
  revisionSequence : Nat := 0
  versionSequence : Nat := 0
  locks : LockName → Option Nat := fun _ => none
  transactions : Nat → Option SnapshotTransaction := fun _ => none

structure CommittedSave where
  clusterId : String
  delivery : Delivery
  numbers : Option (Nat × Nat)

inductive TransactionAction where
  | begin (clusterId : String) (delivery : Delivery) (lateLock : Bool)
  | read
  | compare
  | lockWorkspace
  | allocate (skipped : Nat)
  | write (skipped : Nat)
  | commit
  | abort

namespace WorkspaceState

variable (state : WorkspaceState)

def canLock (name : LockName) (id : Nat) : Bool := (state.locks name).all (· = id)

def lock (name : LockName) (id : Nat) : WorkspaceState :=
  { state with locks := update state.locks name (some id) }

def keep (id : Nat) (tx : SnapshotTransaction) : WorkspaceState :=
  { state with transactions := update state.transactions id (some tx) }

def finish (id : Nat) : WorkspaceState :=
  { state with
    locks := fun name => (state.locks name).filter (· ≠ id)
    transactions := update state.transactions id none }

end WorkspaceState

section Steps

variable (env : Platform) (workspaceId : String) (state : WorkspaceState) (id : Nat)
  (tx : SnapshotTransaction)

def beginStep (clusterId : String) (delivery : Delivery) (lateLock : Bool) : WorkspaceState :=
  match readCut env workspaceId clusterId delivery with
  | none => state
  | some cut =>
    if state.canLock (.cluster clusterId) id then
      (state.lock (.cluster clusterId) id).keep id { clusterId, delivery, lateLock, cut }
    else
      state

/-- A second insert of a snapshot id waits for the first to end. -/
def readStep : WorkspaceState :=
  if tx.work.isNone
      && state.canLock (.snapshot tx.delivery.snapshotId) id then
    match tx.startWork env workspaceId state.store with
    | .ok work =>
      (state.lock (.snapshot tx.delivery.snapshotId) id).keep id
        { tx with work := some work }
    | .error _ => state.finish id
  else
    state

/-- The late-lock path compares before it draws its revision, the lock-first path after. -/
def compareStep : WorkspaceState :=
  match tx.work with
  | some (.accepted prepared) =>
    if tx.diff.isNone && tx.lateLock ≠ tx.revision.isSome then
      state.keep id { tx with
        diff := some (tx.compare env workspaceId prepared state.store)
        revision := tx.revision.map (tx.details.updated tx.delivery.bindings.complete) }
    else
      state
  | _ => state

def lockWorkspaceStep : WorkspaceState :=
  match tx.work with
  | some (.accepted _) =>
    if tx.lateLock = tx.diff.isSome && state.canLock .workspace id then
      state.lock .workspace id
    else
      state
  | _ => state

def allocateStep (skipped : Nat) : WorkspaceState :=
  if state.locks .workspace = some id && tx.revision.isNone
      && tx.lateLock = tx.diff.isSome then
    let revisionId := state.revisionSequence + skipped + 1
    let row := tx.revisionRow workspaceId revisionId
    { state.keep id { tx with
        revision := some (
          if tx.lateLock then
            tx.details.insertedLate tx.delivery.bindings.complete row
          else
            tx.details.insertedFirst row) } with
      revisionSequence := revisionId }
  else
    state

def writeStep (skipped : Nat) : WorkspaceState :=
  match tx.diff with
  | some diff =>
    if tx.revision.isSome && tx.firstId.isNone then
      let firstId := state.versionSequence + skipped + 1
      { state.keep id { tx with firstId := some firstId } with
        versionSequence := firstId + diff.desired.length }
    else
      state
  | none => state

def WorkspaceState.publish (store : InventoryStore) (revision : FilterRevision)
    : WorkspaceState :=
  { state.finish id with store, filterRevisions := state.filterRevisions ++ [revision] }

/-- The commit of an accepted cut, unless the correlation of its facts raises. -/
def commitAccepted (prepared : PreparedCut) (diff : ProjectionDiff) (revision : FilterRevision)
    (firstId : Nat)
    : WorkspaceState × List CommittedSave :=
  if tx.correlates env workspaceId prepared diff revision.revisionId firstId then
    (state.publish id
        (tx.published env workspaceId prepared diff revision.revisionId firstId state.store)
        revision,
      [{ clusterId := tx.clusterId
         delivery := tx.delivery
         numbers := some (revision.revisionId, firstId) }])
  else
    (state.finish id, [])

def commitStale (snapshot : SnapshotRow) : WorkspaceState × List CommittedSave :=
  ({ state.finish id with
      store := { state.store with snapshots := state.store.snapshots ++ [snapshot] } },
    [{ clusterId := tx.clusterId, delivery := tx.delivery, numbers := none }])

def commitStep : WorkspaceState × List CommittedSave :=
  match tx.work, tx.diff, tx.revision, tx.firstId with
  | some (.stale snapshot), _, _, _ => commitStale state id tx snapshot
  | some (.accepted prepared), some diff, some revision, some firstId =>
    commitAccepted env workspaceId state id tx prepared diff revision firstId
  | _, _, _, _ => (state, [])

def transactionStep : TransactionAction → WorkspaceState × List CommittedSave
  | .begin .. => (state, [])
  | .read => (readStep env workspaceId state id tx, [])
  | .compare => (compareStep env workspaceId state id tx, [])
  | .lockWorkspace => (lockWorkspaceStep state id tx, [])
  | .allocate skipped => (allocateStep workspaceId state id tx skipped, [])
  | .write skipped => (writeStep state id tx skipped, [])
  | .commit => commitStep env workspaceId state id tx
  | .abort => (state.finish id, [])

end Steps

def workspaceStep (workspaceId : String) (state : WorkspaceState) (taken : Nat × TransactionAction)
    : WorkspaceState × List CommittedSave :=
  match state.transactions taken.1, taken.2 with
  | some tx, action =>
    transactionStep env workspaceId state taken.1 tx action
  | none, .begin clusterId delivery lateLock =>
    (beginStep env workspaceId state taken.1 clusterId delivery lateLock, [])
  | none, _ => (state, [])

def workspaceMachine (workspaceId : String)
    : Machine WorkspaceState (Nat × TransactionAction) CommittedSave where
  step := workspaceStep env workspaceId

variable (env : Platform) (workspaceId : String) (state : WorkspaceState) (id : Nat) in
inductive WorkspaceMoves : WorkspaceState × List CommittedSave → Prop where
  | waits : WorkspaceMoves (state, [])
  | begins {clusterId : String} {delivery : Delivery} {lateLock : Bool} {cut : SnapshotCut}
      (idle : state.transactions id = none)
      (read : readCut env workspaceId clusterId delivery = some cut)
      (free : state.canLock (.cluster clusterId) id = true)
      : WorkspaceMoves
          ((state.lock (.cluster clusterId) id).keep id { clusterId, delivery, lateLock, cut }, [])
  | reads {tx : SnapshotTransaction} {work : SnapshotWork}
      (opened : state.transactions id = some tx) (unread : tx.work = none)
      (free : state.canLock (.snapshot tx.delivery.snapshotId) id = true)
      (started : tx.startWork env workspaceId state.store = .ok work)
      : WorkspaceMoves
          ((state.lock (.snapshot tx.delivery.snapshotId) id).keep id
            { tx with work := some work }, [])
  | compares {tx : SnapshotTransaction} {prepared : PreparedCut}
      (opened : state.transactions id = some tx)
      (work : tx.work = some (.accepted prepared)) (undone : tx.diff = none)
      : WorkspaceMoves (state.keep id { tx with
            diff := some (tx.compare env workspaceId prepared state.store)
            revision := tx.revision.map (tx.details.updated tx.delivery.bindings.complete) }, [])
  | locks {tx : SnapshotTransaction}
      (opened : state.transactions id = some tx)
      (free : state.canLock .workspace id = true)
      : WorkspaceMoves (state.lock .workspace id, [])
  | allocates {tx : SnapshotTransaction} (skipped : Nat)
      (opened : state.transactions id = some tx)
      (held : state.locks .workspace = some id) (unnumbered : tx.revision = none)
      (turn : tx.lateLock = tx.diff.isSome)
      : WorkspaceMoves
          (allocateStep workspaceId state id tx skipped, [])
  | writes {tx : SnapshotTransaction} {diff : ProjectionDiff}
      {revision : FilterRevision} (skipped : Nat)
      (opened : state.transactions id = some tx)
      (compared : tx.diff = some diff)
      (numbered : tx.revision = some revision) (unwritten : tx.firstId = none)
      : WorkspaceMoves (writeStep state id tx skipped, [])
  | ends {tx : SnapshotTransaction}
      (opened : state.transactions id = some tx)
      : WorkspaceMoves (state.finish id, [])
  | commitsStale {tx : SnapshotTransaction} {snapshot : SnapshotRow}
      (opened : state.transactions id = some tx)
      (work : tx.work = some (.stale snapshot))
      : WorkspaceMoves (commitStale state id tx snapshot)
  | commitsAccepted {tx : SnapshotTransaction} {prepared : PreparedCut}
      {diff : ProjectionDiff} {revision : FilterRevision} {firstId : Nat}
      (opened : state.transactions id = some tx)
      (work : tx.work = some (.accepted prepared))
      (compared : tx.diff = some diff)
      (numbered : tx.revision = some revision)
      (written : tx.firstId = some firstId)
      (correlates
        : tx.correlates env workspaceId prepared diff revision.revisionId firstId
          = true)
      : WorkspaceMoves (state.publish id
            (tx.published env workspaceId prepared diff revision.revisionId firstId
              state.store) revision,
            [{ clusterId := tx.clusterId
               delivery := tx.delivery
               numbers := some (revision.revisionId, firstId) }])

variable {env : Platform} {workspaceId : String} {state : WorkspaceState} {id : Nat}
  {tx : SnapshotTransaction}

/-- Drawing numbers changes no table. -/
theorem allocateStep_store (skipped : Nat)
    : (allocateStep workspaceId state id tx skipped).store = state.store := by
  unfold allocateStep
  split <;> rfl

theorem writeStep_store (skipped : Nat) : (writeStep state id tx skipped).store = state.store := by
  unfold writeStep
  split
  · split <;> rfl
  · rfl

theorem commitStep_moves (opened : state.transactions id = some tx)
    : WorkspaceMoves env workspaceId state id
        (commitStep env workspaceId state id tx) := by
  unfold commitStep
  split
  next snapshot _ _ _ work => exact .commitsStale opened work
  next prepared diff revision firstId work compared numbered written =>
    unfold commitAccepted
    split
    next correlates =>
      exact .commitsAccepted opened work compared numbered written correlates
    · exact .ends opened
  · exact .waits

theorem transactionStep_moves (opened : state.transactions id = some tx)
    (action : TransactionAction)
    : WorkspaceMoves env workspaceId state id
        (transactionStep env workspaceId state id tx action) := by
  cases action with
  | begin clusterId delivery lateLock => exact .waits
  | read =>
    simp only [transactionStep, readStep]
    split
    next guard =>
      obtain ⟨unread, free⟩ := Bool.and_eq_true_iff.mp guard
      split
      next work started =>
        exact .reads opened (Option.isNone_iff_eq_none.mp unread) free started
      · exact .ends opened
    · exact .waits
  | compare =>
    simp only [transactionStep, compareStep]
    split
    next prepared work =>
      split
      next guard =>
        obtain ⟨undone, _⟩ := Bool.and_eq_true_iff.mp guard
        exact .compares opened work (Option.isNone_iff_eq_none.mp undone)
      · exact .waits
    · exact .waits
  | lockWorkspace =>
    simp only [transactionStep, lockWorkspaceStep]
    split
    · split
      next guard => exact .locks opened (Bool.and_eq_true_iff.mp guard).2
      · exact .waits
    · exact .waits
  | allocate skipped =>
    by_cases guard : (state.locks .workspace = some id && tx.revision.isNone
        && tx.lateLock = tx.diff.isSome) = true
    · obtain ⟨⟨held, unnumbered⟩, turn⟩ := by
        simpa only [Bool.and_eq_true, decide_eq_true_eq, Option.isNone_iff_eq_none] using guard
      exact .allocates skipped opened held unnumbered turn
    · have stays : allocateStep workspaceId state id tx skipped = state := if_neg guard
      rw [transactionStep, stays]
      exact .waits
  | write skipped =>
    cases compared : tx.diff with
    | none =>
      have stays : writeStep state id tx skipped = state := by
        simp only [writeStep, compared]
      rw [transactionStep, stays]
      exact .waits
    | some diff =>
      by_cases guard : (tx.revision.isSome && tx.firstId.isNone) = true
      · obtain ⟨numbered, unwritten⟩ := Bool.and_eq_true_iff.mp guard
        obtain ⟨revision, numbered⟩ := Option.isSome_iff_exists.mp numbered
        exact .writes skipped opened compared numbered (Option.isNone_iff_eq_none.mp unwritten)
      · have stays : writeStep state id tx skipped = state := by
          simp only [writeStep, compared, if_neg guard]
        rw [transactionStep, stays]
        exact .waits
  | commit => exact commitStep_moves opened
  | abort => exact .ends opened

theorem workspaceStep_moves (env : Platform) (workspaceId : String)
    (state : WorkspaceState) (taken : Nat × TransactionAction)
    : WorkspaceMoves env workspaceId state taken.1
        ((workspaceMachine env workspaceId).step state taken) := by
  change WorkspaceMoves env workspaceId state taken.1
    (workspaceStep env workspaceId state taken)
  unfold workspaceStep
  split
  next tx action opened => exact transactionStep_moves opened _
  next clusterId delivery lateLock idle _ =>
    unfold beginStep
    split
    · exact .waits
    next cut read =>
      split
      next free => exact .begins idle read free
      · exact .waits
  · exact .waits

end K8sClue.Inventory
