import K8sClue.Inventory.Versions

/-! Saving an inventory snapshot.
One transaction writes the snapshot, upserts its resources, marks what is missing as deleted,
advances the temporal projection and returns the Timeline facts; a failed one writes nothing.
-/

namespace K8sClue.Inventory

open Python Timeline Library

def scopedCoverageAuthorityKey : String := "scoped_coverage_authority"

def completeCutProofKey : String := "timeline_proof"

/-- A payload with what the surroundings add to it: the new snapshot id, the clock, the
application bindings, and how far other transactions moved the two sequences.
-/
structure Delivery where
  payload : PyValue
  snapshotId : String
  now : Int
  bindings : ApplicationBindings
  skippedRevisions : Nat := 0
  skippedVersions : Nat := 0

structure UsageSampleRow where
  (snapshotId workspaceId clusterId : String)
  sampledAt : Int
  usage : PyDict

structure InventoryStore where
  snapshots : List SnapshotRow := []
  resources : List ResourceRow := []
  usageSamples : List UsageSampleRow := []
  versions : List VersionRow := []
  revisions : List RevisionRow := []
  lastRevision : Nat := 0
  lastVersion : Nat := 0

structure SnapshotCut where
  observedAt : Int
  resources : List InventoryResource
  (summary usage : PyDict)
  status : String
  batch : KubernetesEventFactBatch
  resourcesComplete : Bool
  deleteScopes : List InventoryDeleteScope

structure SnapshotMutation where
  accepted : Bool
  (snapshotId clusterId : String)
  (resourceCount markedDeleted : Nat)
  resourceTypes : List String
  timelineEvents : List TimelineEvent := []

/-- `parse_observed_at`; `none` is the `TypeError` of a value that is no text. -/
def parseObservedAt (iso : IsoFormat) (now : Int) (value : PyValue) : Option Int :=
  if value.truthy then
    match value with
    | .scalar (.str text) => some (((iso.parse text).map utcMoment).getD now)
    | _ => none
  else
    some now

/-- The cut kind: whether the whole inventory was replaced by an untruncated source. -/
def resourcesCompleteOf (payload : PyValue) (sourceSummary : PyDict) : Bool :=
  let truncated := ((sourceSummary.get "collection_limits").get "truncated").isBool true
  (payload.get "replace").truthy && (sourceSummary.get "resources_complete").isBool true
    && !truncated

/-- The scopes of a snapshot; a scoped evidence snapshot keeps the authority it proves. -/
def deleteScopesOf (python : Runtime) (sourceSummary : PyDict) : List InventoryDeleteScope :=
  inventoryDeletionScopes python (.dict
    (if (sourceSummary.get scopedCoverageAuthorityKey).isBool true then
      setItem sourceSummary (.str "live_inventory") (.scalar (.bool true))
    else
      sourceSummary))

variable (env : Platform) (workspaceId clusterId : String)

/-- The part of `save_inventory_snapshot_mutation` before its transaction. -/
def readCut (delivery : Delivery) : Option SnapshotCut := do
  let payload := delivery.payload
  let observedAt ← parseObservedAt env.iso delivery.now (payload.get "collected_at")
  let entries ← env.snapshotResources payload
  let resources ← entries.mapM
    (env.normalizeInventoryResource workspaceId clusterId delivery.snapshotId)
  let sourceSummary ← dictOrEmpty (payload.get "summary")
  let health ← dictOrEmpty (payload.get "health")
  let usage ← dictOrEmpty (payload.get "usage")
  let resourcesComplete := resourcesCompleteOf payload sourceSummary
  return {
    observedAt
    resources := dedupeInventoryRows resources
    summary := [
      (.str "summary", .dict sourceSummary), (.str "health", .dict health),
      (.str "usage", .dict usage),
      (.str completeCutProofKey,
        .dict [(.str "resources_complete", .scalar (.bool resourcesComplete))])]
    usage
    status := env.python.strOr (payload.get "status") "accepted"
    batch := KubernetesEventFactBatch.fromSnapshotSummary env.python env.iso
      (.dict sourceSummary)
    resourcesComplete
    deleteScopes := deleteScopesOf env.python sourceSummary }

def storeEventCapture (capture : KubernetesEventCapture) : Option PyValue :=
  match capture.projection env.iso with
  | .dict entries => (env.jsonb entries).map PyValue.dict
  | missing => some missing

def storeSnapshot (delivery : Delivery) (cut : SnapshotCut) (status : String)
    : Option SnapshotRow := do
  let summary ← env.jsonb cut.summary
  let eventCapture ← storeEventCapture env cut.batch.capture
  return {
    snapshotId := delivery.snapshotId
    workspaceId, clusterId, status
    collectedAt := cut.observedAt
    eventCaptureObservedAt := cut.batch.capture.observedAt
    eventCapture
    summary := .dict summary
    createdAt := delivery.now }

def storeUsage (delivery : Delivery) (cut : SnapshotCut) : Option (List UsageSampleRow) := do
  if cut.usage.isEmpty then
    return []
  let usage ← env.jsonb cut.usage
  return [{
    snapshotId := delivery.snapshotId
    workspaceId, clusterId
    sampledAt := cut.observedAt
    usage }]

namespace InventoryStore

variable (store : InventoryStore) (workspaceId clusterId : String)

def isStale (observedAt : Int) : Bool :=
  store.snapshots.any fun row =>
    row.workspaceId = workspaceId ∧ row.clusterId = clusterId ∧ observedAt < row.collectedAt

def liveRows : List ResourceRow :=
  store.resources.filter fun row =>
    row.workspaceId = workspaceId ∧ row.clusterId = clusterId ∧ row.deleted = false

def insertSnapshot (row : SnapshotRow) : Except SaveError (List SnapshotRow) :=
  if store.snapshots.any (·.snapshotId = row.snapshotId) then
    .error .duplicateSnapshot
  else
    .ok (store.snapshots ++ [row])

end InventoryStore

/-- A missing result is the given error. -/
def orError {α : Type} (error : SaveError) : Option α → Except SaveError α
  | some value => .ok value
  | none => .error error

/-- `missing_inventory_keys`: the keys whose absence the cut proves. -/
def missingInventoryKeys (cut : SnapshotCut) (previous current : List InventoryResource)
    : List String :=
  let candidates := previous.filter fun row =>
    cut.resourcesComplete || rowInDeletionScopes row.resourceType row.inNamespace cut.deleteScopes
  (candidates.map (·.inventoryKey)).filter fun key =>
    (Keyed.find (·.inventoryKey) current key).isNone

variable (workspaceId clusterId snapshotId : String)

/-- The row is one that the update marks as deleted. -/
def markedDeleted (cut : SnapshotCut) (missing : List String) (row : ResourceRow) : Bool :=
  row.workspaceId = workspaceId && row.clusterId = clusterId && row.snapshotId ≠ snapshotId
    && row.inventoryKey ∈ missing && !row.deleted
    && (cut.resourcesComplete
      || deleteScopePredicate row.resourceType row.inNamespace cut.deleteScopes)

def markDeleted (cut : SnapshotCut) (missing : List String) (resources : List ResourceRow)
    : List ResourceRow :=
  if (cut.resourcesComplete || !cut.deleteScopes.isEmpty) && !missing.isEmpty then
    resources.map fun row =>
      if markedDeleted workspaceId clusterId snapshotId cut missing row then
        { row with deleted := true }
      else
        row
  else
    resources

/-- `inventory_timeline_events`; `none` is a `ValidationError`. -/
def inventoryTimelineEvents
    (cut : SnapshotCut) (previous current : List InventoryResource)
    (previousBatch : Option KubernetesEventFactBatch)
    : Option (List TimelineEvent) := do
  let changes ← (inventoryChanges cut.resourcesComplete cut.deleteScopes previous current).mapM
    (inventoryChangeTimelineEvent env workspaceId clusterId cut.observedAt)
  let facts ← kubernetesEventFactTimelineEvents env workspaceId clusterId cut.observedAt
    previousBatch cut.batch
  return changes ++ facts

variable (store : InventoryStore) (workspaceId clusterId : String)

def InventoryStore.previousRows : List InventoryResource :=
  (store.liveRows workspaceId clusterId).map (·.toInventoryResource)

def InventoryStore.previousBatch (cut : SnapshotCut) : Option KubernetesEventFactBatch :=
  if cut.batch.capture.authoritative then
    latestCompleteKubernetesEventBatch env store.snapshots workspaceId clusterId
  else
    none

def SnapshotCut.projected (cut : SnapshotCut) (workspaceId clusterId : String) (delivery : Delivery)
    : ProjectedCut where
  workspaceId := workspaceId
  clusterId := clusterId
  snapshotId := delivery.snapshotId
  resourcesComplete := cut.resourcesComplete
  deletionScopes := cut.deleteScopes
  bindings := delivery.bindings

def acceptCut
    (delivery : Delivery) (cut : SnapshotCut)
    : Except SaveError (InventoryStore × SnapshotMutation) := do
  let snapshotId := delivery.snapshotId
  let previous := store.previousRows workspaceId clusterId
  let current := preserveExistingInventoryKeys cut.resources previous
  let events ← orError .invalidEvent
    (inventoryTimelineEvents env workspaceId clusterId cut previous current
      (store.previousBatch env workspaceId clusterId cut))
  let missing := missingInventoryKeys cut previous current
  let snapshot ← orError .refusedValue
    (storeSnapshot env workspaceId clusterId delivery cut cut.status)
  let snapshots ← store.insertSnapshot snapshot
  let rows ← orError .refusedValue (current.mapM env.storeResource)
  let samples ← orError .refusedValue (storeUsage env workspaceId clusterId delivery cut)
  let upserted := Keyed.putAll (·.inventoryKey) ResourceRow.updated store.resources rows
  let resources := markDeleted workspaceId clusterId snapshotId cut missing upserted
  let projected := cut.projected workspaceId clusterId delivery
  let revisionId := store.lastRevision + delivery.skippedRevisions + 1
  let firstId := store.lastVersion + delivery.skippedVersions + 1
  let diff := computeProjectionDiff env projected resources store.versions
  let written := writeProjectionVersions env projected revisionId firstId diff store.versions
  let projection ← orError .invalidProjection (some written.2 |>.filter (·.wellFormed))
  let timelineEvents ← correlateInventoryTimelineEvents events snapshotId projection
  return ({
      snapshots, resources
      usageSamples := store.usageSamples ++ samples
      versions := written.1
      revisions := store.revisions ++ [{ revisionId, snapshotId, workspaceId, clusterId }]
      lastRevision := revisionId
      lastVersion := firstId + diff.desired.length
    }, {
      accepted := true
      snapshotId, clusterId
      resourceCount := current.length
      markedDeleted := upserted.countP (markedDeleted workspaceId clusterId snapshotId cut missing)
      resourceTypes := (fromKeys (cut.resources.map (·.resourceType))).insertionSort (· ≤ ·)
      timelineEvents })

/-- `save_inventory_snapshot_mutation`; a stale cut is only recorded. -/
def saveInventorySnapshotMutation (delivery : Delivery)
    : Except SaveError (InventoryStore × SnapshotMutation) := do
  let cut ← orError .malformedPayload (readCut env workspaceId clusterId delivery)
  if store.isStale workspaceId clusterId cut.observedAt then
    let snapshot ← orError .refusedValue
      (storeSnapshot env workspaceId clusterId delivery cut ignoredStale)
    let snapshots ← store.insertSnapshot snapshot
    return ({ store with snapshots }, {
      accepted := false
      snapshotId := delivery.snapshotId
      clusterId
      resourceCount := cut.resources.length
      markedDeleted := 0
      resourceTypes := (fromKeys (cut.resources.map (·.resourceType))).insertionSort (· ≤ ·) })
  else
    acceptCut env store workspaceId clusterId delivery cut

end K8sClue.Inventory
