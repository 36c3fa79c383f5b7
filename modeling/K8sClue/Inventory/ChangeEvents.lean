import K8sClue.Inventory.DeletionScopes
import K8sClue.Inventory.EventFacts
import Mathlib

/-! The Timeline facts that one snapshot establishes about the inventory.
Resources of the snapshot are compared with the rows that were live before it; what is missing
counts as deleted only where the snapshot proves it.
-/

namespace K8sClue.Inventory

open Python Timeline Library

inductive InventoryTimelineChange where
  | add
  | update
  | delete
  deriving DecidableEq

namespace InventoryTimelineChange

def name : InventoryTimelineChange → String
  | .add => "add"
  | .update => "update"
  | .delete => "delete"

def verb : InventoryTimelineChange → String
  | .add => "added"
  | .update => "updated"
  | .delete => "deleted"

def eventType : InventoryTimelineChange → TimelineEventType
  | .add => .add
  | .update => .update
  | .delete => .delete

end InventoryTimelineChange

def withoutCollectedAt (summary : PyDict) : PyDict :=
  summary.filter fun entry => !entry.1.eq (.str "collected_at")

def InventoryResource.semanticFields (resource : InventoryResource) : List (String × PyValue) :=
  let text := fun (value : String) => PyValue.scalar (.str value)
  [("resource_type", text resource.resourceType), ("api_version", text resource.apiVersion),
    ("kind", text resource.kind), ("namespace", columnValue resource.inNamespace),
    ("name", text resource.name), ("uid", resource.uid),
    ("resource_version", resource.resourceVersion), ("status", text resource.status),
    ("health", text resource.health), ("labels", .dict resource.labels),
    ("annotations", .dict resource.annotations),
    ("summary", .dict (withoutCollectedAt resource.summary)), ("raw", .dict resource.raw)]

def inventoryResourceChanged (previous current : InventoryResource) : Bool :=
  (previous.semanticFields.zip current.semanticFields).any fun (before, now) =>
    !before.2.eq now.2

structure InventoryChange where
  change : InventoryTimelineChange
  resource : InventoryResource
  firstObservation : Bool := false

variable (rows : List InventoryResource)

def sortedByKey : List InventoryResource :=
  rows.insertionSort fun left right => left.inventoryKey ≤ right.inventoryKey

def timelineRows : List InventoryResource :=
  Keyed.latest (·.inventoryKey) (rows.filter (·.timelineEligible))

def observedChange (resourcesComplete : Bool) (previous : List InventoryResource)
    (current : InventoryResource)
    : Option InventoryChange :=
  match Keyed.find (·.inventoryKey) previous current.inventoryKey with
  | none =>
    some { change := .add, resource := current, firstObservation := !resourcesComplete }
  | some before =>
    if inventoryResourceChanged before current then
      some { change := .update, resource := current }
    else
      none

def inventoryChanges (resourcesComplete : Bool) (deleteScopes : List InventoryDeleteScope)
    (previousRows currentRows : List InventoryResource)
    : List InventoryChange :=
  let previous := timelineRows previousRows
  let current := timelineRows currentRows
  let missing := sortedByKey (previous.filter fun row =>
    (Keyed.find (·.inventoryKey) current row.inventoryKey).isNone)
  (sortedByKey current).filterMap (observedChange resourcesComplete previous)
  ++ (missing.filter fun row =>
      resourcesComplete || rowInDeletionScopes row.resourceType row.inNamespace deleteScopes).map
    fun row => { change := .delete, resource := row }

def inventoryTimelineSourceKey (env : Platform) (change : InventoryTimelineChange)
    (resource : InventoryResource)
    : String :=
  "inventory:" ++ change.name ++ ":" ++ resource.inventoryKey ++ ":"
    ++ env.sha256 (env.factsJson resource.semanticFields)

def firstObservationBasis : String := "first_observed"

/-- `inventory_change_timeline_event`; `none` is a `ValidationError`. -/
def inventoryChangeTimelineEvent (env : Platform) (workspaceId clusterId : String)
    (observedAt : Int) (item : InventoryChange)
    : Option TimelineEvent :=
  if nonempty : workspaceId ≠ "" ∧ clusterId ≠ "" then
    let row := item.resource
    let sourceKey := inventoryTimelineSourceKey env item.change row
    let kind :=
      if row.kind ≠ "" then row.kind
      else if row.resourceType ≠ "" then row.resourceType
      else "Resource"
    let name := if row.name ≠ "" then row.name else row.inventoryKey
    let (apiGroup, version) := splitApiVersion (strip row.apiVersion)
    let uid := strip ((env.python.optionalStr row.uid).getD "")
    let resource : Option ResourceRef :=
      if uid = "" then
        none
      else
        some { apiGroup, version, kind, inNamespace := row.inNamespace, name, uid }
    let subject : TimelineSubject :=
      match resource with
      | some known => .resource known
      | none =>
        .inventoryLocator row.inventoryKey apiGroup version kind row.inNamespace name
    validated {
      eventId := sourceKey
      source := .inventory
      sourceKey
      nativeId := row.inventoryKey
      activity := .change
      occurredAt := .aware observedAt
      scope := .whole workspaceId clusterId nonempty
      subject, resource
      eventType := item.change.eventType
      severity := .info
      title := kind ++ " " ++ name ++ " "
        ++ (if item.firstObservation then "first observed" else item.change.verb)
      metadata :=
        if item.firstObservation then
          [(.str "observation_basis", .scalar (.str firstObservationBasis))]
        else
          [] }
  else
    none

structure ProjectionMutation where
  revisionId : Nat
  versionIds : List (String × Nat)

def ProjectionMutation.versionId (projection : ProjectionMutation) (key : String) : Option Nat :=
  (Keyed.find Prod.fst projection.versionIds key).map Prod.snd

inductive SaveError where
  | malformedPayload
  | refusedValue
  | duplicateSnapshot
  | invalidEvent
  | invalidProjection
  | invalidCorrelation
  | correlationUnavailable
  deriving DecidableEq

def correlated (snapshotId : String) (revisionId versionId : Nat) (event : TimelineEvent)
    : TimelineEvent :=
  let sourceKey := event.sourceKey ++ ":snapshot:" ++ snapshotId ++ ":revision:"
    ++ toString revisionId ++ ":version:" ++ toString versionId
  { event with
    eventId := sourceKey
    sourceKey
    metadata := setItem (setItem (setItem event.metadata
        (.str "source_snapshot_id") (.scalar (.str snapshotId)))
        (.str "revision_id") (.scalar (.int revisionId)))
        (.str "version_id") (.scalar (.int versionId)) }

def correlateEvent (snapshotId : String) (projection : ProjectionMutation) (event : TimelineEvent)
    : Except SaveError TimelineEvent :=
  if event.source = .inventory then
    match projection.versionId event.nativeId with
    | some (versionId + 1) =>
      .ok (correlated snapshotId projection.revisionId (versionId + 1) event)
    | _ => .error .correlationUnavailable
  else
    .ok event

def correlateInventoryTimelineEvents (events : List TimelineEvent) (sourceSnapshotId : String)
    (projection : ProjectionMutation)
    : Except SaveError (List TimelineEvent) :=
  let snapshotId := strip sourceSnapshotId
  if snapshotId = "" ∨ projection.revisionId < 1 then
    .error .invalidCorrelation
  else
    events.mapM (correlateEvent snapshotId projection)

end K8sClue.Inventory
