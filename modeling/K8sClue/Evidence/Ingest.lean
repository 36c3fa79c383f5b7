import K8sClue.Evidence.Snapshots
import K8sClue.Inventory.Snapshots

/-! Kubernetes evidence as an inventory snapshot.
The evidence is a scoped collection and never the truth about a fleet: it replaces nothing, and
it proves an absence only in a namespace whose Pod list the agent proved complete.
-/

namespace K8sClue.Evidence

open Python Inventory Library

def podSummaryFields : List String :=
  ["phase", "reason", "restart_total", "owner_kind", "owner_name", "owner_uid"]

def workloadSummaryFields : List String :=
  ["generation", "desired_replicas", "ready_replicas", "available_replicas", "updated_replicas",
    "unavailable_replicas", "owner_kind", "owner_name"]

def evidenceSnapshotSource : String := "agent-evidence"

def invalidProofReason : String := "invalid_proof"

def proofFlags : List String := ["observed", "complete", "delete_safe", "truncated"]

def identified : PyValue → List PyDict
  | .list values => (dictRows values).filter fun item => isNonemptyText (item.get "name")
  | _ => []

def uidOf (item : PyDict) : PyValue :=
  match item.get "uid" with
  | .scalar (.str uid) => if strip uid = "" then .scalar .none else .scalar (.str (strip uid))
  | _ => .scalar .none

variable (py : Runtime)

def resourceOf (item : PyDict) (resourceType apiVersion kind : String)
    (status : PyValue) (fields : List String)
    : PyDict := [
  (.str "resource_type", .scalar (.str resourceType)),
  (.str "api_version", .scalar (.str apiVersion)),
  (.str "kind", .scalar (.str kind)),
  (.str "namespace", item.get "namespace"),
  (.str "name", item.get "name"),
  (.str "uid", uidOf item),
  (.str "resource_version", item.get "resource_version"),
  (.str "status", .scalar (.str (py.strOr status "unknown"))),
  (.str "summary", .dict ((fields.filter fun field => !isNone (item.get field)).map fun field =>
    (.str field, item.get field)))]

def podResources (value : PyValue) : List PyDict :=
  (identified value).map fun item =>
    resourceOf py item "pod" "v1" "Pod" (item.get "phase") podSummaryFields

def workloadResources (value : PyValue) : List PyDict :=
  (identified value).map fun item =>
    resourceOf py item "workload" (py.strOr (item.get "api_version") "apps/v1")
      (py.strOr (item.get "kind") "Workload") (.scalar .none) workloadSummaryFields

variable (entry : PyValue)

def isWellTyped : Bool :=
  (proofFlags.all fun key => (entry.get key).isBool true || (entry.get key).isBool false)
    && (textItems (entry.get "reason_codes")).isSome
    && isOptionalText (entry.get "label_selector")

def grantsDeletion : Bool :=
  (entry.get "observed").truthy && (entry.get "complete").truthy
    && (entry.get "delete_safe").truthy && !(entry.get "truncated").truthy
    && !(entry.get "reason_codes").truthy && !(entry.get "label_selector").truthy

variable (inNamespace : String)

def proofOf (observed complete truncated : Bool) (reasons : List String) (labelSelector : PyValue)
    : PodCoverage where
  inNamespace := inNamespace
  observed := observed
  complete := complete
  deleteSafe := complete
  truncated := truncated
  labelSelector :=
    match labelSelector with
    | .scalar (.str selector) => some selector |>.filter (· ≠ "")
    | _ => none
  reasonCodes := reasons

def unauthorizedEntry : PodCoverage :=
  let named :=
    if isWellTyped entry then sortedSet ((textItems (entry.get "reason_codes")).getD []) else []
  proofOf inNamespace ((entry.get "observed").isBool true) false
    (!(entry.get "truncated").isBool false)
    (if named.isEmpty then [invalidProofReason] else named) (entry.get "label_selector")

def proofEntry : PodCoverage :=
  if isWellTyped entry && grantsDeletion entry then
    proofOf inNamespace true true false [] (.scalar .none)
  else
    unauthorizedEntry entry inNamespace

variable (kubernetes : PyDict)

def podListLimited : Bool :=
  match lookup kubernetes (.str "collection_limits") with
  | none => false
  | some limits =>
    match limits.get "truncated", limits.get "lists" with
    | .scalar (.bool truncated), .dict lists =>
      truncated != !lists.isEmpty || (lookup lists (.str podCollection)).isSome
    | _, _ => true

def entryNamespace : Option String :=
  if isDict entry && (entry.get "collection").isText podCollection
      && (entry.get "scope").isText "namespace" then
    match entry.get "namespace" with
    | .scalar (.str inNamespace) => some inNamespace |>.filter (· ≠ "")
    | _ => none
  else
    none

def podCoverage : List PodCoverage :=
  match kubernetes.get collectionCoverageSummaryKey with
  | .list entries =>
    if podListLimited kubernetes then
      []
    else
      entries.filterMap fun entry => (entryNamespace entry).map (proofEntry entry)
  | _ => []

def scopeEntries : PyValue → PyDict
  | .list scopes => [(.str "collection_scopes", .list (scopes.filter isDict))]
  | _ => []

def statusEntries : PyValue → PyDict
  | .dict status => [(.str "collection_status", .dict status)]
  | _ => []

def coverageEntries (coverage : List PodCoverage) : PyDict :=
  if coverage.isEmpty then
    []
  else
    [(.str collectionCoverageSummaryKey, .list (coverage.map (·.toPy))),
      (.str scopedCoverageAuthorityKey, .scalar (.bool true))]

def captureEntries : PyValue → PyDict
  | .dict capture => [
      (.str eventCaptureSummaryKey, .dict (capture.filter fun entry => entry.1 ≠ .str "events")),
      (.str eventFactsSummaryKey,
        match PyDict.get capture "events" with | .list facts => .list facts | _ => .list [])]
  | _ => []

def summaryOf : PyDict :=
  [(.str "live_inventory", .scalar (.bool false)),
    (.str "resources_complete", .scalar (.bool false)),
    (.str "labels_complete", .scalar (.bool false))]
  ++ scopeEntries (kubernetes.get "collection_scopes")
  ++ statusEntries (kubernetes.get "collection_status")
  ++ coverageEntries (podCoverage kubernetes)
  ++ captureEntries (kubernetes.get "event_capture")

def evidenceInventoryPayload (iso : IsoFormat) (kubernetes : PyValue) : Option PyValue :=
  match kubernetes with
  | .dict entries => do
      let observed ← parseTimestamp iso ((PyDict.get entries "cluster").get "collected_at")
      let resources := podResources py (PyDict.get entries "pods")
        ++ workloadResources py (PyDict.get entries "workloads")
      let summary := summaryOf entries
      if resources.isEmpty && isNone (summary.get eventCaptureSummaryKey)
          && !(summary.get collectionCoverageSummaryKey).truthy then
        none
      else
        some (.dict [
          (.str "collected_at", .scalar (.str (iso.write observed))),
          (.str "source", .scalar (.str evidenceSnapshotSource)),
          (.str "replace", .scalar (.bool false)),
          (.str "resources", .list (resources.map .dict)),
          (.str "summary", .dict summary)])
  | _ => none

end K8sClue.Evidence
