import K8sClue.Evidence.PodCoverage
import Mathlib.Algebra.Ring.Nat

/-! Kubernetes evidence as the agent sends it.
The answers of all namespace queries are normalized, merged into one snapshot, and limited in the
number of items and in size. Whatever removes a Pod from the snapshot withdraws all proofs about
Pods.
-/

namespace K8sClue.Evidence

open Python Inventory Library

inductive SnapshotList where
  | pods
  | events
  | nodes
  | workloads
  | workloadRevisions
  | services
  | endpoints
  | ingresses
  | resourceQuotas
  | customResources
  deriving DecidableEq

namespace SnapshotList

def all : List SnapshotList := [
  .pods, .events, .nodes, .workloads, .workloadRevisions, .services, .endpoints, .ingresses,
  .resourceQuotas, .customResources]

def key : SnapshotList → String
  | .pods => podCollection
  | .events => "events"
  | .nodes => "nodes"
  | .workloads => "workloads"
  | .workloadRevisions => "workload_revisions"
  | .services => "services"
  | .endpoints => "endpoints"
  | .ingresses => "ingresses"
  | .resourceQuotas => "resourcequotas"
  | .customResources => "custom_resources"

def maxItems : SnapshotList → Nat
  | .pods => 500
  | .events => 200
  | .nodes => 100
  | .workloads => 500
  | .workloadRevisions => 500
  | .services => 300
  | .endpoints => 300
  | .ingresses => 300
  | .resourceQuotas => 200
  | .customResources => 1000

def namespaced : SnapshotList → Bool
  | .nodes => false
  | _ => true

end SnapshotList

structure CollectionLimit where
  (originalCount returnedCount : Nat)
  deriving DecidableEq

/-- A snapshot, without what the ingest does not read: the provider, the API discovery, the
dynamic collections, the resource access and the status of each query.
-/
structure KubernetesSnapshot where
  cluster : PyDict
  collectionScopes : List PyValue := []
  collectionCoverage : List PodCoverage := []
  collectionStatus : Option PyDict := none
  eventCapture : PyValue
  lists : SnapshotList → List PyValue := fun _ => []
  limits : List (SnapshotList × CollectionLimit) := []

structure KubernetesSnapshotQuery where
  inNamespace : String
  labelSelector : Option String := none

/-- What the agent takes from its surroundings. The summaries of single resources are left
open, but for the identity of Pods.
-/
structure Agent where
  python : Runtime
  clusterId : String
  /-- `datetime.now(UTC).isoformat()` -/
  now : String
  freshnessSeconds : Int
  /-- the further fields of `pod_summary`, or its error -/
  podDetails : (payload : PyDict) → (item : PyDict) → Option PyDict
  /-- the summaries of a list other than that of Pods, or their error -/
  summaries : SnapshotList → PyDict → Option String → Option (List PyValue)
  /-- `collection_statuses_from_sources` -/
  collectionStatuses : PyDict → Option PyDict
  /-- `payload_size_bytes` of a snapshot and of a list -/
  snapshotBytes : KubernetesSnapshot → Nat
  listBytes : List PyValue → Nat

def targetNamespace : String := "target"

def eventCaptureReasonNotRequested : String := "not_requested"

def Agent.eventCaptureFailure (agent : Agent) (reason : String) : PyValue := .dict [
  (.str "complete", .scalar (.bool false)), (.str "truncated", .scalar (.bool false)),
  (.str "reason", .scalar (.str reason)),
  (.str "freshness", .dict [(.str "observed_at", .scalar (.str agent.now)),
    (.str "max_age_seconds", .scalar (.int agent.freshnessSeconds))]),
  (.str "coverage", .dict [(.str "scope", .scalar (.str "all_namespaces")),
    (.str "pagination", .scalar (.str "continue")), (.str "page_count", .scalar (.int 0)),
    (.str "event_count", .scalar (.int 0)), (.str "gap", .scalar (.str reason))]),
  (.str "events", .list [])]

def Agent.emptySnapshot (agent : Agent) : KubernetesSnapshot where
  cluster := [(.str "cluster_id", .scalar (.str agent.clusterId))]
  eventCapture := agent.eventCaptureFailure eventCaptureReasonNotRequested

def resourceLabels (item : PyDict) : PyDict := ((metadata item).get "labels").mapping

def partitionEquals (text : String) : Option (String × String) :=
  match text.toList.dropWhile (· ≠ '=') with
  | [] => none
  | _ :: value =>
    some (String.ofList (text.toList.takeWhile (· ≠ '=')), String.ofList value)

def scopedItems (payload : PyValue) (labelSelector : Option String) : List PyDict :=
  match labelSelector.filter (· ≠ "") with
  | none => items payload
  | some selector =>
    match partitionEquals selector with
    | none => []
    | some (key, value) =>
      (items payload).filter fun row => ((resourceLabels row).get key).isText value

def Agent.podSummary (agent : Agent) (payload item : PyDict) : Option PyValue := do
  let details ← agent.podDetails payload item
  let itemMeta := metadata item
  return .dict ([
    (.str "uid", itemMeta.get "uid"),
    (.str "resource_version", itemMeta.get "resourceVersion"),
    (.str "name", itemMeta.get "name"),
    (.str "namespace", itemMeta.get "namespace")] ++ details)

def Agent.answeredNamespace (agent : Agent) (query : KubernetesSnapshotQuery) (payload : PyDict)
    : String :=
  agent.python.strOr (payload.get "namespace")
    (if query.inNamespace = "" then targetNamespace else query.inNamespace)

def Agent.answeredStatus (agent : Agent) (payload : PyDict) : String :=
  agent.python.strOr (payload.get "status") "success"

def Agent.normalizePayload (agent : Agent) (query : KubernetesSnapshotQuery) (payload : PyDict)
    : Option KubernetesSnapshot := do
  let inNamespace := agent.answeredNamespace query payload
  let text := fun (value : String) => PyValue.scalar (.str value)
  let pods ← (scopedItems (payload.get podCollection) query.labelSelector).mapM
    (agent.podSummary payload)
  let others ← SnapshotList.all.mapM fun list =>
    agent.summaries list payload query.labelSelector
  return {
    agent.emptySnapshot with
    cluster := [
      (.str "cluster_id", text (agent.python.strOr (payload.get "cluster_id") agent.clusterId)),
      (.str "namespace", text inNamespace),
      (.str "collected_at", text (agent.python.strOr (payload.get "collected_at") agent.now))]
    collectionScopes := [.dict [
      (.str "namespace", text inNamespace),
      (.str "label_selector",
        match query.labelSelector with | none => .scalar .none | some value => text value)]]
    collectionCoverage := [
      podCollectionCoverage (payload.get podCollection) inNamespace query.labelSelector
        (agent.answeredStatus payload)]
    collectionStatus := agent.collectionStatuses payload
    lists := fun list =>
      if list = .pods then
        pods
      else
        ((SnapshotList.all.zip others).find? (·.1 = list)).elim [] Prod.snd }

def updateDict (target source : PyDict) : PyDict :=
  source.foldl (fun entries entry => setItem entries entry.1 entry.2) target

def Agent.nodeKey (agent : Agent) (node : PyValue) : String :=
  if (node.get "uid").truthy then agent.python.strOf (node.get "uid")
  else agent.python.strOr (node.get "name") ""

def Agent.mergeNodes (agent : Agent) (target source : List PyValue) : List PyValue :=
  Keyed.latest agent.nodeKey
    ((target ++ source).filter fun node => isDict node && agent.nodeKey node ≠ "")

def Agent.mergeSnapshot (agent : Agent) (target source : KubernetesSnapshot)
    : KubernetesSnapshot where
  cluster := updateDict target.cluster source.cluster
  collectionScopes := target.collectionScopes ++ source.collectionScopes
  collectionCoverage := target.collectionCoverage ++ source.collectionCoverage
  collectionStatus :=
    match source.collectionStatus with
    | none => target.collectionStatus
    | some status => some (updateDict (target.collectionStatus.getD []) status)
  eventCapture :=
    if isDict source.eventCapture
        && !(source.eventCapture.get "reason").isText eventCaptureReasonNotRequested then
      source.eventCapture
    else
      target.eventCapture
  lists := fun list =>
    if list = .nodes then
      agent.mergeNodes (target.lists .nodes) (source.lists .nodes)
    else
      target.lists list ++ source.lists list
  limits := target.limits

def Agent.namespaceGroupKey (agent : Agent) (item : PyValue) : String :=
  match item.get "namespace" with
  | .scalar .none => "<cluster>"
  | value => if value.isText "" then "<cluster>" else agent.python.strOf value

section Limits

variable {α : Type}

/-- One walk over the groups of `round_robin_groups`, which takes at most `room` items. -/
def roundRobinPass : List (List α) → Nat → List α × List (List α)
  | [], _ => ([], [])
  | groups, 0 => ([], groups)
  | [] :: rest, room => roundRobinPass rest room
  | (item :: more) :: rest, room + 1 =>
    let taken := roundRobinPass rest room
    (item :: taken.1, if more.isEmpty then taken.2 else more :: taken.2)

def roundRobinWalks : Nat → List (List α) → Nat → List α
  | 0, _, _ => []
  | walks + 1, groups, room =>
    if groups.isEmpty || room = 0 then
      []
    else
      let taken := roundRobinPass groups room
      taken.1 ++ roundRobinWalks walks taken.2 (room - taken.1.length)

def roundRobinGroups (groupKey : α → String) (values : List α) (maxItems : Nat) : List α :=
  let groups := (fromKeys (values.map groupKey)).map fun key =>
    values.filter (groupKey · = key)
  roundRobinWalks maxItems groups maxItems

def limitList (groupKey : Option (α → String)) (values : List α) (maxItems : Nat) : List α :=
  if values.length ≤ maxItems then
    values
  else
    match groupKey with
    | none => values.take maxItems
    | some key => roundRobinGroups key values maxItems

end Limits

def Agent.groupKeyOf (agent : Agent) (list : SnapshotList) : Option (PyValue → String) :=
  if list.namespaced then some agent.namespaceGroupKey else none

def Agent.shortened (agent : Agent) (snapshot : KubernetesSnapshot) (list : SnapshotList)
    (maxItems : Nat)
    : KubernetesSnapshot :=
  let values := snapshot.lists list
  let limited := limitList (agent.groupKeyOf list) values maxItems
  let original := ((Keyed.find Prod.fst snapshot.limits list).map
    (·.2.originalCount)).getD values.length
  { snapshot with
    lists := Function.update snapshot.lists list limited
    limits := Keyed.put Prod.fst (fun _ later => later) snapshot.limits
      (list, { originalCount := original, returnedCount := limited.length }) }

def Agent.limitPayloadList (agent : Agent) (snapshot : KubernetesSnapshot) (list : SnapshotList)
    : KubernetesSnapshot :=
  if (snapshot.lists list).length ≤ list.maxItems then
    snapshot
  else
    agent.shortened snapshot list list.maxItems

def maxProviderPayloadBytes : Nat := 1048576 - 65536

def Agent.largestShrinkableList (agent : Agent) (snapshot : KubernetesSnapshot)
    : Option SnapshotList :=
  (SnapshotList.all.filter fun list => !(snapshot.lists list).isEmpty).foldl (fun best list =>
      match best with
      | none => some list
      | some known =>
        if agent.listBytes (snapshot.lists known) < agent.listBytes (snapshot.lists list) then
          some list
        else
          best)
    none

def KubernetesSnapshot.itemCount (snapshot : KubernetesSnapshot) : Nat :=
  (SnapshotList.all.map fun list => (snapshot.lists list).length).sum

def Agent.shrink (agent : Agent) : Nat → KubernetesSnapshot → KubernetesSnapshot
  | 0, snapshot => snapshot
  | rounds + 1, snapshot =>
    if agent.snapshotBytes snapshot ≤ maxProviderPayloadBytes then
      snapshot
    else
      match agent.largestShrinkableList snapshot with
      | none => snapshot
      | some list =>
        agent.shrink rounds (agent.shortened snapshot list ((snapshot.lists list).length / 2))

def Agent.limitPayloadSize (agent : Agent) (snapshot : KubernetesSnapshot) : KubernetesSnapshot :=
  agent.shrink snapshot.itemCount snapshot

def PodCoverage.invalidated (entry : PodCoverage) : PodCoverage :=
  { entry with
    complete := false
    deleteSafe := false
    truncated := true
    reasonCodes := sortedSet (entry.reasonCodes.filter (· ≠ "") ++ [coverageReasonPayloadLimit]) }

def Agent.limitKubernetesSnapshot (agent : Agent) (snapshot : KubernetesSnapshot)
    : KubernetesSnapshot :=
  let limited := agent.limitPayloadSize (SnapshotList.all.foldl agent.limitPayloadList snapshot)
  if (Keyed.find Prod.fst limited.limits .pods).isSome then
    { limited with collectionCoverage := limited.collectionCoverage.map (·.invalidated) }
  else
    limited

def Agent.evidence (agent : Agent) (answers : List (KubernetesSnapshotQuery × PyDict))
    : Option KubernetesSnapshot := do
  let snapshots ← answers.mapM fun answer => agent.normalizePayload answer.1 answer.2
  return agent.limitKubernetesSnapshot (snapshots.foldl agent.mergeSnapshot agent.emptySnapshot)

variable (snapshot : KubernetesSnapshot)

def KubernetesSnapshot.limitEntries : PyDict :=
  if snapshot.limits.isEmpty then
    []
  else
    [(.str "collection_limits", .dict [
      (.str "truncated", .scalar (.bool true)),
      (.str "lists", .dict (snapshot.limits.map fun limit => (.str limit.1.key, .dict [
        (.str "truncated", .scalar (.bool true)),
        (.str "original_count", .scalar (.int limit.2.originalCount)),
        (.str "returned_count", .scalar (.int limit.2.returnedCount))])))])]

def KubernetesSnapshot.entries : PyDict :=
  [(.str "cluster", .dict snapshot.cluster),
    (.str "collection_scopes", .list snapshot.collectionScopes),
    (.str "event_capture", snapshot.eventCapture)]
  ++ SnapshotList.all.map (fun list => (.str list.key, .list (snapshot.lists list)))
  ++ (if snapshot.collectionCoverage.isEmpty then []
    else [(.str collectionCoverageSummaryKey, .list (snapshot.collectionCoverage.map (·.toPy)))])
  ++ (snapshot.collectionStatus.elim [] fun status => [(.str "collection_status", .dict status)])
  ++ snapshot.limitEntries

end K8sClue.Evidence
