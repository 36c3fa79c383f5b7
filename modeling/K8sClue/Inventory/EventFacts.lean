import K8sClue.Inventory.EventCapture
import K8sClue.Inventory.Resources
import Mathlib.Data.Prod.Lex

/-! Kubernetes Event observations of complete captures, and the Timeline facts made of them.
An observation enters the Timeline when it is new or has advanced since the previous capture;
its absence from a later capture means nothing.
-/

namespace K8sClue.Inventory

open Python Timeline Library

def eventFactsSummaryKey : String := "kubernetes_event_facts"

def eventCaptureReasonInvalidFact : String := "invalid_event_fact_contract"

/-- The minimal monotonic Event state that is retained and compared. -/
structure KubernetesEventObservation where
  (uid apiVersion : String)
  inNamespace : Option String
  (name eventType : String)
  (count lastOccurrenceAt : Int)
  deriving DecidableEq

structure KubernetesEventFactBatch where
  capture : KubernetesEventCapture
  observations : List KubernetesEventObservation := []

def eventLastOccurrence (iso : IsoFormat) (fact : PyValue) : Option Int :=
  (parseTimestamp iso (fact.get "last_occurrence_at")).or
    (parseTimestamp iso (fact.get "last_timestamp"))

variable (python : Runtime)

def nullableText (value : PyValue) : Option String :=
  some (python.normalizedText value) |>.filter (· ≠ "")

def kubernetesEventFactObservation (iso : IsoFormat) (fact : PyValue)
    : Option KubernetesEventObservation := do
  let uid ← nullableText python (fact.get "uid")
  let name ← nullableText python (fact.get "name")
  let count ← python.positiveInt (fact.get "count")
  let lastOccurrenceAt ← eventLastOccurrence iso fact
  return {
    uid
    apiVersion := python.normalizedText (fact.get "api_version")
    inNamespace := nullableText python (fact.get "namespace")
    name
    eventType := python.normalizedText (fact.get "type")
    count
    lastOccurrenceAt }

/-- `KubernetesEventFactBatch.from_snapshot_summary`: one fact that breaks the contract, or a
count that differs from the declared one, leaves a gap.
-/
def KubernetesEventFactBatch.fromSnapshotSummary (iso : IsoFormat) (summary : PyValue)
    : KubernetesEventFactBatch :=
  let capture := KubernetesEventCapture.fromSnapshotSummary python iso summary
  let invalid : KubernetesEventFactBatch :=
    { capture := capture.withGap eventCaptureReasonInvalidFact }
  if capture.authoritative then
    match summary.get eventFactsSummaryKey with
    | .list facts =>
      match facts.mapM (kubernetesEventFactObservation python iso) with
      | some observations =>
        if exactNonnegativeInt (capture.coverageOf "event_count")
            = some (observations.length : Int) then
          { capture, observations }
        else
          invalid
      | none => invalid
    | _ => invalid
  else
    { capture }

/-- `observation_sort_key(left) > observation_sort_key(right)`. -/
def KubernetesEventObservation.After (left right : KubernetesEventObservation) : Prop :=
  right.count < left.count
  ∨ right.count = left.count ∧ right.lastOccurrenceAt < left.lastOccurrenceAt

instance : DecidableRel KubernetesEventObservation.After :=
  fun _ _ => inferInstanceAs (Decidable (_ ∨ _))

/-- `event_observations_by_uid_from_facts`: the newest observation of each uid. -/
def eventObservationsByUid (observations : List KubernetesEventObservation)
    : List KubernetesEventObservation :=
  Keyed.putAll (·.uid)
    (fun existing obs => if obs.After existing then obs else existing)
    [] observations

def eventObservationAdvanced (previous : Option KubernetesEventObservation)
    (current : KubernetesEventObservation)
    : Bool :=
  match previous with
  | none => true
  | some seen =>
    seen.count < current.count || seen.lastOccurrenceAt < current.lastOccurrenceAt

/-- `text.rsplit("/", 1)`, with an empty group where there is no slash. -/
def splitApiVersion (text : String) : String × String :=
  let reversed := text.toList.reverse
  match reversed.dropWhile (· ≠ '/') with
  | [] => ("", text)
  | _ :: group =>
    (String.ofList group.reverse, String.ofList (reversed.takeWhile (· ≠ '/')).reverse)

variable (env : Platform) (obs : KubernetesEventObservation)

def kubernetesEventSourceKey : String :=
  "kubernetes_event:" ++ obs.uid ++ ":" ++ toString obs.count ++ ":"
    ++ env.timestampWireValue obs.lastOccurrenceAt

def kubernetesEventTimelineMetadata (capture : KubernetesEventCapture) : PyDict :=
  let text := fun (value : String) => PyValue.scalar (.str value)
  [(.str "count", .scalar (.int obs.count)),
    (.str "last_occurrence_at", text (env.timestampWireValue obs.lastOccurrenceAt)),
    (.str "collection_complete", .scalar (.bool true)),
    (.str "collection_truncated", .scalar (.bool false))]
  ++ match capture.observedAt with
    | none => []
    | some observedAt => [
        (.str "collection_reason", text capture.reason),
        (.str "capture_observed_at", text (env.timestampWireValue observedAt)),
        (.str "freshness_max_age_seconds",
          .scalar (match capture.maxAgeSeconds with | none => .none | some age => .int age))]

def validated (event : TimelineEvent) : Option TimelineEvent :=
  if event.Valid then some event else none

variable (workspaceId clusterId : String)

/-- `kubernetes_event_timeline_event`; `none` is a `ValidationError`. -/
def kubernetesEventTimelineEvent
    (obs : KubernetesEventObservation) (capture : KubernetesEventCapture)
    : Option TimelineEvent :=
  if nonempty : workspaceId ≠ "" ∧ clusterId ≠ "" then
    let resource : ResourceRef := {
      apiGroup := (splitApiVersion obs.apiVersion).1
      version := (splitApiVersion obs.apiVersion).2
      kind := "Event"
      inNamespace := obs.inNamespace
      name := obs.name
      uid := obs.uid }
    validated {
      eventId := kubernetesEventSourceKey env obs
      source := .kubernetesEvent
      sourceKey := kubernetesEventSourceKey env obs
      nativeId := obs.uid
      activity := .k8sEvent
      occurredAt := .aware obs.lastOccurrenceAt
      scope := .whole workspaceId clusterId nonempty
      subject := .resource resource
      resource := some resource
      eventType := .k8sEvent
      severity :=
        if env.python.casefold obs.eventType = "warning" then .warning else .info
      title := "Kubernetes event observed"
      metadata := kubernetesEventTimelineMetadata env obs capture }
  else
    none

def advancedObservations (observedAt : Int) (previous : Option KubernetesEventFactBatch)
    (current : KubernetesEventFactBatch)
    : List KubernetesEventObservation :=
  if current.capture.isFreshAt observedAt then
    let previousByUid :=
      match previous with
      | some batch =>
        if batch.capture.authoritative then eventObservationsByUid batch.observations else []
      | none => []
    let currentByUid :=
      (eventObservationsByUid current.observations).insertionSort (fun left right =>
        left.uid ≤ right.uid)
    currentByUid.filter fun obs =>
      eventObservationAdvanced (Keyed.find (·.uid) previousByUid obs.uid) obs
  else
    []

/-- `kubernetes_event_fact_timeline_events`; `none` is a `ValidationError`. -/
def kubernetesEventFactTimelineEvents
    (observedAt : Int) (previous : Option KubernetesEventFactBatch)
    (current : KubernetesEventFactBatch)
    : Option (List TimelineEvent) :=
  (advancedObservations observedAt previous current).mapM fun obs =>
    kubernetesEventTimelineEvent env workspaceId clusterId obs current.capture

def kubernetesEventCaptureCandidateLimit : Nat := 128

def SnapshotRow.CapturedAfter (left right : SnapshotRow) : Prop :=
  toLex (left.eventCaptureObservedAt.getD 0,
      toLex (left.collectedAt, toLex (left.createdAt, left.snapshotId)))
    ≥ toLex (right.eventCaptureObservedAt.getD 0,
      toLex (right.collectedAt, toLex (right.createdAt, right.snapshotId)))

instance : DecidableRel SnapshotRow.CapturedAfter :=
  fun _ _ => inferInstanceAs (Decidable (toLex _ ≥ toLex _))

def SnapshotRow.projectsAuthoritative (row : SnapshotRow) : Bool :=
  match row.eventCapture with
  | .dict entries =>
    (KubernetesEventCapture.fromSnapshotSummary env.python env.iso
      (.dict [(.str eventCaptureSummaryKey, .dict entries)])).authoritative
  | _ => false

def latestCompleteKubernetesEventBatch (rows : List SnapshotRow) (workspaceId clusterId : String)
    : Option KubernetesEventFactBatch := do
  let candidates := rows.filter fun row =>
    row.Accepted workspaceId clusterId && row.eventCaptureObservedAt.isSome
  let newest := (candidates.insertionSort SnapshotRow.CapturedAfter).take
    kubernetesEventCaptureCandidateLimit
  let candidate ← newest.find? (·.projectsAuthoritative env)
  match candidate.summary.get "summary" with
  | .dict entries =>
    let batch := KubernetesEventFactBatch.fromSnapshotSummary env.python env.iso
      (.dict entries)
    if batch.capture.authoritative then some batch else none
  | _ => none

end K8sClue.Inventory
