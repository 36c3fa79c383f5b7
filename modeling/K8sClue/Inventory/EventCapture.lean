import K8sClue.Inventory.SnapshotRows

/-! The proof that a snapshot carries about its Kubernetes Events.
A capture is decoded from the summary of a snapshot; a small projection of it is stored beside
the snapshot and decoded again by the reads of the Timeline.
-/

namespace K8sClue.Inventory

open Python Timeline

def eventCaptureSummaryKey : String := "kubernetes_event_capture"

def eventCaptureReasonComplete : String := "complete"

/-- Collection proof required before Event observations can enter the Timeline. -/
structure KubernetesEventCapture where
  (complete truncated : Bool)
  reason : String := ""
  observedAt : Option Int := none
  maxAgeSeconds : Option Int := none
  coverage : List (PyScalar × PyValue) := []

/-- `parse_timestamp`: the moment of an ISO 8601 text. -/
def parseTimestamp (iso : IsoFormat) : PyValue → Option Int
  | .scalar (.str value) =>
    if strip value = "" then none else (iso.parse (zuluOffset value)).map utcMoment
  | _ => none

namespace KubernetesEventCapture

variable (capture : KubernetesEventCapture)

def coverageOf (key : String) : PyValue :=
  (PyValue.dict capture.coverage).get key

def global : Bool :=
  (capture.coverageOf "scope").isText "all_namespaces"
    && (capture.coverageOf "pagination").isText "continue"

def authoritative : Bool :=
  capture.complete && !capture.truncated && capture.reason == eventCaptureReasonComplete
    && capture.observedAt.isSome && capture.maxAgeSeconds.any (0 < ·) && capture.global
    && !(capture.coverageOf "gap").truthy

/-- A microsecond is the unit of moments. -/
def microsecondsPerSecond : Int := 1000000

def isFreshAt (observedAt : Int) : Bool :=
  match capture.observedAt, capture.maxAgeSeconds with
  | some capturedAt, some maxAgeSeconds =>
    capture.authoritative && 0 ≤ observedAt - capturedAt
      && observedAt - capturedAt ≤ maxAgeSeconds * microsecondsPerSecond
  | _, _ => false

/-- `with_gap`: fail closed, keeping the coverage for diagnostics. -/
def withGap (reason : String) : KubernetesEventCapture :=
  { capture with
    complete := false
    reason := reason
    coverage := setItem capture.coverage (.str "gap") (.scalar (.str reason)) }

def fromSnapshotSummary (py : Runtime) (iso : IsoFormat) (summary : PyValue)
    : KubernetesEventCapture :=
  let capture := summary.get eventCaptureSummaryKey
  match capture.get "complete", capture.get "truncated" with
  | .scalar (.bool complete), .scalar (.bool truncated) =>
    let freshness := capture.get "freshness"
    {
      complete
      truncated
      reason := py.normalizedText (capture.get "reason")
      observedAt := parseTimestamp iso (freshness.get "observed_at")
      maxAgeSeconds := py.positiveInt (freshness.get "max_age_seconds")
      coverage := (capture.get "coverage").mapping }
  | _, _ => { complete := false, truncated := false }

def projection (iso : IsoFormat) (capture : KubernetesEventCapture) : PyValue :=
  match capture.observedAt with
  | none => .scalar .none
  | some observedAt => .dict [
      (.str "complete", .scalar (.bool capture.complete)),
      (.str "truncated", .scalar (.bool capture.truncated)),
      (.str "reason", .scalar (.str capture.reason)),
      (.str "freshness", .dict [
        (.str "observed_at", .scalar (.str (iso.write observedAt))),
        (.str "max_age_seconds",
          .scalar (match capture.maxAgeSeconds with | none => .none | some age => .int age))]),
      (.str "coverage", .dict capture.coverage)]

end KubernetesEventCapture

end K8sClue.Inventory
