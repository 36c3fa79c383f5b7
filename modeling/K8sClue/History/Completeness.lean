import K8sClue.Python.Collections
import K8sClue.Timeline.Contracts
import Mathlib.Data.List.Sort

/-! How an incident history decides whether it is complete.
The observations are sorted by time once; silence between them and cuts that proved nothing are
then read off neighbouring observations.
-/

namespace K8sClue.History

open Python Timeline List

/-- A collector that has not reported for this long leaves an unobserved gap. -/
def observationMaxGapMs : Int := 600000

structure InventoryObservation where
  collectedAtMs : Int
  resourcesComplete : Bool
  eventCaptureComplete : Bool := false
  deriving DecidableEq

/-- `incomplete` is the status that the contract spells `partial`. -/
inductive CompletenessStatus where
  | complete
  | incomplete
  | unavailable
  deriving DecidableEq

inductive CompletenessReason where
  | collectionGap
  | retentionBoundary
  | partialScope
  | sourceUnavailable
  | truncated
  | noObservation
  deriving DecidableEq

structure IncidentHistoryCompleteness where
  status : CompletenessStatus
  coverage : List TimelineCoverage := []
  reasons : List CompletenessReason := []
  deriving DecidableEq

structure IncidentHistoryCompleteness.Valid (completeness : IncidentHistoryCompleteness)
    : Prop where
  unique : completeness.reasons.Nodup
  complete
    : completeness.status = .complete → completeness.reasons = [] ∧ completeness.coverage = []
  unavailable : completeness.status = .unavailable ↔ .noObservation ∈ completeness.reasons
  incomplete : completeness.status = .incomplete → completeness.reasons ≠ []
  truncated : .truncated ∈ completeness.reasons → completeness.status = .incomplete

structure CompletenessRequest where
  window : TimelineWindow
  nowMs : Int
  observations : List InventoryObservation
  captureCoverage : List TimelineCoverage
  scope : ClusterScope
  (truncated sourceUnavailable inventoryAuthorized : Bool)
  eventsAuthorized : Bool := true
  hasEvents : Bool := false

/-- Never claim the future: clamp the end to now when the window has begun. -/
def effectiveWindow (window : TimelineWindow) (nowMs : Int) : TimelineWindow :=
  if clamped : window.toMs > nowMs ∧ nowMs > window.fromMs then
    { window with toMs := nowMs, positiveWidth := clamped.2 }
  else
    window

def gapEdges (fromMs toMs : Int) : List Int → List (Int × Int)
  | [] => []
  | first :: rest =>
    let points := first :: rest
    let last := points.getLast (cons_ne_nil first rest)
    (if first - fromMs > observationMaxGapMs then [(fromMs, first)] else [])
      ++ (points.zip rest).filter (fun edge => edge.2 - edge.1 > observationMaxGapMs)
      ++ (if toMs - last > observationMaxGapMs then [(last, toMs)] else [])

def gapCoverage (scope : ClusterScope) (edge : Int × Int) : Option TimelineCoverage :=
  if width : edge.1 < edge.2 then
    some {
      scope := scope
      source := .inventory
      fromMs := max edge.1 0
      toMs := max edge.2 1
      reason := .collectionGap
      nonnegative := by omega
      positiveWidth := by omega }
  else
    none

def observationGaps (observations : List InventoryObservation) (fromMs toMs : Int)
    (scope : ClusterScope)
    : List TimelineCoverage :=
  (gapEdges fromMs toMs (observations.map (·.collectedAtMs))).filterMap (gapCoverage scope)

def cutEnd (toMs : Int) : List InventoryObservation → Int
  | [] => toMs
  | next :: _ => next.collectedAtMs

def partialCutIntervals (toMs : Int) (scope : ClusterScope) (source : TimelineSource)
    (proven : InventoryObservation → Bool)
    : List InventoryObservation → List TimelineCoverage
  | [] => []
  | item :: rest =>
    let later := partialCutIntervals toMs scope source proven rest
    if proven item then
      later
    else if width : max item.collectedAtMs 0 < cutEnd toMs rest then
      {
        scope := scope
        source := source
        fromMs := max item.collectedAtMs 0
        toMs := cutEnd toMs rest
        reason := .partialScope
        nonnegative := by omega
        positiveWidth := width
      } :: later
    else
      later

/-- `_finish`: no reason is named twice, and only an incomplete history carries coverage. -/
def finish (reasons : List CompletenessReason) (coverage : List TimelineCoverage)
    (status : CompletenessStatus)
    : IncidentHistoryCompleteness :=
  let unique := fromKeys reasons
  let status := if status = .complete ∧ unique ≠ [] then .incomplete else status
  {
    status := status
    coverage := if status = .incomplete then coverage else []
    reasons := unique }

namespace CompletenessRequest

variable (req : CompletenessRequest)

def toMs : Int := min req.window.toMs req.nowMs

def ordered : List InventoryObservation :=
  req.observations.insertionSort (fun left right => left.collectedAtMs ≤ right.collectedAtMs)

def InRange (item : InventoryObservation) : Prop :=
  req.window.fromMs - observationMaxGapMs ≤ item.collectedAtMs
  ∧ item.collectedAtMs < req.toMs

instance (item : InventoryObservation) : Decidable (req.InRange item) :=
  inferInstanceAs (Decidable (_ ∧ _))

def inRange : List InventoryObservation := req.ordered.filter (req.InRange ·)

def Unobserved : Prop := req.inRange = [] ∨ req.toMs ≤ req.window.fromMs

instance : Decidable req.Unobserved := inferInstanceAs (Decidable (_ ∨ _))

def knownReasons : List CompletenessReason :=
  (if req.sourceUnavailable then [.sourceUnavailable] else [])
    ++ (if req.truncated then [.truncated] else [])
    ++ (if req.captureCoverage ≠ [] then [.collectionGap] else [])

def unobservedCoverage : List TimelineCoverage :=
  if width : req.window.fromMs < req.toMs then
    [{
      scope := req.scope
      source := .inventory
      fromMs := req.window.fromMs
      toMs := req.toMs
      reason := .collectionGap
      nonnegative := req.window.nonnegative
      positiveWidth := width }]
  else
    []

def gaps : List TimelineCoverage :=
  observationGaps req.inRange req.window.fromMs req.toMs req.scope

/-- Each authorized source needs its own proof: inventory cuts never vouch for events. -/
def unprovenCuts : List TimelineCoverage :=
  partialCutIntervals req.toMs req.scope .inventory (·.resourcesComplete) req.inRange
    ++ (if req.eventsAuthorized then
          partialCutIntervals req.toMs req.scope .kubernetesEvent
            (·.eventCaptureComplete) req.inRange
        else
          [])

end CompletenessRequest

variable (req : CompletenessRequest)

def assessCompleteness : IncidentHistoryCompleteness :=
  let reasons := req.knownReasons
  let coverage := req.captureCoverage
  if req.inventoryAuthorized = false then
    -- Without authority over the observation record, completeness is unprovable.
    finish (reasons ++ [.sourceUnavailable]) coverage .incomplete
  else if req.hasEvents = true ∧ req.Unobserved then
    -- Ledger rows without any observation are kept, and the inventory side is a gap.
    finish (reasons ++ [.collectionGap]) (coverage ++ req.unobservedCoverage) .incomplete
  else if req.Unobserved then
    -- No events are returned for an unobserved window, so nothing was truncated.
    {
      status := .unavailable
      coverage := []
      reasons := fromKeys (reasons.filter (· ≠ .truncated) ++ [.noObservation]) }
  else
    let reasons := reasons ++ (if req.gaps ≠ [] then [.collectionGap] else [])
    let reasons := reasons ++ (if req.unprovenCuts ≠ [] then [.partialScope] else [])
    finish reasons (coverage ++ req.gaps ++ req.unprovenCuts)
      (if reasons ≠ [] then .incomplete else .complete)

@[simp] theorem finish_incomplete (reasons : List CompletenessReason)
    (coverage : List TimelineCoverage)
    : finish reasons coverage .incomplete
      = { status := .incomplete, coverage := coverage, reasons := fromKeys reasons } := by
  simp [finish]

@[simp] theorem finish_complete (coverage : List TimelineCoverage)
    : finish [] coverage .complete = { status := .complete } := by
  simp [finish]

/-- Only a window that was observed without a known reason, a gap or an unproven cut is
complete.
-/
theorem assessCompleteness_status
    : (assessCompleteness req).status
      = if req.inventoryAuthorized = false then
          .incomplete
        else if req.Unobserved then
          if req.hasEvents then .incomplete else .unavailable
        else if req.knownReasons = [] ∧ req.gaps = [] ∧ req.unprovenCuts = [] then
          .complete
        else
          .incomplete := by
  unfold assessCompleteness
  by_cases authorized : req.inventoryAuthorized = false
  · simp [authorized]
  by_cases unobserved : req.Unobserved
  · by_cases events : req.hasEvents = true <;> simp [authorized, unobserved, events]
  by_cases clean : req.knownReasons = [] ∧ req.gaps = [] ∧ req.unprovenCuts = []
  · obtain ⟨known, gaps, cuts⟩ := clean
    simp [authorized, unobserved, known, gaps, cuts]
  · have named : req.knownReasons ++ (if req.gaps ≠ [] then [.collectionGap] else [])
          ++ (if req.unprovenCuts ≠ [] then [CompletenessReason.partialScope] else [])
        ≠ [] := by
      intro none
      apply clean
      simpa [and_assoc] using none
    dsimp only
    rw [if_neg authorized, if_neg (fun both => unobserved both.2), if_neg unobserved,
      if_neg authorized, if_neg unobserved, if_neg clean, if_pos named, finish_incomplete]

theorem noObservation_not_known : .noObservation ∉ req.knownReasons := by
  unfold CompletenessRequest.knownReasons
  split <;> split <;> split <;> simp

variable {reasons : List CompletenessReason}

/-- Reasons that name something other than a missing observation make a valid incomplete
history.
-/
theorem incomplete_valid (coverage : List TimelineCoverage)
    (named : reasons ≠ []) (observed : .noObservation ∉ reasons)
    : IncidentHistoryCompleteness.Valid
        { status := .incomplete, coverage := coverage, reasons := fromKeys reasons } where
  unique := nodup_fromKeys reasons
  complete := by simp
  unavailable := by simpa using observed
  incomplete := by simpa using named
  truncated := by simp

theorem finish_valid (coverage : List TimelineCoverage) (observed : .noObservation ∉ reasons)
    : (finish reasons coverage (if reasons ≠ [] then .incomplete else .complete)).Valid := by
  by_cases named : reasons ≠ []
  · rw [if_pos named]
    exact incomplete_valid coverage named observed
  · rw [if_neg named, not_not.mp named]
    exact {
      unique := nodup_nil
      complete := by simp
      unavailable := by simp
      incomplete := by simp
      truncated := by simp }

/-- The contract accepts every verdict, so that building it never fails. -/
theorem assessCompleteness_valid : (assessCompleteness req).Valid := by
  have known := noObservation_not_known req
  unfold assessCompleteness
  by_cases authorized : req.inventoryAuthorized = false
  · rw [if_pos authorized]
    exact incomplete_valid _ (by simp) (by simpa using known)
  rw [if_neg authorized]
  by_cases kept : req.hasEvents = true ∧ req.Unobserved
  · rw [if_pos kept]
    exact incomplete_valid _ (by simp) (by simpa using known)
  rw [if_neg kept]
  by_cases unobserved : req.Unobserved
  · rw [if_pos unobserved]
    exact {
      unique := nodup_fromKeys _
      complete := by simp
      unavailable := by simp
      incomplete := by simp
      truncated := by simp }
  · rw [if_neg unobserved]
    refine finish_valid _ ?_
    simp only [mem_append, not_or]
    refine ⟨⟨known, ?_⟩, ?_⟩ <;> split <;> simp

end K8sClue.History
