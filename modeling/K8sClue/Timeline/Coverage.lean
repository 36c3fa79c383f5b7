import K8sClue.Inventory.EventCapture
import K8sClue.Timeline.Predicate
import Mathlib.Data.List.Sort
import Mathlib.Data.Prod.Lex

/-! Coverage of the Timeline from the Event captures of stored snapshots.
A gap opens with the first capture that says so and closes with the first later capture that
proves a recovery; only closed gaps become coverage intervals.
-/

namespace K8sClue.Timeline

open Python Inventory Library List Function

/-- What a read of the coverage takes from the runtime. -/
structure CoverageReader where
  python : Runtime
  iso : IsoFormat
  calendar : Calendar

inductive CaptureState where
  | gap
  | recovery
  deriving DecidableEq

structure CaptureObservation where
  clusterId : String
  observedAt : Int
  state : CaptureState
  deriving DecidableEq

def isExplicitGap (python : Runtime) (capture : KubernetesEventCapture) : Bool :=
  let gap := python.normalizedText (capture.coverageOf "gap")
  !capture.complete && gap != "" && capture.reason == gap && capture.global

def isProvenRecovery (python : Runtime) (capture : KubernetesEventCapture) : Bool :=
  capture.authoritative
    && (python.positiveInt (capture.coverageOf "page_count")).isSome
    && (exactNonnegativeInt (capture.coverageOf "event_count")).isSome
    && python.normalizedText (capture.coverageOf "resource_version") != ""

def scopeKey (scope : ClusterScope) : Lex (String × Lex (String × List String)) :=
  toLex (scope.workspaceId, toLex (scope.clusterId, scope.namespaces))

/-- `_authorized_scopes_by_cluster`, for one cluster; a cluster without scopes is not a key. -/
def authorizedScopes (readScope : TimelineLedgerReadScope) (clusterId : String)
    : List ClusterScope :=
  (readScope.scopes.filter fun scope =>
    scope.clusterId = clusterId ∧ clusterId ∈ readScope.kubernetesEventClusterIds).insertionSort
      (fun left right => scopeKey left ≤ scopeKey right)

variable (reader : CoverageReader)

/-- `_capture_observation` of a stored snapshot. -/
def captureObservation (readScope : TimelineLedgerReadScope)
    (window : TimelineWindow) (row : SnapshotRow)
    : Option CaptureObservation :=
  let clusterId := strip row.clusterId
  if strip row.status = ignoredStale ∨ (authorizedScopes readScope clusterId).isEmpty then
    none
  else
    let capture := KubernetesEventCapture.fromSnapshotSummary reader.python reader.iso
      (.dict [(.str eventCaptureSummaryKey, row.eventCapture)])
    capture.observedAt.bind fun observedAt =>
      if window.toMs ≤ reader.calendar.milliseconds observedAt then
        none
      else if isExplicitGap reader.python capture then
        some { clusterId, observedAt, state := .gap }
      else if isProvenRecovery reader.python capture then
        some { clusterId, observedAt, state := .recovery }
      else
        none

/-- What ends a projection without a result. -/
inductive CoverageError where
  /-- the `ValueError` for rows that are not in the order of their times -/
  | notOrdered
  | limitExceeded
  /-- the `ValidationError` of an interval that the contract refuses -/
  | invalidInterval (fromMs toMs : Int)
  deriving DecidableEq

def Intersects (window : TimelineWindow) (fromMs toMs : Int) : Prop :=
  fromMs < window.toMs ∧ window.fromMs < toMs

instance (window : TimelineWindow) (fromMs toMs : Int)
    : Decidable (Intersects window fromMs toMs) :=
  inferInstanceAs (Decidable (_ ∧ _))

/-- One interval of `_append_coverage_intervals`. -/
def appendInterval (maxIntervals : Option Nat) (fromMs toMs : Int)
    (projected : List TimelineCoverage) (scope : ClusterScope)
    : Except CoverageError (List TimelineCoverage) :=
  if maxIntervals.any (· ≤ projected.length) then
    .error .limitExceeded
  else if bounds : 0 ≤ fromMs ∧ fromMs < toMs then
    .ok (projected ++ [{
      scope := scope
      source := .kubernetesEvent
      fromMs := fromMs
      toMs := toMs
      reason := .collectionGap
      nonnegative := bounds.1
      positiveWidth := bounds.2 }])
  else
    .error (.invalidInterval fromMs toMs)

/-- `_append_coverage_intervals`: one interval for each scope of the cluster. -/
def appendCoverageIntervals (maxIntervals : Option Nat) (scopes : List ClusterScope)
    (fromMs toMs : Int) (projected : List TimelineCoverage)
    : Except CoverageError (List TimelineCoverage) :=
  scopes.foldlM (appendInterval maxIntervals fromMs toMs) projected

/-- `_coverage_sort_key`; the source and the reason are the same for all intervals. -/
def coverageSortKey (item : TimelineCoverage)
    : Lex (Int × Lex (Int × Lex (String × Lex (String × List String)))) :=
  toLex (item.fromMs, toLex (item.toMs, scopeKey item.scope))

/-- The dictionaries and the list that the projector keeps. -/
structure Projection where
  opened : String → Option Int := fun _ => none
  lastObserved : String → Option Int := fun _ => none
  projected : List TimelineCoverage := []

/-- The projector on one snapshot. -/
def projectSnapshot (readScope : TimelineLedgerReadScope)
    (window : TimelineWindow) (maxIntervals : Option Nat) (state : Projection) (row : SnapshotRow)
    : Except CoverageError Projection :=
  match captureObservation reader readScope window row with
  | none => .ok state
  | some obs =>
    if (state.lastObserved obs.clusterId).any (obs.observedAt < ·) then
      .error .notOrdered
    else
      let lastObserved :=
        update state.lastObserved obs.clusterId (some obs.observedAt)
      let opened := state.opened obs.clusterId
      match obs.state, opened with
      | .gap, _ => .ok { state with
          lastObserved
          -- `setdefault`
          opened := update state.opened obs.clusterId
            (some (opened.getD obs.observedAt)) }
      | .recovery, none => .ok { state with lastObserved }
      | .recovery, some openedAt =>
        if obs.observedAt ≤ openedAt then
          .ok { state with lastObserved }
        else do
          let fromMs := reader.calendar.milliseconds openedAt
          let toMs := reader.calendar.milliseconds obs.observedAt
          let projected ←
            if Intersects window fromMs toMs then
              appendCoverageIntervals maxIntervals
                (authorizedScopes readScope obs.clusterId) fromMs toMs state.projected
            else
              .ok state.projected
          .ok {
            lastObserved
            opened := update state.opened obs.clusterId none
            projected }

def projectOrderedCaptureCoverage
    (readScope : TimelineLedgerReadScope) (window : TimelineWindow)
    (maxIntervals : Option Nat) (rows : List SnapshotRow)
    : Except CoverageError (List TimelineCoverage) := do
  let state ← rows.foldlM (projectSnapshot reader readScope window maxIntervals) {}
  return state.projected.insertionSort
    (fun left right => coverageSortKey left ≤ coverageSortKey right)

structure Closing where
  clusterId : String
  (fromMs toMs : Int)
  deriving DecidableEq

/-- The start of the gap that is open after an observation. -/
def openNext (opened : Option Int) (obs : CaptureObservation) : Option Int :=
  match obs.state with
  | .gap => some (opened.getD obs.observedAt)
  | .recovery => opened.filter (obs.observedAt ≤ ·)

variable (calendar : Calendar) (window : TimelineWindow)

/-- The gap that an observation closes, if it intersects the window. -/
def closingOf (opened : Option Int) (obs : CaptureObservation) : Option Closing :=
  match obs.state with
  | .gap => none
  | .recovery =>
    ((opened.filter (· < obs.observedAt)).map (fun openedAt => {
      clusterId := obs.clusterId
      fromMs := calendar.milliseconds openedAt
      toMs := calendar.milliseconds obs.observedAt })).filter
        (fun closing => Intersects window closing.fromMs closing.toMs)

/-- The gaps that a list of observations closes. -/
def closings : (String → Option Int) → List CaptureObservation → List Closing
  | _, [] => []
  | opened, obs :: rest =>
    (closingOf calendar window (opened obs.clusterId) obs).toList
      ++ closings (update opened obs.clusterId
            (openNext (opened obs.clusterId) obs))
          rest

def appendClosing (readScope : TimelineLedgerReadScope) (maxIntervals : Option Nat)
    (projected : List TimelineCoverage) (closing : Closing)
    : Except CoverageError (List TimelineCoverage) :=
  appendCoverageIntervals maxIntervals (authorizedScopes readScope closing.clusterId)
    closing.fromMs closing.toMs projected

/-- The observations of one cluster are in the order of their times. -/
def TimesOrdered (observations : List CaptureObservation) : Prop :=
  observations.Pairwise fun left right =>
    left.clusterId = right.clusterId → left.observedAt ≤ right.observedAt

variable (reader : CoverageReader) (readScope : TimelineLedgerReadScope)
variable (window : TimelineWindow) (maxIntervals : Option Nat)

/-- An observation in its order appends the intervals of the gap it closes.
Witness: by its state and by the gap that is open.
-/
theorem projectSnapshot_observed {state : Projection} {row : SnapshotRow}
    {obs : CaptureObservation}
    (seen : captureObservation reader readScope window row = some obs)
    (later : ∀ last ∈ state.lastObserved obs.clusterId, last ≤ obs.observedAt)
    : projectSnapshot reader readScope window maxIntervals state row
      = ((closingOf reader.calendar window (state.opened obs.clusterId)
          obs).toList.foldlM (appendClosing readScope maxIntervals) state.projected).map
            fun projected => {
              lastObserved := update state.lastObserved obs.clusterId
                (some obs.observedAt)
              opened := update state.opened obs.clusterId
                (openNext (state.opened obs.clusterId) obs)
              projected } := by
  have inOrder
      : ¬ (state.lastObserved obs.clusterId).any (obs.observedAt < ·) = true := by
    cases known : state.lastObserved obs.clusterId with
    | none => simp
    | some last => simpa using later last known
  have unchanged : ∀ {value}, state.opened obs.clusterId = value
      → update state.opened obs.clusterId value = state.opened := by
    rintro value rfl
    exact update_eq_self _ _
  simp only [projectSnapshot, seen, if_neg inOrder]
  unfold closingOf openNext
  cases change : obs.state with
  | gap => rfl
  | recovery =>
    cases known : state.opened obs.clusterId with
    | none =>
      simp [unchanged known, Except.map, pure, Except.pure]
    | some openedAt =>
      by_cases early : obs.observedAt ≤ openedAt
      · have notAfter : ¬ openedAt < obs.observedAt := not_lt.mpr early
        simp [early, notAfter, unchanged known, Option.filter, Except.map, pure, Except.pure]
      · have after : openedAt < obs.observedAt := not_le.mp early
        by_cases inside : Intersects window (reader.calendar.milliseconds openedAt)
          (reader.calendar.milliseconds obs.observedAt)
        · simp only [early, after, inside, Option.filter, appendClosing, if_true, decide_true,
            decide_false, Option.map_some, Option.toList_some, foldlM_cons, Bool.false_eq_true]
          cases appendCoverageIntervals maxIntervals
            (authorizedScopes readScope obs.clusterId)
            (reader.calendar.milliseconds openedAt)
            (reader.calendar.milliseconds obs.observedAt) state.projected <;> rfl
        · simp [early, after, inside, Option.filter, Except.map, bind, Except.bind, pure,
            Except.pure]

/-- Over rows in order, the projector appends the intervals of the closings. -/
theorem foldlM_projected (rows : List SnapshotRow) (state : Projection)
    (ordered : TimesOrdered (rows.filterMap (captureObservation reader readScope window)))
    (later : ∀ obs ∈ rows.filterMap (captureObservation reader readScope window),
        ∀ last ∈ state.lastObserved obs.clusterId, last ≤ obs.observedAt)
    : (rows.foldlM (projectSnapshot reader readScope window maxIntervals) state).map (·.projected)
      = (closings reader.calendar window state.opened
          (rows.filterMap (captureObservation reader readScope window))).foldlM
            (appendClosing readScope maxIntervals) state.projected := by
  induction rows generalizing state with
  | nil => rfl
  | cons row rest ih =>
    cases seen : captureObservation reader readScope window row with
    | none =>
      have skipped : projectSnapshot reader readScope window maxIntervals state row
          = .ok state := by
        simp [projectSnapshot, seen]
      rw [filterMap_cons_none seen] at ordered later ⊢
      rw [foldlM_cons, skipped]
      exact ih state ordered later
    | some obs =>
      rw [filterMap_cons_some seen] at ordered later ⊢
      obtain ⟨after, restOrdered⟩ := pairwise_cons.mp ordered
      rw [foldlM_cons,
        projectSnapshot_observed reader readScope window maxIntervals seen
          (later obs mem_cons_self),
        closings, foldlM_append]
      cases ended : (closingOf reader.calendar window (state.opened obs.clusterId)
          obs).toList.foldlM (appendClosing readScope maxIntervals) state.projected with
      | error failure => rfl
      | ok projected =>
        refine ih _ restOrdered ?_
        intro next mem last known
        dsimp only at known
        by_cases same : next.clusterId = obs.clusterId
        · rw [same, update_self, Option.mem_some_iff] at known
          rw [← known]
          exact after next mem same.symm
        · rw [update_of_ne same] at known
          exact later next (mem_cons_of_mem _ mem) last known

/-- The answer that is made of closings: the intervals of their clusters, sorted. -/
def closedCoverage (closed : List Closing) : Except CoverageError (List TimelineCoverage) :=
  (closed.foldlM (appendClosing readScope maxIntervals) []).map
    (·.insertionSort (fun left right => coverageSortKey left ≤ coverageSortKey right))

/-- The projection of rows in order is made of their closings. -/
theorem projectOrdered_eq {rows : List SnapshotRow}
    (ordered : TimesOrdered (rows.filterMap (captureObservation reader readScope window)))
    : projectOrderedCaptureCoverage reader readScope window maxIntervals rows
      = closedCoverage readScope maxIntervals (closings reader.calendar window (fun _ => none)
            (rows.filterMap (captureObservation reader readScope window))) := by
  rw [closedCoverage,
    ← foldlM_projected reader readScope window maxIntervals rows {} ordered (by simp)]
  unfold projectOrderedCaptureCoverage
  cases rows.foldlM (projectSnapshot reader readScope window maxIntervals) {} <;> rfl

end K8sClue.Timeline
