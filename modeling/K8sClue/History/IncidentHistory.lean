import K8sClue.History.ObservedStretches
import K8sClue.Timeline.LedgerReads
import K8sClue.Timeline.LedgerRuns
import K8sClue.Timeline.PredicateAgreement

/-! The incident history endpoint: ledger events of a window with a completeness verdict.
The events are read behind the ledger's retention boundary; the verdict is computed from the
inventory's snapshots and does not know that boundary.
-/

namespace K8sClue.History

open Python Timeline Inventory Library List

inductive ReportTime where
  | datetime (value : Datetime)
  | text (value : String)
  | missing
  deriving DecidableEq

structure IncidentReport where
  (workspaceId correlationId clusterId : String)
  firstSeenAt : ReportTime := .missing
  createdAt : ReportTime := .missing

inductive Permission where
  | rcaRead
  | inventoryRead
  | evidenceRead
  deriving DecidableEq

structure HistorySources where
  reader : LedgerReader
  parseIsoformat : String → Option Datetime
  report : Option IncidentReport
  /-- the grants of the caller on a cluster -/
  granted : String → Permission → Bool
  ledger : LedgerTable
  snapshots : List SnapshotRow
  /-- `snapshot_timeline_coverage` -/
  captureCoverage : TimelineLedgerReadScope → TimelineWindow → List TimelineCoverage
  now : Int

structure HistoryRequest where
  (workspaceId correlationId : String)
  fromMs : Option Int := none
  toMs : Option Int := none
  limit : Nat := 200
  from_nonnegative : ∀ ms ∈ fromMs, 0 ≤ ms
  to_positive : ∀ ms ∈ toMs, 0 < ms
  limit_bounds : 1 ≤ limit ∧ limit ≤ 500

inductive HistoryError where
  | notFound
  | invalidWindow
  | windowTooWide
  /-- the `ValueError` of a read scope or predicate -/
  | invalidScope
  deriving DecidableEq

structure IncidentHistoryResponse where
  (correlationId clusterId : String)
  window : TimelineWindow
  events : List TimelineEvent
  completeness : IncidentHistoryCompleteness
  truncated : Bool

def maxHistoryWindowMs : Int := 86400000

/-- `_report_anchor`. A text that cannot be read leads on to the next key. -/
def reportAnchor (parseIsoformat : String → Option Datetime) (report : IncidentReport)
    : Option Int :=
  [report.firstSeenAt, report.createdAt].findSome? fun time =>
    match time with
    | .datetime value => some (utcMoment value)
    | .text value =>
      if strip value = "" then
        none
      else
        (parseIsoformat ((strip value).replace "Z" "+00:00")).map utcMoment
    | .missing => none

def timelineWindow (fromMs toMs : Int) : Except HistoryError TimelineWindow :=
  if nonnegative : 0 ≤ fromMs then
    if positiveWidth : fromMs < toMs then
      .ok { fromMs, toMs, nonnegative, positiveWidth }
    else
      .error .invalidWindow
  else
    .error .invalidWindow

/-- `incident_history_window`: by default an hour before the incident to fifteen minutes after. -/
def incidentHistoryWindow (calendar : Calendar) (anchor : Int) (fromMs toMs : Option Int)
    : Except HistoryError TimelineWindow :=
  let anchorMs := calendar.milliseconds anchor
  timelineWindow (fromMs.getD (max (anchorMs - 3600000) 0)) (toMs.getD (anchorMs + 900000))

variable (sources : HistorySources)

def requestedWindow (report : IncidentReport) (req : HistoryRequest)
    : Except HistoryError TimelineWindow :=
  let anchor := reportAnchor sources.parseIsoformat report
  if anchor = none ∧ (req.fromMs = none ∨ req.toMs = none) then
    .error .notFound
  else do
    let window ← incidentHistoryWindow sources.reader.calendar
      (anchor.getD (sources.reader.calendar.fromMilliseconds 0)) req.fromMs req.toMs
    if window.toMs - window.fromMs > maxHistoryWindowMs then
      .error .windowTooWide
    else
      .ok window

/-- The authorized scope of a history: one cluster, with the caller's grants on it. A read
scope strips the identities it is given and refuses blank ones.
-/
def historyScope (workspaceId clusterId : String) (workspace_nonempty : workspaceId ≠ "")
    (cluster_nonempty : clusterId ≠ "") (inventoryAuthorized eventsAuthorized : Bool)
    : Option TimelineLedgerReadScope :=
  if blank : strip clusterId = "" then
    none
  else
    some {
      workspaceId := workspaceId
      scopes := [{ workspaceId, clusterId, workspace_nonempty, cluster_nonempty }]
      inventoryClusterIds := if inventoryAuthorized then [strip clusterId] else []
      kubernetesEventClusterIds := if eventsAuthorized then [strip clusterId] else []
      incidentClusterIds := [strip clusterId]
      workspace_nonempty := workspace_nonempty
      scopes_nonempty := by simp
      scopes_workspace := by simp
      identities_normalized := by
        intro identity mem
        have same : identity = strip clusterId := by
          cases inventoryAuthorized <;> cases eventsAuthorized <;> simpa using mem
        rw [same]
        exact ⟨strip_strip clusterId, blank⟩ }

def historyPredicate (readScope : TimelineLedgerReadScope) (window : TimelineWindow)
    : Option TimelineEvidencePredicate :=
  TimelineEvidencePredicate.fromQuery readScope { window, mode := .frozen } none

def EventBefore (left right : TimelineEvent) : Prop :=
  utcMoment left.occurredAt < utcMoment right.occurredAt
  ∨ utcMoment left.occurredAt = utcMoment right.occurredAt ∧ left.sourceKey ≤ right.sourceKey

instance : DecidableRel EventBefore := fun _ _ => inferInstanceAs (Decidable (_ ∨ _))

def historyResponse (req : HistoryRequest)
    (readScope : TimelineLedgerReadScope) (predicate : TimelineEvidencePredicate)
    (clusterScope : ClusterScope) (window : TimelineWindow)
    (inventoryAuthorized eventsAuthorized : Bool)
    : IncidentHistoryResponse :=
  let calendar := sources.reader.calendar
  let snapshot :=
    snapshotTimelineEvents sources.reader sources.ledger readScope predicate req.limit
  let completeness := assessCompleteness {
    window
    nowMs := calendar.milliseconds sources.now
    observations :=
      if inventoryAuthorized then
        readObservations calendar sources.snapshots req.workspaceId clusterScope.clusterId
          window 1000
      else
        []
    captureCoverage := sources.captureCoverage readScope window
    scope := clusterScope
    truncated := snapshot.truncated
    sourceUnavailable := !(inventoryAuthorized && eventsAuthorized)
    inventoryAuthorized
    eventsAuthorized
    hasEvents := !snapshot.events.isEmpty }
  {
    correlationId := req.correlationId
    clusterId := clusterScope.clusterId
    window
    events := snapshot.events.insertionSort EventBefore
    completeness
    truncated := snapshot.truncated && completeness.status != .unavailable }

def getIncidentHistory (req : HistoryRequest) : Except HistoryError IncidentHistoryResponse :=
  match sources.report with
  | none => .error .notFound
  | some report =>
    if named : req.workspaceId ≠ "" ∧ report.clusterId ≠ "" then
      if report.workspaceId = req.workspaceId
          ∧ report.correlationId = req.correlationId
          ∧ sources.granted report.clusterId .rcaRead = true then do
        let nowMs := sources.reader.calendar.milliseconds sources.now
        let window := effectiveWindow (← requestedWindow sources report req) nowMs
        let inventoryAuthorized := sources.granted report.clusterId .inventoryRead
        let eventsAuthorized := sources.granted report.clusterId .evidenceRead
        match historyScope req.workspaceId report.clusterId named.1 named.2
            inventoryAuthorized eventsAuthorized with
        | none => .error .invalidScope
        | some readScope =>
          match historyPredicate readScope window with
          | none => .error .invalidScope
          | some predicate =>
            let clusterScope : ClusterScope := {
              workspaceId := req.workspaceId
              clusterId := report.clusterId
              workspace_nonempty := named.1
              cluster_nonempty := named.2 }
            return historyResponse sources req readScope predicate clusterScope window
              inventoryAuthorized eventsAuthorized
      else
        .error .notFound
    else
      .error .notFound

structure InHistory (calendar : Calendar) (workspaceId clusterId : String)
    (window : TimelineWindow) (row : LedgerRow)
    : Prop where
  workspace : row.workspaceId = workspaceId
  cluster : row.clusterId = clusterId
  source : row.source ∈ [.inventory, .kubernetesEvent, .incident]
  begun : calendar.fromMilliseconds window.fromMs ≤ row.occurredAt
  before_end : row.occurredAt < calendar.fromMilliseconds window.toMs

instance (calendar : Calendar) (workspaceId clusterId : String) (window : TimelineWindow)
    (row : LedgerRow)
    : Decidable (InHistory calendar workspaceId clusterId window row) :=
  decidable_of_iff (row.workspaceId = workspaceId ∧ row.clusterId = clusterId
      ∧ row.source ∈ [TimelineSource.inventory, .kubernetesEvent, .incident]
      ∧ calendar.fromMilliseconds window.fromMs ≤ row.occurredAt
      ∧ row.occurredAt < calendar.fromMilliseconds window.toMs)
    ⟨fun ⟨workspace, cluster, source, begun, ends⟩ => ⟨workspace, cluster, source, begun, ends⟩,
      fun shown => ⟨shown.workspace, shown.cluster, shown.source, shown.begun, shown.before_end⟩⟩

def Readable (table : LedgerTable) (row : LedgerRow) : Prop :=
  table.cursorState.retainedFromSequence ≤ row.sequence ∧ strip row.clusterId = row.clusterId

instance (table : LedgerTable) (row : LedgerRow) : Decidable (Readable table row) :=
  inferInstanceAs (Decidable (_ ∧ _))

section Selected

variable {workspaceId clusterId : String} {workspace_nonempty : workspaceId ≠ ""}
  {cluster_nonempty : clusterId ≠ ""} {readScope : TimelineLedgerReadScope}
  {predicate : TimelineEvidencePredicate} {window : TimelineWindow}
  (inScope : historyScope workspaceId clusterId workspace_nonempty cluster_nonempty true true
    = some readScope)
  (queried : historyPredicate readScope window = some predicate) (reader : LedgerReader)
include inScope queried

/-- With all grants the statement's condition is true of the rows in the history whose cluster
is named in the grants.
-/
theorem historyPredicate_selects (row : LedgerRow)
    : row.workspaceId = readScope.workspaceId
      ∧ timelineEvidenceSqlPredicate reader.render reader.lower reader.calendar predicate
          .snapshot row = some true
      ↔ InHistory reader.calendar workspaceId clusterId window row
        ∧ strip row.clusterId = row.clusterId := by
  unfold historyScope at inScope
  split at inScope <;> cases inScope
  simp only [historyPredicate, TimelineEvidencePredicate.fromQuery, Bool.false_eq_true,
    false_implies, dite_true, Option.some.injEq] at queried
  subst queried
  have empty : strip "" = "" := by decide
  simp only [timelineEvidenceSqlPredicate, scopeSqlPredicate, sourceAuthorizationSqlPredicate,
    TimelinePhase.liveUntil, Truth.all_eq_true, empty]
  simp only [if_true, map_cons, map_nil, isEmpty_nil, mem_cons, not_mem_nil, or_false,
    forall_eq_or_imp, forall_eq, Truth.any_eq_true, mem_append, mem_grantSqlPredicate,
    Truth.test_eq_true,
    Option.some.injEq, exists_eq_left', exists_eq_left, Bool.false_eq_true, if_false,
    false_and, exists_false, and_false, eq_comm (a := some true), Truth.equals_eq_true]
  constructor
  · rintro ⟨workspace, cluster, granted, begun, ends⟩
    have listed : row.source ∈ [TimelineSource.inventory, .kubernetesEvent, .incident]
        ∧ row.clusterId = strip clusterId := by
      rcases granted with (⟨source, named⟩ | ⟨source, named⟩) | ⟨source, named⟩ <;>
        exact ⟨by simp [source], named⟩
    refine ⟨⟨workspace, cluster, listed.1, begun, ends⟩, ?_⟩
    rw [listed.2, strip_strip]
  · rintro ⟨⟨workspace, cluster, source, begun, ends⟩, named⟩
    have stripped : row.clusterId = strip clusterId := by rw [← cluster, named]
    refine ⟨workspace, cluster, ?_, begun, ends⟩
    simp only [mem_cons, not_mem_nil, or_false] at source
    rcases source with inventory | kubernetesEvent | incident
    · exact .inl (.inl ⟨inventory, stripped⟩)
    · exact .inl (.inr ⟨kubernetesEvent, stripped⟩)
    · exact .inr ⟨incident, stripped⟩

/-- A read selects the rows of the history that are readable. -/
theorem selectedRows_eq {table : LedgerTable} (sound : table.Sound)
    : selectedRows reader table readScope (table.cursorState.retainedFromSequence - 1)
        table.cursorState.lastSequence predicate .snapshot
      = (table.rows.filter (InHistory reader.calendar workspaceId clusterId window ·)).filter
          (Readable table ·) := by
  rw [filter_filter]
  refine filter_congr fun row mem => ?_
  have bounds : 1 ≤ row.sequence ∧ row.sequence ≤ table.cursorState.lastSequence := by
    have listed := mem_map_of_mem (f := (·.sequence)) mem
    rw [sound.sequences, mem_range'_1] at listed
    omega
  have selects := historyPredicate_selects inScope queried reader row
  have retained : table.cursorState.retainedFromSequence - 1 < row.sequence
      ↔ table.cursorState.retainedFromSequence ≤ row.sequence := by omega
  rw [← Bool.decide_and, decide_eq_decide]
  constructor
  · rintro ⟨workspace, kept, _, holds⟩
    obtain ⟨shown, named⟩ := selects.mp ⟨workspace, holds⟩
    exact ⟨⟨retained.mp kept, named⟩, shown⟩
  · rintro ⟨⟨kept, named⟩, shown⟩
    obtain ⟨workspace, holds⟩ := selects.mpr ⟨shown, named⟩
    exact ⟨workspace, retained.mpr kept, bounds.2, holds⟩

end Selected

variable {sources : HistorySources} {req : HistoryRequest} {response : IncidentHistoryResponse}

/-- An answer to a caller with all grants comes from a scope with all grants. -/
theorem getIncidentHistory_ok (answered : getIncidentHistory sources req = .ok response)
    (granted : ∀ permission, sources.granted response.clusterId permission = true)
    : ∃ readScope predicate window clusterScope,
        ∃ (workspace_nonempty : req.workspaceId ≠ "")
          (cluster_nonempty : clusterScope.clusterId ≠ ""),
          historyScope req.workspaceId clusterScope.clusterId workspace_nonempty
            cluster_nonempty true true = some readScope
          ∧ historyPredicate readScope window = some predicate
          ∧ response
            = historyResponse sources req readScope predicate clusterScope window true
                true := by
  unfold getIncidentHistory at answered
  simp only [bind, Except.bind, pure, Except.pure] at answered
  repeat' split at answered
  all_goals cases answered
  rename_i report _ named _ _ _ _ _ readScope inScope _ predicate queried
  have inventory : sources.granted report.clusterId .inventoryRead = true := granted .inventoryRead
  have events : sources.granted report.clusterId .evidenceRead = true := granted .evidenceRead
  rw [inventory, events] at inScope
  refine ⟨readScope, predicate, _, {
    workspaceId := req.workspaceId
    clusterId := report.clusterId
    workspace_nonempty := named.1
    cluster_nonempty := named.2 }, named.1, named.2, inScope, queried, ?_⟩
  rw [inventory, events]

/-- A truncated history is not complete. -/
theorem whole_of_complete {req : CompletenessRequest}
    (complete : (assessCompleteness req).status = .complete)
    : req.truncated = false := by
  have known := (CompletenessRequest.complete_iff_silent req).mp complete |>.1
  by_contra truncated
  apply known
  refine .inr (.inr (.inl ?_))
  simp [CompletenessRequest.knownReasons, truncated]

/-- The response shows the rows in the history, each once and in the order of their times. -/
structure ExactHistory (calendar : Calendar) (table : LedgerTable) (workspaceId : String)
    (response : IncidentHistoryResponse)
    : Prop where
  events : response.events.Perm ((table.rows.filter
        (InHistory calendar workspaceId response.clusterId response.window ·)).map eventFromRow)
  once : (response.events.map (·.sourceKey)).Nodup
  ordered : response.events.Pairwise EventBefore

theorem eventBefore_iff (left right : TimelineEvent)
    : EventBefore left right
      ↔ toLex (utcMoment left.occurredAt, left.sourceKey)
        ≤ toLex (utcMoment right.occurredAt, right.sourceKey) := by
  rw [Prod.Lex.toLex_le_toLex]
  rfl

instance : Std.Total EventBefore where
  total _ _ := by
    rw [eventBefore_iff, eventBefore_iff]
    exact le_total _ _

instance : IsTrans TimelineEvent EventBefore where
  trans _ _ _ := by
    rw [eventBefore_iff, eventBefore_iff, eventBefore_iff]
    exact le_trans

/-- The events of a complete answer are the readable rows of the history. -/
theorem complete_events_perm (sound : sources.ledger.Sound)
    (answered : getIncidentHistory sources req = .ok response)
    (granted : ∀ permission, sources.granted response.clusterId permission = true)
    (complete : response.completeness.status = .complete)
    : response.events.Perm
        (((sources.ledger.rows.filter (InHistory sources.reader.calendar req.workspaceId
          response.clusterId response.window ·)).filter (Readable sources.ledger ·)).map
            eventFromRow)
      ∧ response.events.Pairwise EventBefore := by
  obtain ⟨readScope, predicate, window, clusterScope, _, _, inScope, queried, rfl⟩ :=
    getIncidentHistory_ok answered granted
  have whole : (snapshotTimelineEvents sources.reader sources.ledger readScope predicate
      req.limit).truncated = false := whole_of_complete complete
  have read := snapshot_events_perm whole
  rw [selectedRows_eq inScope queried _ sound] at read
  exact ⟨(perm_insertionSort EventBefore _).trans read,
    pairwise_insertionSort EventBefore _⟩

/-- A complete answer to a caller with all grants is the exact history if and only if it hides
no row: none is behind the retention boundary and the cluster is named as the grants name it.
Witness: the events are the readable rows, and rows of a ledger are told apart by their keys.
-/
theorem complete_history_exact_iff (zone : Int → Int) (actions : List LedgerAction)
    (sources : HistorySources) (req : HistoryRequest) (response : IncidentHistoryResponse)
    (reached : sources.ledger = committedTable zone actions req.workspaceId)
    (answered : getIncidentHistory sources req = .ok response)
    (granted : ∀ permission, sources.granted response.clusterId permission = true)
    : (response.completeness.status = .complete
        → ExactHistory sources.reader.calendar sources.ledger req.workspaceId response)
      ↔ (response.completeness.status = .complete
        → ∀ row ∈ sources.ledger.rows,
            InHistory sources.reader.calendar req.workspaceId response.clusterId
              response.window row
            → Readable sources.ledger row) := by
  have sound : sources.ledger.Sound :=
    reached ▸ (committed_history zone actions req.workspaceId).sound
  have sameRow : ∀ {first second : LedgerRow}, first ∈ sources.ledger.rows
      → second ∈ sources.ledger.rows → first.sourceKey = second.sourceKey → first = second :=
    fun inside outside same => inj_on_of_nodup_map sound.unique inside outside same
  refine forall_congr' fun complete => ?_
  obtain ⟨shown, ordered⟩ := complete_events_perm sound answered granted complete
  constructor
  · intro exact row mem inHistory
    have told : eventFromRow row ∈ response.events :=
      exact.events.mem_iff.mpr
        (mem_map_of_mem (mem_filter.mpr ⟨mem, decide_eq_true inHistory⟩))
    obtain ⟨read, selected, same⟩ := mem_map.mp (shown.mem_iff.mp told)
    obtain ⟨inside, readable⟩ := mem_filter.mp selected
    have key : read.sourceKey = row.sourceKey := congrArg (·.sourceKey) same
    rw [sameRow (mem_of_mem_filter inside) mem key] at readable
    exact of_decide_eq_true readable
  · intro readable
    have all : (sources.ledger.rows.filter (InHistory sources.reader.calendar
          req.workspaceId response.clusterId response.window ·)).filter
            (Readable sources.ledger ·)
        = sources.ledger.rows.filter (InHistory sources.reader.calendar req.workspaceId
            response.clusterId response.window ·) := by
      refine filter_eq_self.mpr fun row mem => ?_
      obtain ⟨inside, inHistory⟩ := mem_filter.mp mem
      exact decide_eq_true (readable row inside (of_decide_eq_true inHistory))
    rw [all] at shown
    refine ⟨shown, ?_, ordered⟩
    rw [(shown.map (·.sourceKey)).nodup_iff, map_map]
    exact sound.unique.sublist (filter_sublist.map _)

variable (actions : List LedgerAction)

/-- A cluster whose ledger went through the given actions and whose collector reported as in
`resumedCuts`; its captures were complete, so they leave no coverage interval.
-/
def resumedSources : HistorySources where
  reader := { render := fun _ => "", lower := asciiFolding.casefold, calendar := exactCalendar }
  parseIsoformat := fun _ => none
  report := some {
    workspaceId := "workspace-1"
    correlationId := "incident-1"
    clusterId := "cluster-1" }
  granted := fun _ _ => true
  ledger := committedTable id actions "workspace-1"
  snapshots := resumedCuts
  captureCoverage := fun _ _ => []
  now := 3900000000

def resumedHistory : HistoryRequest where
  workspaceId := "workspace-1"
  correlationId := "incident-1"
  fromMs := some 3600000
  toMs := some 3900000
  from_nonnegative := by simp
  to_positive := by simp
  limit_bounds := by decide

def scaledActions : List LedgerAction :=
  [.append 1 [scaledEvent "workspace-1" (.aware 3700000000) exampleScope.workspace_nonempty],
    .commit 1]

def retiredActions : List LedgerAction :=
  scaledActions ++ [.advanceRetention 2 "workspace-1" 2, .commit 2]

def dueKeys (response : IncidentHistoryResponse) : List String :=
  ((committedTable id actions "workspace-1").rows.filter
    (InHistory exactCalendar "workspace-1" response.clusterId response.window ·)).map (·.sourceKey)

def toldHistory : Option (CompletenessStatus × List String × List String) :=
  (getIncidentHistory (resumedSources actions) resumedHistory).toOption.map fun response =>
    (response.completeness.status, response.events.map (·.sourceKey), dueKeys actions response)

theorem toldHistory_ok {actions : List LedgerAction} {status : CompletenessStatus}
    {shown due : List String} (told : toldHistory actions = some (status, shown, due))
    : ∃ response, getIncidentHistory (resumedSources actions) resumedHistory = .ok response
        ∧ response.completeness.status = status
        ∧ response.events.map (·.sourceKey) = shown
        ∧ dueKeys actions response = due := by
  obtain ⟨response, answered, same⟩ := Option.map_eq_some_iff.mp told
  simp only [Prod.mk.injEq] at same
  cases outcome : getIncidentHistory (resumedSources actions) resumedHistory with
  | error failure => simp [outcome, Except.toOption] at answered
  | ok given =>
    rw [outcome] at answered
    exact ⟨response, by rw [Option.some.inj answered], same⟩

/-- While the event is retained, the complete history shows it. -/
theorem complete_history_exact_scaled
    : ∃ response,
        getIncidentHistory (resumedSources scaledActions) resumedHistory = .ok response
        ∧ response.completeness.status = .complete
        ∧ response.events.map (·.sourceKey) = ["inventory:update:api"]
        ∧ ExactHistory exactCalendar (committedTable id scaledActions "workspace-1")
            "workspace-1" response := by
  have told : toldHistory scaledActions
      = some (.complete, ["inventory:update:api"], ["inventory:update:api"]) := by decide +kernel
  have readable : ∀ row ∈ (committedTable id scaledActions "workspace-1").rows,
      Readable (committedTable id scaledActions "workspace-1") row := by decide +kernel
  obtain ⟨response, answered, complete, shown, _⟩ := toldHistory_ok told
  exact ⟨response, answered, complete, shown,
    (complete_history_exact_iff id scaledActions (resumedSources scaledActions) resumedHistory
      response rfl answered (fun _ => rfl)).mpr (fun _ row mem _ => readable row mem)
      complete⟩

/-- Once the event is retired, the history is still complete and shows nothing. -/
theorem retired_event_hidden
    : ∃ response,
        getIncidentHistory (resumedSources retiredActions) resumedHistory = .ok response
        ∧ response.completeness.status = .complete
        ∧ response.events = []
        ∧ ¬ ExactHistory exactCalendar (committedTable id retiredActions "workspace-1")
            "workspace-1" response := by
  have told : toldHistory retiredActions = some (.complete, [], ["inventory:update:api"]) := by
    decide +kernel
  obtain ⟨response, answered, complete, shown, due⟩ := toldHistory_ok told
  have hidden : response.events = [] := map_eq_nil_iff.mp shown
  refine ⟨response, answered, complete, hidden, ?_⟩
  intro exact
  have rows := exact.events
  rw [hidden, nil_perm, map_eq_nil_iff] at rows
  rw [dueKeys, rows] at due
  simp at due

end K8sClue.History
