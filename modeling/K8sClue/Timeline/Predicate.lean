import K8sClue.Library.Sql
import K8sClue.Postgres.Jsonb
import K8sClue.Timeline.Ledger

/-! The evidence predicate of the Timeline, in Python and in SQL.
Both select the events that a reader may see and has asked for: the Python form on events in
memory, the SQL form on the rows of the ledger.
-/

namespace K8sClue.Timeline

open Python Postgres Library

/-- An authorized read boundary; every source has a grant set of its own. -/
structure TimelineLedgerReadScope where
  workspaceId : String
  scopes : List ClusterScope
  inventoryClusterIds : List String := []
  kubernetesEventClusterIds : List String := []
  incidentClusterIds : List String := []
  applicationWorkflowIds : List String := []
  gitopsApplicationIds : List String := []
  workspace_nonempty : workspaceId ≠ ""
  scopes_nonempty : scopes ≠ []
  scopes_workspace : ∀ scope ∈ scopes, scope.workspaceId = workspaceId
  identities_normalized : ∀ identity
      ∈ inventoryClusterIds ++ kubernetesEventClusterIds ++ incidentClusterIds
        ++ applicationWorkflowIds ++ gitopsApplicationIds,
      strip identity = identity ∧ identity ≠ ""

/-- A caller who may read the Events of one cluster. -/
def eventScope : TimelineLedgerReadScope where
  workspaceId := "workspace-1"
  scopes := [exampleScope]
  kubernetesEventClusterIds := ["cluster-1"]
  workspace_nonempty := exampleScope.workspace_nonempty
  scopes_nonempty := by simp
  scopes_workspace := by decide
  identities_normalized := by decide

inductive TimelineReadMode where
  | live
  | frozen
  deriving DecidableEq

/-- The filters of a query that change which evidence it selects. -/
structure TimelineEvidenceFilters where
  activity : List TimelineActivity := []
  kinds : List String := []
  includeDeleted : Bool := true
  pinnedOnly : Bool := false
  search : String := ""
  deriving DecidableEq

structure TimelineReplayIdentity where
  window : TimelineWindow
  mode : TimelineReadMode
  filters : TimelineEvidenceFilters

/-- The visible pins of a `pinned_only` read: clusters with resource UIDs, and applications. -/
structure TimelinePinMembership where
  revision : Nat
  resourceIdentities : List (String × String) := []
  applicationIds : List String := []
  identities_nonempty : ∀ identity ∈ resourceIdentities, identity.1 ≠ "" ∧ identity.2 ≠ ""

/-- Authorized scope and evidence selection; a pinned read has its pins resolved. -/
structure TimelineEvidencePredicate where
  readScope : TimelineLedgerReadScope
  identity : TimelineReplayIdentity
  pinMembership : Option TimelinePinMembership := none
  resolved : identity.filters.pinnedOnly = true → pinMembership.isSome

structure TimelineFilters where
  activity : List TimelineActivity := []
  kinds : List String := []
  includeDeleted : Bool := true
  pinnedOnly : Bool := false
  query : String := ""
  deriving DecidableEq

/-- The parts of a query that select evidence. -/
structure TimelineQuery where
  window : TimelineWindow
  filters : TimelineFilters := {}
  mode : TimelineReadMode

/-- `TimelineEvidencePredicate.from_query`; a pinned query without pins raises `ValueError`. -/
def TimelineEvidencePredicate.fromQuery (readScope : TimelineLedgerReadScope)
    (query : TimelineQuery) (pinMembership : Option TimelinePinMembership)
    : Option TimelineEvidencePredicate :=
  if resolved : query.filters.pinnedOnly = true → pinMembership.isSome then
    some {
      readScope
      identity := {
        window := query.window
        mode := query.mode
        filters := {
          activity := query.filters.activity
          kinds := query.filters.kinds
          includeDeleted := query.filters.includeDeleted
          pinnedOnly := query.filters.pinnedOnly
          search := strip query.filters.query } }
      pinMembership
      resolved }
  else
    none

/-- Retained history, or a live or frozen stream at the time that the clock shows when it is read:
the predicate's own clock for events in memory, the database's for rows.
-/
inductive TimelinePhase where
  | snapshot
  | stream (now : Int)

/-- Where a live stream ends; everything else ends with the window. -/
def TimelinePhase.liveUntil : TimelinePhase → TimelineReadMode → Option Int
  | .stream now, .live => some now
  | _, _ => none

variable (event : TimelineEvent)

/-- `_event_namespace`, as the predicate reads it. -/
def eventNamespace : Option String :=
  match event.resource, event.subject with
  | some resource, _ => resource.inNamespace
  | none, .resource resource => resource.inNamespace
  | none, .inventoryLocator _ _ _ _ inNamespace _ => inNamespace
  | none, _ => none

def resourceKind : Option String :=
  match event.resource, event.subject with
  | some resource, _ => some resource.kind
  | none, .resource resource => some resource.kind
  | none, .inventoryLocator _ _ _ kind _ _ => some kind
  | none, _ => none

/-- `value in values` for a value that may be `None`; the values are texts. -/
def isOneOf (value : Option String) (values : List String) : Bool :=
  value.any (values.contains ·)

def applicationId : TimelineSubject → Option String
  | .applicationWorkflow applicationId _ _ => some applicationId
  | _ => none

def scopeMatches (scopes : List ClusterScope) : Bool :=
  scopes.any fun scope =>
    event.scope.workspaceId == scope.workspaceId
      && event.scope.clusterId == scope.clusterId
      && (scope.namespaces.isEmpty || isOneOf (eventNamespace event) scope.namespaces)

def sourceIsAuthorized (readScope : TimelineLedgerReadScope) : Bool :=
  match event.source with
  | .inventory => readScope.inventoryClusterIds.contains event.scope.clusterId
  | .kubernetesEvent => readScope.kubernetesEventClusterIds.contains event.scope.clusterId
  | .incident => readScope.incidentClusterIds.contains event.scope.clusterId
  | .applicationWorkflow =>
    isOneOf (applicationId event.subject) readScope.applicationWorkflowIds
  | .gitops => isOneOf (applicationId event.subject) readScope.gitopsApplicationIds

/-- `_is_within_snapshot_window` and `_is_within_stream_window`: a datetime without a zone is
in no window.
-/
def isWithinWindow (calendar : Calendar) (event : TimelineEvent)
    (identity : TimelineReplayIdentity) (phase : TimelinePhase)
    : Bool :=
  match event.occurredAt with
  | .naive _ => false
  | .aware occurredAt =>
    calendar.fromMilliseconds identity.window.fromMs ≤ occurredAt
    && match phase.liveUntil identity.mode with
      | some now => occurredAt ≤ now
      | none => occurredAt < calendar.fromMilliseconds identity.window.toMs

def searchValues : List String :=
  [event.eventId, event.sourceKey, event.nativeId, event.title]
    ++ (match event.resource with
        | some resource => [resource.kind, resource.name, resource.uid]
        | none => [])
    ++ (match event.subject with
        | .resource resource => [resource.kind, resource.name, resource.uid]
        | .inventoryLocator inventoryKey _ _ resourceKind _ name =>
          [resourceKind, name, inventoryKey]
        | .applicationWorkflow applicationId bindingId workflowRunId =>
          [applicationId, bindingId, workflowRunId]
        | .incident incidentId correlationId => incidentId :: correlationId.toList)

def searchMatches (folding : CaseFolding) (event : TimelineEvent) (search : String) : Bool :=
  (searchValues event).any fun value =>
    contains (folding.casefold value) (folding.casefold search)

def matchesFilters (folding : CaseFolding) (event : TimelineEvent)
    (filters : TimelineEvidenceFilters)
    : Bool :=
  (filters.activity.isEmpty || filters.activity.contains event.activity)
    && (filters.kinds.isEmpty || isOneOf (resourceKind event) filters.kinds)
    && (filters.includeDeleted || event.eventType != .delete)
    && (filters.search == "" || searchMatches folding event filters.search)

def matchesPins (filters : TimelineEvidenceFilters) (membership : Option TimelinePinMembership)
    : Bool :=
  if filters.pinnedOnly = false then
    true
  else
    match membership with
    | none => false
    | some pins =>
      let resource :=
        match event.resource, event.subject with
        | some resource, _ => some resource
        | none, .resource resource => some resource
        | none, _ => none
      resource.any (fun known =>
          pins.resourceIdentities.contains (event.scope.clusterId, known.uid))
        || isOneOf (applicationId event.subject) pins.applicationIds

/-- `matches_snapshot` and `matches_stream`. -/
def TimelineEvidencePredicate.matchesEvent (predicate : TimelineEvidencePredicate)
    (calendar : Calendar) (folding : CaseFolding) (phase : TimelinePhase) (event : TimelineEvent)
    : Bool :=
  scopeMatches event predicate.readScope.scopes
    && sourceIsAuthorized event predicate.readScope
    && isWithinWindow calendar event predicate.identity phase
    && matchesFilters folding event predicate.identity.filters
    && matchesPins event predicate.identity.filters predicate.pinMembership

/-- `ResourceRef.model_dump(mode="json")`. -/
def ResourceRef.modelDump (resource : ResourceRef) : PyValue :=
  .dict [
    (.str "api_group", .scalar (.str resource.apiGroup)),
    (.str "version", .scalar (.str resource.version)),
    (.str "kind", .scalar (.str resource.kind)),
    (.str "namespace", .scalar (resource.inNamespace.elim .none .str)),
    (.str "name", .scalar (.str resource.name)),
    (.str "uid", .scalar (.str resource.uid))]

/-- The subjects' `model_dump(mode="json")`. -/
def TimelineSubject.modelDump : TimelineSubject → PyValue
  | .resource known =>
    .dict [(.str "kind", .scalar (.str "resource")), (.str "resource", known.modelDump)]
  | .inventoryLocator inventoryKey apiGroup version resourceKind inNamespace name =>
    .dict [
      (.str "kind", .scalar (.str "inventory_locator")),
      (.str "inventory_key", .scalar (.str inventoryKey)),
      (.str "api_group", .scalar (.str apiGroup)),
      (.str "version", .scalar (.str version)),
      (.str "resource_kind", .scalar (.str resourceKind)),
      (.str "namespace", .scalar (inNamespace.elim .none .str)),
      (.str "name", .scalar (.str name))]
  | .incident incidentId correlationId =>
    .dict [
      (.str "kind", .scalar (.str "incident")),
      (.str "incident_id", .scalar (.str incidentId)),
      (.str "correlation_id", .scalar (correlationId.elim .none .str))]
  | .applicationWorkflow applicationId bindingId workflowRunId =>
    .dict [
      (.str "kind", .scalar (.str "application_workflow")),
      (.str "application_id", .scalar (.str applicationId)),
      (.str "binding_id", .scalar (.str bindingId)),
      (.str "workflow_run_id", .scalar (.str workflowRunId))]

section Sql

variable (render : PyValue → String) (row : LedgerRow)

/-- `resource ->> key`. A missing resource is stored as JSON `null`. -/
def LedgerRow.resourceText (key : String) : Option String :=
  textField render (row.resource.elim (some (.scalar .none)) (some ·.modelDump)) key

def LedgerRow.subjectText (key : String) : Option String :=
  textField render (some row.subject.modelDump) key

def LedgerRow.subjectResourceText (key : String) : Option String :=
  textField render (field (some row.subject.modelDump) "resource") key

def scopeSqlPredicate (scopes : List ClusterScope) : Truth :=
  Truth.any <| scopes.map fun scope =>
    if scope.namespaces.isEmpty then
      Truth.equals (some row.clusterId) scope.clusterId
    else
      Truth.all [
        Truth.equals (some row.clusterId) scope.clusterId,
        Truth.oneOf row.inNamespace scope.namespaces]

/-- A source with its grant set; without a grant the source has no condition at all. -/
def grantSqlPredicate (source : TimelineSource) (identity : Option String) (granted : List String)
    : List Truth :=
  if granted.isEmpty then
    []
  else
    [Truth.all [Truth.equals (some row.source) source, Truth.oneOf identity granted]]

def sourceAuthorizationSqlPredicate (readScope : TimelineLedgerReadScope) : Truth :=
  Truth.any <|
    grantSqlPredicate row .inventory (some row.clusterId) readScope.inventoryClusterIds
    ++ grantSqlPredicate row .kubernetesEvent (some row.clusterId)
        readScope.kubernetesEventClusterIds
    ++ grantSqlPredicate row .incident (some row.clusterId) readScope.incidentClusterIds
    ++ grantSqlPredicate row .applicationWorkflow (row.subjectText render "application_id")
        readScope.applicationWorkflowIds
    ++ grantSqlPredicate row .gitops (row.subjectText render "application_id")
        readScope.gitopsApplicationIds

/-- `timeline_resource_kind_sql`. -/
def resourceKindSql : Option String :=
  ((row.resourceText render "kind").or (row.subjectResourceText render "kind")).or
    (row.subjectText render "resource_kind")

def searchColumns : List (Option String) :=
  [some row.eventId, some row.sourceKey, some row.nativeId, some row.title]
    ++ ["kind", "name", "uid"].map (row.resourceText render)
    ++ ["kind", "name", "uid"].map (row.subjectResourceText render)
    ++ ["resource_kind", "name", "inventory_key", "application_id", "binding_id",
        "workflow_run_id", "incident_id", "correlation_id"].map (row.subjectText render)

def pinMembershipSqlPredicate : Option TimelinePinMembership → Truth
  | none => some false
  | some pins =>
    Truth.any <|
      (pins.resourceIdentities.map fun identity =>
        Truth.all [
          Truth.equals (some row.clusterId) identity.1,
          Truth.any [
            Truth.equals (row.resourceText render "uid") identity.2,
            Truth.equals (row.subjectResourceText render "uid") identity.2]])
      ++ (if pins.applicationIds.isEmpty then
            []
          else
            [Truth.oneOf (row.subjectText render "application_id") pins.applicationIds])

end Sql

/-- The characters that `LIKE` and `ILIKE` read as patterns under `ESCAPE '\'`. -/
def likeWildcards : Wildcards Char where
  many := '%'
  one := '_'
  escape := '\\'
  many_ne_one := by decide
  many_ne_escape := by decide
  one_ne_escape := by decide

/-- `text.replace(old, new)` for one character. -/
def replaceChar (old : Char) (new text : List Char) : List Char :=
  text.flatMap fun char => if char = old then new else [char]

/-- `_escape_like` of the inventory filters. -/
def escapeLike (value : String) : String :=
  String.ofList (replaceChar '_' ['\\', '_']
    (replaceChar '%' ['\\', '%'] (replaceChar '\\' ['\\', '\\'] value.toList)))

def escapedContainsPattern (search : String) : String :=
  let escaped :=
    replaceChar '_' ['\\', '_']
      (replaceChar '%' ['\\', '%'] (replaceChar '\\' ['\\', '\\'] search.toList))
  String.ofList (['%'] ++ escaped ++ ['%'])

/-- `column ILIKE pattern ESCAPE '\'`: both sides are lowered before they are compared. -/
def ilike (lower : String → String) (column : Option String) (pattern : String) : Truth :=
  Truth.test column fun text =>
    likeWildcards.like (lower text).toList (lower pattern).toList = true

def timelineEvidenceSqlPredicate (render : PyValue → String) (lower : String → String)
    (calendar : Calendar) (predicate : TimelineEvidencePredicate) (phase : TimelinePhase)
    (row : LedgerRow)
    : Truth :=
  let identity := predicate.identity
  let filters := identity.filters
  Truth.all <|
    [scopeSqlPredicate row predicate.readScope.scopes,
      sourceAuthorizationSqlPredicate render row predicate.readScope,
      Truth.test (some row.occurredAt) (calendar.fromMilliseconds identity.window.fromMs ≤ ·),
      match phase.liveUntil identity.mode with
      -- The database's clock rejects facts dated in the future.
      | some now => Truth.test (some row.occurredAt) (· ≤ now)
      | none =>
        Truth.test (some row.occurredAt) (· < calendar.fromMilliseconds identity.window.toMs)]
    ++ (if filters.activity.isEmpty then
          []
        else
          [Truth.oneOf (some row.activity) filters.activity])
    ++ (if filters.kinds.isEmpty then
          []
        else
          [Truth.oneOf (resourceKindSql render row) filters.kinds])
    ++ (if filters.includeDeleted then
          []
        else
          [Truth.test (some row.eventType) (· ≠ .delete)])
    ++ (if filters.search = "" then
          []
        else
          [Truth.any ((searchColumns render row).map
            (ilike lower · (escapedContainsPattern filters.search)))])
    ++ (if filters.pinnedOnly then
          [pinMembershipSqlPredicate render row predicate.pinMembership]
        else
          [])

end K8sClue.Timeline
