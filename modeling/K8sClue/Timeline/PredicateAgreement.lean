import K8sClue.Timeline.Predicate
import Mathlib.Data.List.ReduceOption

/-! The two forms of the evidence predicate select the same events.
The SQL form leaves the workspace to the statement around it and reads a datetime without a
zone as a moment; where these two agree, so do the predicates.
-/

namespace K8sClue.Timeline

open Python Postgres Library List

section Columns

variable (render : PyValue → String) (row : LedgerRow)

def subjectResource : TimelineSubject → Option ResourceRef
  | .resource known => some known
  | _ => none

theorem resourceText_eq
    : row.resourceText render "kind" = row.resource.map (·.kind)
      ∧ row.resourceText render "name" = row.resource.map (·.name)
      ∧ row.resourceText render "uid" = row.resource.map (·.uid) := by
  unfold LedgerRow.resourceText
  cases row.resource with
  | none => exact ⟨rfl, rfl, rfl⟩
  | some resource => exact ⟨rfl, rfl, rfl⟩

theorem subjectResourceText_eq
    : row.subjectResourceText render "kind" = (subjectResource row.subject).map (·.kind)
      ∧ row.subjectResourceText render "name" = (subjectResource row.subject).map (·.name)
      ∧ row.subjectResourceText render "uid" = (subjectResource row.subject).map (·.uid) := by
  unfold LedgerRow.subjectResourceText
  cases row.subject <;> exact ⟨rfl, rfl, rfl⟩

theorem subjectText_applicationId
    : row.subjectText render "application_id" = applicationId row.subject := by
  unfold LedgerRow.subjectText
  cases row.subject <;> rfl

/-- The texts of the subject's columns, besides those of its resource. -/
def subjectTexts : TimelineSubject → List String
  | .resource _ => []
  | .inventoryLocator inventoryKey _ _ resourceKind _ name => [resourceKind, name, inventoryKey]
  | .incident incidentId correlationId => incidentId :: correlationId.toList
  | .applicationWorkflow applicationId bindingId workflowRunId =>
    [applicationId, bindingId, workflowRunId]

theorem subjectText_texts
    : (["resource_kind", "name", "inventory_key", "application_id", "binding_id",
        "workflow_run_id", "incident_id", "correlation_id"].map
          (row.subjectText render)).reduceOption
      = subjectTexts row.subject := by
  unfold LedgerRow.subjectText
  cases row.subject with
  | incident incidentId correlationId => cases correlationId <;> rfl
  | _ => rfl

theorem resourceKindSql_eq
    : resourceKindSql render row
      = ((row.resource.map (·.kind)).or ((subjectResource row.subject).map (·.kind))).or
          (match row.subject with
            | .inventoryLocator _ _ _ resourceKind _ _ => some resourceKind
            | _ => none) := by
  have located : row.subjectText render "resource_kind"
      = match row.subject with
        | .inventoryLocator _ _ _ resourceKind _ _ => some resourceKind
        | _ => none := by
    unfold LedgerRow.subjectText
    cases row.subject <;> rfl
  rw [resourceKindSql, (resourceText_eq render row).1, (subjectResourceText_eq render row).1,
    located]

end Columns

/-- A text is searched in the ledger exactly if it is searched in the event. -/
theorem mem_searchColumns (render : PyValue → String) (zone : Int → Int)
    (event : TimelineEvent) (sequence : Nat) (text : String)
    : some text ∈ searchColumns render (eventValues zone event sequence)
      ↔ text ∈ searchValues event := by
  obtain ⟨kind, name, uid⟩ := resourceText_eq render (eventValues zone event sequence)
  obtain ⟨subjectKind, subjectName, subjectUid⟩ :=
    subjectResourceText_eq render (eventValues zone event sequence)
  have texts := subjectText_texts render (eventValues zone event sequence)
  rw [← reduceOption_mem_iff, searchColumns, reduceOption_append, texts]
  simp only [map_cons, kind, name, uid, subjectKind, subjectName, subjectUid, searchValues]
  cases related : event.resource <;> cases about : event.subject <;>
    simp [eventValues, related, about, subjectResource, subjectTexts]

-----------------------------------------------------------------------------------------
-- Each condition in both forms
-----------------------------------------------------------------------------------------

theorem isOneOf_iff {value : Option String} {values : List String}
    : isOneOf value values = true ↔ ∃ known ∈ values, value = some known := by
  cases value <;> simp [isOneOf]

variable {event : TimelineEvent}

/-- The two readings of an event's namespace differ for no valid event. -/
theorem TimelineEvent.Valid.namespace_eq (valid : event.Valid)
    : storedNamespace event = eventNamespace event := by
  unfold storedNamespace eventNamespace
  cases related : event.resource with
  | some resource => rfl
  | none =>
    cases about : event.subject with
    | resource known =>
      have held := valid.resourceRelation known about
      simp [related] at held
    | _ => rfl

section Agreement

variable (render : PyValue → String) (zone : Int → Int) {event : TimelineEvent} (sequence : Nat)

theorem scope_agrees (valid : event.Valid) (readScope : TimelineLedgerReadScope)
    : scopeMatches event readScope.scopes = true
      ↔ event.scope.workspaceId = readScope.workspaceId
        ∧ scopeSqlPredicate (eventValues zone event sequence) readScope.scopes = some true := by
  have each : ∀ scope : ClusterScope,
      (if scope.namespaces.isEmpty then
          Truth.equals (some event.scope.clusterId) scope.clusterId
        else
          Truth.all [
            Truth.equals (some event.scope.clusterId) scope.clusterId,
            Truth.oneOf (storedNamespace event) scope.namespaces]) = some true
      ↔ event.scope.clusterId = scope.clusterId
        ∧ (scope.namespaces.isEmpty = true
          ∨ isOneOf (eventNamespace event) scope.namespaces = true) := by
    intro scope
    rw [valid.namespace_eq, isOneOf_iff]
    cases scope.namespaces.isEmpty <;> simp
  simp only [scopeMatches, any_eq_true, Bool.and_eq_true, Bool.or_eq_true, beq_iff_eq,
    scopeSqlPredicate, Truth.any_eq_true, mem_map, eventValues, each, and_assoc]
  constructor
  · rintro ⟨scope, mem, workspace, inside⟩
    exact ⟨workspace.trans (readScope.scopes_workspace scope mem), scope, mem, inside⟩
  · rintro ⟨workspace, scope, mem, inside⟩
    exact ⟨scope, mem, workspace.trans (readScope.scopes_workspace scope mem).symm, inside⟩

theorem mem_grantSqlPredicate {row : LedgerRow} {source : TimelineSource}
    {identity : Option String} {granted : List String}
    : some true ∈ grantSqlPredicate row source identity granted
      ↔ row.source = source ∧ ∃ known ∈ granted, identity = some known := by
  unfold grantSqlPredicate
  cases granted with
  | nil => simp
  | cons first rest =>
    rw [if_neg (by simp), mem_singleton, eq_comm]
    simp

theorem source_agrees (readScope : TimelineLedgerReadScope)
    : sourceIsAuthorized event readScope = true
      ↔ sourceAuthorizationSqlPredicate render (eventValues zone event sequence) readScope
        = some true := by
  rw [sourceAuthorizationSqlPredicate, Truth.any_eq_true, subjectText_applicationId]
  simp only [mem_append, mem_grantSqlPredicate, eventValues, sourceIsAuthorized]
  cases event.source <;> simp [isOneOf_iff]

theorem window_agrees (calendar : Calendar) (identity : TimelineReplayIdentity)
    (phase : TimelinePhase)
    : isWithinWindow calendar event identity phase = true
      ↔ (∃ moment, event.occurredAt = .aware moment)
        ∧ Truth.test (some (eventValues zone event sequence).occurredAt)
            (calendar.fromMilliseconds identity.window.fromMs ≤ ·) = some true
        ∧ (match phase.liveUntil identity.mode with
            | some now => Truth.test (some (eventValues zone event sequence).occurredAt) (· ≤ now)
            | none =>
              Truth.test (some (eventValues zone event sequence).occurredAt)
                (· < calendar.fromMilliseconds identity.window.toMs))
          = some true := by
  unfold isWithinWindow
  cases at_ : event.occurredAt with
  | naive wallClock => simp
  | aware moment =>
    cases phase.liveUntil identity.mode <;> simp [eventValues, at_, storedMoment]

theorem kind_agrees
    : resourceKindSql render (eventValues zone event sequence) = resourceKind event := by
  rw [resourceKindSql_eq]
  unfold resourceKind
  cases related : event.resource <;> cases about : event.subject <;>
    simp [eventValues, related, about, subjectResource]

/-- A valid event has the resource of its subject, if that is one. -/
theorem TimelineEvent.Valid.subjectResource_eq (valid : event.Valid) {resource : ResourceRef}
    (about : subjectResource event.subject = some resource)
    : event.resource = some resource := by
  unfold subjectResource at about
  split at about
  next known is_resource =>
    rw [valid.resourceRelation known is_resource]
    exact about
  · simp at about

theorem pins_agree (valid : event.Valid) (pins : TimelinePinMembership)
    {filters : TimelineEvidenceFilters} (pinned : filters.pinnedOnly = true)
    : matchesPins event filters (some pins) = true
      ↔ pinMembershipSqlPredicate render (eventValues zone event sequence) (some pins)
        = some true := by
  obtain ⟨_, _, uid⟩ := resourceText_eq render (eventValues zone event sequence)
  obtain ⟨_, _, subjectUid⟩ := subjectResourceText_eq render (eventValues zone event sequence)
  have listed : some true ∈ (if pins.applicationIds.isEmpty then
        []
      else
        [Truth.oneOf (applicationId event.subject) pins.applicationIds])
      ↔ isOneOf (applicationId event.subject) pins.applicationIds = true := by
    rw [isOneOf_iff]
    cases pins.applicationIds with
    | nil => simp
    | cons first rest =>
      rw [if_neg (by simp), mem_singleton, eq_comm, Truth.oneOf_eq_true]
  have pinned_resource : ∀ identity : String × String,
      Truth.all [
        Truth.equals (some event.scope.clusterId) identity.1,
        Truth.any [
          Truth.equals (event.resource.map (·.uid)) identity.2,
          Truth.equals ((subjectResource event.subject).map (·.uid)) identity.2]] = some true
      ↔ event.scope.clusterId = identity.1 ∧ event.resource.map (·.uid) = some identity.2 := by
    intro identity
    simp only [Truth.all_eq_true, mem_cons, not_mem_nil, or_false, forall_eq_or_imp,
      forall_eq, Truth.equals_eq_true, Option.some.injEq, Truth.any_eq_true,
      eq_comm (a := some true)]
    refine and_congr_right (fun _ => ⟨?_, .inl⟩)
    rintro (related | about)
    · exact related
    · obtain ⟨known, is_resource, same⟩ := Option.map_eq_some_iff.mp about
      rw [valid.subjectResource_eq is_resource, Option.map_some, same]
  rw [pinMembershipSqlPredicate, Truth.any_eq_true, mem_append, uid, subjectUid,
    subjectText_applicationId]
  simp only [eventValues, listed, mem_map, pinned_resource]
  simp only [matchesPins, pinned, Bool.true_eq_false, if_false, Bool.or_eq_true]
  refine or_congr ?_ Iff.rfl
  cases related : event.resource with
  | some resource =>
    simp only [Option.any_some, contains_iff_mem, Option.map_some, Option.some.injEq]
    constructor
    · intro mem
      exact ⟨_, mem, rfl, rfl⟩
    · rintro ⟨identity, mem, cluster, same⟩
      rw [cluster, same]
      exact mem
  | none =>
    cases about : event.subject with
    | resource known =>
      have held := valid.resourceRelation known about
      simp [related] at held
    | _ => simp

end Agreement

-----------------------------------------------------------------------------------------
-- The search
-----------------------------------------------------------------------------------------

/-- Replacing the three wildcards one after the other escapes each of them once. -/
theorem escapedContainsPattern_toList (search : String)
    : (escapedContainsPattern search).toList = likeWildcards.containsPattern search.toList := by
  have escaped : replaceChar '_' ['\\', '_']
      (replaceChar '%' ['\\', '%'] (replaceChar '\\' ['\\', '\\'] search.toList))
      = likeWildcards.escaped search.toList := by
    simp only [replaceChar, flatMap_assoc]
    refine flatMap_congr (fun char _ => ?_)
    by_cases backslash : char = '\\'
    · subst backslash
      decide
    by_cases percent : char = '%'
    · subst percent
      decide
    by_cases underscore : char = '_'
    · subst underscore
      decide
    · simp [backslash, percent, underscore, Wildcards.Special, likeWildcards]
  simp only [escapedContainsPattern, escaped, String.toList_ofList]
  rfl

/-- The pattern of a search is one that the database accepts, and it matches a column exactly if
the search occurs in it.
-/
theorem search_pattern_exact (search column : String)
    : "%" ++ escapeLike search ++ "%" = escapedContainsPattern search
      ∧ (likeWildcards.pieces (escapedContainsPattern search).toList).isSome
      ∧ (likeWildcards.like column.toList (escapedContainsPattern search).toList = true
          ↔ search.toList <:+: column.toList) := by
  have itself : likeWildcards.like search.toList (escapedContainsPattern search).toList = true := by
    rw [escapedContainsPattern_toList, Wildcards.like_containsPattern]
  refine ⟨?_, ?_, ?_⟩
  · rw [escapedContainsPattern, String.ofList_append, String.ofList_append]
    rfl
  · unfold Wildcards.like at itself
    split at itself
    · cases itself
    · rename_i accepted
      rw [accepted, Option.isSome_some]
  · rw [escapedContainsPattern_toList, Wildcards.like_containsPattern]

/-- Case folding and escaping may be done in either order. -/
theorem casefold_escaped (folding : CaseFolding) (text : List Char)
    : (likeWildcards.escaped text).flatMap folding.fold
      = likeWildcards.escaped (text.flatMap folding.fold) := by
  have special_iff : ∀ char, likeWildcards.Special char ↔ char ∈ ['%', '_', '\\'] := by
    simp [Wildcards.Special, likeWildcards]
  simp only [Wildcards.escaped, flatMap_assoc]
  refine flatMap_congr (fun char _ => ?_)
  by_cases special : likeWildcards.Special char
  · have itself := folding.fixed char ((special_iff char).mp special)
    have backslash : folding.fold likeWildcards.escape = [likeWildcards.escape] :=
      folding.fixed '\\' (by simp)
    simp [special, itself, backslash]
  · have plain : ∀ folded ∈ folding.fold char, ¬ likeWildcards.Special folded := by
      intro folded mem meaning
      have same := folding.reserved char folded mem ((special_iff folded).mp meaning)
      exact special (same ▸ meaning)
    rw [if_neg special, flatMap_singleton]
    calc folding.fold char
        = (folding.fold char).flatMap (fun folded => [folded]) := by simp
      _ = _ := flatMap_congr fun folded mem => by rw [if_neg (plain folded mem)]

variable {folding : CaseFolding} {lower : String → String} {search : String}

/-- The database finds a text under a pattern exactly if Python finds it. -/
theorem ilike_agrees {text : String} (text_folds : lower text = folding.casefold text)
    (pattern_folds
      : lower (escapedContainsPattern search) = folding.casefold (escapedContainsPattern search))
    : ilike lower (some text) (escapedContainsPattern search) = some true
      ↔ contains (folding.casefold text) (folding.casefold search) = true := by
  have pattern : (folding.casefold (escapedContainsPattern search)).toList
      = likeWildcards.containsPattern (folding.casefold search).toList := by
    have percent := folding.fixed '%' (by simp)
    simp only [CaseFolding.casefold, escapedContainsPattern_toList,
      Wildcards.containsPattern, flatMap_append, casefold_escaped]
    simp [likeWildcards, percent]
  simp only [ilike, Truth.test_eq_true, Option.some.injEq, exists_eq_left', text_folds,
    pattern_folds, pattern, Wildcards.like_containsPattern, contains_iff]

/-- The search finds a row exactly if it finds the event. -/
theorem search_agrees (render : PyValue → String) (zone : Int → Int) (sequence : Nat)
    (folds : ∀ text ∈ escapedContainsPattern search :: searchValues event,
        lower text = folding.casefold text)
    : searchMatches folding event search = true
      ↔ Truth.any ((searchColumns render (eventValues zone event sequence)).map
          (ilike lower · (escapedContainsPattern search))) = some true := by
  have pattern_folds := folds _ mem_cons_self
  rw [Truth.any_eq_true, mem_map, searchMatches, any_eq_true]
  constructor
  · rintro ⟨text, mem, found⟩
    refine ⟨some text, (mem_searchColumns render zone event sequence text).mpr mem, ?_⟩
    exact (ilike_agrees (folds text (mem_cons_of_mem _ mem)) pattern_folds).mpr found
  · rintro ⟨column, mem, found⟩
    cases column with
    | none => simp [ilike] at found
    | some text =>
      have searched := (mem_searchColumns render zone event sequence text).mp mem
      refine ⟨text, searched, ?_⟩
      exact (ilike_agrees (folds text (mem_cons_of_mem _ searched)) pattern_folds).mp found

-----------------------------------------------------------------------------------------
-- The whole predicate
-----------------------------------------------------------------------------------------

theorem filters_agree (render : PyValue → String) (zone : Int → Int)
    (sequence : Nat) {filters : TimelineEvidenceFilters}
    (folds : ∀ text ∈ escapedContainsPattern filters.search :: searchValues event,
        lower text = folding.casefold text)
    : matchesFilters folding event filters = true
      ↔ ∀ condition
          ∈ (if filters.activity.isEmpty then
                []
              else
                [Truth.oneOf (some (eventValues zone event sequence).activity) filters.activity])
            ++ (if filters.kinds.isEmpty then
                  []
                else
                  [Truth.oneOf (resourceKindSql render (eventValues zone event sequence))
                    filters.kinds])
            ++ (if filters.includeDeleted then
                  []
                else
                  [Truth.test (some (eventValues zone event sequence).eventType) (· ≠ .delete)])
            ++ (if filters.search = "" then
                  []
                else
                  [Truth.any ((searchColumns render (eventValues zone event sequence)).map
                    (ilike lower · (escapedContainsPattern filters.search)))]),
          condition = some true := by
  have searched := search_agrees render zone sequence folds
  rw [kind_agrees]
  simp only [matchesFilters, Bool.and_eq_true, Bool.or_eq_true, mem_append, or_imp,
    forall_and, isOneOf_iff, searched]
  refine and_congr (and_congr (and_congr ?_ ?_) ?_) ?_
  · cases filters.activity <;> simp [eventValues]
  · cases filters.kinds <;> simp
  · cases filters.includeDeleted <;> simp [eventValues]
  · by_cases empty : filters.search = "" <;> simp [empty]

/-- The predicate on events holds exactly if the event is in the authorized workspace, its time
has a zone and the predicate on rows is true of its row.
Witness: condition by condition.
-/
theorem matchesEvent_iff_sql (render : PyValue → String) (lower : String → String)
    (zone : Int → Int) (calendar : Calendar) (folding : CaseFolding)
    (predicate : TimelineEvidencePredicate) (phase : TimelinePhase) (event : TimelineEvent)
    (sequence : Nat) (valid : event.Valid)
    (folds
      : ∀ text ∈ escapedContainsPattern predicate.identity.filters.search :: searchValues event,
          lower text = folding.casefold text)
    : predicate.matchesEvent calendar folding phase event = true
      ↔ event.scope.workspaceId = predicate.readScope.workspaceId
        ∧ (∃ moment, event.occurredAt = .aware moment)
        ∧ timelineEvidenceSqlPredicate render lower calendar predicate phase
            (eventValues zone event sequence) = some true := by
  have pins : matchesPins event predicate.identity.filters predicate.pinMembership = true
      ↔ ∀ condition
          ∈ (if predicate.identity.filters.pinnedOnly then
              [pinMembershipSqlPredicate render (eventValues zone event sequence)
                predicate.pinMembership]
            else
              []),
          condition = some true := by
    cases pinned : predicate.identity.filters.pinnedOnly with
    | false => simp [matchesPins, pinned]
    | true =>
      obtain ⟨membership, resolved⟩ := Option.isSome_iff_exists.mp (predicate.resolved pinned)
      rw [resolved, pins_agree render zone sequence valid membership pinned]
      simp
  rw [TimelineEvidencePredicate.matchesEvent, timelineEvidenceSqlPredicate, Truth.all_eq_true]
  simp only [Bool.and_eq_true, scope_agrees zone sequence valid, source_agrees render zone sequence,
    window_agrees zone sequence, filters_agree render zone sequence folds]
  simp only [mem_append, mem_cons, or_imp, forall_and, forall_eq]
  tauto

-----------------------------------------------------------------------------------------
-- Where the row alone does not tell
-----------------------------------------------------------------------------------------

/-- A change of a deployment at second one, as the given workspace and datetime report it. -/
def scaledEvent (workspaceId : String) (occurredAt : Datetime)
    (workspace_nonempty : workspaceId ≠ "")
    : TimelineEvent where
  eventId := "inventory:update:api"
  source := .inventory
  sourceKey := "inventory:update:api"
  nativeId := "api"
  activity := .change
  occurredAt := occurredAt
  scope := {
    workspaceId
    clusterId := "cluster-1"
    workspace_nonempty
    cluster_nonempty := exampleScope.cluster_nonempty }
  subject := .inventoryLocator "api" "apps" "v1" "Deployment" (some "web") "api"
  resource := none
  eventType := .update
  severity := .info
  title := "Deployment api updated"

theorem scaledEvent_valid (workspaceId : String) (occurredAt : Datetime)
    (workspace_nonempty : workspaceId ≠ "")
    : (scaledEvent workspaceId occurredAt workspace_nonempty).Valid where
  eventId := (by decide : Bounded "inventory:update:api" 512)
  sourceKey := (by decide : Bounded "inventory:update:api" 1024)
  nativeId := (by decide : Bounded "api" 1024)
  title := (by decide : Bounded "Deployment api updated" 1000)
  subject := ⟨by decide, by decide, by decide, by decide⟩
  resource := by simp [scaledEvent]
  owner := by simp [scaledEvent]
  applicationSource := by simp [scaledEvent]
  resourceRelation := by simp [scaledEvent]
  locatorRelation := by simp [scaledEvent]

/-- A search for `API` in the inventory of a cluster during its first minute. -/
def searchApi : TimelineEvidencePredicate where
  readScope := { eventScope with
    inventoryClusterIds := ["cluster-1"]
    kubernetesEventClusterIds := []
    identities_normalized := by decide }
  identity := {
    window := firstMinute
    mode := .frozen
    filters := { search := "API" } }
  resolved := by simp

/-- The predicate of the search on the row of an event, for a session in UTC. -/
def searchApiSql (event : TimelineEvent) : Truth :=
  timelineEvidenceSqlPredicate (fun _ => "") asciiFolding.casefold exactCalendar searchApi
    .snapshot (eventValues id event 1)

/-- An event of another workspace, and one whose time has no zone, are selected by their rows
alone, but not in memory.
-/
theorem searchApi_rows_differ
    : (searchApiSql (scaledEvent "workspace-2" (.aware 1000000) (by decide)) = some true
        ∧ searchApi.matchesEvent exactCalendar asciiFolding .snapshot
            (scaledEvent "workspace-2" (.aware 1000000) (by decide)) = false)
      ∧ searchApiSql (scaledEvent "workspace-1" (.naive 1000000) (by decide)) = some true
      ∧ searchApi.matchesEvent exactCalendar asciiFolding .snapshot
          (scaledEvent "workspace-1" (.naive 1000000) (by decide)) = false := by
  decide +kernel

/-- In its own workspace and with a zone, the event is selected in both ways. -/
theorem matchesEvent_iff_sql_searchApi
    : searchApi.matchesEvent exactCalendar asciiFolding .snapshot
        (scaledEvent "workspace-1" (.aware 1000000) (by decide)) = true
      ∧ searchApiSql (scaledEvent "workspace-1" (.aware 1000000) (by decide)) = some true := by
  have agrees := matchesEvent_iff_sql (fun _ => "") asciiFolding.casefold id exactCalendar
    asciiFolding searchApi .snapshot (scaledEvent "workspace-1" (.aware 1000000) (by decide)) 1
    (scaledEvent_valid _ _ _) (fun _ _ => rfl)
  have selected : searchApi.matchesEvent exactCalendar asciiFolding .snapshot
      (scaledEvent "workspace-1" (.aware 1000000) (by decide)) = true := by decide +kernel
  exact ⟨selected, (agrees.mp selected).2.2⟩

end K8sClue.Timeline
