import K8sClue.Recovery.PlanStore
import Mathlib.Data.List.Sort
import Mathlib.Data.String.Basic

/-! The handlers that move a recovery plan through its lifecycle.
Each one reads the row without a lock, computes a write from what it read, and leaves the
write to a compare-and-set on the status. What a handler reads from elsewhere (workflow runs,
approvals, evidence, poll targets) is an input of its computation.
-/

namespace K8sClue.Recovery

open Python SourcePatch

inductive PlanEvent where
  | prTracked (planId prUrl : String)
  | followupRequired (reasonCode : String)
  | prMerged (planId workflowRunId : String)
  | deployRequested (req : DeploymentRequest)
  | verificationStarted (planId workflowRunId : String) (startedAt deadlineAt : Instant)
  | verificationUpdated (planId : String) (status : DecisionStatus) (reasonCode : String)
  | verificationFailed (planId reasonCode : String)
  | incidentResolved (incidentId planId : String)
  | retryRequested (planId stage : String) (attempt : Nat) (workflowRunId : Option String)
  | actionSelected (planId actionId : String)
  deriving DecidableEq

/-- What a handler does after its read, and the events it emits if that succeeds. -/
inductive PlanWrite where
  | update (update : LifecycleUpdate) (events : List PlanEvent)
  | reopen (actionId : String) (events : List PlanEvent)

/-- `value.strip() if isinstance(value, str) else ""`. -/
def textValue : PyValue → String
  | .scalar (.str value) => strip value
  | _ => ""

-----------------------------------------------------------------------------------------
-- on_recovery_safe_pr_created
-----------------------------------------------------------------------------------------

structure SafePrCreated where
  (workspaceId correlationId mode prUrl : String)
  prNumber : Option Int
  (prNodeId headRef headSha repositoryId bindingId applicationId repoRef baseBranch : String)
  (commitSha manifestPath environment patchSha256 : String)
  deriving DecidableEq

/-- The numbers taken from the approved parameters, the evidence of the incident, its alert
and the registration of its cluster.
-/
structure Baseline where
  failureRatio : Option ℚ
  failureRatioIdentified : Bool
  requestRate : Option ℚ
  (requestRateIdentified alertAvailable : Bool)
  alertThreshold : Option ℚ
  (expectedReplicas evidenceCadenceSeconds : Option Nat)
  (protectedWorkloads protectedSessions : Bool)
  (minimumSeconds maximumSeconds : Nat)
  deriving DecidableEq

def safePrRoute : String := "draft_pr"

variable (row : PlanRow)

def selectedRecoveryCandidate : Option RecoveryCandidate :=
  let selected := text row.selectedActionId
  if selected = "" then
    none
  else
    match row.payload.candidates.filter (fun candidate => strip candidate.actionId = selected) with
    | [candidate] => some candidate
    | _ => none

def safePrIdentityError (event : SafePrCreated) (params : Entries) : Option String :=
  let complete := event.mode = "github_rest" ∧ startsWith event.prUrl "https://"
    ∧ 0 < event.prNumber.getD 0 ∧ event.prNodeId ≠ "" ∧ event.headRef ≠ ""
    ∧ isCommitSha event.headSha
  let expected :=
    [("repository_id", event.repositoryId), ("binding_id", event.bindingId),
      ("application_id", event.applicationId), ("repo_ref", event.repoRef),
      ("base_branch", event.baseBranch), ("commit_sha", event.commitSha)]
  if ¬complete then
    some "생성된 PR의 number/node/head SHA가 없어 merge를 안전하게 추적할 수 없습니다."
  else if expected.any (fun field => textValue (getOrNone params field.1) ≠ field.2) then
    some "생성된 PR identity가 승인된 GitOps 권위 context와 일치하지 않습니다."
  else
    none

/-- The worker's `approved_change_contract`: the changes to authorize, none if any is bad. -/
def authorizedChanges : List String → List PyValue → Option (List PyValue)
  | _, [] => some []
  | paths, .dict entries :: rest =>
    let fieldPath := textValue (getOrNone entries "field_path")
    match getKey entries "current_value", getKey entries "desired_value" with
    | some current, some desired =>
      if fieldPath = "" ∨ fieldPath ∈ paths then
        none
      else
        (authorizedChanges (fieldPath :: paths) rest).map (fun changes =>
          .dict [(.str "field_path", .scalar (.str fieldPath)),
            (.str "current_value", current), (.str "desired_value", desired)]
            :: changes)
    | _, _ => none
  | _, _ => none

def approvedChangesOf : PyValue → List PyValue
  | .list items => (authorizedChanges [] items).getD []
  | _ => []

/-- `missing_prerequisites`, sorted and without repetition. -/
def missingPrerequisites (params : Entries) (baseline : Baseline) (changes : List PyValue)
    : List String :=
  let continuity :=
    textValue (getOrNone params "verification_contract") = "protected_workload_continuity"
      ∧ ¬(baseline.protectedWorkloads ∧ baseline.protectedSessions)
  let missing :=
    (if continuity then
      ["metadata:current_workload_snapshots", "metrics:kyro_continuity_active_sessions"]
    else [])
    ++ (if baseline.failureRatio = none then ["metrics:kyro_sli_failure_ratio"] else [])
    ++ (if baseline.failureRatioIdentified then []
      else ["metrics:kyro_sli_failure_ratio_identity"])
    ++ (if 0 < baseline.requestRate.getD 0 then [] else ["metrics:kyro_sli_request_rate"])
    ++ (if baseline.requestRateIdentified then []
      else ["metrics:kyro_sli_request_rate_identity"])
    ++ (if baseline.alertAvailable ∧ baseline.alertThreshold ≠ none then []
      else ["alertmanager:original_exact_alert"])
    ++ (if baseline.expectedReplicas = none then ["gitops:approved_replica_baseline"] else [])
    ++ (if changes.isEmpty then ["gitops:approved_change_contract"] else [])
    ++ (if 0 < baseline.evidenceCadenceSeconds.getD 0 then [] else ["cluster:evidence_cadence"])
  missing.dedup.insertionSort (· ≤ ·)

/-- The lifecycle of a tracked pull request. -/
def trackedLifecycle (candidate : RecoveryCandidate) (event : SafePrCreated)
    (params : Entries) (baseline : Baseline) (now : Instant)
    : Lifecycle :=
  let attempt := row.payload.lifecycle.attempt
  let clusterId :=
    strip (if candidate.clusterId = "" then row.payload.clusterId else candidate.clusterId)
  let changes := approvedChangesOf (getOrNone params "authorized_changes")
  { Lifecycle.empty with
    phase := some .prOpen
    attempt := attempt
    pr :=
      some
        {
          url := event.prUrl
          number := event.prNumber.getD 0
          nodeId := event.prNodeId
          headRef := event.headRef
          headSha := event.headSha
          repoRef := event.repoRef
          repositoryId := event.repositoryId
          bindingId := event.bindingId
          applicationId := event.applicationId
          baseBranch := event.baseBranch
          manifestPath := event.manifestPath
          environment := event.environment
          clusterId := clusterId
          patchSha256 := event.patchSha256
          trackedAt := now
          attemptId := attempt.bind (fun current => orNone (strip current.id)) }
    verification :=
      some
        { Verification.empty with
          window :=
            {
              startedAt := none
              deadlineAt := none
              minimumSeconds := some baseline.minimumSeconds
              evidenceCadenceSeconds := baseline.evidenceCadenceSeconds.map Int.ofNat }
          maximumSeconds := some baseline.maximumSeconds
          blockers := missingPrerequisites params baseline changes }
    changes := some (.list changes) }

def onRecoverySafePrCreated (event : SafePrCreated) (params : Entries)
    (baseline : Baseline) (now : Instant)
    : Option PlanWrite :=
  if row.correlationId ≠ event.correlationId ∨ row.workspaceId ≠ event.workspaceId
      ∨ row.status ≠ .selected then
    none
  else
    match selectedRecoveryCandidate row with
    | none => none
    | some candidate =>
      if strip candidate.route ≠ safePrRoute then
        none
      else
        match safePrIdentityError event params with
        | some _ =>
          some (.reopen (row.selectedActionId.getD "")
            [.followupRequired "safe_pr_identity_incomplete"])
        | none =>
          some (.update
            {
              expected := .selected
              status := .prOpen
              lifecycle := trackedLifecycle row candidate event params baseline now
              clearSelection := false }
            [.prTracked row.planId event.prUrl])

structure SafePrFailed where
  (workspaceId correlationId reasonCode reason : String)
  approvedPlan : Option (String × String)
  deriving DecidableEq

def onRecoverySafePrFailed (event : SafePrFailed) : Option PlanWrite :=
  let identity := event.approvedPlan.getD (strip row.planId, text row.selectedActionId)
  if row.correlationId ≠ event.correlationId ∨ row.workspaceId ≠ event.workspaceId
      ∨ row.status ≠ .selected ∨ strip row.planId ≠ identity.1
      ∨ text row.selectedActionId ≠ identity.2 ∨ identity.1 = "" ∨ identity.2 = "" then
    none
  else
    some (.update
      {
        expected := .selected
        status := .failed
        lifecycle :=
          { row.payload.lifecycle with
            phase := some .failed
            failure :=
              some { stage := "safe_pr", reasonCode := event.reasonCode, reason := event.reason } }
        clearSelection := false }
      [.followupRequired event.reasonCode])

-----------------------------------------------------------------------------------------
-- handle_tracked_recovery_pull_request and reject_tracked_recovery_pull_request
-----------------------------------------------------------------------------------------

/-- The identity that `github_pull_request_identity` reads from a webhook. -/
structure PullRequestWebhook where
  action : String
  merged : Bool
  url : String
  number : Int
  (nodeId repoRef baseBranch headRef headSha mergeCommitSha : String)
  deriving DecidableEq

structure PollTarget where
  (workspaceId repositoryId repoRef branch bindingId applicationId environment clusterId : String)
  manifestPath : String
  deriving DecidableEq

def PullRequestWebhook.isIdentified (webhook : PullRequestWebhook) : Bool :=
  0 < webhook.number
    && [webhook.url, webhook.nodeId, webhook.repoRef, webhook.baseBranch, webhook.headRef,
      webhook.headSha].all (· ≠ "")

variable (py : Runtime)

/-- `find_open_recovery_plan_for_pull_request_base_identity` finds this row. -/
def tracksPullRequest (row : PlanRow) (pr : TrackedPullRequest) (webhook : PullRequestWebhook)
    : Bool :=
  row.status = .prOpen && pr.url = webhook.url
    && py.casefold pr.repoRef = py.casefold webhook.repoRef
    && pr.baseBranch = webhook.baseBranch && pr.number = webhook.number
    && pr.nodeId = webhook.nodeId && pr.headRef = webhook.headRef

/-- `exact_recovery_poll_target`: the only active target with the identity of the request. -/
def exactRecoveryPollTarget (row : PlanRow) (pr : TrackedPullRequest) (targets : List PollTarget)
    : Option PollTarget :=
  let clusterId := if pr.clusterId = "" then row.payload.clusterId else pr.clusterId
  let expected := [row.workspaceId, pr.repositoryId, pr.repoRef, pr.baseBranch, pr.bindingId,
    pr.applicationId, pr.environment, clusterId, pr.manifestPath]
  let active := targets.filter (fun target =>
    strip target.workspaceId ≠ "" && strip target.repoRef ≠ "" && strip target.branch ≠ "")
  if expected.any (· = "") then
    none
  else
    match active.filter (fun target =>
      target.workspaceId = row.workspaceId && target.repositoryId = pr.repositoryId
        && py.casefold target.repoRef = py.casefold pr.repoRef
        && target.branch = pr.baseBranch && target.bindingId = pr.bindingId
        && target.applicationId = pr.applicationId && target.environment = pr.environment
        && target.clusterId = clusterId && target.manifestPath = pr.manifestPath) with
    | [target] => some target
    | _ => none

def rejectTrackedRecoveryPullRequest (reasonCode reason : String) : PlanWrite :=
  .update
    {
      expected := .prOpen
      status := .selectionRequested
      lifecycle :=
        { row.payload.lifecycle with
          phase := some .failed
          failure := some { stage := "", reasonCode, reason } }
      clearSelection := true }
    [.verificationFailed row.planId reasonCode]

variable (sha256Hex : String → String)

/-- `f"workflow-{hashlib.sha256(raw.encode()).hexdigest()[:32]}"`, for a given digest. -/
def workflowRunIdOf (raw : String) : String :=
  "workflow-" ++ String.ofList ((sha256Hex raw).toList.take 32)

def recoveryMergeWorkflowRunId (planId mergeCommitSha : String) : String :=
  workflowRunIdOf sha256Hex (planId ++ "|" ++ mergeCommitSha ++ "|recovery-merge")

def defaultWebhookReplicas : Int := 2

/-- The payload as `approved_change_contract` reads it. -/
def PlanPayload.authorization (payload : PlanPayload) : Entries :=
  [(.str "lifecycle", .dict [(.str "authorization", .dict
    [(.str "changes", payload.lifecycle.changes.getD (.scalar .none))])])]

/-- The deployment of a merged pull request. -/
def mergeRequest (webhook : PullRequestWebhook) (target : PollTarget)
    (workflowRunId image : String) (replicas : Option Int)
    : DeploymentRequest :=
  {
    workspaceId := target.workspaceId
    correlationId := row.correlationId
    workflowRunId
    commitSha := webhook.mergeCommitSha
    repositoryId := target.repositoryId
    repoRef := target.repoRef
    branch := target.branch
    bindingId := target.bindingId
    applicationId := target.applicationId
    environment := target.environment
    clusterId := target.clusterId
    manifestPath := target.manifestPath
    image
    replicas := replicas.getD defaultWebhookReplicas
    force := true }

/-- The write and the two events of an accepted merge. -/
def mergedWrite (pr : TrackedPullRequest) (webhook : PullRequestWebhook)
    (req : DeploymentRequest) (now : Instant)
    : PlanWrite :=
  .update
    {
      expected := .prOpen
      status := .deployPending
      lifecycle :=
        { row.payload.lifecycle with
          phase := some .deployPending
          merge :=
            some
              {
                prUrl := webhook.url
                headSha := webhook.headSha
                mergeCommitSha := webhook.mergeCommitSha
                mergedAt := now
                workflowRunId := req.workflowRunId
                previousWorkflowRunId := none
                repositoryId := pr.repositoryId
                bindingId := pr.bindingId
                applicationId := pr.applicationId
                clusterId := pr.clusterId
                attemptId := row.payload.lifecycle.attempt.map Attempt.id
                retryAttempt := some 0
                deploymentRequest := req } }
      clearSelection := false }
    [.prMerged row.planId req.workflowRunId, .deployRequested req]

/-- The surroundings of a merge webhook. The second, exact lookup of the source may miss a row
that has moved on since the first one.
-/
structure MergeContext where
  missesExactLookup : Bool
  targets : List PollTarget
  image : String
  now : Instant

def handleTrackedRecoveryPullRequest (sha256Hex : String → String)
    (row : PlanRow) (webhook : PullRequestWebhook) (context : MergeContext)
    : Option PlanWrite :=
  match row.payload.lifecycle.pr with
  | none => none
  | some pr =>
    if !webhook.isIdentified || !tracksPullRequest py row pr webhook then
      none
    else if webhook.action = "synchronize" then
      some (rejectTrackedRecoveryPullRequest row "safe_pr_head_changed"
        "PR 생성 후 head가 변경되어 승인된 patch identity를 더 이상 신뢰할 수 없습니다.")
    else if webhook.action ≠ "closed" then
      none
    else if !webhook.merged then
      some (rejectTrackedRecoveryPullRequest row "safe_pr_closed_without_merge"
        "복구 PR이 merge되지 않고 닫혔습니다.")
    else if context.missesExactLookup || pr.headSha ≠ webhook.headSha then
      some (rejectTrackedRecoveryPullRequest row "safe_pr_head_mismatch"
        "merge webhook의 head SHA가 생성 시 저장한 Safe PR head SHA와 다릅니다.")
    else
      match exactRecoveryPollTarget py row pr context.targets with
      | none =>
        some (rejectTrackedRecoveryPullRequest row "recovery_binding_unavailable"
          "merge된 PR과 정확히 일치하는 활성 deployment binding을 찾지 못했습니다.")
      | some target =>
        let verification := row.payload.lifecycle.verification.getD .empty
        if verification.blockers.any (· ≠ "") then
          none
        else if context.image = "" || webhook.mergeCommitSha = ""
            || (approvedChangeContract py row.payload.authorization).isNone then
          some (rejectTrackedRecoveryPullRequest row "recovery_deploy_context_incomplete"
            "merge commit 또는 GitOps webhook image가 없어 배포를 시작할 수 없습니다.")
        else
          let workflowRunId :=
            recoveryMergeWorkflowRunId sha256Hex row.planId webhook.mergeCommitSha
          let replicas := approvedReplicaCount py row.payload.authorization
          some (mergedWrite row pr webhook
            (mergeRequest row webhook target workflowRunId context.image replicas)
            context.now)

-----------------------------------------------------------------------------------------
-- start_recovery_verification and on_recovery_deploy_failed
-----------------------------------------------------------------------------------------

inductive WorkflowRunStatus where
  | started
  | rendering
  | diffing
  | policyChecking
  | waitingForApproval
  | applying
  | rolloutWaiting
  | succeeded
  | failed
  deriving DecidableEq

structure WorkflowRun where
  (workflowRunId workspaceId bindingId applicationId clusterId commitSha : String)
  status : WorkflowRunStatus
  deriving DecidableEq

structure WorkflowEvent where
  (workspaceId workflowRunId bindingId applicationId : String)
  deriving DecidableEq

variable (event : WorkflowEvent)

/-- `get_recovery_plan_for_workflow` finds this row, by its merge. -/
def recoveryPlanForWorkflow : Option Merge :=
  match row.payload.lifecycle.merge with
  | none => none
  | some merge =>
    if row.workspaceId = event.workspaceId
        ∧ (row.status = .deployPending ∨ row.status = .verificationPending
          ∨ row.status = .completed ∨ row.status = .failed)
        ∧ merge.workflowRunId = event.workflowRunId ∧ merge.bindingId = event.bindingId
        ∧ merge.applicationId = event.applicationId then
      some merge
    else
      none

/-- The workflow run is the one that the merge started, and it has succeeded. -/
def workflowSucceededFor (merge : Merge) (event : WorkflowEvent) (workflow : WorkflowRun) : Bool :=
  strip merge.workflowRunId = event.workflowRunId && strip merge.bindingId = event.bindingId
    && strip merge.applicationId = event.applicationId
    && strip merge.mergeCommitSha = strip workflow.commitSha
    && strip merge.clusterId = strip workflow.clusterId
    && strip workflow.workspaceId = event.workspaceId
    && strip workflow.bindingId = event.bindingId
    && strip workflow.applicationId = event.applicationId
    && workflow.status = .succeeded

/-- `int(verification.get("maximum_seconds") or DEFAULT_MAXIMUM_SECONDS)`. -/
def Verification.maximum (verification : Verification) : Int :=
  match verification.maximumSeconds with
  | none => defaultMaximumSeconds
  | some seconds => if seconds = 0 then defaultMaximumSeconds else seconds

def verificationStart (workflowRunId : String) (now : Instant) : PlanWrite :=
  let verification := row.payload.lifecycle.verification.getD .empty
  let deadline := verificationDeadline now verification.maximum
  .update
    {
      expected := .deployPending
      status := .verificationPending
      lifecycle :=
        { row.payload.lifecycle with
          phase := some .verificationPending
          verification :=
            some
              { verification with
                window :=
                  { verification.window with
                    startedAt := some now
                    deadlineAt := some deadline }
                state := { verification.state with healthySince := none }
                lastReasonCode := "waiting_for_post_deploy_evidence" } }
      clearSelection := false }
    [.verificationStarted row.planId workflowRunId now deadline]

def startRecoveryVerification
    (workflow : Option WorkflowRun) (now : Instant)
    : Option PlanWrite :=
  match recoveryPlanForWorkflow row event, workflow with
  | some merge, some workflow =>
    if row.status = .deployPending ∧ workflowSucceededFor merge event workflow then
      some (verificationStart row event.workflowRunId now)
    else
      none
  | _, _ => none

def recoveryDeployFailed : String := "recovery_deploy_failed"

def onRecoveryDeployFailed (reason : String) : Option PlanWrite :=
  match recoveryPlanForWorkflow row event with
  | none => none
  | some _ =>
    if row.status = .deployPending then
      some (.update
        {
          expected := .deployPending
          status := .failed
          lifecycle :=
            { row.payload.lifecycle with
              phase := some .failed
              failure := some { stage := "", reasonCode := recoveryDeployFailed, reason } }
          clearSelection := false }
        [.verificationFailed row.planId recoveryDeployFailed])
    else
      none

-----------------------------------------------------------------------------------------
-- on_recovery_verification_evidence
-----------------------------------------------------------------------------------------

/-- A received evidence window of a cluster, with the checks the evaluation reads from it. -/
structure EvidenceReceived where
  (workspaceId clusterId : String)
  call : EvidenceCall
  deriving DecidableEq

def DecisionStatus.planStatus : DecisionStatus → PlanStatus
  | .completed => .completed
  | .failed => .failed
  | .pending => .verificationPending

variable (decision : VerificationDecision)

/-- `apply_verification_terminal_state`. -/
def terminalFailure (failure : Option Failure) : Option Failure :=
  match decision.status with
  | .failed =>
    some { stage := "", reasonCode := decision.reasonCode.code, reason := decision.reason }
  | .completed => none
  | .pending => failure

def decisionEvents : List PlanEvent :=
  .verificationUpdated row.planId decision.status decision.reasonCode.code
    :: match decision.status with
        | .failed => [.verificationFailed row.planId decision.reasonCode.code]
        | .completed => [.incidentResolved row.incidentId row.planId]
        | .pending => []

/-- The write of a decision on the verification that was read. -/
def decisionWrite : PlanWrite :=
  let verification := row.payload.lifecycle.verification.getD .empty
  .update
    {
      expected := .verificationPending
      status := decision.status.planStatus
      lifecycle :=
        { row.payload.lifecycle with
          phase := some decision.status.planStatus
          verification :=
            some
              { verification with
                state := decision.state
                lastReasonCode := decision.reasonCode.code }
          failure := terminalFailure decision row.payload.lifecycle.failure }
      clearSelection := false }
    (decisionEvents row decision)

def onRecoveryVerificationEvidence (event : EvidenceReceived) : Option PlanWrite :=
  if event.call.evidenceKey = "" ∨ row.workspaceId ≠ event.workspaceId
      ∨ row.status ≠ .verificationPending ∨ row.payload.clusterId ≠ event.clusterId then
    none
  else
    let verification := row.payload.lifecycle.verification.getD .empty
    some (decisionWrite row
      (evaluateRecoveryEvidence verification.window verification.state event.call))

-----------------------------------------------------------------------------------------
-- retry_recovery_by_correlation
-----------------------------------------------------------------------------------------

/-- An operator's retry, with what the handler reads and draws besides the row. -/
structure RetryRequest where
  (workspaceId correlationId expectedPlanId userId reason : String)
  /-- The preflight is configured and prepared the action again. -/
  prepared : Bool
  /-- `workflow_run_id` of the approval that a safe-PR retry requests. -/
  approvalRunId : Option String
  workflow : Option WorkflowRun
  attemptId : String
  now : Instant
  deriving DecidableEq

/-- `recovery_retry_number` and `recovery_selection_attempt_number` of a stored number. -/
def nextNumber (stored : Option Nat) : Nat := (stored.map (· + 1)).getD 1

variable (merge : Merge)

def recoveryWorkflowMatches (workflow : Option WorkflowRun) (status : WorkflowRunStatus) : Bool :=
  match workflow with
  | none => false
  | some run =>
    [strip merge.workflowRunId, strip merge.bindingId, strip merge.applicationId,
      strip merge.clusterId, strip merge.mergeCommitSha].all (· ≠ "")
    && strip run.workflowRunId = strip merge.workflowRunId
    && strip run.workspaceId = strip row.workspaceId
    && strip run.bindingId = strip merge.bindingId
    && strip run.applicationId = strip merge.applicationId
    && strip run.clusterId = strip merge.clusterId
    && strip run.commitSha = strip merge.mergeCommitSha
    && run.status = status

/-- The deployment request of the merge is still the one that was approved. -/
def requestMatches (req : DeploymentRequest) : Bool :=
  let pr := row.payload.lifecycle.pr
  req.workspaceId = strip row.workspaceId
    && req.correlationId = strip row.correlationId
    && req.workflowRunId = strip merge.workflowRunId
    && req.commitSha = strip merge.mergeCommitSha
    && req.repositoryId = text (pr.map TrackedPullRequest.repositoryId)
    && req.repoRef = text (pr.map TrackedPullRequest.repoRef)
    && req.branch = text (pr.map TrackedPullRequest.baseBranch)
    && req.bindingId = strip merge.bindingId
    && req.applicationId = strip merge.applicationId
    && req.clusterId = strip merge.clusterId
    && req.manifestPath = text (pr.map TrackedPullRequest.manifestPath)
    && strip req.image ≠ "" && 0 < req.replicas

/-- `deploy_retry_body`: the approved deployment under a new workflow run. -/
def deployRetryBody (row : PlanRow) (merge : Merge) (workflow : Option WorkflowRun)
    : Option (DeploymentRequest × Nat) :=
  if recoveryWorkflowMatches row merge workflow .failed
      && requestMatches row merge merge.deploymentRequest then
    let attempt := nextNumber merge.retryAttempt
    let raw := row.planId ++ "|" ++ strip merge.mergeCommitSha ++ "|deploy-retry|"
      ++ toString attempt
    some ({ merge.deploymentRequest with
            workflowRunId := workflowRunIdOf sha256Hex raw, force := true }, attempt)
  else
    none

/-- The write of a deploy retry. -/
def deployRetry (req : RetryRequest)
    (deployment : DeploymentRequest) (attempt : Nat) (reason : String)
    : PlanWrite :=
  let lifecycle := row.payload.lifecycle
  let verification := lifecycle.verification.getD .empty
  .update
    {
      expected := .failed
      status := .deployPending
      lifecycle :=
        { lifecycle with
          phase := some .deployPending
          failure := none
          merge :=
            some
              { merge with
                previousWorkflowRunId := some (strip merge.workflowRunId)
                workflowRunId := deployment.workflowRunId
                deploymentRequest := deployment
                retryAttempt := some attempt }
          verification :=
            some
              { verification with
                window := { verification.window with startedAt := none, deadlineAt := none }
                state := .fresh }
          retry :=
            some
              {
                stage := "deploy"
                attempt
                requestedBy := req.userId
                requestedAt := req.now
                reason
                workflowRunId := some deployment.workflowRunId } }
      clearSelection := false }
    [.retryRequested row.planId "deploy" attempt (some deployment.workflowRunId),
      .deployRequested deployment]

/-- `maximum_seconds` of a verification retry: the stored one only within its bounds. -/
def Verification.boundedMaximum (verification : Verification) : Int :=
  match verification.maximumSeconds with
  | none => defaultMaximumSeconds
  | some seconds =>
    if 0 < seconds ∧ seconds ≤ defaultMaximumSeconds then seconds else defaultMaximumSeconds

/-- The write of a verification retry: the same deployment is verified from the start. -/
def verificationRetry (req : RetryRequest) (reason : String) : PlanWrite :=
  let lifecycle := row.payload.lifecycle
  let verification := lifecycle.verification.getD .empty
  let attempt := nextNumber verification.retryAttempt
  .update
    {
      expected := .failed
      status := .verificationPending
      lifecycle :=
        { lifecycle with
          phase := some .verificationPending
          failure := none
          verification :=
            some
              { verification with
                window :=
                  { verification.window with
                    startedAt := some req.now
                    deadlineAt :=
                      some (verificationDeadline req.now verification.boundedMaximum) }
                state := .fresh
                lastReasonCode := "waiting_for_post_deploy_evidence"
                retryAttempt := some attempt }
          retry :=
            some
              {
                stage := "verification"
                attempt
                requestedBy := req.userId
                requestedAt := req.now
                reason
                workflowRunId := some (strip merge.workflowRunId) } }
      clearSelection := false }
    [.retryRequested row.planId "verification" attempt (some (strip merge.workflowRunId))]

def safePrRoutes : List String := ["draft_pr", "safe_pr"]

/-- The write of a safe-PR retry: the selected action becomes a new attempt. -/
def safePrRetry (actionId : String) (req : RetryRequest) (reason : String) : PlanWrite :=
  let attempt := nextNumber (row.payload.lifecycle.attempt.map Attempt.number)
  .update
    {
      expected := .failed
      status := .selected
      lifecycle :=
        { Lifecycle.empty with
          phase := some .selected
          attempt :=
            some
              {
                id := req.attemptId
                number := attempt
                actionId
                selectedBy := req.userId
                selectedAt := req.now }
          retry :=
            some
              {
                stage := "safe_pr"
                attempt
                requestedBy := req.userId
                requestedAt := req.now
                reason
                workflowRunId := none } }
      clearSelection := false }
    [.retryRequested row.planId "safe_pr" attempt req.approvalRunId,
      .actionSelected row.planId actionId]

/-- The reason code of the failure, or else the last one of the verification. -/
def failureReasonCode (lifecycle : Lifecycle) : String :=
  let failure := text (lifecycle.failure.map Failure.reasonCode)
  if failure = "" then text (lifecycle.verification.map Verification.lastReasonCode) else failure

def retryRecovery (row : PlanRow) (req : RetryRequest) : Option PlanWrite :=
  let lifecycle := row.payload.lifecycle
  let reasonCode := failureReasonCode lifecycle
  let reason := if req.reason = "" then "operator retried " ++ reasonCode else req.reason
  let actionId := text row.selectedActionId
  -- the write addresses the row by the expected id, so a padded id updates nothing
  if row.correlationId ≠ req.correlationId ∨ row.workspaceId ≠ req.workspaceId
      ∨ strip row.planId ≠ req.expectedPlanId ∨ row.planId ≠ req.expectedPlanId
      ∨ row.status ≠ .failed ∨ actionId = "" then
    none
  else if text (lifecycle.failure.map Failure.stage) = "safe_pr" then
    match row.payload.candidates.find? (fun candidate => candidate.actionId = actionId) with
    | none => none
    | some candidate =>
      if req.prepared ∧ candidate.route ∈ safePrRoutes then
        some (safePrRetry row actionId req reason)
      else
        none
  else
    match lifecycle.merge with
    | none => none
    | some merge =>
      if strip merge.workflowRunId = "" then
        none
      else if reasonCode = recoveryDeployFailed then
        (deployRetryBody sha256Hex row merge req.workflow).map (fun prepared =>
          deployRetry row merge req prepared.1 prepared.2 reason)
      else if reasonCode = verificationWindowExpired
          ∧ recoveryWorkflowMatches row merge req.workflow .succeeded then
        some (verificationRetry row merge req reason)
      else
        none

end K8sClue.Recovery
