import K8sClue.Recovery.ApprovedChanges
import K8sClue.Recovery.Verification

/-! The row of one recovery plan and the operations of its repository.
Each operation is one transaction. The lifecycle is kept as typed records; what no modelled
function reads (measured baselines, texts shown to operators) is left out of them.
-/

namespace K8sClue.Recovery

open Python

inductive PlanStatus where
  | selectionRequested
  | selected
  | prOpen
  | deployPending
  | verificationPending
  | completed
  | failed
  deriving DecidableEq

structure Attempt where
  id : String
  number : Nat
  (actionId selectedBy : String)
  selectedAt : Instant
  deriving DecidableEq

/-- `lifecycle.pr`: the identity of the tracked pull request. -/
structure TrackedPullRequest where
  url : String
  number : Int
  (nodeId headRef headSha repoRef repositoryId bindingId applicationId baseBranch : String)
  (manifestPath environment clusterId patchSha256 : String)
  trackedAt : Instant
  attemptId : Option String
  deriving DecidableEq

structure Verification where
  window : VerificationWindow
  maximumSeconds : Option Int
  state : VerificationState
  blockers : List String
  lastReasonCode : String
  retryAttempt : Option Nat
  deriving DecidableEq

def Verification.empty : Verification :=
  {
    window := ⟨none, none, none, none⟩
    maximumSeconds := none
    state := .fresh
    blockers := []
    lastReasonCode := ""
    retryAttempt := none }

/-- The deployment that a merge or a deploy retry requests. -/
structure DeploymentRequest where
  (workspaceId correlationId workflowRunId commitSha repositoryId repoRef branch bindingId : String)
  (applicationId environment clusterId manifestPath image : String)
  replicas : Int
  force : Bool
  deriving DecidableEq

structure Merge where
  (prUrl headSha mergeCommitSha : String)
  mergedAt : Instant
  workflowRunId : String
  previousWorkflowRunId : Option String
  (repositoryId bindingId applicationId clusterId : String)
  attemptId : Option String
  retryAttempt : Option Nat
  deploymentRequest : DeploymentRequest
  deriving DecidableEq

/-- `lifecycle.failure`; `stage` is empty where the source stores none. -/
structure Failure where
  (stage reasonCode reason : String)
  deriving DecidableEq

structure Retry where
  stage : String
  attempt : Nat
  requestedBy : String
  requestedAt : Instant
  reason : String
  workflowRunId : Option String
  deriving DecidableEq

structure Lifecycle where
  phase : Option PlanStatus
  attempt : Option Attempt
  pr : Option TrackedPullRequest
  verification : Option Verification
  /-- `authorization.changes`, as it was approved. -/
  changes : Option PyValue
  merge : Option Merge
  failure : Option Failure
  retry : Option Retry

def Lifecycle.empty : Lifecycle :=
  {
    phase := none
    attempt := none
    pr := none
    verification := none
    changes := none
    merge := none
    failure := none
    retry := none }

/-- A candidate of the plan; `clusterId` is the one its draft names, if any. -/
structure RecoveryCandidate where
  (actionId route clusterId : String)
  deriving DecidableEq

/-- The stored plan: its target cluster, its candidates, and the lifecycle beside them. -/
structure PlanPayload where
  clusterId : String
  candidates : List RecoveryCandidate
  lifecycle : Lifecycle

structure PlanRow where
  (planId workspaceId correlationId incidentId evidenceRef : String)
  status : PlanStatus
  (selectedActionId selectedBy : Option String)
  payload : PlanPayload

/-- The statuses that a replayed plan does not overwrite. -/
def PlanStatus.isMonotonic : PlanStatus → Bool
  | .selectionRequested => false
  | _ => true

/-- A generated plan, as `upsert_recovery_plan` receives it. -/
structure GeneratedPlan where
  (planId workspaceId correlationId incidentId evidenceRef : String)
  payload : PlanPayload

/-- The row that an upsert inserts where there is none. -/
def GeneratedPlan.insert (plan : GeneratedPlan) (status : PlanStatus)
    (selectedActionId selectedBy : Option String)
    : PlanRow :=
  {
    planId := plan.planId
    workspaceId := plan.workspaceId
    correlationId := plan.correlationId
    incidentId := plan.incidentId
    evidenceRef := plan.evidenceRef
    status
    selectedActionId
    selectedBy
    payload := plan.payload }

/-- `upsert_recovery_plan` on the row with the identity of the plan; `none` where `ValueError`
is raised.
-/
def upsertRecoveryPlan (row : Option PlanRow) (plan : GeneratedPlan) (status : PlanStatus)
    (selectedActionId selectedBy : Option String)
    : Option PlanRow :=
  if status = .selectionRequested ∨ status = .selected then
    match row with
    | none => some (plan.insert status selectedActionId selectedBy)
    | some current =>
      if current.status.isMonotonic then
        some
          { current with
            correlationId := plan.correlationId
            incidentId := plan.incidentId
            evidenceRef := plan.evidenceRef }
      else
        some
          { plan.insert status selectedActionId selectedBy with
            planId := current.planId
            workspaceId := current.workspaceId }
  else
    none

variable (row : PlanRow)

/-- `select_recovery_plan_action_if_open`, with the fresh id and the clock it draws. -/
def selectRecoveryPlanActionIfOpen (actionId selectedBy attemptId : String) (now : Instant)
    : Option PlanRow :=
  if row.status = .selectionRequested then
    let previous := (row.payload.lifecycle.attempt.map Attempt.number).getD 0
    let lifecycle :=
      { Lifecycle.empty with
        phase := some .selected
        attempt := some { id := attemptId, number := previous + 1, actionId, selectedBy,
                          selectedAt := now } }
    some
      { row with
        status := .selected
        selectedActionId := some actionId
        selectedBy := some selectedBy
        payload := { row.payload with lifecycle } }
  else
    none

def reopenRecoveryPlanAction (actionId : String) : Option PlanRow :=
  if row.status = .selected ∧ row.selectedActionId = some actionId then
    some { row with status := .selectionRequested, selectedActionId := none, selectedBy := none }
  else
    none

theorem reopenRecoveryPlanAction_some {row after : PlanRow} {actionId : String}
    (done : reopenRecoveryPlanAction row actionId = some after)
    : row.status = .selected
      ∧ after
        = { row with
            status := .selectionRequested, selectedActionId := none, selectedBy := none } := by
  rw [reopenRecoveryPlanAction, Option.ite_none_right_eq_some] at done
  exact ⟨done.1.1, (Option.some.inj done.2).symm⟩

structure LifecycleUpdate where
  (expected status : PlanStatus)
  lifecycle : Lifecycle
  clearSelection : Bool

def updateRecoveryPlanLifecycleIfStatus (update : LifecycleUpdate) : Option PlanRow :=
  if row.status = update.expected then
    some
      { row with
        status := update.status
        payload := { row.payload with lifecycle := update.lifecycle }
        selectedActionId := if update.clearSelection then none else row.selectedActionId
        selectedBy := if update.clearSelection then none else row.selectedBy }
  else
    none

theorem updateRecoveryPlanLifecycleIfStatus_some {row after : PlanRow} {update : LifecycleUpdate}
    (done : updateRecoveryPlanLifecycleIfStatus row update = some after)
    : row.status = update.expected
      ∧ after
        = { row with
            status := update.status
            payload := { row.payload with lifecycle := update.lifecycle }
            selectedActionId := if update.clearSelection then none else row.selectedActionId
            selectedBy := if update.clearSelection then none else row.selectedBy
          } := by
  rw [updateRecoveryPlanLifecycleIfStatus, Option.ite_none_right_eq_some] at done
  exact ⟨done.1, (Option.some.inj done.2).symm⟩

def verificationWindowExpired : String := "verification_window_expired"

def expiredReason : String :=
  "최대 검증 시간 안에 연속 정상화 근거가 충족되지 않아 복구 완료로 판정하지 않았습니다."

def expireRecoveryVerification (now : Instant) : Option PlanRow :=
  let lifecycle := row.payload.lifecycle
  let verification := lifecycle.verification.getD .empty
  match verification.window.deadlineAt with
  | none => none
  | some deadline =>
    if row.status = .verificationPending ∧ deadline ≤ now then
      some
        { row with
          status := .failed
          payload :=
            { row.payload with
              lifecycle :=
                { lifecycle with
                  phase := some .failed
                  verification :=
                    some { verification with lastReasonCode := verificationWindowExpired }
                  failure :=
                    some
                      {
                        stage := ""
                        reasonCode := verificationWindowExpired
                        reason := expiredReason } } } }
    else
      none

end K8sClue.Recovery
