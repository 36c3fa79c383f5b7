import K8sClue.Recovery.Interleavings

/-! The approvals that selections and safe-PR retries request, and the one that the worker
reads when the pull request has been created.
Every attempt dispatches a candidate with parameters of its own; the parameters the worker
compares the pull request with come from the approval it finds for the plan and the action.
-/

namespace K8sClue.Recovery

open Library Python SourcePatch Function

variable (sha256Hex : String → String)

def digest32 (raw : String) : String :=
  String.ofList ((sha256Hex raw).toList.take 32)

variable (planId actionId : String)

/-- The id that a selection requests its approval under. -/
def recoveryApprovalId : String :=
  "approval-" ++ digest32 sha256Hex (planId ++ "|" ++ actionId ++ "|recovery-action")

/-- The id that a safe-PR retry requests its approval under. -/
def recoveryRetryApprovalId (attempt : Nat) : String :=
  "approval-"
    ++ digest32 sha256Hex (planId ++ "|" ++ actionId ++ "|safe-pr-retry|" ++ toString attempt)

/-- The id that the worker reads the approval of an action under. -/
def recoveryApprovalIdentity : String :=
  "approval-" ++ digest32 sha256Hex (planId ++ "|" ++ actionId ++ "|recovery-action")

def recoveryPolicyDecisionRef (approvalRef : String) : String :=
  "recovery:" ++ approvalRef ++ ":selected"

/-- `str(value)`. -/
def valueStr (py : Runtime) : PyValue → String
  | .scalar (.str value) => value
  | value => py.str value

/-- `str(params.get(key, default))`. -/
def paramOr (py : Runtime) (params : Entries) (key default : String) : String :=
  match getKey params key with
  | none => default
  | some value => valueStr py value

inductive ApprovalStatus where
  | requested
  | granted
  | rejected
  | expired
  | notRequired
  deriving DecidableEq

def ApprovalStatus.isOpen (status : ApprovalStatus) : Bool :=
  status = .requested || status = .notRequired

/-- A stored approval with the draft parameters of its `selected_candidate`. -/
structure Approval where
  status : ApprovalStatus
  workspaceId : String
  params : Entries

abbrev Approvals := String → Option Approval

/-- The values of `recovery_approval_payload` that its request reads. -/
structure ApprovalRequest where
  (approvalId workflowRunId workspaceId applicationId bindingId environment : String)
  params : Entries

/-- `str(target["workspace_id"] or params["workspace_id"] or workspace_id)`. -/
def approvalWorkspace (py : Runtime) (targetWorkspaceId : String) (params : Entries)
    (workspaceId : String)
    : String :=
  if targetWorkspaceId ≠ "" then
    targetWorkspaceId
  else if (getOrNone params "workspace_id").truthy then
    valueStr py (getOrNone params "workspace_id")
  else
    workspaceId

def recoveryApprovalPayload (py : Runtime) (targetWorkspaceId workspaceId : String)
    (params : Entries) (approvalRef : String)
    : ApprovalRequest :=
  {
    approvalId := approvalRef
    workflowRunId := paramOr py params "workflow_run_id" ""
    workspaceId := approvalWorkspace py targetWorkspaceId params workspaceId
    applicationId := paramOr py params "application_id" ""
    bindingId := paramOr py params "binding_id" ""
    environment := paramOr py params "environment" "sandbox"
    params }

-- the request has no repository, no manifest and no name, so their defaults are hashed
variable (req : ApprovalRequest)

def deriveRepositoryId : String :=
  "repo-" ++ digest32 sha256Hex (req.workspaceId ++ "|")

def deriveApplicationId : String :=
  if req.applicationId ≠ "" then
    req.applicationId
  else
    "app-" ++ digest32 sha256Hex (req.workspaceId ++ "|" ++ deriveRepositoryId sha256Hex req
      ++ "|deploy.yaml|")

def deriveDeploymentBindingId : String :=
  if req.bindingId ≠ "" then
    req.bindingId
  else
    "binding-" ++ digest32 sha256Hex (req.workspaceId ++ "|"
      ++ deriveRepositoryId sha256Hex req ++ "|default-target-cluster|sandbox|")

/-- `derive_workflow_run_id`: the run that the candidate names, or a digest of its identity. -/
def deriveWorkflowRunId : String :=
  if req.workflowRunId ≠ "" then
    req.workflowRunId
  else
    workflowRunIdOf sha256Hex (req.workspaceId ++ "|" ++ deriveApplicationId sha256Hex req
      ++ "|" ++ deriveDeploymentBindingId sha256Hex req ++ "|" ++ req.environment ++ "|")

/-- `request_workflow_approval` of a granted approval: an existing row is only overwritten while
it is open, and then keeps its workspace.
-/
def requestWorkflowApproval (approvals : Approvals) (req : ApprovalRequest) : Approvals :=
  match approvals req.approvalId with
  | none =>
    update approvals req.approvalId
      (some { status := .granted, workspaceId := req.workspaceId, params := req.params })
  | some current =>
    if current.status.isOpen then
      update approvals req.approvalId
        (some { current with status := .granted, params := req.params })
    else
      approvals

variable (params : Entries)

/-- `candidate_with_approval` on the draft parameters. -/
def withApproval (approvalRef : String) : Entries :=
  setKey (setKey params "approval_ref" (.scalar (.str approvalRef))) "policy_decision_ref"
    (.scalar (.str (recoveryPolicyDecisionRef approvalRef)))

/-- `candidate_with_approval_identity` on the draft parameters. -/
def withApprovalIdentity (workflowRunId : String) : Entries :=
  if workflowRunId = "" then params
  else setKey params "workflow_run_id" (.scalar (.str workflowRunId))

structure ApprovalState where
  row : PlanRow
  approvals : Approvals
  dispatched : Option Entries

section Machine

variable (py : Runtime) (sha256Hex : String → String) (targetWorkspaceId : String)

/-- The draft parameters of the candidate that an attempt dispatches. -/
def dispatchedParams (workspaceId approvalRef : String) (prepared : Entries) : Entries :=
  let params := withApproval prepared approvalRef
  withApprovalIdentity params (deriveWorkflowRunId sha256Hex
      (recoveryApprovalPayload py targetWorkspaceId workspaceId params approvalRef))

variable (state : ApprovalState)

/-- The approval is requested with the prepared parameters, and the candidate dispatched. -/
def dispatch (after : PlanRow) (approvalRef : String) (prepared : Entries) : ApprovalState :=
  {
    row := after
    approvals :=
      requestWorkflowApproval state.approvals
        (recoveryApprovalPayload py targetWorkspaceId after.workspaceId
          (withApproval prepared approvalRef) approvalRef)
    dispatched :=
      some (dispatchedParams py sha256Hex targetWorkspaceId after.workspaceId approvalRef
        prepared) }

variable (row : PlanRow)

/-- The id under which `recovery_approval_record` looks for the approval, if it looks. -/
def workerApprovalId : Option String :=
  let planId := strip row.planId
  let actionId := text row.selectedActionId
  if planId = "" ∨ actionId = "" then none
  else some (recoveryApprovalIdentity sha256Hex planId actionId)

def readParams : Entries :=
  match (workerApprovalId sha256Hex state.row).bind state.approvals with
  | none => []
  | some approval =>
    if approval.workspaceId = state.row.workspaceId then approval.params else []

def retryApprovalRef : String :=
  recoveryRetryApprovalId sha256Hex row.planId (text row.selectedActionId)
    (nextNumber (row.payload.lifecycle.attempt.map Attempt.number))

inductive ApprovalAction where
  /-- An operator selects an action that the preflight has prepared. -/
  | select (actionId : String) (prepared : Entries) (userId attemptId : String) (now : Instant)
  | reopen (actionId : String)
  | safePrFailed (event : SafePrFailed)
  | retry (req : RetryRequest) (prepared : Entries)
  | safePrCreated (event : SafePrCreated) (baseline : Baseline) (now : Instant)

/-- `candidate_by_action_id` and `select_recovery_plan_action_if_open`. -/
def selectCandidate (actionId userId attemptId : String) (now : Instant) : Option PlanRow :=
  if row.payload.candidates.any (fun candidate => candidate.actionId = actionId) then
    selectRecoveryPlanActionIfOpen row actionId userId attemptId now
  else
    none

/-- The state after a handler's write, if there is one. -/
def moved (changed : Option (PlanRow × List PlanEvent)) : ApprovalState × List PlanEvent :=
  match changed with
  | none => (state, [])
  | some (after, events) => ({ state with row := after }, events)

def retried (row : PlanRow) (req : RetryRequest) : Option (PlanRow × List PlanEvent) :=
  (retryRecovery sha256Hex row req).bind (commitWrite row)

/-- The attempts of one plan: selections, reopenings, failures, retries and created requests. -/
def approvalMachine : Machine ApprovalState ApprovalAction PlanEvent where
  step state
    | .select actionId prepared userId attemptId now =>
      match selectCandidate state.row actionId userId attemptId now with
      | none => (state, [])
      | some after =>
        (dispatch py sha256Hex targetWorkspaceId state after
          (recoveryApprovalId sha256Hex state.row.planId actionId) prepared,
        [.actionSelected state.row.planId actionId])
    | .reopen actionId =>
      moved state ((reopenRecoveryPlanAction state.row actionId).map (·, []))
    | .safePrFailed event =>
      moved state ((onRecoverySafePrFailed state.row event).bind (commitWrite state.row))
    | .retry req prepared =>
      match retried sha256Hex state.row req with
      | none => (state, [])
      | some (after, events) =>
        if after.status = .selected then
          (dispatch py sha256Hex targetWorkspaceId state after
            (retryApprovalRef sha256Hex state.row) prepared, events)
        else
          ({ state with row := after }, events)
    | .safePrCreated event baseline now =>
      moved state
        ((onRecoverySafePrCreated state.row event (readParams sha256Hex state) baseline now).bind
          (commitWrite state.row))

/-- Two dictionaries hold the same values under the same keys. -/
def SameParams (left right : Entries) : Prop := ∀ key, getKey left key = getKey right key

/-- `on_recovery_safe_pr_created` goes on to read the approval of this row. -/
def readsApproval (row : PlanRow) : Bool :=
  row.status = .selected
    && (selectedRecoveryCandidate row).any (fun candidate => strip candidate.route = safePrRoute)

/-- Whatever pull request is reported now is checked against the dispatched parameters. -/
def ChecksOwnApproval (state : ApprovalState) : Prop :=
  readsApproval state.row = true
    → ∃ params, state.dispatched = some params ∧ SameParams (readParams sha256Hex state) params

/-- The prepared parameters name a workflow run. -/
def NamesWorkflow (prepared : Entries) : Prop :=
  ∃ workflowRunId, workflowRunId ≠ ""
    ∧ getKey prepared "workflow_run_id" = some (.scalar (.str workflowRunId))

/-- The approval is requested under the id that the worker reads. If it is there already, it
records the parameters that are dispatched now; if not, the prepared ones name their run.
-/
def Agrees (approvals : Approvals) (after : PlanRow) (approvalRef : String) (prepared : Entries)
    : Prop :=
  workerApprovalId sha256Hex after = some approvalRef
  ∧ match approvals approvalRef with
    | some approval =>
      approval.workspaceId = after.workspaceId
      ∧ SameParams approval.params
          (dispatchedParams py sha256Hex targetWorkspaceId after.workspaceId approvalRef
            prepared)
    | none =>
      approvalWorkspace py targetWorkspaceId prepared after.workspaceId = after.workspaceId
      ∧ NamesWorkflow prepared

/-- Every selection or retry that dispatches a safe-PR candidate agrees with the approval that
the worker reads for it.
-/
def Faithful (state : ApprovalState) : ApprovalAction → Prop
  | .select actionId prepared userId attemptId now =>
    ∀ after, selectCandidate state.row actionId userId attemptId now = some after
      → readsApproval after = true
      → Agrees py sha256Hex targetWorkspaceId state.approvals after
          (recoveryApprovalId sha256Hex state.row.planId actionId) prepared
  | .retry req prepared =>
    ∀ after events, retried sha256Hex state.row req = some (after, events)
      → readsApproval after = true
      → Agrees py sha256Hex targetWorkspaceId state.approvals after
          (retryApprovalRef sha256Hex state.row) prepared
  | _ => True

end Machine

theorem withApproval_approvalRef (approvalRef : String)
    : getKey (withApproval params approvalRef) "approval_ref"
      = some (.scalar (.str approvalRef)) := by
  rw [withApproval, getKey_setKey_other _ (by decide), getKey_setKey_same]

theorem withApproval_other (approvalRef : String) {key : String}
    (notRef : "approval_ref" ≠ key) (notDecision : "policy_decision_ref" ≠ key)
    : getKey (withApproval params approvalRef) key = getKey params key := by
  rw [withApproval, getKey_setKey_other _ notDecision, getKey_setKey_other _ notRef]

theorem deriveWorkflowRunId_ne_empty : deriveWorkflowRunId sha256Hex req ≠ "" := by
  unfold deriveWorkflowRunId
  split
  · assumption
  · exact workflowRunIdOf_ne_empty sha256Hex _

section Params

variable (py : Runtime) (sha256Hex : String → String)
  (targetWorkspaceId workspaceId approvalRef : String) (prepared : Entries)

/-- A dispatched candidate differs from the recorded one in its workflow run only. -/
theorem dispatchedParams_eq
    : ∃ workflowRunId, workflowRunId ≠ ""
        ∧ dispatchedParams py sha256Hex targetWorkspaceId workspaceId approvalRef prepared
          = setKey (withApproval prepared approvalRef) "workflow_run_id"
              (.scalar (.str workflowRunId))
        ∧ (∀ named, named ≠ ""
            → getKey prepared "workflow_run_id" = some (.scalar (.str named))
            → workflowRunId = named) := by
  refine ⟨_, deriveWorkflowRunId_ne_empty sha256Hex
    (recoveryApprovalPayload py targetWorkspaceId workspaceId
      (withApproval prepared approvalRef) approvalRef), ?_, ?_⟩
  · simp [dispatchedParams, withApprovalIdentity, deriveWorkflowRunId_ne_empty]
  · intro named nonempty present
    have kept : getKey (withApproval prepared approvalRef) "workflow_run_id"
        = some (.scalar (.str named)) := by
      rw [withApproval_other _ _ (by decide) (by decide), present]
    simp [deriveWorkflowRunId, recoveryApprovalPayload, paramOr, kept, valueStr, nonempty]

theorem dispatchedParams_approvalRef
    : getKey (dispatchedParams py sha256Hex targetWorkspaceId workspaceId approvalRef prepared)
        "approval_ref"
      = some (.scalar (.str approvalRef)) := by
  obtain ⟨workflowRunId, _, dispatched, _⟩ :=
    dispatchedParams_eq py sha256Hex targetWorkspaceId workspaceId approvalRef prepared
  rw [dispatched, getKey_setKey_other _ (by decide), withApproval_approvalRef]

/-- The recorded parameters are the dispatched ones exactly if the candidate names its run. -/
theorem recorded_iff_namesWorkflow
    : SameParams (withApproval prepared approvalRef)
        (dispatchedParams py sha256Hex targetWorkspaceId workspaceId approvalRef prepared)
      ↔ NamesWorkflow prepared := by
  obtain ⟨workflowRunId, nonempty, dispatched, unique⟩ :=
    dispatchedParams_eq py sha256Hex targetWorkspaceId workspaceId approvalRef prepared
  have kept : getKey (withApproval prepared approvalRef) "workflow_run_id"
      = getKey prepared "workflow_run_id" :=
    withApproval_other _ _ (by decide) (by decide)
  rw [dispatched]
  constructor
  · intro same
    refine ⟨workflowRunId, nonempty, ?_⟩
    rw [← kept, same, getKey_setKey_same]
  · intro names key
    obtain ⟨named, namedNonempty, present⟩ := names
    by_cases run : "workflow_run_id" = key
    · rw [← run, getKey_setKey_same, kept, present, unique named namedNonempty present]
    · rw [getKey_setKey_other _ run]

theorem approvalWorkspace_withApproval
    : approvalWorkspace py targetWorkspaceId (withApproval prepared approvalRef) workspaceId
      = approvalWorkspace py targetWorkspaceId prepared workspaceId := by
  have kept : getOrNone (withApproval prepared approvalRef) "workspace_id"
      = getOrNone prepared "workspace_id" := by
    unfold getOrNone
    rw [withApproval_other _ _ (by decide) (by decide)]
  simp only [approvalWorkspace, kept]

end Params

/-- Every approval is granted and records its own id. -/
def RecordsOwnId (approvals : Approvals) : Prop :=
  ∀ approvalId approval, approvals approvalId = some approval
    → approval.status = .granted
      ∧ getKey approval.params "approval_ref" = some (.scalar (.str approvalId))

variable {approvals : Approvals} {req : ApprovalRequest}

variable {approval : Approval} {approvalRef : String} {events : List PlanEvent} {row : PlanRow}

/-- A granted approval is never overwritten. -/
theorem requestWorkflowApproval_present (records : RecordsOwnId approvals)
    (present : approvals req.approvalId = some approval)
    : requestWorkflowApproval approvals req = approvals := by
  simp [requestWorkflowApproval, present, (records _ _ present).1, ApprovalStatus.isOpen]

theorem requestWorkflowApproval_absent (absent : approvals req.approvalId = none)
    : requestWorkflowApproval approvals req
      = update approvals req.approvalId (some
            {
              status := .granted
              workspaceId := req.workspaceId
              params := req.params
            }) := by
  simp [requestWorkflowApproval, absent]

theorem RecordsOwnId.requested (records : RecordsOwnId approvals)
    (own : getKey req.params "approval_ref" = some (.scalar (.str req.approvalId)))
    : RecordsOwnId (requestWorkflowApproval approvals req) := by
  cases present : approvals req.approvalId with
  | some approval =>
    rw [requestWorkflowApproval_present records present]
    exact records
  | none =>
    rw [requestWorkflowApproval_absent present]
    intro approvalId approval found
    by_cases same : approvalId = req.approvalId
    · subst same
      rw [update_self] at found
      cases found
      exact ⟨rfl, own⟩
    · rw [update_of_ne same] at found
      exact records approvalId approval found

variable {py : Runtime} {sha256Hex : String → String} {targetWorkspaceId : String}
  {state : ApprovalState}

/-- The worker reads something with an approval id only from the approval of that id. -/
theorem readParams_approvalRef (records : RecordsOwnId state.approvals)
    (read : getKey (readParams sha256Hex state) "approval_ref" = some (.scalar (.str approvalRef)))
    : workerApprovalId sha256Hex state.row = some approvalRef
      ∧ ∃ approval, state.approvals approvalRef = some approval
          ∧ approval.workspaceId = state.row.workspaceId
          ∧ readParams sha256Hex state = approval.params := by
  unfold readParams at read ⊢
  split at read
  · cases read
  · rename_i approval found
    obtain ⟨approvalId, looked, stored⟩ := Option.bind_eq_some_iff.mp found
    split at read
    · rename_i workspace
      rw [(records _ _ stored).2] at read
      obtain rfl : approvalId = approvalRef := by simpa using read
      exact ⟨looked, approval, stored, workspace, by simp [workspace]⟩
    · cases read

theorem readParams_of_stored (looked : workerApprovalId sha256Hex state.row = some approvalRef)
    (stored : state.approvals approvalRef = some approval)
    (workspace : approval.workspaceId = state.row.workspaceId)
    : readParams sha256Hex state = approval.params := by
  simp [readParams, looked, stored, workspace]

theorem RecordsOwnId.dispatch (py : Runtime) (sha256Hex : String → String)
    (targetWorkspaceId : String) (records : RecordsOwnId state.approvals) (after : PlanRow)
    (approvalRef : String) (prepared : Entries)
    : RecordsOwnId
        (dispatch py sha256Hex targetWorkspaceId state after approvalRef prepared).approvals :=
  records.requested (withApproval_approvalRef prepared approvalRef)

/-- An approval that is there already stays as it is. -/
theorem dispatch_present (records : RecordsOwnId state.approvals)
    (present : state.approvals approvalRef = some approval) (after : PlanRow) (prepared : Entries)
    : (dispatch py sha256Hex targetWorkspaceId state after approvalRef prepared).approvals
        approvalRef
      = some approval := by
  rw [dispatch, requestWorkflowApproval_present records present]
  exact present

/-- A new approval records the prepared parameters. -/
theorem dispatch_absent (absent : state.approvals approvalRef = none) (after : PlanRow)
    (prepared : Entries)
    : (dispatch py sha256Hex targetWorkspaceId state after approvalRef prepared).approvals
        approvalRef
      = some
          {
            status := .granted
            workspaceId :=
              approvalWorkspace py targetWorkspaceId prepared after.workspaceId
            params := withApproval prepared approvalRef
          } := by
  rw [dispatch, requestWorkflowApproval_absent absent]
  simp [recoveryApprovalPayload, approvalWorkspace_withApproval]

/-- The worker reads the dispatched parameters exactly if the dispatch agrees with the approval
it finds.
-/
theorem dispatch_checks_iff (records : RecordsOwnId state.approvals) {after : PlanRow}
    (reads : readsApproval after = true) (approvalRef : String) (prepared : Entries)
    : ChecksOwnApproval sha256Hex
        (dispatch py sha256Hex targetWorkspaceId state after approvalRef prepared)
      ↔ Agrees py sha256Hex targetWorkspaceId state.approvals after approvalRef prepared := by
  -- the state after the dispatch matters through these five facts only
  have row : (dispatch py sha256Hex targetWorkspaceId state after approvalRef prepared).row
      = after := rfl
  have sent
      : (dispatch py sha256Hex targetWorkspaceId state after approvalRef prepared).dispatched
        = some (dispatchedParams py sha256Hex targetWorkspaceId after.workspaceId approvalRef
            prepared) := rfl
  have kept := records.dispatch py sha256Hex targetWorkspaceId after approvalRef prepared
  have present := fun approval (before : state.approvals approvalRef = some approval) =>
    @dispatch_present _ _ py sha256Hex targetWorkspaceId _ records before after prepared
  have absent := fun (before : state.approvals approvalRef = none) =>
    @dispatch_absent _ py sha256Hex targetWorkspaceId _ before after prepared
  generalize dispatch py sha256Hex targetWorkspaceId state after approvalRef prepared = next
    at row sent kept present absent ⊢
  subst row
  constructor
  · intro checks
    obtain ⟨params, dispatched, same⟩ := checks reads
    obtain rfl := Option.some.inj (sent.symm.trans dispatched)
    have read := (same "approval_ref").trans (dispatchedParams_approvalRef _ _ _ _ _ _)
    obtain ⟨looked, approval, stored, workspace, params⟩ := readParams_approvalRef kept read
    rw [params] at same
    refine ⟨looked, ?_⟩
    cases before : state.approvals approvalRef with
    | some earlier =>
      obtain rfl := Option.some.inj (stored.symm.trans (present earlier before))
      exact ⟨workspace, same⟩
    | none =>
      obtain rfl := Option.some.inj (stored.symm.trans (absent before))
      exact ⟨workspace, (recorded_iff_namesWorkflow _ _ _ _ _ _).mp same⟩
  · intro agreed _
    obtain ⟨looked, agrees⟩ := agreed
    refine ⟨_, sent, ?_⟩
    cases before : state.approvals approvalRef with
    | some earlier =>
      simp only [before] at agrees
      rw [readParams_of_stored looked (present earlier before) agrees.1]
      exact agrees.2
    | none =>
      simp only [before] at agrees
      rw [readParams_of_stored looked (absent before) agrees.1]
      exact (recorded_iff_namesWorkflow _ _ _ _ _ _).mpr agrees.2

/-- The same without knowing whether the worker will read the approval. -/
theorem dispatch_checks_iff_of_reads (records : RecordsOwnId state.approvals) (after : PlanRow)
    (approvalRef : String) (prepared : Entries)
    : ChecksOwnApproval sha256Hex
        (dispatch py sha256Hex targetWorkspaceId state after approvalRef prepared)
      ↔ (readsApproval after = true
          → Agrees py sha256Hex targetWorkspaceId state.approvals after approvalRef
              prepared) := by
  by_cases reads : readsApproval after = true
  · rw [dispatch_checks_iff records reads]
    simp [reads]
  · exact iff_of_true (fun contradiction => absurd contradiction reads)
      (fun contradiction => absurd contradiction reads)

theorem reads_selected (reads : readsApproval row = true) : row.status = .selected := by
  simp only [readsApproval, Bool.and_eq_true, decide_eq_true_eq] at reads
  exact reads.1

/-- A step that leaves `selected` leaves nothing to check. -/
theorem moved_checks {changed : Option (PlanRow × List PlanEvent)}
    (checks : ChecksOwnApproval sha256Hex state)
    (leaves : ∀ after events, changed = some (after, events) → after.status ≠ .selected)
    : ChecksOwnApproval sha256Hex (moved state changed).1 := by
  cases result : changed with
  | none => exact checks
  | some done =>
    intro reads
    exact absurd (reads_selected reads) (leaves done.1 done.2 result)

theorem commitWrite_status {row after : PlanRow} {write : PlanWrite}
    (done : commitWrite row write = some (after, events))
    : (∃ update emitted, write = .update update emitted ∧ after.status = update.status)
      ∨ after.status = .selectionRequested := by
  cases write with
  | update update emitted =>
    obtain ⟨moved, rfl⟩ := emitting_some done
    obtain ⟨_, rfl⟩ := updateRecoveryPlanLifecycleIfStatus_some moved
    exact .inl ⟨update, emitted, rfl, rfl⟩
  | reopen actionId emitted =>
    obtain ⟨moved, rfl⟩ := emitting_some done
    obtain ⟨_, rfl⟩ := reopenRecoveryPlanAction_some moved
    exact .inr rfl

/-- A write to another status than `selected` leaves it. -/
theorem commit_leaves {prepared : Option PlanWrite}
    (other : ∀ update events, prepared = some (.update update events) → update.status ≠ .selected)
    : ∀ after events, prepared.bind (commitWrite row) = some (after, events)
        → after.status ≠ .selected := by
  intro after events done
  obtain ⟨write, accepted, committed⟩ := Option.bind_eq_some_iff.mp done
  rcases commitWrite_status committed with ⟨update, emitted, rfl, status⟩ | status
  · rw [status]
    exact other update emitted accepted
  · simp [status]

theorem approvalMachine_records (action : ApprovalAction) (records : RecordsOwnId state.approvals)
    : RecordsOwnId
        ((approvalMachine py sha256Hex targetWorkspaceId).step state action).1.approvals := by
  have keeps : ∀ changed, RecordsOwnId (moved state changed).1.approvals := by
    intro changed
    cases changed <;> exact records
  cases action with
  | select actionId prepared userId attemptId now =>
    simp only [approvalMachine]
    split
    · exact records
    · exact records.dispatch _ _ _ _ _ _
  | retry req prepared =>
    simp only [approvalMachine]
    split
    · exact records
    split
    · exact records.dispatch _ _ _ _ _ _
    · exact records
  | reopen | safePrFailed | safePrCreated => exact keeps _

/-- A step leads to a state in which the right approval is read exactly if it is faithful. -/
theorem approvalMachine_exact (action : ApprovalAction)
    (records : RecordsOwnId state.approvals) (checks : ChecksOwnApproval sha256Hex state)
    : ChecksOwnApproval sha256Hex
        ((approvalMachine py sha256Hex targetWorkspaceId).step state action).1
      ↔ Faithful py sha256Hex targetWorkspaceId state action := by
  cases action with
  | select actionId prepared userId attemptId now =>
    simp only [approvalMachine, Faithful]
    cases selectCandidate state.row actionId userId attemptId now with
    | none => simpa using checks
    | some after =>
      simp only [dispatch_checks_iff_of_reads records, Option.some.injEq, forall_eq']
  | retry req prepared =>
    simp only [approvalMachine, Faithful]
    cases retried sha256Hex state.row req with
    | none => simpa using checks
    | some done =>
      obtain ⟨after, events⟩ := done
      by_cases status : after.status = .selected
      · simp only [status, if_true, dispatch_checks_iff_of_reads records]
        constructor
        · intro agrees row emitted done reads
          cases done
          exact agrees reads
        · intro faithful reads
          exact faithful after events rfl reads
      · simp only [status]
        refine iff_of_true ?_ ?_
        · intro reads
          exact absurd (reads_selected reads) status
        · intro row emitted done reads
          cases done
          exact absurd (reads_selected reads) status
  | reopen actionId =>
    refine iff_of_true (moved_checks checks ?_) trivial
    intro after events done
    obtain ⟨moved, rfl⟩ := emitting_some done
    obtain ⟨_, rfl⟩ := reopenRecoveryPlanAction_some moved
    simp
  | safePrFailed event =>
    refine iff_of_true (moved_checks checks (commit_leaves ?_)) trivial
    intro update events prepared
    simp only [onRecoverySafePrFailed] at prepared
    split at prepared <;> cases prepared
    simp
  | safePrCreated event baseline now =>
    refine iff_of_true (moved_checks checks (commit_leaves ?_)) trivial
    intro update events prepared
    simp only [onRecoverySafePrCreated] at prepared
    repeat' split at prepared
    all_goals cases prepared
    simp

/-- A generated plan that waits for a selection, before any approval. -/
def unselected (plan : GeneratedPlan) : ApprovalState :=
  {
    row := plan.insert .selectionRequested none none
    approvals := fun _ => none
    dispatched := none }

/-- Every pull request is checked against the approval of its own attempt exactly in the runs in
which each dispatch agrees with the approval that the worker reads.
-/
theorem safe_pr_checked_against_own_approval_iff (py : Runtime)
    (sha256Hex : String → String) (targetWorkspaceId : String) (plan : GeneratedPlan)
    (actions : List ApprovalAction)
    : (∀ taken, taken <+: actions
        → ChecksOwnApproval sha256Hex
            ((approvalMachine py sha256Hex targetWorkspaceId).run (unselected plan) taken))
      ↔ (approvalMachine py sha256Hex targetWorkspaceId).Admits
          (Faithful py sha256Hex targetWorkspaceId) (unselected plan) actions := by
  refine Machine.good_iff_admits
    (fun _ action (records : RecordsOwnId _) => approvalMachine_records action records)
    (fun _ action records checks => approvalMachine_exact action records checks) ?_ ?_
  · intro approvalId approval stored
    cases stored
  · intro reads
    cases reads_selected reads

def scaleCandidatePlan : GeneratedPlan :=
  { scalePlan with
    payload :=
      { scalePlan.payload with
        candidates := [{ actionId := "scale", route := "draft_pr", clusterId := "cluster-1" }] } }

/-- The parameters that the preflight prepares at one commit of the manifests. -/
def preparedAt (commitSha : String) : Entries :=
  [(.str "workflow_run_id", .scalar (.str "workflow-1")),
    (.str "commit_sha", .scalar (.str commitSha))]

/-- The action is selected, reopened, and selected again after the manifests have moved on. -/
def reselectedAtNewCommit : ApprovalState :=
  (approvalMachine insertionRuntime id "").run (unselected scaleCandidatePlan)
    [.select "scale" (preparedAt "a1") "operator-1" "recovery-attempt-1" 0,
      .reopen "scale",
      .select "scale" (preparedAt "b2") "operator-1" "recovery-attempt-2" 60000000]

/-- The second attempt dispatches commit `b2`, and its pull request is checked against `a1`. -/
theorem reselection_checked_against_first_approval
    : ¬ChecksOwnApproval id reselectedAtNewCommit := by
  intro checks
  obtain ⟨params, sent, same⟩ := checks (by decide +kernel)
  have approved : (getKey (readParams id reselectedAtNewCommit) "commit_sha").map textValue
      = some "a1" := by decide +kernel
  have dispatched : (reselectedAtNewCommit.dispatched.bind (getKey · "commit_sha")).map textValue
      = some "b2" := by decide +kernel
  rw [sent, Option.bind_some, ← same, approved] at dispatched
  simp at dispatched

end K8sClue.Recovery
