import K8sClue.Library.Optimistic
import K8sClue.Recovery.Handlers

/-! All interleavings of the handlers, the operators and the janitor on one recovery plan.
Handlers read the row and write it back in separate steps; the store's own operations are
atomic. A new attempt begins with every entry into `selected` and with every retry.
-/

namespace K8sClue.Recovery

open Library Python SourcePatch

inductive HandlerInput where
  | safePrCreated (event : SafePrCreated) (params : Entries) (baseline : Baseline)
      (now : Instant)
  | safePrFailed (event : SafePrFailed)
  | pullRequest (webhook : PullRequestWebhook) (context : MergeContext)
  | deployCompleted (event : WorkflowEvent) (workflow : Option WorkflowRun) (now : Instant)
  | deployFailed (event : WorkflowEvent) (reason : String)
  | evidence (event : EvidenceReceived)
  | retry (req : RetryRequest)

/-- The atomic operations. The recovery worker upserts a plan either without an action or as
selected with one.
-/
inductive PlanOperation where
  | upsertRequested (plan : GeneratedPlan)
  | upsertSelected (plan : GeneratedPlan) (actionId selectedBy : String)
  | select (actionId selectedBy attemptId : String) (now : Instant)
  | reopen (actionId : String)
  | expire (now : Instant)

def PlanOperation.isUpsert : PlanOperation → Bool
  | .upsertRequested _ => true
  | .upsertSelected _ _ _ => true
  | _ => false

variable (py : Runtime) (sha256Hex : String → String)

def prepareWrite (row : PlanRow) : HandlerInput → Option PlanWrite
  | .safePrCreated event params baseline now =>
    onRecoverySafePrCreated row event params baseline now
  | .safePrFailed event => onRecoverySafePrFailed row event
  | .pullRequest webhook context =>
    handleTrackedRecoveryPullRequest py sha256Hex row webhook context
  | .deployCompleted event workflow now => startRecoveryVerification row event workflow now
  | .deployFailed event reason => onRecoveryDeployFailed row event reason
  | .evidence event => onRecoveryVerificationEvidence row event
  | .retry req => retryRecovery sha256Hex row req

/-- The row after a write that succeeds, and the events of its handler. -/
def commitWrite (row : PlanRow) : PlanWrite → Option (PlanRow × List PlanEvent)
  | .update update events =>
    (updateRecoveryPlanLifecycleIfStatus row update).map (·, events)
  | .reopen actionId events => (reopenRecoveryPlanAction row actionId).map (·, events)

/-- The upsert is one of this row. -/
def GeneratedPlan.addresses (plan : GeneratedPlan) : Option PlanRow → Bool
  | none => true
  | some row => row.planId = plan.planId && row.workspaceId = plan.workspaceId

variable (row : Option PlanRow)

def applyUpsert (plan : GeneratedPlan) (status : PlanStatus)
    (selectedActionId selectedBy : Option String)
    : Option (PlanRow × List PlanEvent) :=
  if plan.addresses row then
    (upsertRecoveryPlan row plan status selectedActionId selectedBy).map (·, [])
  else
    none

def applyOperation : PlanOperation → Option (PlanRow × List PlanEvent)
  | .upsertRequested plan => applyUpsert row plan .selectionRequested none none
  | .upsertSelected plan actionId selectedBy =>
    applyUpsert row plan .selected (some actionId) (some selectedBy)
  | .select actionId selectedBy attemptId now =>
    row.bind (fun current =>
      (selectRecoveryPlanActionIfOpen current actionId selectedBy attemptId now).map
        (·, [.actionSelected current.planId actionId]))
  | .reopen actionId =>
    row.bind (fun current => (reopenRecoveryPlanAction current actionId).map (·, []))
  | .expire now =>
    row.bind (fun current =>
      (expireRecoveryVerification current now).map
        (·, [.verificationFailed current.planId verificationWindowExpired]))

/-- A change begins a new attempt: it enters `selected`, or it retries a failed plan. -/
def beginsAttempt (before : Option PlanStatus) : PlanStatus → Bool
  | .selected => before ≠ some .selected
  | .deployPending => before = some .failed
  | .verificationPending => before = some .failed
  | _ => false

def changeBeginsAttempt (changed : Option (PlanRow × List PlanEvent)) : Bool :=
  match changed with
  | none => false
  | some (after, _) => beginsAttempt (row.map PlanRow.status) after.status

/-- The row of one plan under all its handlers and operations; an epoch is an attempt. -/
def planStore : Store (Option PlanRow) HandlerInput PlanWrite PlanOperation PlanEvent where
  prepare _ row input := row.bind (fun current => prepareWrite py sha256Hex current input)
  commit row write :=
    (row.bind (fun current => commitWrite current write)).map (fun done => (some done.1, done.2))
  apply row operation := (applyOperation row operation).map (fun done => (some done.1, done.2))
  commitOpens row write :=
    changeBeginsAttempt row (row.bind (fun current => commitWrite current write))
  applyOpens row operation := changeBeginsAttempt row (applyOperation row operation)

abbrev PlanState := StoreState (Option PlanRow) PlanWrite

abbrev PlanAction := StoreAction HandlerInput PlanOperation

def planMachine : Machine PlanState PlanAction (Change (Option PlanRow) PlanWrite PlanEvent) :=
  (planStore py sha256Hex).machine

def noPlan : PlanState := Store.initial none

-----------------------------------------------------------------------------------------
-- Well-formed rows, and the writes that keep them so
-----------------------------------------------------------------------------------------

def PlanStatus.isDeployed : PlanStatus → Bool
  | .deployPending => true
  | .verificationPending => true
  | .completed => true
  | _ => false

def PlanEvent.isResolution : PlanEvent → Bool
  | .incidentResolved _ _ => true
  | _ => false

/-- The merge is stored with the workflow run that deploys it. -/
def Lifecycle.HasWorkflow (lifecycle : Lifecycle) : Prop :=
  ∃ merge, lifecycle.merge = some merge ∧ merge.workflowRunId ≠ ""

/-- An action is selected outside `selection_requested`, and a deployed plan names its run. -/
structure PlanRow.WellFormed (row : PlanRow) : Prop where
  selection : row.selectedActionId = none ↔ row.status = .selectionRequested
  workflow : row.status.isDeployed → row.payload.lifecycle.HasWorkflow

/-- What the update of a handler guarantees, whichever row it meets. -/
structure LifecycleUpdate.Valid (update : LifecycleUpdate) (events : List PlanEvent) : Prop where
  selection : update.clearSelection = true ↔ update.status = .selectionRequested
  expectsSelection : update.expected ≠ .selectionRequested
  expectsOpen : update.expected ≠ .completed
  workflow : update.status.isDeployed → update.lifecycle.HasWorkflow
  resolution : events.countP PlanEvent.isResolution = 0
    ∨ (events.countP PlanEvent.isResolution = 1 ∧ update.expected = .verificationPending
      ∧ update.status = .completed)

def PlanWrite.Valid : PlanWrite → Prop
  | .update change events => change.Valid events
  | .reopen _ events => events.countP PlanEvent.isResolution = 0

theorem workflowRunIdOf_ne_empty (raw : String) : workflowRunIdOf sha256Hex raw ≠ "" := by
  intro empty
  have length := congrArg String.length empty
  simp [workflowRunIdOf] at length

variable {py : Runtime} {sha256Hex : String → String} {row : PlanRow} {write : PlanWrite}

variable {before : Option PlanRow} {merge : Merge} {now : Instant} {operation : PlanOperation}
  {plan : GeneratedPlan} {reason : String} {req : RetryRequest}
  {selectedActionId selectedBy : Option String} {state : PlanState} {status : PlanStatus}

/-- All that the handlers write on what they have read, with what they have checked of it. -/
inductive Prepared (row : PlanRow) : PlanWrite → Prop where
  | untracked (actionId reasonCode : String)
    : Prepared row (.reopen actionId [.followupRequired reasonCode])
  | tracked (candidate : RecoveryCandidate) (event : SafePrCreated) (params : Entries)
      (baseline : Baseline) (now : Instant)
    : Prepared row (.update
          {
            expected := .selected
            status := .prOpen
            lifecycle := trackedLifecycle row candidate event params baseline now
            clearSelection := false }
          [.prTracked row.planId event.prUrl])
  | failed (failure : Failure) {expected : PlanStatus} {reported : PlanEvent}
      (stage : expected = .selected ∨ expected = .deployPending)
      (named : reported = .followupRequired failure.reasonCode
        ∨ reported = .verificationFailed row.planId failure.reasonCode)
    : Prepared row (.update
          {
            expected
            status := .failed
            lifecycle :=
              { row.payload.lifecycle with phase := some .failed, failure := some failure }
            clearSelection := false }
          [reported])
  | rejected (reasonCode reason : String)
    : Prepared row (rejectTrackedRecoveryPullRequest row reasonCode reason)
  | merged (pr : TrackedPullRequest) (webhook : PullRequestWebhook)
      {req : DeploymentRequest} (now : Instant) (tracked : row.status = .prOpen)
      (named : req.workflowRunId ≠ "")
    : Prepared row (mergedWrite row pr webhook req now)
  | started (workflowRunId : String) (now : Instant) (pending : row.status = .deployPending)
    : Prepared row (verificationStart row workflowRunId now)
  | judged (decision : VerificationDecision) (pending : row.status = .verificationPending)
    : Prepared row (decisionWrite row decision)
  | redeployed (merge : Merge) (req : RetryRequest) {deployment : DeploymentRequest}
      (attempt : Nat) (reason : String) (named : deployment.workflowRunId ≠ "")
    : Prepared row (deployRetry row merge req deployment attempt reason)
  | reverified {merge : Merge} (req : RetryRequest) (reason : String)
      (stored : row.payload.lifecycle.merge = some merge) (named : merge.workflowRunId ≠ "")
    : Prepared row (verificationRetry row merge req reason)
  | reselected (actionId : String) (req : RetryRequest) (reason : String)
    : Prepared row (safePrRetry row actionId req reason)

theorem retryRecovery_prepared (retried : retryRecovery sha256Hex row req = some write)
    : Prepared row write := by
  simp only [retryRecovery] at retried
  split at retried
  · cases retried
  split at retried
  · repeat' split at retried
    all_goals cases retried
    all_goals exact .reselected _ _ _
  split at retried
  · cases retried
  rename_i merge stored
  split at retried
  · cases retried
  rename_i named
  split at retried
  · obtain ⟨deployment, done, rfl⟩ := Option.map_eq_some_iff.mp retried
    simp only [deployRetryBody] at done
    split at done <;> cases done
    exact .redeployed _ _ _ _ (workflowRunIdOf_ne_empty sha256Hex _)
  split at retried <;> cases retried
  exact .reverified _ _ stored (fun empty => named (by rw [empty]; decide +kernel))

/-- Every handler ignores what it is told, or prepares one of these writes.
Witness: follow the source's early returns in their order.
-/
theorem prepareWrite_prepared {input : HandlerInput}
    (prepared : prepareWrite py sha256Hex row input = some write)
    : Prepared row write := by
  cases input with
  | safePrCreated event params baseline now =>
    simp only [prepareWrite, onRecoverySafePrCreated] at prepared
    repeat' split at prepared
    all_goals cases prepared
    · exact .untracked _ _
    · exact .tracked _ _ _ _ _
  | safePrFailed event =>
    simp only [prepareWrite, onRecoverySafePrFailed] at prepared
    split at prepared <;> cases prepared
    exact .failed _ (.inl rfl) (.inl rfl)
  | pullRequest webhook context =>
    simp only [prepareWrite, handleTrackedRecoveryPullRequest] at prepared
    split at prepared
    · cases prepared
    split at prepared
    · cases prepared
    rename_i known
    have tracked : row.status = .prOpen := by
      simp only [Bool.or_eq_true, not_or, Bool.not_eq_true', Bool.not_eq_false,
        tracksPullRequest, Bool.and_eq_true, decide_eq_true_eq] at known
      exact known.2.1.1.1.1.1.1
    -- every other branch ignores the webhook or rejects the pull request
    repeat' split at prepared
    all_goals cases prepared
    all_goals first
      | exact .rejected _ _
      | exact .merged _ _ _ tracked (workflowRunIdOf_ne_empty sha256Hex _)
  | deployCompleted event workflow now =>
    simp only [prepareWrite, startRecoveryVerification] at prepared
    repeat' split at prepared
    all_goals cases prepared
    rename_i pending
    exact .started _ _ pending.1
  | deployFailed event reason =>
    simp only [prepareWrite, onRecoveryDeployFailed] at prepared
    repeat' split at prepared
    all_goals cases prepared
    exact .failed _ (.inr rfl) (.inr rfl)
  | evidence event =>
    simp only [prepareWrite, onRecoveryVerificationEvidence] at prepared
    split at prepared <;> cases prepared
    · rename_i accepted
      exact .judged _ (by_contra fun other => accepted (.inr (.inr (.inl other))))
  | retry req => exact retryRecovery_prepared prepared

/-- Only the events of a completing decision resolve the incident, and they do so once. -/
theorem decisionEvents_resolution (row : PlanRow) (decision : VerificationDecision)
    : (decisionEvents row decision).countP PlanEvent.isResolution = 0
      ∨ ((decisionEvents row decision).countP PlanEvent.isResolution = 1
        ∧ decision.status.planStatus = .completed) := by
  cases outcome : decision.status <;>
    simp [decisionEvents, outcome, PlanEvent.isResolution, DecisionStatus.planStatus]

/-- From a well-formed row every handler prepares a valid write. -/
theorem Prepared.valid (prepared : Prepared row write) (wellFormed : row.WellFormed)
    : write.Valid := by
  have undeployed : ∀ {status : PlanStatus} {lifecycle : Lifecycle},
      status.isDeployed = false → status.isDeployed → lifecycle.HasWorkflow :=
    fun early deployed => by simp [early] at deployed
  cases prepared with
  | untracked => rfl
  | tracked => exact ⟨by simp, by simp, by simp, undeployed rfl, .inl rfl⟩
  | failed _ stage named =>
    rcases stage with rfl | rfl <;> rcases named with rfl | rfl <;>
      exact ⟨by simp, by simp, by simp, undeployed rfl, .inl rfl⟩
  | rejected => exact ⟨by simp, by simp, by simp, undeployed rfl, .inl rfl⟩
  | merged _ _ _ _ named =>
    exact ⟨by simp, by simp, by simp, fun _ => ⟨_, rfl, named⟩, .inl rfl⟩
  | started _ _ pending =>
    exact ⟨by simp, by simp, by simp,
      fun _ => wellFormed.workflow (by simp [pending, PlanStatus.isDeployed]), .inl rfl⟩
  | judged decision pending =>
    refine ⟨?_, by simp, by simp,
      fun _ => wellFormed.workflow (by simp [pending, PlanStatus.isDeployed]), ?_⟩
    · cases outcome : decision.status <;> simp [DecisionStatus.planStatus]
    · rcases decisionEvents_resolution row decision with none | ⟨once, completed⟩
      · exact .inl none
      · exact .inr ⟨once, rfl, completed⟩
  | redeployed _ _ _ _ named =>
    exact ⟨by simp, by simp, by simp, fun _ => ⟨_, rfl, named⟩, .inl rfl⟩
  | reverified _ _ stored named =>
    exact ⟨by simp, by simp, by simp, fun _ => ⟨_, stored, named⟩, .inl rfl⟩
  | reselected => exact ⟨by simp, by simp, by simp, undeployed rfl, .inl rfl⟩

-----------------------------------------------------------------------------------------
-- What a change of the row guarantees
-----------------------------------------------------------------------------------------

/-- A change leaves a well-formed row, does not touch a completed plan, and resolves the
incident only where it completes the verification.
-/
structure LawfulChange (before : Option PlanRow) (after : PlanRow) (events : List PlanEvent)
    : Prop where
  wellFormed : after.WellFormed
  frozen : ∀ row, before = some row → row.status = .completed
    → after.status = .completed ∧ after.payload = row.payload
  resolution : events.countP PlanEvent.isResolution = 0
    ∨ (events.countP PlanEvent.isResolution = 1
      ∧ before.map PlanRow.status = some .verificationPending ∧ after.status = .completed)

variable {after : PlanRow} {events : List PlanEvent}

/-- An operation with events succeeds with the change of its row. -/
theorem emitting_some {changed : Option PlanRow} {emitted : List PlanEvent}
    (done : changed.map (·, emitted) = some (after, events))
    : changed = some after ∧ emitted = events := by
  obtain ⟨row, moved, pair⟩ := Option.map_eq_some_iff.mp done
  obtain ⟨rfl, rfl⟩ := Prod.mk.inj pair
  exact ⟨moved, rfl⟩

/-- A change in the store is a change of the row it holds. -/
theorem stored_some {changed : Option (PlanRow × List PlanEvent)} {stored : Option PlanRow}
    (done : changed.map (fun change => (some change.1, change.2)) = some (stored, events))
    : ∃ next, stored = some next ∧ changed = some (next, events) := by
  obtain ⟨⟨next, emitted⟩, moved, pair⟩ := Option.map_eq_some_iff.mp done
  obtain ⟨rfl, rfl⟩ := Prod.mk.inj pair
  exact ⟨next, rfl, moved⟩

theorem update_lawful {update : LifecycleUpdate} (wellFormed : row.WellFormed)
    (valid : update.Valid events)
    (done : updateRecoveryPlanLifecycleIfStatus row update = some after)
    : LawfulChange (some row) after events := by
  obtain ⟨current, rfl⟩ := updateRecoveryPlanLifecycleIfStatus_some done
  have chosen : row.selectedActionId ≠ none := by
    intro unselected
    exact valid.expectsSelection (current ▸ wellFormed.selection.mp unselected)
  refine ⟨⟨?_, valid.workflow⟩, ?_, ?_⟩
  · rw [← valid.selection]
    cases update.clearSelection <;> simp [chosen]
  · intro current present completed
    cases present
    exact absurd (current ▸ completed) valid.expectsOpen
  · rcases valid.resolution with silent | ⟨once, pending, completed⟩
    · exact .inl silent
    · exact .inr ⟨once, by simp [current, pending], completed⟩

/-- A change that leaves a status before the deployment, on a row that was not completed. -/
theorem lawful_undeployed
    (selection : after.selectedActionId = none ↔ after.status = .selectionRequested)
    (undeployed : after.status.isDeployed = false)
    (unfinished : ∀ row, before = some row → row.status ≠ .completed)
    (silent : events.countP PlanEvent.isResolution = 0)
    : LawfulChange before after events where
  wellFormed := ⟨selection, fun deployed => by simp [undeployed] at deployed⟩
  frozen := fun row present completed => absurd completed (unfinished row present)
  resolution := .inl silent

theorem reopen_lawful {actionId : String} (silent : events.countP PlanEvent.isResolution = 0)
    (done : reopenRecoveryPlanAction row actionId = some after)
    : LawfulChange (some row) after events := by
  obtain ⟨selected, rfl⟩ := reopenRecoveryPlanAction_some done
  exact lawful_undeployed (by simp) rfl (by simp [selected]) silent

/-- A replayed plan overwrites a row only while an action is still to be selected. -/
theorem upsertRecoveryPlan_replay (chosen : row.status ≠ .selectionRequested)
    (done : upsertRecoveryPlan (some row) plan status selectedActionId selectedBy = some after)
    : after.status = row.status ∧ after.selectedActionId = row.selectedActionId
      ∧ after.payload = row.payload := by
  have monotonic : row.status.isMonotonic = true := by
    cases current : row.status <;> simp_all [PlanStatus.isMonotonic]
  simp only [upsertRecoveryPlan, monotonic, if_true] at done
  split at done <;> cases done
  exact ⟨rfl, rfl, rfl⟩

/-- An upsert that overwrites the row stores the status and the action it was called with. -/
theorem upsertRecoveryPlan_overwrite
    (open' : ∀ row, before = some row → row.status = .selectionRequested)
    (done : upsertRecoveryPlan before plan status selectedActionId selectedBy = some after)
    : (status = .selectionRequested ∨ status = .selected)
      ∧ after.status = status ∧ after.selectedActionId = selectedActionId := by
  simp only [upsertRecoveryPlan] at done
  split at done
  · rename_i supported
    refine ⟨supported, ?_⟩
    split at done
    · cases done
      exact ⟨rfl, rfl⟩
    · rename_i row
      simp only [open' row rfl] at done
      cases done
      exact ⟨rfl, rfl⟩
  · cases done

def PlanInvariant (row : Option PlanRow) : Prop :=
  ∀ current, row = some current → current.WellFormed

/-- All that the operations make of a row, with what they have checked of it. -/
inductive Applied (before : Option PlanRow)
    : PlanOperation → PlanRow → List PlanEvent → Prop where
  | replayed {operation : PlanOperation} {row after : PlanRow} (present : before = some row)
      (status : after.status = row.status)
      (selection : after.selectedActionId = row.selectedActionId)
      (payload : after.payload = row.payload)
    : Applied before operation after []
  | upserted {operation : PlanOperation} {after : PlanRow} (asked : operation.isUpsert = true)
      (requested : ∀ row, before = some row → row.status = .selectionRequested)
      (status : after.status = .selectionRequested ∨ after.status = .selected)
      (selection : after.selectedActionId = none ↔ after.status = .selectionRequested)
    : Applied before operation after []
  | selected (actionId selectedBy attemptId : String) (now : Instant) {row after : PlanRow}
      (present : before = some row) (requested : row.status = .selectionRequested)
      (status : after.status = .selected) (selection : after.selectedActionId = some actionId)
      (number : after.payload.lifecycle.attempt.map Attempt.number
        = some ((row.payload.lifecycle.attempt.map Attempt.number).getD 0 + 1))
    : Applied before (.select actionId selectedBy attemptId now) after
        [.actionSelected row.planId actionId]
  | reopened (actionId : String) {row after : PlanRow} (present : before = some row)
      (done : reopenRecoveryPlanAction row actionId = some after)
    : Applied before (.reopen actionId) after []
  | expired (now : Instant) {row after : PlanRow} (present : before = some row)
      (pending : row.status = .verificationPending) (status : after.status = .failed)
      (selection : after.selectedActionId = row.selectedActionId)
      (attempt : after.payload.lifecycle.attempt = row.payload.lifecycle.attempt)
    : Applied before (.expire now) after [.verificationFailed row.planId verificationWindowExpired]

theorem applyUpsert_applied (asked : operation.isUpsert = true)
    (selection : selectedActionId = none ↔ status = .selectionRequested)
    (done : applyUpsert before plan status selectedActionId selectedBy = some (after, events))
    : Applied before operation after events := by
  simp only [applyUpsert] at done
  split at done
  case isFalse => cases done
  obtain ⟨upserted, rfl⟩ := emitting_some done
  by_cases replay : ∃ row, before = some row ∧ row.status ≠ .selectionRequested
  · obtain ⟨row, rfl, chosen⟩ := replay
    obtain ⟨sameStatus, sameAction, samePayload⟩ := upsertRecoveryPlan_replay chosen upserted
    exact .replayed rfl sameStatus sameAction samePayload
  · have requested : ∀ row, before = some row → row.status = .selectionRequested := by
      intro row present
      by_contra chosen
      exact replay ⟨row, present, chosen⟩
    obtain ⟨supported, newStatus, newAction⟩ := upsertRecoveryPlan_overwrite requested upserted
    exact .upserted asked requested (by rwa [newStatus]) (by rwa [newStatus, newAction])

theorem applyOperation_applied (done : applyOperation before operation = some (after, events))
    : Applied before operation after events := by
  cases operation with
  | upsertRequested plan => exact applyUpsert_applied rfl (by simp) done
  | upsertSelected plan actionId selectedBy => exact applyUpsert_applied rfl (by simp) done
  | select actionId selectedBy attemptId now =>
    obtain ⟨row, rfl, selected⟩ := Option.bind_eq_some_iff.mp done
    obtain ⟨moved, rfl⟩ := emitting_some selected
    simp only [selectRecoveryPlanActionIfOpen] at moved
    split at moved <;> cases moved
    rename_i requested
    exact .selected _ _ _ _ rfl requested rfl rfl rfl
  | reopen actionId =>
    obtain ⟨row, rfl, reopened⟩ := Option.bind_eq_some_iff.mp done
    obtain ⟨moved, rfl⟩ := emitting_some reopened
    exact .reopened _ rfl moved
  | expire now =>
    obtain ⟨row, rfl, expired⟩ := Option.bind_eq_some_iff.mp done
    obtain ⟨moved, rfl⟩ := emitting_some expired
    simp only [expireRecoveryVerification] at moved
    repeat' split at moved
    all_goals cases moved
    rename_i overdue
    exact .expired _ rfl overdue.1 rfl rfl rfl

theorem Applied.lawful (applied : Applied before operation after events)
    (invariant : PlanInvariant before)
    : LawfulChange before after events := by
  cases applied with
  | @replayed _ row _ present status selection payload =>
    subst present
    have wellFormed := invariant row rfl
    refine ⟨⟨?_, ?_⟩, ?_, .inl rfl⟩
    · rw [status, selection]
      exact wellFormed.selection
    · rw [status, payload]
      exact wellFormed.workflow
    · intro current present completed
      cases present
      exact ⟨status.trans completed, payload⟩
  | upserted _ requested status selection =>
    refine lawful_undeployed selection ?_ (fun row present => by simp [requested row present]) rfl
    rcases status with status | status <;> simp [status, PlanStatus.isDeployed]
  | selected _ _ _ _ present requested status selection _ =>
    subst present
    exact lawful_undeployed (by simp [status, selection]) (by simp [status, PlanStatus.isDeployed])
      (by simp [requested]) rfl
  | reopened _ present done => exact present ▸ reopen_lawful rfl done
  | @expired _ row _ present pending status selection _ =>
    subst present
    refine lawful_undeployed ?_ (by simp [status, PlanStatus.isDeployed]) (by simp [pending]) rfl
    rw [selection, (invariant row rfl).selection]
    simp [status, pending]

theorem commitWrite_lawful (wellFormed : row.WellFormed) (valid : write.Valid)
    (done : commitWrite row write = some (after, events))
    : LawfulChange (some row) after events := by
  cases write with
  | update change emitted =>
    obtain ⟨moved, rfl⟩ := emitting_some done
    exact update_lawful wellFormed valid moved
  | reopen actionId emitted =>
    obtain ⟨moved, rfl⟩ := emitting_some done
    exact reopen_lawful valid moved

-----------------------------------------------------------------------------------------
-- Every change of every run is lawful
-----------------------------------------------------------------------------------------

theorem planStore_commit {before after : Option PlanRow}
    (invariant : PlanInvariant before) (valid : write.Valid)
    (done : (planStore py sha256Hex).commit before write = some (after, events))
    : ∃ next, after = some next ∧ LawfulChange before next events := by
  obtain ⟨next, rfl, committed⟩ := stored_some done
  obtain ⟨row, rfl, landed⟩ := Option.bind_eq_some_iff.mp committed
  exact ⟨next, rfl, commitWrite_lawful (invariant row rfl) valid landed⟩

theorem planStore_apply {before after : Option PlanRow} (invariant : PlanInvariant before)
    (done : (planStore py sha256Hex).apply before operation = some (after, events))
    : ∃ next, after = some next ∧ LawfulChange before next events := by
  obtain ⟨next, rfl, applied⟩ := stored_some done
  exact ⟨next, rfl, (applyOperation_applied applied).lawful invariant⟩

theorem LawfulChange.invariant {before after : Option PlanRow}
    (lawful : ∃ next, after = some next ∧ LawfulChange before next events)
    : PlanInvariant after := by
  obtain ⟨next, rfl, change⟩ := lawful
  intro current present
  cases present
  exact change.wellFormed

variable (py sha256Hex)

theorem planStore_maintains
    : (planStore py sha256Hex).Maintains (fun _ _ => True) (fun _ => PlanInvariant)
        (fun ticket => ticket.write.Valid) where
  prepares := by
    intro _ row input write invariant prepared
    obtain ⟨current, rfl, computed⟩ := Option.bind_eq_some_iff.mp prepared
    exact (prepareWrite_prepared computed).valid (invariant current rfl)
  commits := by
    intro state handler ticket after effects sound _ held done
    exact LawfulChange.invariant
      (planStore_commit sound.row (sound.pending handler ticket held) done)
  applies := by
    intro _ row operation after effects invariant done
    exact LawfulChange.invariant (planStore_apply invariant done)

theorem noPlan_sound
    : Store.Sound (fun _ => PlanInvariant) (fun ticket => ticket.write.Valid) noPlan where
  row := by
    intro current present
    cases present
  pending := by
    intro handler ticket held
    cases held

theorem planMachine_lawful
    (sound : Store.Sound (fun _ => PlanInvariant) (fun ticket => ticket.write.Valid) state)
    (actions : List PlanAction)
    : ∀ change ∈ (planMachine py sha256Hex).trace state actions,
        ∃ next, change.after = some next ∧ LawfulChange change.before next change.effects := by
  refine (planStore_maintains py sha256Hex).changes ?_ ?_ sound (Machine.admits_true _ _)
  · intro state handler ticket after effects sound _ held done
    exact planStore_commit sound.row (sound.pending handler ticket held) done
  · intro _ row operation after effects invariant done
    exact planStore_apply invariant done

/-- How often the incident of the plan may still be resolved. -/
def openResolutions : Option PlanRow → Nat
  | none => 1
  | some row => if row.status = .completed then 0 else 1

theorem LawfulChange.pays (lawful : LawfulChange before after events)
    : events.countP PlanEvent.isResolution + openResolutions (some after)
      ≤ openResolutions before := by
  rcases lawful.resolution with silent | ⟨once, pending, completed⟩
  · cases before with
    | none =>
      simp only [openResolutions]
      split <;> omega
    | some row =>
      by_cases completed : row.status = .completed
      · simp [silent, openResolutions, (lawful.frozen row rfl completed).1]
      · simp only [silent, openResolutions]
        split <;> simp
  · obtain ⟨row, rfl, status⟩ := Option.map_eq_some_iff.mp pending
    simp [once, openResolutions, completed, status]

theorem planMachine_resolutions (actions : List PlanAction)
    : (((planMachine py sha256Hex).trace noPlan actions).flatMap Change.effects).countP
          PlanEvent.isResolution
        + openResolutions ((planMachine py sha256Hex).run noPlan actions).row
      ≤ 1 := by
  refine Store.trace_countP_le ?_
  intro change mem
  obtain ⟨next, after, lawful⟩ :=
    planMachine_lawful py sha256Hex noPlan_sound actions change mem
  rw [after]
  exact lawful.pays

variable {py sha256Hex}

/-- What all interleavings on one plan guarantee after the given actions. -/
structure PlanRunLaws (py : Runtime) (sha256Hex : String → String)
    (actions : List PlanAction)
    : Prop where
  /-- A completed plan stays completed with the payload it had. -/
  frozen : ∀ later row, ((planMachine py sha256Hex).run noPlan actions).row = some row
    → row.status = .completed
    → ∃ next, ((planMachine py sha256Hex).run noPlan (actions ++ later)).row = some next
        ∧ next.status = .completed ∧ next.payload = row.payload
  resolvedOnce
    : (((planMachine py sha256Hex).trace noPlan actions).flatMap Change.effects).countP
        PlanEvent.isResolution ≤ 1
  /-- Only the step that completes a verification resolves the incident. -/
  resolvedOnCompletion : ∀ change ∈ (planMachine py sha256Hex).trace noPlan actions,
      ∀ event ∈ change.effects, event.isResolution = true
      → change.before.map PlanRow.status = some .verificationPending
        ∧ change.after.map PlanRow.status = some .completed
  selection : ∀ row, ((planMachine py sha256Hex).run noPlan actions).row = some row
    → (row.selectedActionId = none ↔ row.status = .selectionRequested)
  workflow : ∀ row, ((planMachine py sha256Hex).run noPlan actions).row = some row
    → row.status = .deployPending ∨ row.status = .verificationPending
      ∨ row.status = .completed
    → ∃ merge, row.payload.lifecycle.merge = some merge ∧ merge.workflowRunId ≠ ""
  /-- A replayed plan leaves a row with a selected action as it is. -/
  replay : ∀ row operation, ((planMachine py sha256Hex).run noPlan actions).row = some row
    → row.status ≠ .selectionRequested → operation.isUpsert = true
    → ∃ next, ((planMachine py sha256Hex).run noPlan
          (actions ++ [.apply operation])).row = some next
        ∧ next.status = row.status ∧ next.selectedActionId = row.selectedActionId
        ∧ next.payload = row.payload

/-- The row is completed with this payload. -/
def CompletedWith (payload : PlanPayload) (row : Option PlanRow) : Prop :=
  ∃ current, row = some current ∧ current.status = .completed ∧ current.payload = payload

theorem completed_run {payload : PlanPayload}
    (sound : Store.Sound (fun _ => PlanInvariant) (fun ticket => ticket.write.Valid) state)
    (completed : CompletedWith payload state.row) (actions : List PlanAction)
    : CompletedWith payload ((planMachine py sha256Hex).run state actions).row := by
  refine Store.run_keeps ?_ completed
  intro change mem completed
  obtain ⟨row, before, status, rfl⟩ := completed
  obtain ⟨next, after, lawful⟩ := planMachine_lawful py sha256Hex sound actions change mem
  obtain ⟨kept, same⟩ := lawful.frozen row before status
  exact ⟨next, after, kept, same⟩

theorem replay_step (present : state.row = some row) (chosen : row.status ≠ .selectionRequested)
    (upsert : operation.isUpsert = true)
    : ∃ next, ((planMachine py sha256Hex).step state (.apply operation)).1.row = some next
        ∧ next.status = row.status ∧ next.selectedActionId = row.selectedActionId
        ∧ next.payload = row.payload := by
  simp only [planMachine, Store.machine, Store.stepApply]
  split
  · exact ⟨row, present, rfl, rfl, rfl⟩
  · rename_i done
    obtain ⟨next, rfl, applied⟩ := stored_some done
    rw [present] at applied
    refine ⟨next, rfl, ?_⟩
    cases applyOperation_applied applied with
    | replayed same status selection payload =>
      cases same
      exact ⟨status, selection, payload⟩
    | upserted _ requested => exact absurd (requested row rfl) chosen
    | selected | reopened | expired => cases upsert

/-- In every interleaving, completion is final, the incident is resolved at most once, and the
row names its action and its workflow run exactly where its status says so.
Witness: every change is lawful, and lawful changes compose along the run.
-/
theorem planMachine_laws (py : Runtime) (sha256Hex : String → String)
    (actions : List PlanAction)
    : PlanRunLaws py sha256Hex actions := by
  have sound := (planStore_maintains py sha256Hex).run noPlan_sound
    (Machine.admits_true _ actions)
  have lawful := planMachine_lawful py sha256Hex noPlan_sound actions
  refine ⟨?_, ?_, ?_, ?_, ?_, ?_⟩
  · intro later row present completed
    rw [Machine.run_append]
    exact completed_run sound ⟨row, present, completed, rfl⟩ later
  · exact le_trans (Nat.le_add_right _ _) (planMachine_resolutions py sha256Hex actions)
  · intro change mem event emitted resolves
    obtain ⟨next, after, change⟩ := lawful change mem
    rcases change.resolution with silent | ⟨_, pending, completed⟩
    · exact absurd resolves (by simpa using List.countP_eq_zero.mp silent event emitted)
    · exact ⟨pending, by simp [after, completed]⟩
  · intro row present
    exact (sound.row row present).selection
  · intro row present deployed
    refine (sound.row row present).workflow ?_
    rcases deployed with status | status | status <;> simp [status, PlanStatus.isDeployed]
  · intro row operation present chosen upsert
    rw [Machine.run_concat]
    exact replay_step present chosen upsert

-----------------------------------------------------------------------------------------
-- Writes and attempts
-----------------------------------------------------------------------------------------

/-- Every write that succeeded was computed from a read of the attempt it changed. -/
def LandsInOwnAttempt (changes : List (Change (Option PlanRow) PlanWrite PlanEvent)) : Prop :=
  ∀ change ∈ changes, ∀ ticket, change.ticket = some ticket → ticket.since = change.epoch

instance (changes : List (Change (Option PlanRow) PlanWrite PlanEvent))
    : Decidable (LandsInOwnAttempt changes) :=
  decidable_of_iff
    (∀ change ∈ changes, (change.ticket.all (fun ticket => ticket.since == change.epoch)) = true)
    (by simp [LandsInOwnAttempt, Option.all_eq_true])

/-- The compare-and-set keeps writes within their attempt as long as an attempt begins only
while no other handler is between its read and its write.
-/
theorem planMachine_lands_in_own_attempt (py : Runtime) (sha256Hex : String → String)
    {actions : List PlanAction}
    (quiet
      : (planMachine py sha256Hex).Admits (planStore py sha256Hex).Quiet noPlan actions)
    : LandsInOwnAttempt ((planMachine py sha256Hex).trace noPlan actions) := by
  refine Store.quiet_changes ?_ quiet
  intro handler ticket held
  cases held

def scalePlan : GeneratedPlan :=
  {
    planId := "plan-1"
    workspaceId := "workspace-1"
    correlationId := "incident-1"
    incidentId := "incident-1"
    evidenceRef := "evidence-1"
    payload := { clusterId := "cluster-1", candidates := [], lifecycle := .empty } }

def scaleFailure : SafePrFailed :=
  {
    workspaceId := "workspace-1"
    correlationId := "incident-1"
    reasonCode := "safe_pr_failed"
    reason := "PR 생성 실패"
    approvedPlan := none }

/-- The failure of the first attempt is refused after the plan is reopened; the second attempt is
failed by one of two handlers of its failure.
-/
def failedTwice : List PlanAction :=
  [.apply (.upsertSelected scalePlan "scale" "recovery-worker"),
    .read 0 (.safePrFailed scaleFailure),
    .apply (.reopen "scale"),
    .write 0,
    .apply (.select "scale" "operator-1" "recovery-attempt-2" 60000000),
    .read 1 (.safePrFailed scaleFailure),
    .read 2 (.safePrFailed scaleFailure),
    .write 1,
    .write 2]

theorem planMachine_lands_in_own_attempt_twice
    : LandsInOwnAttempt ((planMachine insertionRuntime id).trace noPlan failedTwice)
      ∧ ((planMachine insertionRuntime id).trace noPlan failedTwice).map
          (fun change => (change.epoch, change.ticket.map (·.since)))
        = [(0, none), (1, none), (1, none), (2, some 2)] := by
  refine ⟨planMachine_lands_in_own_attempt insertionRuntime id ?_, by decide +kernel⟩
  refine ⟨?_, nofun, ?_, ?_, ?_, nofun, nofun, ?_, ?_, trivial⟩
  · intro _ other ticket held
    cases held
  · exact fun opens => absurd opens.2 (by decide +kernel)
  · rintro ⟨ticket, held, done, _⟩
    cases held
    exact absurd done (by decide +kernel)
  · -- the second attempt begins after the first one's handler has let go
    intro _ other ticket held
    by_cases first : other = 0
    · subst first
      cases held
    · have unheld : noPlan.pending other = some ticket := by
        rw [← held]
        exact ((Function.update_of_ne first _ _).trans (Function.update_of_ne first _ _)).symm
      cases unheld
  · rintro ⟨ticket, held, _, opens⟩
    cases held
    exact absurd opens (by decide +kernel)
  · rintro ⟨ticket, held, done, _⟩
    cases held
    exact absurd done (by decide +kernel)

/-- The failure of the first attempt is still being handled while the plan is reopened and the
action selected again.
-/
def reselectedDuringFailure : List PlanAction :=
  [.apply (.upsertSelected scalePlan "scale" "recovery-worker"),
    .read 0 (.safePrFailed scaleFailure),
    .apply (.reopen "scale"),
    .apply (.select "scale" "operator-1" "recovery-attempt-2" 60000000),
    .write 0]

/-- The first attempt's failure fails the second attempt: the status is `selected` again. -/
theorem reselected_attempt_failed_by_stale_write
    : ¬LandsInOwnAttempt
        ((planMachine insertionRuntime id).trace noPlan reselectedDuringFailure) := by
  decide +kernel

end K8sClue.Recovery
