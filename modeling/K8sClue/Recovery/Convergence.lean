import K8sClue.Recovery.Interleavings

/-! The two webhooks that may start the verification of a deployed plan.
A push can be deployed before the pull request is reported as merged, so the completion of the
workflow and the merge are delivered in either order, any number of times. A delivery reads
the plan, then the workflow run, and then writes; the workflow run moves on in between.
-/

namespace K8sClue.Recovery

open Library Python

def WorkflowRunStatus.rank : WorkflowRunStatus → Nat
  | .started => 1
  | .rendering => 2
  | .diffing => 3
  | .policyChecking => 4
  | .waitingForApproval => 5
  | .applying => 6
  | .rolloutWaiting => 7
  | .succeeded => 8
  | .failed => 8

def WorkflowRunStatus.isTerminal (status : WorkflowRunStatus) : Bool :=
  status = .succeeded || status = .failed

def workflowTransitionGuard (current new : WorkflowRunStatus) : Bool :=
  !current.isTerminal && current.rank ≤ new.rank

/-- The guarded update of the status of a workflow run. -/
def updateWorkflowStatus (workflow : WorkflowRun) (status : WorkflowRunStatus) : WorkflowRun :=
  if workflowTransitionGuard workflow.status status then { workflow with status } else workflow

structure Deployment where
  (opened deployed : PlanRow)
  merge : Merge
  event : WorkflowEvent
  workflow : WorkflowRun
  isOpen : opened.status = .prOpen
  isPending : deployed.status = .deployPending
  found : recoveryPlanForWorkflow deployed event = some merge
  matching : workflowSucceededFor merge event { workflow with status := .succeeded } = true

inductive WebhookKind where
  | prMerged
  | deployCompleted
  deriving DecidableEq

/-- What one delivery holds between its steps. -/
inductive Delivery where
  | idle
  | found (kind : WebhookKind) (row : PlanRow)
  | prepared (kind : WebhookKind) (write : PlanWrite)

structure DeliveryState where
  row : PlanRow
  workflow : WorkflowRun
  deliveries : Nat → Delivery
  /-- A delivery of this kind has run to its end. -/
  handled : WebhookKind → Bool

inductive DeliveryAction where
  /-- The write of the merge, which moves the plan to `deploy_pending`. -/
  | enter
  | progress (status : WorkflowRunStatus)
  | readPlan (delivery : Nat) (kind : WebhookKind)
  | readWorkflow (delivery : Nat) (now : Instant)
  | write (delivery : Nat)
  deriving DecidableEq

namespace DeliveryState

variable (state : DeliveryState)

/-- The merge event follows the merge; the completion follows the success it reports. -/
def emitted : WebhookKind → Bool
  | .prMerged => state.row.status ≠ .prOpen
  | .deployCompleted => state.workflow.status = .succeeded

def hold (delivery : Nat) (held : Delivery) : DeliveryState :=
  { state with deliveries := Function.update state.deliveries delivery held }

def finish (delivery : Nat) (kind : WebhookKind) : DeliveryState :=
  { state.hold delivery .idle with handled := Function.update state.handled kind true }

end DeliveryState

/-- The lookup of the plan found it waiting for its deployment. -/
def findsPending (row : PlanRow) (event : WorkflowEvent) : Bool :=
  (recoveryPlanForWorkflow row event).isSome && row.status = .deployPending

/-- All interleavings of the deliveries with the merge and the workflow run. The effects are
the events of each write that succeeds.
-/
def deliveryMachine (deployment : Deployment)
    : Machine DeliveryState DeliveryAction (List PlanEvent) where
  step state
    | .enter =>
      if state.row.status = .prOpen then
        ({ state with row := deployment.deployed }, [])
      else
        (state, [])
    | .progress status =>
      ({ state with workflow := updateWorkflowStatus state.workflow status }, [])
    | .readPlan delivery kind =>
      match state.deliveries delivery with
      | .idle =>
        if !state.emitted kind then
          (state, [])
        else if findsPending state.row deployment.event then
          (state.hold delivery (.found kind state.row), [])
        else
          (state.finish delivery kind, [])
      | _ => (state, [])
    | .readWorkflow delivery now =>
      match state.deliveries delivery with
      | .found kind row =>
        match startRecoveryVerification row deployment.event (some state.workflow) now with
        | none => (state.finish delivery kind, [])
        | some write => (state.hold delivery (.prepared kind write), [])
      | _ => (state, [])
    | .write delivery =>
      match state.deliveries delivery with
      | .prepared kind write =>
        match commitWrite state.row write with
        | none => (state.finish delivery kind, [])
        | some (after, events) =>
          ({ state.finish delivery kind with row := after }, [events])
      | _ => (state, [])

def Deployment.start (deployment : Deployment) : DeliveryState :=
  {
    row := deployment.opened
    workflow := deployment.workflow
    deliveries := fun _ => .idle
    handled := fun _ => false }

variable {deployment : Deployment}

/-- A run with the identity of the deployment matches exactly when it has succeeded. -/
theorem Deployment.workflowSucceededFor_iff (deployment : Deployment) (status : WorkflowRunStatus)
    : workflowSucceededFor deployment.merge deployment.event { deployment.workflow with status }
      ↔ status = .succeeded := by
  constructor
  · intro matched
    simp only [workflowSucceededFor, Bool.and_eq_true, decide_eq_true_eq] at matched
    exact matched.2
  · rintro rfl
    exact deployment.matching

/-- The deployed plan is started exactly when its run has succeeded. -/
theorem Deployment.start_deployed (deployment : Deployment) {workflow : WorkflowRun}
    (identity : workflow = { deployment.workflow with status := workflow.status }) (now : Instant)
    : startRecoveryVerification deployment.deployed deployment.event (some workflow) now
      = if workflow.status = .succeeded then
          some (verificationStart deployment.deployed deployment.event.workflowRunId now)
        else
          none := by
  have succeeded := deployment.workflowSucceededFor_iff workflow.status
  rw [← identity] at succeeded
  simp only [startRecoveryVerification, deployment.found, deployment.isPending, true_and, succeeded]

theorem commitWrite_start (row read : PlanRow) (workflowRunId : String) (now : Instant)
    : (row.status ≠ .deployPending
        ∧ commitWrite row (verificationStart read workflowRunId now) = none)
      ∨ (row.status = .deployPending
        ∧ ∃ after deadline, after.status = .verificationPending
            ∧ commitWrite row (verificationStart read workflowRunId now)
              = some (after, [.verificationStarted read.planId workflowRunId now deadline])) := by
  by_cases pending : row.status = .deployPending
  · refine .inr ⟨pending, ?_⟩
    simp only [commitWrite, updateRecoveryPlanLifecycleIfStatus, pending]
    exact ⟨_, _, rfl, rfl⟩
  · simp [verificationStart, commitWrite, updateRecoveryPlanLifecycleIfStatus, pending]

/-- Exactly one write has started the verification, with exactly one event. -/
def StartedOnce (deployment : Deployment) (started : List (List PlanEvent)) : Prop :=
  ∃ startedAt deadlineAt,
    started
      = [[.verificationStarted deployment.deployed.planId deployment.event.workflowRunId
          startedAt deadlineAt]]

variable (deployment : Deployment) (row : PlanRow) (workflow : WorkflowRun) in
/-- The plan before its merge, while it is deployed, and once it is being verified. -/
inductive DeploymentPhase : List (List PlanEvent) → Prop where
  | opened (waiting : row = deployment.opened) : DeploymentPhase []
  | deployed (pending : row = deployment.deployed) : DeploymentPhase []
  | verifying {started : List (List PlanEvent)} (verifying : row.status = .verificationPending)
      (succeeded : workflow.status = .succeeded) (once : StartedOnce deployment started)
    : DeploymentPhase started

/-- What each delivery knows from the steps it has taken. -/
def Delivery.Informed (deployment : Deployment) (row : PlanRow) (workflow : WorkflowRun)
    : Delivery → Prop
  | .idle => True
  | .found kind read =>
    read = deployment.deployed ∧ row.status ≠ .prOpen
    ∧ (kind = .deployCompleted → workflow.status = .succeeded)
  | .prepared _ write =>
    row.status ≠ .prOpen ∧ workflow.status = .succeeded
    ∧ ∃ now, write
        = verificationStart deployment.deployed deployment.event.workflowRunId now

/-- What a delivery knows stays true when the plan is merged and when the run succeeds. -/
theorem Delivery.Informed.mono {held : Delivery} {row next : PlanRow}
    {workflow later : WorkflowRun} (informed : held.Informed deployment row workflow)
    (entered : row.status ≠ .prOpen → next.status ≠ .prOpen)
    (succeeded : workflow.status = .succeeded → later.status = .succeeded)
    : held.Informed deployment next later := by
  cases held with
  | idle => trivial
  | found kind read =>
    obtain ⟨same, merged, completed⟩ := informed
    exact ⟨same, entered merged, fun reported => succeeded (completed reported)⟩
  | prepared kind write =>
    obtain ⟨merged, completed, started⟩ := informed
    exact ⟨entered merged, succeeded completed, started⟩

structure Converging (deployment : Deployment) (state : DeliveryState)
    (started : List (List PlanEvent))
    : Prop where
  phase : DeploymentPhase deployment state.row state.workflow started
  identity : state.workflow = { deployment.workflow with status := state.workflow.status }
  informed : ∀ delivery, (state.deliveries delivery).Informed deployment state.row state.workflow
  merged : state.handled .prMerged = true → state.row.status ≠ .prOpen
  completed : state.handled .deployCompleted = true → state.workflow.status = .succeeded
  both : state.handled .prMerged = true → state.handled .deployCompleted = true
    → StartedOnce deployment started

variable {state : DeliveryState} {started : List (List PlanEvent)}

section

variable (converging : Converging deployment state started)
include converging

/-- A plan that has been merged is deployed, or its verification has started. -/
theorem Converging.entered
    (entered : state.row.status ≠ .prOpen)
    : state.row = deployment.deployed ∨ StartedOnce deployment started := by
  cases converging.phase with
  | opened waiting => exact absurd (waiting ▸ deployment.isOpen) entered
  | deployed pending => exact .inl pending
  | verifying _ _ once => exact .inr once

theorem Converging.hold (delivery : Nat)
    {held : Delivery} (informed : held.Informed deployment state.row state.workflow)
    : Converging deployment (state.hold delivery held) started where
  phase := converging.phase
  identity := converging.identity
  informed := by
    intro other
    by_cases same : other = delivery
    · simpa [DeliveryState.hold, same] using informed
    · simpa [DeliveryState.hold, same] using converging.informed other
  merged := converging.merged
  completed := converging.completed
  both := converging.both

variable {kind : WebhookKind} {delivery : Nat}

/-- A delivery may end once the verification is started, or while no delivery of the other kind
has ended.
-/
theorem Converging.finish (delivery : Nat) (merged : kind = .prMerged → state.row.status ≠ .prOpen)
    (completed : kind = .deployCompleted → state.workflow.status = .succeeded)
    (last : StartedOnce deployment started ∨ ∀ other, other ≠ kind → state.handled other = false)
    : Converging deployment (state.finish delivery kind) started := by
  have idle : Delivery.idle.Informed deployment state.row state.workflow := trivial
  have held := converging.hold delivery idle
  refine ⟨held.phase, held.identity, held.informed, ?_, ?_, ?_⟩
  · intro handled
    cases kind with
    | prMerged => exact merged rfl
    | deployCompleted => exact converging.merged (by simpa [DeliveryState.finish] using handled)
  · intro handled
    cases kind with
    | prMerged => exact converging.completed (by simpa [DeliveryState.finish] using handled)
    | deployCompleted => exact completed rfl
  · intro mergedHandled completedHandled
    rcases last with once | unhandled
    · exact once
    · cases kind with
      | prMerged =>
        have other := unhandled .deployCompleted (by simp)
        simp [DeliveryState.finish, other] at completedHandled
      | deployCompleted =>
        have other := unhandled .prMerged (by simp)
        simp [DeliveryState.finish, other] at mergedHandled

theorem Converging.enter
    (waiting : state.row.status = .prOpen)
    : Converging deployment { state with row := deployment.deployed } started := by
  have entered : deployment.deployed.status ≠ .prOpen := by simp [deployment.isPending]
  have none : started = [] := by
    cases converging.phase with
    | opened | deployed => rfl
    | verifying verifying => simp [waiting] at verifying
  subst none
  refine ⟨.deployed rfl, converging.identity, ?_, ?_, converging.completed, converging.both⟩
  · intro delivery
    exact (converging.informed delivery).mono (fun _ => entered) (fun kept => kept)
  · intro handled
    exact entered

theorem Converging.progress
    (status : WorkflowRunStatus)
    : Converging deployment
        { state with workflow := updateWorkflowStatus state.workflow status } started := by
  have kept : state.workflow.status = .succeeded
      → (updateWorkflowStatus state.workflow status).status = .succeeded := by
    intro succeeded
    simp [updateWorkflowStatus, workflowTransitionGuard, WorkflowRunStatus.isTerminal, succeeded]
  refine ⟨?_, ?_, ?_, converging.merged, ?_, converging.both⟩
  · cases converging.phase with
    | opened waiting => exact .opened waiting
    | deployed pending => exact .deployed pending
    | verifying verifying succeeded once => exact .verifying verifying (kept succeeded) once
  · calc updateWorkflowStatus state.workflow status
        = { state.workflow with
            status := (updateWorkflowStatus state.workflow status).status } := by
          unfold updateWorkflowStatus
          split <;> rfl
      _ = { deployment.workflow with
            status := (updateWorkflowStatus state.workflow status).status } := by
          rw [converging.identity]
  · intro delivery
    exact (converging.informed delivery).mono (fun entered => entered) kept
  · intro handled
    exact kept (converging.completed handled)

/-- A delivery that does not find the plan waiting comes after the start of the verification,
or before the merge and then before every merge event.
-/
theorem Converging.missed (delivery : Nat) (emitted : state.emitted kind = true)
    (missed : ¬findsPending state.row deployment.event = true)
    : Converging deployment (state.finish delivery kind) started := by
  have notDeployed : state.row ≠ deployment.deployed := by
    intro deployed
    refine missed ?_
    simp [deployed, findsPending, deployment.found, deployment.isPending]
  cases kind with
  | prMerged =>
    have entered : state.row.status ≠ .prOpen := by simpa [DeliveryState.emitted] using emitted
    refine converging.finish delivery (fun _ => entered) (by simp) ?_
    exact .inl ((converging.entered entered).resolve_left notDeployed)
  | deployCompleted =>
    have succeeded : state.workflow.status = .succeeded := by
      simpa [DeliveryState.emitted] using emitted
    refine converging.finish delivery (by simp) (fun _ => succeeded) ?_
    by_cases entered : state.row.status = .prOpen
    · refine .inr ?_
      intro other different
      cases other with
      | prMerged => exact Bool.eq_false_iff.mpr (fun handled => converging.merged handled entered)
      | deployCompleted => exact absurd rfl different
    · exact .inl ((converging.entered entered).resolve_left notDeployed)

theorem Converging.found (delivery : Nat) (emitted : state.emitted kind = true)
    (pending : findsPending state.row deployment.event = true)
    : Converging deployment (state.hold delivery (.found kind state.row)) started := by
  simp only [findsPending, Bool.and_eq_true, decide_eq_true_eq] at pending
  refine converging.hold delivery ⟨?_, by simp [pending.2], ?_⟩
  · cases converging.phase with
    | opened waiting => simp [waiting, deployment.isOpen] at pending
    | deployed deployed => exact deployed
    | verifying verifying => simp [verifying] at pending
  · rintro rfl
    simpa [DeliveryState.emitted] using emitted

/-- A merge event that meets an unfinished run ends before every completion event. -/
theorem Converging.readWorkflow {row : PlanRow} (held : state.deliveries delivery = .found kind row)
    (now : Instant)
    : Converging deployment
        (match startRecoveryVerification row deployment.event (some state.workflow) now with
          | none => state.finish delivery kind
          | some write => state.hold delivery (.prepared kind write))
        started := by
  have informed := converging.informed delivery
  rw [held] at informed
  obtain ⟨rfl, entered, completed⟩ := informed
  rw [deployment.start_deployed converging.identity now]
  by_cases succeeded : state.workflow.status = .succeeded
  · simp only [succeeded]
    exact converging.hold delivery ⟨entered, succeeded, now, rfl⟩
  · simp only [succeeded]
    refine converging.finish delivery (fun _ => entered) completed (.inr ?_)
    intro other different
    cases other with
    | prMerged =>
      cases kind with
      | prMerged => exact absurd rfl different
      | deployCompleted => exact absurd (completed rfl) succeeded
    | deployCompleted =>
      exact Bool.eq_false_iff.mpr (fun handled => succeeded (converging.completed handled))

/-- The first write starts the verification, and every later one is refused. -/
theorem Converging.write {write : PlanWrite}
    (held : state.deliveries delivery = .prepared kind write)
    : (commitWrite state.row write = none
        ∧ Converging deployment (state.finish delivery kind) started)
      ∨ ∃ after events, commitWrite state.row write = some (after, events)
          ∧ Converging deployment { state.finish delivery kind with row := after }
              (started ++ [events]) := by
  have informed := converging.informed delivery
  rw [held] at informed
  obtain ⟨entered, succeeded, now, rfl⟩ := informed
  rcases commitWrite_start state.row deployment.deployed deployment.event.workflowRunId now
    with ⟨moved, refused⟩ | ⟨pending, after, deadline, verifying, landed⟩
  · refine .inl ⟨refused, ?_⟩
    refine converging.finish delivery (fun _ => entered) (fun _ => succeeded) (.inl ?_)
    refine (converging.entered entered).resolve_left ?_
    intro deployed
    exact moved (deployed ▸ deployment.isPending)
  · refine .inr ⟨after, _, landed, ?_⟩
    have none : started = [] := by
      cases converging.phase with
      | opened | deployed => rfl
      | verifying verifying => simp [pending] at verifying
    subst none
    have once : StartedOnce deployment ([] ++ [[.verificationStarted deployment.deployed.planId
          deployment.event.workflowRunId now deadline]]) := ⟨now, deadline, rfl⟩
    have entered' : after.status ≠ .prOpen := by simp [verifying]
    have written : Converging deployment { state with row := after } _ :=
      {
        phase := .verifying verifying succeeded once
        identity := converging.identity
        informed := by
          intro other
          exact (converging.informed other).mono (fun _ => entered') (fun kept => kept)
        merged := fun _ => entered'
        completed := converging.completed
        both := fun _ _ => once }
    exact written.finish delivery (fun _ => entered') (fun _ => succeeded) (.inl once)

theorem Converging.step
    (action : DeliveryAction)
    : Converging deployment ((deliveryMachine deployment).step state action).1
        (started ++ ((deliveryMachine deployment).step state action).2) := by
  cases action with
  | enter =>
    simp only [deliveryMachine]
    split
    · rename_i waiting
      simpa using converging.enter waiting
    · simpa using converging
  | progress status => simpa [deliveryMachine] using converging.progress status
  | readPlan delivery kind =>
    simp only [deliveryMachine]
    split
    · split
      · simpa using converging
      rename_i emitted
      simp only [Bool.not_eq_true', Bool.not_eq_false] at emitted
      split
      · rename_i pending
        simpa using converging.found delivery emitted pending
      · rename_i missed
        simpa using converging.missed delivery emitted missed
    · simpa using converging
  | readWorkflow delivery now =>
    simp only [deliveryMachine]
    split
    · rename_i kind row held
      have read := converging.readWorkflow held now
      split at read <;> rename_i outcome <;> simpa [outcome] using read
    · simpa using converging
  | write delivery =>
    simp only [deliveryMachine]
    split
    · rename_i kind write held
      rcases converging.write held with ⟨refused, kept⟩ | ⟨after, events, landed, kept⟩
      · simpa [refused] using kept
      · simpa [landed] using kept
    · simpa using converging

end

theorem Deployment.start_converging (deployment : Deployment)
    : Converging deployment deployment.start [] where
  phase := .opened rfl
  identity := rfl
  informed := fun _ => trivial
  merged := by simp [Deployment.start]
  completed := by simp [Deployment.start]
  both := by simp [Deployment.start]

def Deployment.stateAfter (deployment : Deployment) (actions : List DeliveryAction)
    : DeliveryState :=
  (deliveryMachine deployment).run deployment.start actions

/-- The events of each write to `verification_pending` that succeeded. -/
def Deployment.startsAfter (deployment : Deployment) (actions : List DeliveryAction)
    : List (List PlanEvent) :=
  (deliveryMachine deployment).trace deployment.start actions

theorem Deployment.converging (deployment : Deployment) (actions : List DeliveryAction)
    : Converging deployment (deployment.stateAfter actions) (deployment.startsAfter actions) :=
  Machine.trace_invariant (fun action kept => kept.step action) deployment.start_converging actions

/-- In whatever order the webhooks arrive, once both have been handled the verification has
been started exactly once, and it is never started before the workflow run has succeeded.
Witness: a merge event that ends too early precedes the success, and a completion event that
ends too early precedes the merge, so not both do.
-/
theorem webhook_orders_converge (deployment : Deployment) (actions : List DeliveryAction)
    : ((deployment.stateAfter actions).handled .prMerged = true
        → (deployment.stateAfter actions).handled .deployCompleted = true
        → StartedOnce deployment (deployment.startsAfter actions)
          ∧ (deployment.stateAfter actions).row.status = .verificationPending)
      ∧ (deployment.startsAfter actions = []
        ∨ (StartedOnce deployment (deployment.startsAfter actions)
          ∧ (deployment.stateAfter actions).workflow.status = .succeeded)) := by
  have converging := deployment.converging actions
  have phase := converging.phase
  constructor
  · intro merged completed
    have once := converging.both merged completed
    refine ⟨once, ?_⟩
    obtain ⟨startedAt, deadlineAt, written⟩ := once
    rw [written] at phase
    cases phase with
    | verifying verifying => exact verifying
  · generalize deployment.startsAfter actions = started at phase
    cases phase with
    | opened | deployed => exact .inl rfl
    | verifying _ succeeded once => exact .inr ⟨once, succeeded⟩

def scaleMerge : Merge :=
  {
    prUrl := "https://github.com/shop/manifests/pull/7"
    headSha := "a1"
    mergeCommitSha := "b2"
    mergedAt := 0
    workflowRunId := "workflow-1"
    previousWorkflowRunId := none
    repositoryId := "repository-1"
    bindingId := "binding-1"
    applicationId := "application-1"
    clusterId := "cluster-1"
    attemptId := none
    retryAttempt := some 0
    deploymentRequest :=
      {
        workspaceId := "workspace-1"
        correlationId := "incident-1"
        workflowRunId := "workflow-1"
        commitSha := "b2"
        repositoryId := "repository-1"
        repoRef := "shop/manifests"
        branch := "main"
        bindingId := "binding-1"
        applicationId := "application-1"
        environment := "prod"
        clusterId := "cluster-1"
        manifestPath := "api.yaml"
        image := "shop/api:2"
        replicas := 2
        force := true } }

def scaleDeployment : Deployment where
  opened := scalePlan.insert .prOpen (some "scale") (some "operator-1")
  deployed :=
    { scalePlan.insert .deployPending (some "scale") (some "operator-1") with
      payload :=
        { scalePlan.payload with lifecycle := { Lifecycle.empty with merge := some scaleMerge } } }
  merge := scaleMerge
  event :=
    {
      workspaceId := "workspace-1"
      workflowRunId := "workflow-1"
      bindingId := "binding-1"
      applicationId := "application-1" }
  workflow :=
    {
      workflowRunId := "workflow-1"
      workspaceId := "workspace-1"
      bindingId := "binding-1"
      applicationId := "application-1"
      clusterId := "cluster-1"
      commitSha := "b2"
      status := .applying }
  isOpen := rfl
  isPending := rfl
  found := by decide +kernel
  matching := by decide +kernel

/-- The push is deployed and its completion handled before the plan is merged; the merge event
is delivered twice at the same time.
-/
def pushBeforeMerge : List DeliveryAction :=
  [.progress .succeeded, .readPlan 0 .deployCompleted, .enter, .readPlan 1 .prMerged,
    .readPlan 2 .prMerged, .readWorkflow 1 60000000, .readWorkflow 2 60000001, .write 2,
    .write 1]

theorem webhook_orders_converge_push_first
    : StartedOnce scaleDeployment (scaleDeployment.startsAfter pushBeforeMerge)
      ∧ (scaleDeployment.stateAfter pushBeforeMerge).row.status = .verificationPending :=
  (webhook_orders_converge scaleDeployment pushBeforeMerge).1 (by decide +kernel)
    (by decide +kernel)

end K8sClue.Recovery
