import K8sClue.Recovery.Approvals

/-! The attempts of one plan: the verification that each of them starts from, and the number
that each of them is given.
-/

namespace K8sClue.Recovery

open Library Python List

variable {after row : PlanRow} {before : Option PlanRow} {events : List PlanEvent}
  {operation : PlanOperation} {py : Runtime} {sha256Hex : String → String} {write : PlanWrite}

/-- No healthy window and no evidence key is stored. -/
def Lifecycle.Clean (lifecycle : Lifecycle) : Prop :=
  (lifecycle.verification.getD .empty).state = .fresh

/-- A plan on its way to a verification, or one that enters it now, has a clean lifecycle. -/
def CleanFrom (before : Option PlanStatus) (status : PlanStatus) (lifecycle : Lifecycle) : Prop :=
  status = .prOpen ∨ status = .deployPending
    ∨ (status = .verificationPending ∧ before ≠ some .verificationPending)
    → lifecycle.Clean

def PlanWrite.Clean : PlanWrite → Prop
  | .update change _ => CleanFrom (some change.expected) change.status change.lifecycle
  | .reopen _ _ => True

/-- A stored plan enters no status. -/
def CleanRow (row : Option PlanRow) : Prop :=
  ∀ current, row = some current
    → CleanFrom (some .verificationPending) current.status current.payload.lifecycle

theorem CleanFrom.stored {status : Option PlanStatus}
    (clean : CleanFrom status after.status after.payload.lifecycle)
    : CleanRow (some after) := by
  intro current present waiting
  cases present
  rcases waiting with tracked | deploying | ⟨_, entering⟩
  · exact clean (.inl tracked)
  · exact clean (.inr (.inl deploying))
  · exact absurd rfl entering

theorem Prepared.clean (prepared : Prepared row write) (clean : CleanRow (some row))
    : write.Clean := by
  cases prepared with
  | untracked => trivial
  | tracked | redeployed | reverified => exact fun _ => rfl
  | failed | rejected | reselected =>
    simp [PlanWrite.Clean, CleanFrom, rejectTrackedRecoveryPullRequest, safePrRetry]
  | merged _ _ _ tracked => exact fun _ => clean row rfl (.inl tracked)
  | started _ _ pending =>
    intro _
    have fresh : (row.payload.lifecycle.verification.getD .empty).state = .fresh :=
      clean row rfl (.inr (.inl pending))
    simp only [fresh]
    rfl
  | judged decision =>
    cases outcome : decision.status <;>
      simp [decisionWrite, PlanWrite.Clean, CleanFrom, DecisionStatus.planStatus, outcome]

theorem commitWrite_clean (clean : write.Clean)
    (done : commitWrite row write = some (after, events))
    : CleanFrom (some row.status) after.status after.payload.lifecycle := by
  cases write with
  | update update emitted =>
    obtain ⟨moved, rfl⟩ := emitting_some done
    obtain ⟨current, rfl⟩ := updateRecoveryPlanLifecycleIfStatus_some moved
    rw [current]
    exact clean
  | reopen actionId emitted =>
    obtain ⟨moved, rfl⟩ := emitting_some done
    obtain ⟨_, rfl⟩ := reopenRecoveryPlanAction_some moved
    simp [CleanFrom]

theorem Applied.clean (applied : Applied before operation after events) (clean : CleanRow before)
    : CleanFrom (before.map PlanRow.status) after.status after.payload.lifecycle := by
  cases applied with
  | @replayed _ row _ present status _ payload =>
    subst present
    rw [status, payload]
    rintro (tracked | deploying | ⟨pending, entering⟩)
    · exact clean row rfl (.inl tracked)
    · exact clean row rfl (.inr (.inl deploying))
    · exact absurd (congrArg some pending) entering
  | upserted _ _ status => rcases status with status | status <;> simp [CleanFrom, status]
  | selected _ _ _ _ _ _ status | expired _ _ _ status => simp [CleanFrom, status]
  | reopened _ _ done =>
    obtain ⟨_, rfl⟩ := reopenRecoveryPlanAction_some done
    simp [CleanFrom]

/-- The change leaves a clean plan, if it leaves one on the way to a verification. -/
def CleanChange (before after : Option PlanRow) : Prop :=
  ∃ next, after = some next
    ∧ CleanFrom (before.map PlanRow.status) next.status next.payload.lifecycle

theorem CleanChange.cleanRow {after : Option PlanRow} (clean : CleanChange before after)
    : CleanRow after := by
  obtain ⟨next, rfl, clean⟩ := clean
  exact clean.stored

theorem planStore_commit_clean {after : Option PlanRow} (clean : write.Clean)
    (done : (planStore py sha256Hex).commit before write = some (after, events))
    : CleanChange before after := by
  obtain ⟨next, rfl, committed⟩ := stored_some done
  obtain ⟨row, rfl, landed⟩ := Option.bind_eq_some_iff.mp committed
  exact ⟨next, rfl, commitWrite_clean clean landed⟩

theorem planStore_apply_clean {after : Option PlanRow} (clean : CleanRow before)
    (done : (planStore py sha256Hex).apply before operation = some (after, events))
    : CleanChange before after := by
  obtain ⟨next, rfl, applied⟩ := stored_some done
  exact ⟨next, rfl, (applyOperation_applied applied).clean clean⟩

theorem planStore_maintains_clean (py : Runtime) (sha256Hex : String → String)
    : (planStore py sha256Hex).Maintains (fun _ _ => True) (fun _ => CleanRow)
        (fun ticket => ticket.write.Clean) where
  prepares := by
    intro _ row input write clean prepared
    obtain ⟨current, rfl, computed⟩ := Option.bind_eq_some_iff.mp prepared
    exact (prepareWrite_prepared computed).clean clean
  commits := by
    intro state handler ticket after effects sound _ held done
    exact (planStore_commit_clean (sound.pending handler ticket held) done).cleanRow
  applies := by
    intro _ row operation after effects clean done
    exact (planStore_apply_clean clean done).cleanRow

/-- Whenever a change moves the plan into `verification_pending`, in any interleaving of the
handlers and operations, the stored verification has no chain and no evidence key.
Witness: all that waits for a merge or a deployment is clean, and so is every prepared write
that leads there.
-/
theorem verification_starts_clean (py : Runtime) (sha256Hex : String → String)
    (actions : List PlanAction)
    : ∀ change ∈ (planMachine py sha256Hex).trace noPlan actions,
        ∀ after, change.after = some after → after.status = .verificationPending
          → change.before.map PlanRow.status ≠ some .verificationPending
          → (after.payload.lifecycle.verification.getD .empty).state = .fresh := by
  have cleans : ∀ change ∈ (planMachine py sha256Hex).trace noPlan actions,
      CleanChange change.before change.after := by
    refine (planStore_maintains_clean py sha256Hex).changes ?_ ?_ ⟨?_, ?_⟩
      (Machine.admits_true _ _)
    · intro state handler ticket after effects sound _ held done
      exact planStore_commit_clean (sound.pending handler ticket held) done
    · intro _ row operation after effects clean done
      exact planStore_apply_clean clean done
    · intro current present
      cases present
    · intro handler ticket held
      cases held
  intro change mem after present pending entering
  obtain ⟨next, stored, clean⟩ := cleans change mem
  cases present.symm.trans stored
  exact clean (.inr (.inr ⟨pending, entering⟩))

def replicasApproved : SourcePatch.Entries :=
  (.str "authorized_changes", .list [.dict [
    (.str "field_path", .scalar (.str "spec.replicas")),
    (.str "current_value", .scalar (.int 1)), (.str "desired_value", .scalar (.int 2))]])
  :: ["repository_id", "binding_id", "application_id", "repo_ref", "base_branch",
    "commit_sha"].map fun key => (.str key, .scalar (.str key))

/-- The pull request of the selected action is merged and deployed. -/
def mergedAndDeployed : List PlanAction :=
  let headSha := String.ofList (List.replicate 40 'a')
  let run := recoveryMergeWorkflowRunId id "plan-1" "b2"
  [.apply (.upsertSelected scaleCandidatePlan "scale" "operator-1"),
    .read 0 (.safePrCreated ⟨"workspace-1", "incident-1", "github_rest", "https://pr", some 1,
      "node", "head", headSha, "repository_id", "binding_id", "application_id", "repo_ref",
      "base_branch", "commit_sha", "api.yaml", "prod", ""⟩ replicasApproved
      ⟨some 0, true, some 1, true, true, some 0, some 1, some 60, true, true, 300, 900⟩ 0),
    .write 0,
    .read 0 (.pullRequest ⟨"closed", true, "https://pr", 1, "node", "repo_ref", "base_branch",
      "head", headSha, "b2"⟩ ⟨false, [⟨"workspace-1", "repository_id", "repo_ref",
        "base_branch", "binding_id", "application_id", "prod", "cluster-1", "api.yaml"⟩],
        "shop/api:2", 0⟩),
    .write 0,
    .read 0 (.deployCompleted ⟨"workspace-1", run, "binding_id", "application_id"⟩
      (some ⟨run, "workspace-1", "binding_id", "application_id", "cluster-1", "b2", .succeeded⟩) 0),
    .write 0]

theorem verification_starts_clean_deployed
    : ∃ change ∈ (planMachine insertionRuntime id).trace noPlan mergedAndDeployed, ∃ after,
        change.after = some after ∧ after.status = .verificationPending
        ∧ (after.payload.lifecycle.verification.getD .empty).state = .fresh := by
  have enters : ((planMachine insertionRuntime id).trace noPlan mergedAndDeployed).any
      (fun change => change.after.any (·.status = .verificationPending)
        && change.before.map PlanRow.status ≠ some .verificationPending) = true := by
    decide +kernel
  simp only [any_eq_true, Bool.and_eq_true, Option.any_eq_true, decide_eq_true_eq] at enters
  obtain ⟨change, mem, ⟨after, stored, pending⟩, entering⟩ := enters
  exact ⟨change, mem, after, stored, pending,
    verification_starts_clean _ _ _ change mem after stored pending entering⟩

/-- A call whose read and write nothing comes between. -/
inductive PlanCall where
  | operation (operation : PlanOperation)
  | handler (input : HandlerInput)

structure PlanChange where
  before : Option PlanRow
  after : PlanRow
  events : List PlanEvent

/-- The stored `lifecycle.attempt.number`, zero without one. -/
def attemptNumber (row : Option PlanRow) : Nat :=
  ((row.bind (·.payload.lifecycle.attempt)).map Attempt.number).getD 0

def PlanEvent.isSelection : PlanEvent → Bool
  | .actionSelected _ _ => true
  | _ => false

/-- The change is a selection or a safe-PR retry, which both dispatch an action. -/
def PlanChange.selects (change : PlanChange) : Bool := change.events.any PlanEvent.isSelection

/-- The numbers that selections and retries gave, oldest first. -/
def givenNumbers (changes : List PlanChange) : List Nat :=
  (changes.filter PlanChange.selects).map (fun change => attemptNumber (some change.after))

/-- The failed row that a safe-PR retry was made on. -/
def PlanChange.retried (change : PlanChange) : Option PlanRow :=
  if change.selects then change.before.filter (·.status = .failed) else none

/-- The text that the approval id of a safe-PR retry is the digest of. -/
def retryApprovalText (row : PlanRow) : String :=
  row.planId ++ "|" ++ text row.selectedActionId ++ "|safe-pr-retry|"
    ++ toString (nextNumber (row.payload.lifecycle.attempt.map Attempt.number))

section Calls

variable (py : Runtime) (sha256Hex : String → String)

def callPlan (row : Option PlanRow) : PlanCall → Option (PlanRow × List PlanEvent)
  | .operation operation => applyOperation row operation
  | .handler input =>
    row.bind (fun current =>
      (prepareWrite py sha256Hex current input).bind (commitWrite current))

/-- The calls on one plan, one after the other. -/
def callMachine : Machine (Option PlanRow) PlanCall PlanChange where
  step row call :=
    match callPlan py sha256Hex row call with
    | none => (row, [])
    | some (after, events) => (some after, [{ before := row, after, events }])

end Calls

/-- The plan carries the number of the attempt that the row has counted, or a later one. -/
def GeneratedPlan.keepsNumber (plan : GeneratedPlan) (row : PlanRow) : Bool :=
  attemptNumber (some row) ≤ (plan.payload.lifecycle.attempt.map Attempt.number).getD 0

/-- Of the calls only an upsert of this row that finds it waiting for a selection replaces the
payload; the plan it brings keeps the number.
-/
def keepsNumber (row : Option PlanRow) : PlanCall → Bool
  | .operation (.upsertRequested plan) | .operation (.upsertSelected plan _ _) =>
    row.all fun current =>
      !plan.addresses row || current.status.isMonotonic || plan.keepsNumber current
  | _ => true

/-- No number and no approval id of a retry is used twice, as far as the digest tells the texts
of two approvals apart.
-/
structure NumbersNeverReused (sha256Hex : String → String) (changes : List PlanChange)
    : Prop where
  increase : (givenNumbers changes).Pairwise (· < ·)
  approvals : (changes.filterMap PlanChange.retried).Pairwise (fun first second =>
      first.planId = second.planId → text first.selectedActionId = text second.selectedActionId
      → (digest32 sha256Hex (retryApprovalText first)
            = digest32 sha256Hex (retryApprovalText second)
          → retryApprovalText first = retryApprovalText second)
      → retryApprovalRef sha256Hex first ≠ retryApprovalRef sha256Hex second)

/-- A selection or a retry adds one to the number, and nothing else lowers it. -/
def PlanChange.Counted (change : PlanChange) : Prop :=
  attemptNumber change.before + change.selects.toNat ≤ attemptNumber change.after

theorem Prepared.counted (prepared : Prepared row write)
    (done : commitWrite row write = some (after, events))
    : PlanChange.Counted { before := some row, after, events } := by
  have updated : ∀ {change emitted}, write = .update change emitted
      → attemptNumber (some row) + (emitted.any PlanEvent.isSelection).toNat
        ≤ (change.lifecycle.attempt.map Attempt.number).getD 0
      → PlanChange.Counted { before := some row, after, events } := by
    rintro change emitted rfl counted
    obtain ⟨moved, rfl⟩ := emitting_some done
    obtain ⟨_, rfl⟩ := updateRecoveryPlanLifecycleIfStatus_some moved
    exact counted
  cases prepared with
  | untracked =>
    obtain ⟨moved, rfl⟩ := emitting_some done
    obtain ⟨_, rfl⟩ := reopenRecoveryPlanAction_some moved
    exact le_rfl
  | tracked | rejected | merged | started | redeployed | reverified =>
    exact updated rfl le_rfl
  | failed _ _ named => rcases named with rfl | rfl <;> exact updated rfl le_rfl
  | judged decision =>
    refine updated rfl ?_
    cases outcome : decision.status <;>
      simp [decisionEvents, outcome, PlanEvent.isSelection, attemptNumber]
  | reselected =>
    refine updated rfl ?_
    cases stored : row.payload.lifecycle.attempt <;>
      simp [attemptNumber, nextNumber, stored, PlanEvent.isSelection]

theorem Applied.counted (applied : Applied before operation after events)
    (kept : operation.isUpsert = true → attemptNumber before ≤ attemptNumber after)
    : PlanChange.Counted { before, after, events } := by
  cases applied with
  | replayed present _ _ payload =>
    simp [PlanChange.Counted, PlanChange.selects, attemptNumber, present, payload]
  | upserted asked => exact kept asked
  | selected _ _ _ _ present _ _ _ number =>
    simp [PlanChange.Counted, PlanChange.selects, attemptNumber, present, number,
      PlanEvent.isSelection]
  | reopened _ present done =>
    obtain ⟨_, rfl⟩ := reopenRecoveryPlanAction_some done
    subst present
    exact le_rfl
  | expired _ present _ _ _ attempt =>
    simp [PlanChange.Counted, PlanChange.selects, attemptNumber, present, attempt,
      PlanEvent.isSelection]

theorem applyUpsert_number {plan : GeneratedPlan} {status : PlanStatus}
    {selectedActionId selectedBy : Option String}
    (kept : before.all (fun current =>
      !plan.addresses before || current.status.isMonotonic || plan.keepsNumber current) = true)
    (done : applyUpsert before plan status selectedActionId selectedBy = some (after, events))
    : attemptNumber before ≤ attemptNumber after := by
  obtain ⟨addressed, mapped⟩ := Option.ite_none_right_eq_some.mp done
  obtain ⟨row, upserted, same⟩ := Option.map_eq_some_iff.mp mapped
  cases same
  cases before with
  | none => exact Nat.zero_le _
  | some current =>
    obtain ⟨_, stored⟩ := Option.ite_none_right_eq_some.mp upserted
    cases monotonic : current.status.isMonotonic with
    | true =>
      simp only [monotonic, if_true] at stored
      cases stored
      exact le_rfl
    | false =>
      simp only [monotonic] at stored
      cases stored
      have keeps : plan.keepsNumber current = true := by
        simpa [addressed, monotonic] using kept
      exact of_decide_eq_true keeps

theorem callPlan_counted {call : PlanCall} (kept : keepsNumber before call = true)
    (done : callPlan py sha256Hex before call = some (after, events))
    : PlanChange.Counted { before, after, events } := by
  cases call with
  | operation operation =>
    refine (applyOperation_applied done).counted ?_
    intro upsert
    cases operation with
    | upsertRequested plan => exact applyUpsert_number kept done
    | upsertSelected plan => exact applyUpsert_number kept done
    | select | reopen | expire => cases upsert
  | handler input =>
    obtain ⟨row, rfl, written⟩ := Option.bind_eq_some_iff.mp done
    obtain ⟨write, prepared, committed⟩ := Option.bind_eq_some_iff.mp written
    exact (prepareWrite_prepared prepared).counted committed

/-- Along a run each change is counted, and starts from no smaller number than the changes
before it have left.
-/
theorem callMachine_counted {calls : List PlanCall}
    (kept : (callMachine py sha256Hex).Admits (keepsNumber · · = true) before calls)
    : (∀ change ∈ (callMachine py sha256Hex).trace before calls,
        change.Counted ∧ attemptNumber before ≤ attemptNumber change.before)
      ∧ ((callMachine py sha256Hex).trace before calls).Pairwise (fun earlier later =>
          attemptNumber earlier.after ≤ attemptNumber later.before) := by
  induction calls generalizing before with
  | nil => simp
  | cons call rest ih =>
    obtain ⟨keeps, later⟩ := kept
    rw [Machine.trace_cons]
    simp only [callMachine] at later ⊢
    cases done : callPlan py sha256Hex before call with
    | none =>
      rw [done] at later
      exact ih later
    | some change =>
      rw [done] at later
      have counted := callPlan_counted keeps done
      obtain ⟨each, ordered⟩ := ih later
      refine ⟨?_, pairwise_cons.mpr ⟨fun next mem => (each next mem).2, ordered⟩⟩
      intro next mem
      rcases mem_cons.mp mem with rfl | mem
      · exact ⟨counted, le_rfl⟩
      · exact ⟨(each next mem).1,
          (le_trans (Nat.le_add_right _ _) counted).trans (each next mem).2⟩

theorem retryApprovalText_ne {first second : PlanRow}
    (smaller : attemptNumber (some first) < attemptNumber (some second))
    (plan : first.planId = second.planId)
    (action : text first.selectedActionId = text second.selectedActionId)
    : retryApprovalText first ≠ retryApprovalText second := by
  intro same
  unfold retryApprovalText at same
  rw [plan, action] at same
  have numbers := toString_injective ((String.append_right_inj _).mp same)
  have next : ∀ row : PlanRow,
      nextNumber (row.payload.lifecycle.attempt.map Attempt.number)
        = attemptNumber (some row) + 1 := by
    intro row
    cases stored : row.payload.lifecycle.attempt <;> simp [nextNumber, attemptNumber, stored]
  rw [next, next] at numbers
  omega

theorem PlanChange.retried_some {change : PlanChange} (retried : change.retried = some row)
    : change.selects = true ∧ change.before = some row := by
  unfold PlanChange.retried at retried
  split at retried
  · next selects => exact ⟨selects, Option.eq_some_of_filter_eq_some retried⟩
  · cases retried

def scaleRetry : RetryRequest :=
  {
    workspaceId := "workspace-1"
    correlationId := "incident-1"
    expectedPlanId := "plan-1"
    userId := "operator-1"
    reason := ""
    prepared := true
    approvalRunId := none
    workflow := none
    attemptId := "recovery-attempt-2"
    now := 60000000 }

/-- The action is selected, its pull request fails, and it is retried. -/
def selectedAndRetried : List PlanCall :=
  [.operation (.select "scale" "operator-1" "recovery-attempt-1" 0),
    .handler (.safePrFailed scaleFailure),
    .handler (.retry scaleRetry)]

end K8sClue.Recovery
