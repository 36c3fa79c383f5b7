import K8sClue.Recovery.Interleavings
import K8sClue.Recovery.VerificationRuns

/-! Concurrent executions of the evidence handler on one plan.
Beside the row the model keeps the chain of healthy windows that the stored fields stand for.
Each link remembers how many regressed windows had been stored when its execution read the
plan.
-/

namespace K8sClue.Recovery

open Library Python List Function

/-- A healthy window of a chain, and the regressed writes that its execution had seen. -/
structure Link where
  call : EvidenceCall
  observed : Instant
  since : Nat
  deriving DecidableEq

structure WatchedPlan where
  row : PlanRow
  chain : List Link

structure WatchedWrite where
  write : PlanWrite
  chain : List Link
  regressed : Bool

def PlanRow.verification (row : PlanRow) : Verification :=
  row.payload.lifecycle.verification.getD .empty

variable (verification : Verification) (call : EvidenceCall)

def decisionOn : VerificationDecision :=
  evaluateRecoveryEvidence verification.window verification.state call

def regresses : Bool :=
  ¬(decisionOn verification call).Ignored ∧ failedChecks call ≠ []

/-- An ignored window keeps the chain and a reset forgets it. A healthy window extends it, or
starts a new one after a broken gap.
-/
def nextChain (epoch : Nat) (chain : List Link) : List Link :=
  let decision := decisionOn verification call
  if decision.Ignored then
    chain
  else
    match decision.state.lastHealthyObservedAt with
    | none => []
    | some observed =>
      let previous := verification.state.lastHealthyObservedAt
      (if gapBroken verification.window.cadence previous observed then [] else chain)
        ++ [{ call, observed, since := epoch }]

/-- The executions of `on_recovery_verification_evidence` on one plan. An epoch ends with each
regressed window that is written.
-/
def evidenceStore : Store WatchedPlan EvidenceReceived WatchedWrite Empty PlanEvent where
  prepare epoch plan event :=
    (onRecoveryVerificationEvidence plan.row event).map (fun write =>
      {
        write
        chain := nextChain plan.row.verification event.call epoch plan.chain
        regressed := regresses plan.row.verification event.call })
  commit plan prepared :=
    (commitWrite plan.row prepared.write).map (fun done =>
      ({ row := done.1, chain := prepared.chain }, done.2))
  apply _ operation := nomatch operation
  commitOpens _ prepared := prepared.regressed
  applyOpens _ operation := nomatch operation

abbrev EvidenceState := StoreState WatchedPlan WatchedWrite

abbrev EvidenceAction := StoreAction EvidenceReceived Empty

abbrev EvidenceChange := Change WatchedPlan WatchedWrite PlanEvent

/-- The states agree on the row and on every prepared write. -/
structure Unwatched (watched : EvidenceState) (plain : PlanState) : Prop where
  row : plain.row = some watched.row.row
  pending : ∀ handler,
      (plain.pending handler).map Ticket.write
      = (watched.pending handler).map (fun ticket => ticket.write.write)

/-- A step of an execution as a step of the plan. -/
def evidenceAction : EvidenceAction → PlanAction
  | .read handler event => .read handler (.evidence event)
  | .write handler => .write handler
  | .apply operation => nomatch operation

namespace Unwatched

variable (py : Runtime) (sha256Hex : String → String) {watched : EvidenceState}
  {plain : PlanState} (agree : Unwatched watched plain)
include agree

theorem release (handler other : Nat)
    : ((Store.release plain handler).pending other).map Ticket.write
      = ((Store.release watched handler).pending other).map (fun ticket => ticket.write.write) := by
  by_cases same : other = handler
  · simp [Store.release, same]
  · simpa [Store.release, same] using agree.pending other

theorem step (action : EvidenceAction)
    : Unwatched (evidenceStore.machine.step watched action).1
        ((planMachine py sha256Hex).step plain (evidenceAction action)).1
      ∧ ((planMachine py sha256Hex).step plain (evidenceAction action)).2.map Change.effects
        = (evidenceStore.machine.step watched action).2.map Change.effects := by
  cases action with
  | read handler event =>
    refine ⟨⟨agree.row, fun other => ?_⟩, rfl⟩
    simp only [planMachine, Store.machine, evidenceAction, Store.stepRead]
    by_cases same : other = handler
    · simp [same, agree.row, planStore, evidenceStore, prepareWrite, comp_def]
    · simpa [same] using agree.pending other
  | write handler =>
    simp only [planMachine, Store.machine, evidenceAction, Store.stepWrite]
    have held := agree.pending handler
    cases watchedHeld : watched.pending handler with
    | none =>
      simp only [watchedHeld, Option.map_none, Option.map_eq_none_iff] at held
      simpa only [held, map_nil, and_true] using agree
    | some ticket =>
      simp only [watchedHeld] at held
      obtain ⟨plainTicket, plainHeld, written⟩ := Option.map_eq_some_iff.mp held
      simp only [plainHeld, written, agree.row, planStore, evidenceStore, Option.bind_some]
      cases commitWrite watched.row.row ticket.write.write with
      | none => exact ⟨⟨agree.row, agree.release handler⟩, rfl⟩
      | some done => exact ⟨⟨rfl, agree.release handler⟩, rfl⟩
  | apply operation => cases operation

/-- The executions change the row and emit events as they do among all handlers of the plan. -/
theorem run (actions : List EvidenceAction)
    : Unwatched (evidenceStore.machine.run watched actions)
        ((planMachine py sha256Hex).run plain (actions.map evidenceAction))
      ∧ ((planMachine py sha256Hex).trace plain (actions.map evidenceAction)).map Change.effects
        = (evidenceStore.machine.trace watched actions).map Change.effects := by
  induction actions generalizing watched plain with
  | nil => exact ⟨agree, rfl⟩
  | cons action rest ih =>
    obtain ⟨next, now⟩ := agree.step py sha256Hex action
    obtain ⟨last, later⟩ := ih next
    refine ⟨last, ?_⟩
    simp only [map_cons, Machine.trace_cons, map_append, now, later]

end Unwatched

/-- Executions that watch their chain are executions of the plan: from any row they lead to the same
row and emit the same events, however they interleave.
-/
theorem evidence_runs_refine_plan (py : Runtime) (sha256Hex : String → String) (plan : WatchedPlan)
    (actions : List EvidenceAction)
    : let watched := Store.initial plan
      let plain := Store.initial (some plan.row)
      let asPlan := actions.map evidenceAction
      ((planMachine py sha256Hex).run plain asPlan).row
        = some (evidenceStore.machine.run watched actions).row.row
      ∧ ((planMachine py sha256Hex).trace plain asPlan).map Change.effects
        = (evidenceStore.machine.trace watched actions).map Change.effects := by
  intro watched plain asPlan
  have start : Unwatched watched plain := ⟨rfl, fun _ => rfl⟩
  obtain ⟨agree, effects⟩ := start.run py sha256Hex actions
  exact ⟨agree.row, effects⟩

/-- The stored fields are the first window, the last window and the length of the chain. -/
structure ChainStored (state : VerificationState) (chain : List Link) : Prop where
  since : state.healthySince = chain.head?.map Link.observed
  last : state.lastHealthyObservedAt = chain.getLast?.map Link.observed
  count : state.distinctEvidenceCount = chain.length
  healthy : ∀ link ∈ chain, link.call.AllTrue ∧ link.call.windowStart = some link.observed

variable {call : EvidenceCall} {chain : List Link} {state : VerificationState}
  {verification : Verification}

theorem ChainStored.nil (since : state.healthySince = none)
    (last : state.lastHealthyObservedAt = none) (count : state.distinctEvidenceCount = 0)
    : ChainStored state [] where
  since := since
  last := last
  count := count
  healthy := by simp

@[simp] theorem healthyState_last (state : VerificationState) (call : EvidenceCall)
    (cadence : Nat) (observed : Instant)
    : (healthyState state call cadence observed).lastHealthyObservedAt = some observed := rfl

variable {cadence epoch : Nat} {observed : Instant} {event : EvidenceReceived}
  {plan after : WatchedPlan} {ticket : Ticket WatchedWrite} {events : List PlanEvent}

/-- A healthy window after an unbroken gap becomes the last link. -/
theorem ChainStored.extend (stored : ChainStored state chain) (healthy : call.AllTrue)
    (seen : call.windowStart = some observed)
    (unbroken : gapBroken cadence state.lastHealthyObservedAt observed = false)
    : ChainStored (healthyState state call cadence observed)
        (chain ++ [{ call, observed, since := epoch }]) where
  since := by
    simp only [healthyState, unbroken, stored.since]
    cases chain <;> simp
  last := by simp [healthyState]
  count := by simp [healthyState, unbroken, stored.count]
  healthy := by
    intro link mem
    rcases mem_append.mp mem with earlier | new
    · exact stored.healthy link earlier
    · obtain rfl := mem_singleton.mp new
      exact ⟨healthy, seen⟩

/-- After a broken gap the window is the only link. -/
theorem ChainStored.restart (healthy : call.AllTrue) (seen : call.windowStart = some observed)
    (broken : gapBroken cadence state.lastHealthyObservedAt observed = true)
    : ChainStored (healthyState state call cadence observed)
        [{ call, observed, since := epoch }] where
  since := by simp [healthyState, broken]
  last := by simp [healthyState]
  count := by simp [healthyState, broken]
  healthy := by simp [healthy, seen]

/-- One evaluation takes the fields and their chain to the fields and chain it writes.
Witness: the three ways an evaluation treats the stored chain.
-/
theorem ChainStored.evaluate (stored : ChainStored verification.state chain) (call : EvidenceCall)
    (epoch : Nat)
    : ChainStored (decisionOn verification call).state
        (nextChain verification call epoch chain) := by
  have step : EvidenceStep verification.window verification.state call
      (decisionOn verification call) := evaluate_step _ _ _
  unfold nextChain
  generalize decisionOn verification call = decision at step
  cases step with
  | ignored ignored _ kept =>
    simp only [ignored, kept]
    exact ⟨stored.since, stored.last, stored.count, stored.healthy⟩
  | reset judged _ cleared =>
    simp only [judged, cleared]
    exact .nil rfl rfl rfl
  | @healthy _ observed _ seen _ allTrue =>
    simp only [healthyDecision_judged, healthyDecision_state, healthyState_last]
    cases gap : gapBroken verification.window.cadence
        verification.state.lastHealthyObservedAt observed with
    | false => exact stored.extend allTrue seen gap
    | true => exact .restart allTrue seen gap

/-- The chain of the plan is the stored one, and every link was read in the current epoch. -/
structure WatchedPlan.Unspoiled (epoch : Nat) (plan : WatchedPlan) : Prop where
  stored : ChainStored plan.row.verification.state plan.chain
  current : ∀ link ∈ plan.chain, link.since = epoch

/-- The write stores the fields of its chain, and every link was read in the epoch of the
write's own read.
-/
structure WatchedWrite.Unspoiled (ticket : Ticket WatchedWrite) : Prop where
  decided : ∃ update events, ticket.write.write = .update update events
      ∧ ChainStored (update.lifecycle.verification.getD .empty).state ticket.write.chain
  current : ∀ link ∈ ticket.write.chain, link.since = ticket.since
  forgets : ticket.write.regressed = true → ticket.write.chain = []

/-- An execution whose window has not regressed writes only if no regressed window has been
written since it read the plan.
-/
def WritesOnCurrentRead (state : EvidenceState) : EvidenceAction → Prop
  | .write handler =>
    ∀ ticket ∈ state.pending handler, ticket.write.regressed = false → ticket.since = state.epoch
  | _ => True

instance (state : EvidenceState)
    : (action : EvidenceAction) → Decidable (WritesOnCurrentRead state action)
  | .write handler => inferInstanceAs (Decidable (∀ ticket ∈ state.pending handler, _ → _))
  | .read _ _ => isTrue trivial
  | .apply _ => isTrue trivial

theorem nextChain_current (current : ∀ link ∈ chain, link.since = epoch) (call : EvidenceCall)
    : ∀ link ∈ nextChain verification call epoch chain, link.since = epoch := by
  intro link mem
  simp only [nextChain] at mem
  split at mem
  · exact current link mem
  split at mem
  · cases mem
  rcases mem_append.mp mem with earlier | new
  · split at earlier
    · cases earlier
    · exact current link earlier
  · rw [mem_singleton.mp new]

/-- A regressed window forgets the chain. -/
theorem nextChain_regressed (regressed : regresses verification call = true) (epoch : Nat)
    (chain : List Link)
    : nextChain verification call epoch chain = [] := by
  simp only [regresses, decide_eq_true_eq] at regressed
  have step : EvidenceStep verification.window verification.state call
      (decisionOn verification call) := evaluate_step _ _ _
  unfold nextChain
  generalize decisionOn verification call = decision at step regressed
  cases step with
  | ignored ignored => exact absurd ignored regressed.1
  | reset judged _ cleared => simp [judged, cleared, resetState]
  | healthy _ _ _ allTrue =>
    obtain ⟨name, mem⟩ := exists_mem_of_ne_nil _ regressed.2
    obtain ⟨check, listed, rfl⟩ := mem_map.mp mem
    obtain ⟨present, failed⟩ := mem_filter.mp listed
    simp [allTrue check present] at failed

/-- An accepted evidence window is written as the decision on the verification that was read. -/
theorem onRecoveryVerificationEvidence_decision {row : PlanRow} {write : PlanWrite}
    (prepared : onRecoveryVerificationEvidence row event = some write)
    : write = decisionWrite row (decisionOn row.verification event.call) := by
  simp only [onRecoveryVerificationEvidence] at prepared
  split at prepared
  · cases prepared
  · exact (Option.some.inj prepared).symm

theorem evidenceStore_prepares {write : WatchedWrite} (unspoiled : plan.Unspoiled epoch)
    (prepared : evidenceStore.prepare epoch plan event = some write)
    : WatchedWrite.Unspoiled { write, since := epoch } := by
  obtain ⟨written, accepted, rfl⟩ := Option.map_eq_some_iff.mp prepared
  obtain rfl := onRecoveryVerificationEvidence_decision accepted
  refine ⟨⟨_, _, rfl, ?_⟩, ?_, ?_⟩ <;> dsimp only
  · exact unspoiled.stored.evaluate event.call epoch
  · exact nextChain_current unspoiled.current event.call
  · intro regressed
    exact nextChain_regressed regressed epoch plan.chain

/-- A write that lands leaves its own chain behind, with the fields that stand for it. -/
theorem evidenceStore_commits (valid : WatchedWrite.Unspoiled ticket)
    (done : evidenceStore.commit plan ticket.write = some (after, events))
    : after.chain = ticket.write.chain
      ∧ ChainStored after.row.verification.state after.chain := by
  obtain ⟨⟨row, emitted⟩, committed, pair⟩ := Option.map_eq_some_iff.mp done
  obtain ⟨rfl, rfl⟩ := Prod.mk.inj pair
  obtain ⟨update, planned, written, stored⟩ := valid.decided
  rw [written] at committed
  obtain ⟨updated, rfl⟩ := emitting_some committed
  obtain ⟨_, rfl⟩ := updateRecoveryPlanLifecycleIfStatus_some updated
  exact ⟨rfl, stored⟩

/-- An admitted write leaves links behind only if its window has not regressed, and then only
links read in the current epoch.
-/
theorem evidenceStore_links {state : EvidenceState} {handler : Nat}
    (valid : WatchedWrite.Unspoiled ticket) (admitted : WritesOnCurrentRead state (.write handler))
    (held : state.pending handler = some ticket)
    (done : evidenceStore.commit state.row ticket.write = some (after, events))
    : ∀ link ∈ after.chain, ticket.write.regressed = false ∧ link.since = state.epoch := by
  intro link mem
  rw [(evidenceStore_commits valid done).1] at mem
  cases outcome : ticket.write.regressed with
  | true => simp [valid.forgets outcome] at mem
  | false => exact ⟨rfl, (valid.current link mem).trans (admitted ticket held outcome)⟩

/-- While executions write on current reads, every link of the chain was read after the last
regressed window was written.
-/
theorem evidenceStore_maintains
    : evidenceStore.Maintains WritesOnCurrentRead (fun epoch plan => plan.Unspoiled epoch)
        WatchedWrite.Unspoiled where
  prepares := by
    intro epoch plan event write unspoiled prepared
    exact evidenceStore_prepares unspoiled prepared
  commits := by
    intro state handler ticket after events sound admitted held done
    have valid := sound.pending handler ticket held
    refine ⟨(evidenceStore_commits valid done).2, ?_⟩
    intro link mem
    obtain ⟨healthy, current⟩ := evidenceStore_links valid admitted held done link mem
    have kept : evidenceStore.commitOpens state.row ticket.write = false := healthy
    rw [kept, current]
    rfl
  applies := by
    intro _ _ operation
    cases operation

/-- Every completing write was computed from a chain whose windows were all read after the
regressed windows written before it.
-/
def CompletesUnspoiled (changes : List EvidenceChange) : Prop :=
  ∀ change ∈ changes, change.after.row.status = .completed
    → ∀ link ∈ change.after.chain, link.since = change.epoch

instance (changes : List EvidenceChange) : Decidable (CompletesUnspoiled changes) :=
  inferInstanceAs (Decidable (∀ _ ∈ changes, _ → ∀ _ ∈ _, _))

/-- Concurrent executions forget no regressed window as long as each one writes on a current
read. The links are the windows that the stored fields count.
-/
theorem evidence_completes_unspoiled {plan : WatchedPlan} {actions : List EvidenceAction}
    (start : plan.Unspoiled 0)
    (current : evidenceStore.machine.Admits WritesOnCurrentRead (Store.initial plan) actions)
    : CompletesUnspoiled (evidenceStore.machine.trace (Store.initial plan) actions)
      ∧ ∀ change ∈ evidenceStore.machine.trace (Store.initial plan) actions,
          ChainStored change.after.row.verification.state change.after.chain := by
  have sound : Store.Sound (fun epoch plan => WatchedPlan.Unspoiled epoch plan)
      WatchedWrite.Unspoiled (Store.initial plan) := ⟨start, by simp [Store.initial]⟩
  constructor
  · refine evidenceStore_maintains.changes ?_ ?_ sound current
    · intro state handler ticket after events sound admitted held done _ link mem
      have valid := sound.pending handler ticket held
      exact (evidenceStore_links valid admitted held done link mem).2
    · intro _ _ operation
      cases operation
  · refine evidenceStore_maintains.changes ?_ ?_ sound current
    · intro state handler ticket after events sound _ held done
      exact (evidenceStore_commits (sound.pending handler ticket held) done).2
    · intro _ _ operation
      cases operation

/-- A verification that two healthy windows five minutes apart complete. -/
def deployedPlan : WatchedPlan :=
  {
    row :=
      {
        planId := "plan-1"
        workspaceId := "workspace-1"
        correlationId := "incident-1"
        incidentId := "incident-1"
        evidenceRef := "evidence-1"
        status := .verificationPending
        selectedActionId := some "scale"
        selectedBy := some "operator-1"
        payload :=
          {
            clusterId := "cluster-1"
            candidates := []
            lifecycle :=
              { Lifecycle.empty with
                phase := some .verificationPending
                verification :=
                  some
                    { Verification.empty with
                      window :=
                        {
                          startedAt := some 0
                          deadlineAt := none
                          minimumSeconds := some 300
                          evidenceCadenceSeconds := some 300 } } } } }
    chain := [] }

def receivedWindow (second : Nat) (healthy : Bool) : EvidenceReceived :=
  {
    workspaceId := "workspace-1"
    clusterId := "cluster-1"
    call :=
      {
        evidenceKey := toString second
        windowStart := some (second * microsPerSecond)
        checks := [("replica_ready", some healthy)]
        now := 600 * microsPerSecond } }

/-- Two executions read the same plan; after the regressed window of the second one, two others
read what it has left.
-/
def regressedThenHealthy : List EvidenceAction :=
  [.read 0 (receivedWindow 100 true), .read 1 (receivedWindow 150 false), .write 0, .write 1,
    .read 2 (receivedWindow 300 true), .write 2, .read 3 (receivedWindow 600 true), .write 3]

theorem evidence_completes_unspoiled_regressed
    : CompletesUnspoiled (evidenceStore.machine.trace (Store.initial deployedPlan)
          regressedThenHealthy)
      ∧ (evidenceStore.machine.run (Store.initial deployedPlan) regressedThenHealthy).epoch = 1
      ∧ (evidenceStore.machine.run (Store.initial deployedPlan) regressedThenHealthy).row.row.status
        = .completed := by
  refine ⟨(evidence_completes_unspoiled ⟨?_, ?_⟩ ?_).1, by decide +kernel, by decide +kernel⟩
  · exact .nil rfl rfl rfl
  · simp [deployedPlan]
  · decide +kernel

/-- The execution of the first healthy window writes after the unhealthy window of second 450
has been written, so the window of second 600 completes the chain over it.
-/
theorem regressed_window_forgotten_by_stale_write
    : ¬CompletesUnspoiled (evidenceStore.machine.trace (Store.initial deployedPlan)
          [.read 0 (receivedWindow 300 true), .read 1 (receivedWindow 450 false), .write 1,
            .write 0, .read 2 (receivedWindow 600 true), .write 2]) := by
  decide +kernel

end K8sClue.Recovery
