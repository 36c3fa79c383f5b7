import K8sClue.Recovery.Convergence

/-! The stored status of one workflow run.
Its calls are redelivered and overtake each other; the insert on conflict and the update guard
the same transition, so the status only moves forward.
-/

namespace K8sClue.Recovery

open Library List

/-- A row of `workflow_runs`: its status and the other columns that the calls write. -/
structure StoredRun (δ : Type) where
  status : WorkflowRunStatus
  details : δ

/-- A call for the run: an update has the columns to change, and a status or none. -/
inductive WorkflowCall (δ : Type) where
  | startWorkflowRun (status : WorkflowRunStatus) (details : δ)
  | updateWorkflowRun (status : Option WorkflowRunStatus) (change : δ → δ)

variable {δ : Type}

def WorkflowCall.status : WorkflowCall δ → Option WorkflowRunStatus
  | .startWorkflowRun status _ => some status
  | .updateWorkflowRun status _ => status

variable (current new : WorkflowRunStatus)

def movesForward : Bool :=
  workflowTransitionGuard current new && current ≠ new

/-- One call, and the status change that it reports as applied. -/
def workflowStep
    : Option (StoredRun δ) → WorkflowCall δ → Option (StoredRun δ) × List WorkflowRunStatus
  | none, .startWorkflowRun status details => (some { status, details }, [status])
  | none, .updateWorkflowRun _ _ => (none, [])
  | some row, .startWorkflowRun status details =>
    if movesForward row.status status then (some { status, details }, [status]) else (some row, [])
  | some row, .updateWorkflowRun (some status) change =>
    if movesForward row.status status then
      (some { status, details := change row.details }, [status])
    else
      (some row, [])
  | some row, .updateWorkflowRun none change =>
    (some { row with details := change row.details }, [])

def workflowMachine : Machine (Option (StoredRun δ)) (WorkflowCall δ) WorkflowRunStatus where
  step := workflowStep

/-- A status moves exactly to those of a greater rank. -/
theorem movesForward_cases
    : (movesForward current new = true ∧ current.isTerminal = false ∧ current.rank < new.rank)
      ∨ (movesForward current new = false ∧ new.rank ≤ current.rank) := by
  cases current <;> cases new <;> decide

/-- Statuses of one rank are the same, or the two terminal ones. -/
theorem eq_of_rank {first second : WorkflowRunStatus} (same : first.rank = second.rank)
    : first = second ∨ (first = .succeeded ∧ second = .failed)
      ∨ (first = .failed ∧ second = .succeeded) := by
  cases first <;> cases second <;> simp_all [WorkflowRunStatus.rank]

/-- What a call does to the status of the row, and what it reports. -/
inductive StatusStep (current : WorkflowRunStatus) (call : WorkflowCall δ)
    : WorkflowRunStatus → List WorkflowRunStatus → Prop where
  | stays (behind : ∀ status ∈ call.status, status.rank ≤ current.rank)
    : StatusStep current call current []
  | moves {new : WorkflowRunStatus} (called : call.status = some new)
      (unfinished : current.isTerminal = false) (ahead : current.rank < new.rank)
    : StatusStep current call new [new]

variable {row : StoredRun δ} {call : WorkflowCall δ}

theorem workflowStep_some (row : StoredRun δ) (call : WorkflowCall δ)
    : ∃ next applied, workflowStep (some row) call = (some next, applied)
        ∧ StatusStep row.status call next.status applied := by
  have guarded (status : WorkflowRunStatus) (called : call.status = some status) (details : δ)
      : ∃ next applied,
          (if movesForward row.status status then (some ⟨status, details⟩, [status])
            else (some row, [])) = (some next, applied)
          ∧ StatusStep row.status call next.status applied := by
    rcases movesForward_cases row.status status with ⟨moves, unfinished, ahead⟩ | ⟨stays, behind⟩
    · exact ⟨_, _, if_pos moves, .moves called unfinished ahead⟩
    · refine ⟨row, [], if_neg (by simp [stays]), .stays fun other same => ?_⟩
      exact Option.some.inj (called.symm.trans same) ▸ behind
  rcases call with ⟨status, details⟩ | ⟨_ | status, change⟩
  · exact guarded status rfl details
  · exact ⟨_, _, rfl, .stays fun _ none => nomatch none⟩
  · exact guarded status rfl (change row.details)

/-- What calls make of a status, and the changes that they report. -/
structure MovedForward (status : WorkflowRunStatus) (calls : List (WorkflowCall δ))
    (last : WorkflowRunStatus) (applied : List WorkflowRunStatus)
    : Prop where
  among : last ∈ status :: calls.filterMap WorkflowCall.status
  greatest : ∀ other ∈ status :: calls.filterMap WorkflowCall.status, other.rank ≤ last.rank
  increasing : (status :: applied).Pairwise (·.rank < ·.rank)
  final : status.isTerminal = true → last = status

theorem MovedForward.cons {status middle last : WorkflowRunStatus} {rest : List (WorkflowCall δ)}
    {changes applied : List WorkflowRunStatus} (step : StatusStep status call middle changes)
    (forward : MovedForward middle rest last applied)
    : MovedForward status (call :: rest) last (changes ++ applied) := by
  obtain ⟨among, greatest, increasing, final⟩ := forward
  cases step with
  | stays behind => exact ⟨by grind, by grind, increasing, final⟩
  | moves called unfinished ahead =>
    refine ⟨by grind, by grind, pairwise_cons.mpr ⟨?_, increasing⟩, by simp [unfinished]⟩
    intro other mem
    rcases mem_cons.mp mem with rfl | later
    · exact ahead
    · exact ahead.trans ((pairwise_cons.mp increasing).1 other later)

/-- Calls on a row that exists move its status forward. -/
theorem workflowMachine_forward (row : StoredRun δ) (calls : List (WorkflowCall δ))
    : ∃ last, workflowMachine.run (some row) calls = some last
        ∧ MovedForward row.status calls last.status (workflowMachine.trace (some row) calls) := by
  induction calls generalizing row with
  | nil => exact ⟨row, rfl, by simp, by simp, by simp, fun _ => rfl⟩
  | cons call rest ih =>
    obtain ⟨middle, applied, stepped, step⟩ := workflowStep_some row call
    obtain ⟨last, reached, forward⟩ := ih middle
    have taken : workflowMachine.step (some row) call = (some middle, applied) := stepped
    rw [Machine.run_cons, Machine.trace_cons, taken]
    exact ⟨last, reached, .cons step forward⟩

/-- After the call that created the row, in any order and repetition of the calls, the status
only moves forward and every change to a status is reported once; without both terminal
statuses it ends as the only one of greatest rank.
-/
theorem workflow_status_converges (created : WorkflowRunStatus) (details : δ)
    (calls : List (WorkflowCall δ))
    : let made := WorkflowCall.startWorkflowRun created details :: calls
      let called := made.filterMap WorkflowCall.status
      ∃ row, workflowMachine.run none made = some row
        ∧ (workflowMachine.trace none made).Nodup
        ∧ (∀ later, ∃ next, workflowMachine.run none (made ++ later) = some next
            ∧ row.status.rank ≤ next.status.rank
            ∧ (row.status.isTerminal = true → next.status = row.status))
        ∧ (¬(.succeeded ∈ called ∧ .failed ∈ called)
          → row.status ∈ called
            ∧ ∀ status ∈ called, status ≠ row.status → status.rank < row.status.rank) := by
  obtain ⟨row, reached, forward⟩ := workflowMachine_forward ⟨created, details⟩ calls
  refine ⟨row, reached, forward.increasing.imp fun less same => less.ne (congrArg _ same),
    fun later => ?_, fun single => ⟨forward.among, fun status mem other => ?_⟩⟩
  · obtain ⟨next, moved, onward⟩ := workflowMachine_forward row later
    refine ⟨next, ?_, onward.greatest _ mem_cons_self, onward.final⟩
    rw [Machine.run_append]
    exact reached ▸ moved
  · refine (forward.greatest status mem).lt_of_ne fun same => ?_
    rcases eq_of_rank same with equal | ⟨rfl, failed⟩ | ⟨rfl, succeeded⟩
    · exact other equal
    · exact single ⟨mem, failed ▸ forward.among⟩
    · exact single ⟨succeeded ▸ forward.among, mem⟩

end K8sClue.Recovery
