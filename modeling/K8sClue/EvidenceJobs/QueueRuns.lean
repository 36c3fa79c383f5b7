import K8sClue.EvidenceJobs.Queue
import Mathlib.Data.List.Induction

/-! Runs of the queue of evidence jobs.
The lease id of a job is that of its most recent lease, and a lease id is never drawn twice. That
alone keeps late completions apart; the attempts decide whether a job can be leased again or is
closed.
-/

namespace K8sClue.EvidenceJobs

open Library Python List Keyed

section Runs

variable {ο : Type} {normalize : String → ο → ο} {state : QueueState ο} {action : QueueAction ο}

variable (leases : List (String × String))

def mostRecentLease (jobId : String) : Option String :=
  ((leases.filter (·.1 = jobId)).getLast?).map Prod.snd

theorem mostRecentLease_concat (jobId leaseId wanted : String)
    : mostRecentLease (leases ++ [(jobId, leaseId)]) wanted
      = if jobId = wanted then some leaseId else mostRecentLease leases wanted := by
  unfold mostRecentLease
  by_cases same : jobId = wanted <;> simp [same]

variable {leases : List (String × String)}

theorem mem_of_mostRecentLease {jobId leaseId : String}
    (found : mostRecentLease leases jobId = some leaseId)
    : (jobId, leaseId) ∈ leases := by
  obtain ⟨entry, last, rfl⟩ := Option.map_eq_some_iff.mp found
  obtain ⟨mem, same⟩ := mem_filter.mp (mem_of_getLast? last)
  rw [← of_decide_eq_true same]
  exact mem

variable (normalize : String → ο → ο) (state next : QueueState ο) in
inductive Becomes : QueueAction ο → Job ο → Job ο → Prop where
  | kept (action : QueueAction ο) (job : Job ο)
      (lease : mostRecentLease next.leases job.jobId = mostRecentLease state.leases job.jobId)
    : Becomes action job job
  | leased (call : LeaseCall) (picked : Option String) (job : Job ο)
      (leasable : job.leasable call = true)
      (fresh : ∀ entry ∈ state.leases, entry.2 ≠ call.leaseId)
      (leases : next.leases = state.leases ++ [(job.jobId, call.leaseId)])
    : Becomes (.lease call picked) job (job.lease call)
  | completed (call : CompleteCall ο) (job : Job ο) (active : job.active call = true)
      (leases : next.leases = state.leases)
    : Becomes (.complete call) job (job.complete normalize call)
  | exhausted (now : Int) (limit : Nat) (picked : List String) (job : Job ο)
      (late : job.exhausted now = true) (leases : next.leases = state.leases)
    : Becomes (.failExhausted now limit picked) job job.exhaust

/-- What a step does, said once: each job becomes one, and the other jobs are new. -/
structure Stepped (normalize : String → ο → ο) (state : QueueState ο) (action : QueueAction ο)
    (next : QueueState ο) : Prop where
  unique : Unique Job.jobId next.jobs
  goes : ∀ job ∈ state.jobs, ∃ later ∈ next.jobs, Becomes normalize state next action job later
  comes : ∀ later ∈ next.jobs,
      (∃ job ∈ state.jobs, Becomes normalize state next action job later)
      ∨ ∃ call createdAt providerKey, action = .queue call createdAt
        ∧ later = call.job createdAt providerKey
        ∧ ∀ job ∈ state.jobs, job.jobId ≠ later.jobId
  grows : state.leases ⊆ next.leases
  leases : ∀ entry ∈ next.leases, entry ∈ state.leases ∨ ∃ job ∈ state.jobs, job.jobId = entry.1

variable {next : QueueState ο} {job later : Job ο} {call : CompleteCall ο}

theorem Becomes.jobId (becomes : Becomes normalize state next action job later)
    : later.jobId = job.jobId := by
  cases becomes <;> rfl

variable (unique : Unique Job.jobId state.jobs)
include unique

theorem stepped_change {change : Job ο → Job ο} (isNext : next.jobs = state.jobs.map change)
    (becomes : ∀ job ∈ state.jobs, Becomes normalize state next action job (change job))
    (grows : state.leases ⊆ next.leases)
    (leases : ∀ entry ∈ next.leases, entry ∈ state.leases ∨ ∃ job ∈ state.jobs, job.jobId = entry.1)
    : Stepped normalize state action next where
  unique := by
    have same : next.jobs.map Job.jobId = state.jobs.map Job.jobId := by
      rw [isNext, map_map]
      exact map_congr_left fun job mem => (becomes job mem).jobId
    rw [Keyed.Unique, same]
    exact unique
  goes job mem := ⟨change job, isNext ▸ mem_map_of_mem mem, becomes job mem⟩
  comes later mem := by
    obtain ⟨job, before, rfl⟩ := mem_map.mp (isNext ▸ mem)
    exact .inl ⟨job, before, becomes job before⟩
  grows := grows
  leases := leases

theorem stepped_same : Stepped normalize state action state :=
  stepped_change unique (map_id _).symm (fun job _ => .kept action job rfl)
    (Subset.refl _) fun _ => .inl

theorem stepped_queue (call : QueueCall ο) (createdAt : Int)
    : Stepped normalize state (.queue call createdAt)
        (queueEvidenceJobs state call createdAt).1 := by
  have stays : Unique Job.jobId (queueEvidenceJobs state call createdAt).1.jobs :=
    unique.putAll fun _ _ same => same
  have kept : ∃ added, (queueEvidenceJobs state call createdAt).1.jobs = state.jobs ++ added
      ∧ added.Sublist ((fromKeys call.providerKeys).map (call.job createdAt)) :=
    putAll_keeping
  obtain ⟨added, all, part⟩ := kept
  refine ⟨stays, fun job mem => ?_, fun later mem => ?_, Subset.refl _,
    fun _ => .inl⟩
  · exact ⟨job, all ▸ mem_append_left _ mem, .kept _ job rfl⟩
  · rw [all] at mem stays
    rcases mem_append.mp mem with before | new
    · exact .inl ⟨later, before, .kept _ later rfl⟩
    · obtain ⟨providerKey, _, rfl⟩ := mem_map.mp (part.subset new)
      refine .inr ⟨call, createdAt, providerKey, rfl, rfl, fun job inside same => ?_⟩
      rw [Keyed.Unique, map_append, nodup_append] at stays
      exact stays.2.2 _ (mem_map_of_mem inside) _ (mem_map_of_mem new) same

theorem step_stepped (normalize : String → ο → ο) (action : QueueAction ο)
    : Stepped normalize state action ((queueMachine normalize).step state action).1 := by
  cases action with
  | queue call createdAt => exact stepped_queue unique call createdAt
  | lease call picked =>
    unfold queueMachine leaseEvidenceJob
    dsimp only
    split
    · exact stepped_same unique
    next job found =>
      have chosen := find?_some found
      have mem := mem_of_find?_eq_some found
      rw [Bool.and_eq_true] at chosen
      split
      · exact stepped_same unique
      next free =>
        refine stepped_change unique rfl (fun other inside => ?_) (subset_append_left _ _) ?_
        · split
          next same =>
            obtain rfl := unique.eq_of_key inside mem same
            refine .leased call picked other chosen.2 (fun entry listed drawn => ?_) rfl
            exact free (any_eq_true.mpr ⟨entry, listed, decide_eq_true drawn⟩)
          next apart =>
            refine .kept _ other ?_
            rw [mostRecentLease_concat, if_neg (Ne.symm apart)]
        · intro entry listed
          rcases mem_append.mp listed with before | new
          · exact .inl before
          · rw [mem_singleton.mp new]
            exact .inr ⟨job, mem, rfl⟩
  | complete call =>
    unfold queueMachine completeEvidenceJob
    dsimp only
    split
    · exact stepped_same unique
    next job found =>
      have active := find?_some found
      refine stepped_change unique rfl (fun other inside => ?_) (Subset.refl _)
        fun _ => .inl
      split
      next same =>
        obtain rfl := unique.eq_of_key inside (mem_of_find?_eq_some found) same
        exact .completed call other active rfl
      · exact .kept _ other rfl
  | failExhausted now limit picked =>
    refine stepped_change unique rfl (fun job _ => ?_) (Subset.refl _) fun _ => .inl
    split
    next both => exact .exhausted now limit picked job (Bool.and_eq_true_iff.mp both).2 rfl
    · exact .kept _ job rfl

omit unique

structure JobSound (leases : List (String × String)) (job : Job ο) : Prop where
  attempts : job.attemptCount ≤ job.maxAttempts
  queued : job.status = .queued → job.attemptCount < job.maxAttempts
  leased : job.status = .leased → job.leasedUntil.isSome
  lease : job.leaseId = mostRecentLease leases job.jobId

structure QueueSound (state : QueueState ο) : Prop where
  unique : Unique Job.jobId state.jobs
  jobs : ∀ job ∈ state.jobs, JobSound state.leases job
  leases : ∀ entry ∈ state.leases, ∃ job ∈ state.jobs, job.jobId = entry.1

def QueueAction.HasAttempts : QueueAction ο → Prop
  | .queue call _ => 1 ≤ call.maxAttempts
  | _ => True

theorem nextStatus_ne_leased (job : Job ο) (call : CompleteCall ο)
    : job.nextStatus call ≠ .leased := by
  unfold Job.nextStatus
  split
  · split <;> exact nofun
  · exact nofun

theorem JobSound.becomes (sound : JobSound state.leases job)
    (becomes : Becomes normalize state next action job later)
    : JobSound next.leases later := by
  cases becomes with
  | kept _ _ lease => exact ⟨sound.attempts, sound.queued, sound.leased, lease ▸ sound.lease⟩
  | leased call picked _ leasable fresh leases =>
    have available : job.available call.now = true := (Bool.and_eq_true_iff.mp leasable).2
    rw [Job.available, Bool.and_eq_true, decide_eq_true_eq] at available
    refine ⟨Int.add_one_le_of_lt available.2, nofun, fun _ => rfl, ?_⟩
    rw [leases, mostRecentLease_concat]
    exact (if_pos rfl).symm
  | completed call _ active leases =>
    refine ⟨sound.attempts, fun queued => ?_, fun leased => ?_, leases ▸ sound.lease⟩
    · simp only [Job.complete, Job.nextStatus] at queued ⊢
      split at queued
      · split at queued
        · cases queued
        next more => exact not_le.mp more
      · cases queued
    · exact absurd leased (nextStatus_ne_leased job call)
  | exhausted now limit picked _ late leases =>
    exact ⟨sound.attempts, nofun, nofun, leases ▸ sound.lease⟩

theorem QueueSound.step (sound : QueueSound state) (attempts : action.HasAttempts)
    : QueueSound ((queueMachine normalize).step state action).1 := by
  have stepped := step_stepped sound.unique normalize action
  have owned : ∀ entry ∈ ((queueMachine normalize).step state action).1.leases,
      ∃ job ∈ state.jobs, job.jobId = entry.1 :=
    fun entry listed => (stepped.leases entry listed).elim (sound.leases entry) id
  refine ⟨stepped.unique, fun later mem => ?_, fun entry listed => ?_⟩
  · rcases stepped.comes later mem with
      ⟨job, before, becomes⟩ | ⟨call, createdAt, providerKey, rfl, rfl, free⟩
    · exact (sound.jobs job before).becomes becomes
    · refine ⟨Int.le_trans Int.one_nonneg attempts, fun _ => attempts, nofun, ?_⟩
      -- a job that is queued newly has no leases yet
      refine (Option.eq_none_iff_forall_ne_some.mpr fun leaseId found => ?_).symm
      obtain ⟨job, inside, same⟩ := owned _ (mem_of_mostRecentLease found)
      exact free job inside same
  · obtain ⟨job, before, same⟩ := owned entry listed
    obtain ⟨later, inside, becomes⟩ := stepped.goes job before
    exact ⟨later, inside, becomes.jobId.trans same⟩

theorem queueSound_run {actions : List (QueueAction ο)}
    (admitted : (queueMachine normalize).Admits (fun _ action => action.HasAttempts) {} actions)
    : QueueSound ((queueMachine normalize).run {} actions) := by
  have keeps : ∀ (state : QueueState ο) action, QueueSound state → QueueAction.HasAttempts action
      → QueueSound ((queueMachine normalize).step state action).1 :=
    fun _ _ sound attempts => sound.step attempts
  have start : QueueSound ({} : QueueState ο) :=
    ⟨nodup_nil, fun _ mem => absurd mem not_mem_nil,
      fun _ mem => absurd mem not_mem_nil⟩
  exact Machine.run_invariant keeps start admitted

/-- A job that is over becomes no other. -/
theorem Becomes.ended (becomes : Becomes normalize state next action job later)
    (ended : job.status.terminal = true)
    : later = job := by
  have running {status : JobStatus} (isStatus : job.status = status)
      (open_ : status.terminal = false) : False := by
    rw [isStatus, open_] at ended
    cases ended
  have unexpired {now : Int} (late : job.expired now = true) : False := by
    rw [Job.expired, Bool.and_eq_true, decide_eq_true_eq] at late
    exact running late.1 rfl
  cases becomes with
  | kept => rfl
  | leased call picked _ leasable =>
    simp only [Job.leasable, Job.available, Bool.and_eq_true, Bool.or_eq_true,
      decide_eq_true_eq] at leasable
    rcases leasable.2.1 with queued | late
    · exact (running queued rfl).elim
    · exact (unexpired late).elim
  | completed call _ active =>
    rw [Job.active, Bool.and_eq_true, decide_eq_true_eq] at active
    exact (running active.2 rfl).elim
  | exhausted now limit picked _ late =>
    exact (unexpired (Bool.and_eq_true_iff.mp late).1).elim

theorem QueueSound.terminal (sound : QueueSound state) (mem : job ∈ state.jobs)
    (ended : job.status.terminal = true)
    : job ∈ ((queueMachine normalize).step state action).1.jobs := by
  obtain ⟨later, inside, becomes⟩ := (step_stepped sound.unique normalize action).goes job mem
  exact becomes.ended ended ▸ inside

theorem JobSound.ofCall (sound : JobSound leases job) (active : job.active call = true)
    : job.jobId = call.jobId ∧ mostRecentLease leases job.jobId = some call.leaseId := by
  simp only [Job.active, Job.isOf, Bool.and_eq_true, decide_eq_true_eq] at active
  obtain ⟨⟨⟨⟨⟨same, _⟩, _⟩, lease⟩, _⟩, _⟩ := active
  exact ⟨same, sound.lease ▸ lease⟩

/-- A result comes from a completion under the most recent lease. -/
theorem QueueSound.stored (sound : QueueSound state) {next : Job ο}
    (mem : next ∈ ((queueMachine normalize).step state action).1.jobs) {result : ο}
    (found : next.result = some result)
    : (∃ job ∈ state.jobs, job.jobId = next.jobId ∧ job.result = some result)
      ∨ ∃ call, action = .complete call ∧ call.jobId = next.jobId
        ∧ mostRecentLease state.leases next.jobId = some call.leaseId := by
  rcases (step_stepped sound.unique normalize action).comes next mem with
    ⟨job, before, becomes⟩ | ⟨call, createdAt, providerKey, rfl, rfl, _⟩
  · cases becomes with
    | kept => exact .inl ⟨next, before, rfl, found⟩
    | leased => exact .inl ⟨job, before, rfl, found⟩
    | completed call _ active =>
      obtain ⟨same, recent⟩ := (sound.jobs job before).ofCall active
      exact .inr ⟨call, rfl, same.symm, recent⟩
    | exhausted => cases found
  · cases found

structure Spent (call : CompleteCall ο) (state : QueueState ο) : Prop where
  drawn : ∃ entry ∈ state.leases, entry.2 = call.leaseId
  inactive : ∀ job ∈ state.jobs, job.active call = false

theorem not_active_of_status (status : job.status ≠ .leased) : job.active call = false := by
  rw [Job.active, decide_eq_false status, Bool.and_false]

theorem not_active_of_lease (lease : job.leaseId ≠ some call.leaseId)
    : job.active call = false := by
  simp [Job.active, Job.isOf, lease]

theorem Spent.step (spent : Spent call state) (sound : QueueSound state)
    : Spent call ((queueMachine normalize).step state action).1 := by
  have stepped := step_stepped sound.unique normalize action
  obtain ⟨entry, listed, same⟩ := spent.drawn
  refine ⟨⟨entry, stepped.grows listed, same⟩, fun later mem => ?_⟩
  rcases stepped.comes later mem with
    ⟨job, before, becomes⟩ | ⟨_, createdAt, providerKey, rfl, rfl, _⟩
  · cases becomes with
    | kept => exact spent.inactive later before
    | leased lease picked _ leasable fresh =>
      refine not_active_of_lease fun drawn => fresh entry listed ?_
      exact same.trans (Option.some.inj drawn).symm
    | completed completion => exact not_active_of_status (nextStatus_ne_leased job completion)
    | exhausted => exact not_active_of_status nofun
  · exact not_active_of_lease nofun

theorem Spent.unchanged (spent : Spent call state)
    : ((queueMachine normalize).step state (.complete call)).1 = state := by
  have none_ : state.jobs.find? (fun job => job.active call) = none := by
    rw [find?_eq_none]
    intro job mem active
    rw [spent.inactive job mem] at active
    cases active
  unfold queueMachine completeEvidenceJob
  dsimp only
  rw [none_]

/-- A completion that changes anything is spent. -/
theorem QueueSound.spent (sound : QueueSound state)
    (effect : ((queueMachine normalize).step state (.complete call)).1 ≠ state)
    : Spent call ((queueMachine normalize).step state (.complete call)).1 := by
  unfold queueMachine completeEvidenceJob at effect ⊢
  dsimp only at effect ⊢
  split
  next found =>
    rw [found] at effect
    exact absurd rfl effect
  next job found =>
    have active := find?_some found
    obtain ⟨id, recent⟩ := (sound.jobs job (mem_of_find?_eq_some found)).ofCall active
    refine ⟨⟨_, mem_of_mostRecentLease recent, rfl⟩, fun later mem => ?_⟩
    obtain ⟨other, inside, rfl⟩ := mem_map.mp mem
    split
    · exact not_active_of_status (nextStatus_ne_leased job call)
    next differs =>
      have foreign : other.jobId ≠ call.jobId := fun same => differs (same.trans id.symm)
      simp [Job.active, Job.isOf, foreign]

/-- A job that is not over can be leased, or its lease runs on and it can be leased or is exhausted
after that, or it is exhausted.
-/
def Job.Reachable (job : Job ο) (now : Int) : Prop :=
  job.available now = true
  ∨ (job.status = .leased ∧ ∃ end_, job.leasedUntil = some end_ ∧ now ≤ end_
      ∧ ∀ later, end_ < later → job.available later = true ∨ job.exhausted later = true)
  ∨ job.exhausted now = true

theorem JobSound.reachable (sound : JobSound leases job) (running : job.status.terminal = false)
    (now : Int)
    : job.Reachable now := by
  cases status : job.status with
  | queued => exact .inl (by simp [Job.available, status, sound.queued status])
  | leased =>
    obtain ⟨end_, until_⟩ := Option.isSome_iff_exists.mp (sound.leased status)
    have after (later : Int) (late : end_ < later)
        : job.available later = true ∨ job.exhausted later = true := by
      have expired : job.expired later = true := by simp [Job.expired, status, until_, late]
      by_cases more : job.attemptCount < job.maxAttempts
      · exact .inl (by simp [Job.available, expired, more])
      · exact .inr (by simp [Job.exhausted, expired, not_lt.mp more])
    by_cases late : end_ < now
    · exact (after now late).imp id .inr
    · exact .inr (.inl ⟨status, end_, until_, not_lt.mp late, after⟩)
  | completed => rw [status] at running; cases running
  | failed => rw [status] at running; cases running

variable (normalize : String → ο → ο) (actions : List (QueueAction ο))

structure LeaseProtocol
    (state : QueueState ο) : Prop where
  unique : Unique Job.jobId state.jobs
  attempts : ∀ job ∈ state.jobs, job.attemptCount ≤ job.maxAttempts
  stored : ∀ action, ∀ next ∈ ((queueMachine normalize).step state action).1.jobs,
      ∀ result, next.result = some result
      → (∃ job ∈ state.jobs, job.jobId = next.jobId ∧ job.result = some result)
        ∨ ∃ call, action = .complete call ∧ call.jobId = next.jobId
          ∧ mostRecentLease state.leases next.jobId = some call.leaseId
  absorbing : ∀ job ∈ state.jobs, job.status.terminal = true
    → ∀ action, job ∈ ((queueMachine normalize).step state action).1.jobs
  requeued
    : ∀ job ∈ state.jobs, ∀ call createdAt, job ∈ (queueEvidenceJobs state call createdAt).1.jobs
  repeated : ∀ before call after, actions = before ++ .complete call :: after
    → ((queueMachine normalize).run {} (before ++ [.complete call]))
      ≠ (queueMachine normalize).run {} before
    → ((queueMachine normalize).step state (.complete call)).1 = state
  reachable : ∀ job ∈ state.jobs, job.status.terminal = false → ∀ now, job.Reachable now

/-- The leases keep their laws along all runs in which jobs are queued with at least one attempt.
Witness: a completion that had an effect is spent, and stays so as no lease id is drawn twice.
-/
theorem lease_protocol
    (admitted : (queueMachine normalize).Admits (fun _ action => action.HasAttempts) {} actions)
    : LeaseProtocol normalize actions ((queueMachine normalize).run {} actions) := by
  have sound := queueSound_run admitted
  refine ⟨sound.unique, fun job mem => (sound.jobs job mem).attempts,
    fun action next mem result found => sound.stored mem found,
    fun job mem ended action => sound.terminal mem ended, ?_, ?_,
    fun job mem running now => (sound.jobs job mem).reachable running now⟩
  · intro job mem call createdAt
    exact subset_putAll_keeping mem
  · rintro before call after rfl effect
    rw [Machine.run_concat] at effect
    obtain ⟨first, attempts, later⟩ := Machine.admits_append.mp admitted
    have earlier := queueSound_run first
    have keeps : ∀ (state : QueueState ο) (action : QueueAction ο),
        QueueSound state ∧ Spent call state → action.HasAttempts
        → QueueSound ((queueMachine normalize).step state action).1
          ∧ Spent call ((queueMachine normalize).step state action).1 :=
      fun _ _ both attempts => ⟨both.1.step attempts, both.2.step both.1⟩
    have both := Machine.run_invariant keeps ⟨earlier.step attempts, earlier.spent effect⟩ later
    rw [Machine.run_append]
    exact both.2.unchanged

end Runs

def logsCall (maxAttempts : Int) : QueueCall Unit where
  workspaceId := "w"
  clusterId := "c"
  sourceId := "s"
  windowStart := "t"
  providerKeys := ["logs"]
  failurePolicy := "strict"
  maxAttempts := maxAttempts
  policyGeneration := 1
  providerPolicies := []
  emptyPolicy := ()

def logsLease (leaseId : String) (now : Int) : LeaseCall where
  workspaceId := "w"
  clusterId := "c"
  providerKey := "logs"
  agentId := "a"
  leaseId := leaseId
  leasedUntil := now + 10
  now := now

def logsCompletion (leaseId : String) : CompleteCall Unit where
  workspaceId := "w"
  clusterId := "c"
  jobId := "w:c:s:t:logs"
  leaseId := leaseId
  agentId := "a"
  status := "completed"
  result := ()
  error := ""

/-- The lease `l1` runs out at 10 and the job is leased again as `l2`; the late completion of `l1`
does nothing, that of `l2` arrives twice.
-/
def retakenLogs : List (QueueAction Unit) :=
  [.queue (logsCall 2) 0, .lease (logsLease "l1" 0) (some "w:c:s:t:logs"),
    .lease (logsLease "l2" 11) (some "w:c:s:t:logs"), .complete (logsCompletion "l1"),
    .complete (logsCompletion "l2"), .complete (logsCompletion "l2")]

theorem lease_protocol_retaken
    : let machine := queueMachine fun _ (result : Unit) => result
      let state := machine.run {} retakenLogs
      machine.Admits (fun _ action => action.HasAttempts) {} retakenLogs
      ∧ state.leases.map Prod.snd = ["l1", "l2"]
      ∧ state.jobs.map (fun job => (job.status, job.leaseId, job.attemptCount, job.result))
        = [(.completed, some "l2", 2, some ())]
      ∧ LeaseProtocol (fun _ result => result) retakenLogs state := by
  have admitted : (queueMachine fun _ (result : Unit) => result).Admits
      (fun _ action => action.HasAttempts) {} retakenLogs :=
    ⟨(by decide : (1 : Int) ≤ 2), trivial, trivial, trivial, trivial, trivial, trivial⟩
  exact ⟨admitted, by decide, by decide, lease_protocol _ _ admitted⟩

/-- A job that is queued without any attempt is never leased and never failed. -/
theorem job_without_attempts_unreachable
    : ∃ job ∈ ((queueMachine fun _ (result : Unit) => result).run {} [.queue (logsCall 0) 0]).jobs,
        job.status.terminal = false ∧ ∀ now, ¬ job.Reachable now := by
  refine ⟨(logsCall 0).job 0 "logs", mem_singleton.mpr rfl, rfl, fun now reachable => ?_⟩
  rcases reachable with available | ⟨leased, _⟩ | exhausted
  · cases available
  · cases leased
  · cases exhausted

end K8sClue.EvidenceJobs
