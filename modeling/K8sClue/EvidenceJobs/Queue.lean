import K8sClue.Library.Keyed
import K8sClue.Library.Runs
import K8sClue.Python.Collections
import Mathlib.Data.List.Sort
import Mathlib.Data.String.Basic

/-! The queue of evidence jobs.
A window has one job for each provider. Agents lease jobs for a time and complete them; a job whose
lease has run out can be leased again until its attempts are used up, and then it is failed. Every
call is atomic: it is one statement, or holds the lock of the one row that it reads and writes.
-/

namespace K8sClue.EvidenceJobs

open Library Python

inductive JobStatus where
  | queued
  | leased
  | completed
  | failed
  deriving DecidableEq

def JobStatus.terminal : JobStatus → Bool
  | .completed => true
  | .failed => true
  | _ => false

section Model

/- `ο` are JSON objects: the policies of providers and the results of jobs. -/
variable {ο : Type}

structure Job (ο : Type) where
  (jobId evidenceKey workspaceId clusterId sourceId providerKey windowStart : String)
  policyGeneration : Int
  providerPolicy : ο
  status : JobStatus
  (leaseId agentId : Option String)
  leasedUntil : Option Int
  (attemptCount maxAttempts : Int)
  failurePolicy : String
  result : Option ο
  error : Option String
  createdAt : Int

def evidenceKey (workspaceId clusterId sourceId windowStart : String) : String :=
  ":".intercalate [workspaceId, clusterId, sourceId, windowStart]

def evidenceJobId (workspaceId clusterId sourceId windowStart providerKey : String) : String :=
  ":".intercalate [evidenceKey workspaceId clusterId sourceId windowStart, providerKey]

structure QueueCall (ο : Type) where
  (workspaceId clusterId sourceId windowStart : String)
  providerKeys : List String
  failurePolicy : String
  (maxAttempts policyGeneration : Int)
  providerPolicies : List (String × ο)
  /-- the empty object, for providers without a policy -/
  emptyPolicy : ο

def QueueCall.job (call : QueueCall ο) (createdAt : Int) (providerKey : String) : Job ο where
  jobId := evidenceJobId call.workspaceId call.clusterId call.sourceId call.windowStart providerKey
  evidenceKey := evidenceKey call.workspaceId call.clusterId call.sourceId call.windowStart
  workspaceId := call.workspaceId
  clusterId := call.clusterId
  sourceId := call.sourceId
  providerKey := providerKey
  windowStart := call.windowStart
  policyGeneration := call.policyGeneration
  providerPolicy := (call.providerPolicies.lookup providerKey).getD call.emptyPolicy
  status := .queued
  leaseId := none
  agentId := none
  leasedUntil := none
  attemptCount := 0
  maxAttempts := call.maxAttempts
  failurePolicy := call.failurePolicy
  result := none
  error := none
  createdAt := createdAt

structure LeaseCall where
  (workspaceId clusterId providerKey agentId : String)
  /-- the `uuid4` that the call draws -/
  leaseId : String
  leasedUntil : Int
  /-- the database's `now()` -/
  now : Int

structure CompleteCall (ο : Type) where
  (workspaceId clusterId jobId leaseId agentId status : String)
  result : ο
  error : String

namespace Job

variable (job : Job ο)

def expired (now : Int) : Bool := job.status = .leased && job.leasedUntil.any (· < now)

def available (now : Int) : Bool :=
  (job.status = .queued || job.expired now) && job.attemptCount < job.maxAttempts

def leasable (call : LeaseCall) : Bool :=
  job.workspaceId = call.workspaceId && job.clusterId = call.clusterId
    && job.providerKey = call.providerKey && job.available call.now

def exhausted (now : Int) : Bool := job.expired now && job.maxAttempts ≤ job.attemptCount

variable (call : CompleteCall ο)

def isOf : Bool :=
  job.jobId = call.jobId && job.workspaceId = call.workspaceId
    && job.clusterId = call.clusterId && job.leaseId = some call.leaseId
    && job.agentId = some call.agentId

def active : Bool := job.isOf call && job.status = .leased

def lease (call : LeaseCall) : Job ο :=
  { job with
    status := .leased
    leaseId := some call.leaseId
    agentId := some call.agentId
    leasedUntil := some call.leasedUntil
    attemptCount := job.attemptCount + 1
    error := none }

def exhaust : Job ο :=
  { job with
    status := .failed
    result := none
    error := some "lease expired; retry attempts exhausted" }

def nextStatus : JobStatus :=
  if call.status = "failed" then
    if job.maxAttempts ≤ job.attemptCount then .failed else .queued
  else
    .completed

def complete (normalize : String → ο → ο) (call : CompleteCall ο) : Job ο :=
  { job with
    status := job.nextStatus call
    result :=
      if job.nextStatus call = .completed then some (normalize job.providerKey call.result)
      else none
    error := if call.error = "" then none else some call.error }

end Job

structure QueueState (ο : Type) where
  jobs : List (Job ο) := []
  leases : List (String × String) := []

inductive QueueAction (ο : Type) where
  | queue (call : QueueCall ο) (createdAt : Int)
  /-- the query picks the oldest job that is not locked by others: any job that it may pick -/
  | lease (call : LeaseCall) (picked : Option String)
  | complete (call : CompleteCall ο)
  /-- the query picks jobs that are not locked by others, up to a limit -/
  | failExhausted (now : Int) (limit : Nat) (picked : List String)

inductive QueueAnswer (ο : Type) where
  | queued (evidenceKey : String) (jobIds : List String)
  | leased (job : Option (Job ο))
  | completed (job : Option (Job ο))
  | failed (evidenceKeys : List String)

variable (normalize : String → ο → ο) (state : QueueState ο)

def queueEvidenceJobs (call : QueueCall ο) (createdAt : Int)
    : QueueState ο × List (QueueAnswer ο) :=
  let jobs := (fromKeys call.providerKeys).map (call.job createdAt)
  let added := jobs.filter fun job => (Keyed.find Job.jobId state.jobs job.jobId).isNone
  let key := evidenceKey call.workspaceId call.clusterId call.sourceId call.windowStart
  ({ state with jobs := Keyed.putAll Job.jobId (fun known _ => known) state.jobs jobs },
    [.queued key (added.map Job.jobId)])

/-- `lease_evidence_job`. A lease id that was drawn before cannot be drawn again. -/
def leaseEvidenceJob (call : LeaseCall) (picked : Option String)
    : QueueState ο × List (QueueAnswer ο) :=
  let found := state.jobs.find? fun job => picked = some job.jobId && job.leasable call
  match found with
  | none => (state, [.leased none])
  | some job =>
    if state.leases.any (·.2 = call.leaseId) then (state, [])
    else
      ({ jobs := state.jobs.map fun other =>
          if other.jobId = job.jobId then other.lease call else other
         leases := state.leases ++ [(job.jobId, call.leaseId)] },
        [.leased (some (job.lease call))])

def completeEvidenceJob (call : CompleteCall ο) : QueueState ο × List (QueueAnswer ο) :=
  match state.jobs.find? fun job => job.active call with
  | none =>
    -- the second query answers for a job that the same lease has already ended
    let existing := state.jobs.find? fun job =>
      job.isOf call && [JobStatus.completed, .failed, .queued].contains job.status
    (state, [.completed existing])
  | some job =>
    ({ state with
        jobs := state.jobs.map fun other =>
          if other.jobId = job.jobId then job.complete normalize call else other },
      [.completed (some (job.complete normalize call))])

def failExhaustedEvidenceJobs (now : Int) (limit : Nat) (picked : List String)
    : QueueState ο × List (QueueAnswer ο) :=
  let chosen := state.jobs.filter fun job =>
    (picked.take limit).contains job.jobId && job.exhausted now
  ({ state with
      jobs := state.jobs.map fun job =>
        if (picked.take limit).contains job.jobId && job.exhausted now then job.exhaust else job },
    [.failed ((chosen.map Job.evidenceKey).dedup.insertionSort (· ≤ ·))])

def queueMachine : Machine (QueueState ο) (QueueAction ο) (QueueAnswer ο) where
  step state
    | .queue call createdAt => queueEvidenceJobs state call createdAt
    | .lease call picked => leaseEvidenceJob state call picked
    | .complete call => completeEvidenceJob normalize state call
    | .failExhausted now limit picked => failExhaustedEvidenceJobs state now limit picked

end Model

end K8sClue.EvidenceJobs
