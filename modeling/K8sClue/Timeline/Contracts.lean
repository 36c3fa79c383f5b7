import K8sClue.Python.Time
import K8sClue.Python.Value

/-! The Timeline contracts: scopes, windows, coverage intervals and evidence events.
What a contract's validator demands of a window or an interval is a field of the structure, so
that only valid ones exist; an event's validator is the proposition `TimelineEvent.Valid`.
-/

namespace K8sClue.Timeline

open Python

inductive Freshness where
  | live
  | stale
  | incomplete
  | disconnected
  deriving DecidableEq

/-- A cluster of a workspace, narrowed to `namespaces` when there are any. -/
structure ClusterScope where
  (workspaceId clusterId : String)
  namespaces : List String := []
  freshness : Freshness := .live
  workspace_nonempty : workspaceId ≠ ""
  cluster_nonempty : clusterId ≠ ""
  deriving DecidableEq

def ClusterScope.whole (workspaceId clusterId : String)
    (nonempty : workspaceId ≠ "" ∧ clusterId ≠ "")
    : ClusterScope where
  workspaceId := workspaceId
  clusterId := clusterId
  workspace_nonempty := nonempty.1
  cluster_nonempty := nonempty.2

def exampleScope : ClusterScope := .whole "workspace-1" "cluster-1" (by decide)

structure ResourceRef where
  (apiGroup version kind : String)
  inNamespace : Option String
  (name uid : String)
  deriving DecidableEq

inductive TimelineActivity where
  | change
  | k8sEvent
  | warning
  | unhealthy
  deriving DecidableEq

inductive TimelineSource where
  | inventory
  | incident
  | applicationWorkflow
  | kubernetesEvent
  | gitops
  deriving DecidableEq

inductive TimelineEventType where
  | add
  | update
  | delete
  | k8sEvent
  | incident
  | deployment
  | gitopsChange
  deriving DecidableEq

inductive TimelineSeverity where
  | info
  | warning
  | critical
  | unknown
  deriving DecidableEq

/-- A half-open stretch of time of positive width. -/
structure TimelineWindow where
  (fromMs toMs : Int)
  nonnegative : 0 ≤ fromMs
  positiveWidth : fromMs < toMs
  deriving DecidableEq

def firstMinute : TimelineWindow where
  fromMs := 0
  toMs := 60000
  nonnegative := by decide
  positiveWidth := by decide

inductive CoverageReason where
  | collectionGap
  | retentionBoundary
  | partialScope
  deriving DecidableEq

/-- A stretch of time for which a source has no full evidence. -/
structure TimelineCoverage where
  scope : ClusterScope
  source : TimelineSource
  (fromMs toMs : Int)
  reason : CoverageReason
  nonnegative : 0 ≤ fromMs
  positiveWidth : fromMs < toMs
  deriving DecidableEq

inductive TimelineSubject where
  | resource (resource : ResourceRef)
  | inventoryLocator (inventoryKey apiGroup version resourceKind : String)
    (inNamespace : Option String) (name : String)
  | incident (incidentId : String) (correlationId : Option String)
  | applicationWorkflow (applicationId bindingId workflowRunId : String)
  deriving DecidableEq

/-- One immutable fact of the Timeline, as its source reported it. -/
structure TimelineEvent where
  eventId : String
  source : TimelineSource
  (sourceKey nativeId : String)
  activity : TimelineActivity
  occurredAt : Datetime
  scope : ClusterScope
  subject : TimelineSubject
  resource : Option ResourceRef
  eventType : TimelineEventType
  severity : TimelineSeverity
  title : String
  owner : Option ResourceRef := none
  metadata : List (PyScalar × PyValue) := []

/-- `Field(min_length=1, max_length=limit)`. -/
def Bounded (text : String) (limit : Nat) : Prop := 1 ≤ text.length ∧ text.length ≤ limit

instance (text : String) (limit : Nat) : Decidable (Bounded text limit) :=
  inferInstanceAs (Decidable (_ ∧ _))

def ResourceRef.Valid (resource : ResourceRef) : Prop :=
  resource.kind ≠ "" ∧ resource.name ≠ "" ∧ resource.uid ≠ ""

def TimelineSubject.Valid : TimelineSubject → Prop
  | .resource known => known.Valid
  | .inventoryLocator inventoryKey _ _ resourceKind inNamespace name =>
    Bounded inventoryKey 512 ∧ Bounded resourceKind 253
    ∧ (∀ text ∈ inNamespace, text.length ≤ 253) ∧ Bounded name 253
  | .incident incidentId correlationId =>
    Bounded incidentId 512 ∧ ∀ text ∈ correlationId, Bounded text 512
  | .applicationWorkflow applicationId bindingId workflowRunId =>
    Bounded applicationId 512 ∧ Bounded bindingId 512 ∧ Bounded workflowRunId 512

/-- What the contract's validators accept. -/
structure TimelineEvent.Valid (event : TimelineEvent) : Prop where
  eventId : Bounded event.eventId 512
  sourceKey : Bounded event.sourceKey 1024
  nativeId : Bounded event.nativeId 1024
  title : Bounded event.title 1000
  subject : event.subject.Valid
  resource : ∀ resource ∈ event.resource, resource.Valid
  owner : ∀ resource ∈ event.owner, resource.Valid
  applicationSource : event.source = .applicationWorkflow ∨ event.source = .gitops
    → ∃ applicationId bindingId workflowRunId,
        event.subject = .applicationWorkflow applicationId bindingId workflowRunId
  resourceRelation : ∀ resource, event.subject = .resource resource → event.resource = some resource
  locatorRelation : ∀ inventoryKey apiGroup version resourceKind inNamespace name,
      event.subject
        = .inventoryLocator inventoryKey apiGroup version resourceKind inNamespace name
      → event.resource = none

instance (resource : ResourceRef) : Decidable resource.Valid :=
  inferInstanceAs (Decidable (_ ∧ _))

instance : (subject : TimelineSubject) → Decidable subject.Valid
  | .resource known => inferInstanceAs (Decidable known.Valid)
  | .inventoryLocator _ _ _ _ _ _ => inferInstanceAs (Decidable (_ ∧ _))
  | .incident _ _ => inferInstanceAs (Decidable (_ ∧ _))
  | .applicationWorkflow _ _ _ => inferInstanceAs (Decidable (_ ∧ _))

/-- The validators that relate an event's subject to its source and its resource. -/
def TimelineEvent.Related (event : TimelineEvent) : Prop :=
  match event.subject with
  | .resource known =>
    event.source ≠ .applicationWorkflow ∧ event.source ≠ .gitops ∧ event.resource = some known
  | .inventoryLocator _ _ _ _ _ _ =>
    event.source ≠ .applicationWorkflow ∧ event.source ≠ .gitops ∧ event.resource = none
  | .incident _ _ => event.source ≠ .applicationWorkflow ∧ event.source ≠ .gitops
  | .applicationWorkflow _ _ _ => True

instance : (event : TimelineEvent) → Decidable event.Related
  | { subject := .resource _, .. } => inferInstanceAs (Decidable (_ ∧ _))
  | { subject := .inventoryLocator _ _ _ _ _ _, .. } => inferInstanceAs (Decidable (_ ∧ _))
  | { subject := .incident _ _, .. } => inferInstanceAs (Decidable (_ ∧ _))
  | { subject := .applicationWorkflow _ _ _, .. } => inferInstanceAs (Decidable True)

theorem TimelineEvent.valid_iff (event : TimelineEvent)
    : event.Valid
      ↔ Bounded event.eventId 512 ∧ Bounded event.sourceKey 1024 ∧ Bounded event.nativeId 1024
        ∧ Bounded event.title 1000 ∧ event.subject.Valid
        ∧ (∀ resource ∈ event.resource, resource.Valid)
        ∧ (∀ resource ∈ event.owner, resource.Valid) ∧ event.Related := by
  constructor
  · intro valid
    refine ⟨valid.eventId, valid.sourceKey, valid.nativeId, valid.title, valid.subject,
      valid.resource, valid.owner, ?_⟩
    have source := valid.applicationSource
    unfold TimelineEvent.Related
    split
    next known same => exact ⟨by grind, by grind, valid.resourceRelation known same⟩
    next same => exact ⟨by grind, by grind, valid.locatorRelation _ _ _ _ _ _ same⟩
    next same => exact ⟨by grind, by grind⟩
    · trivial
  · rintro ⟨eventId, sourceKey, nativeId, title, subject, resource, owner, related⟩
    unfold TimelineEvent.Related at related
    refine ⟨eventId, sourceKey, nativeId, title, subject, resource, owner, ?_, ?_, ?_⟩
    · cases same : event.subject <;> simp_all
    · intro known same
      simp_all
    · intro _ _ _ _ _ _ same
      simp_all

instance (event : TimelineEvent) : Decidable event.Valid :=
  decidable_of_iff _ event.valid_iff.symm

end K8sClue.Timeline
