import K8sClue.Inventory.SourceKeys
import K8sClue.Inventory.StoreSteps
import K8sClue.Library.Runs
import K8sClue.Timeline.Ledger

/-! Saving a snapshot together with its Timeline facts.
The ledger append joins the transaction of the snapshot, so that a refused append leaves
neither behind.
-/

namespace K8sClue.Inventory

open Python Timeline Library

structure InventoryTimeline where
  inventory : InventoryStore := {}
  ledger : LedgerTable := {}

def resourceTexts (resource : ResourceRef) : List String :=
  [resource.apiGroup, resource.version, resource.kind, resource.name, resource.uid]
    ++ resource.inNamespace.toList

def subjectTexts : TimelineSubject → List String
  | .resource resource => resourceTexts resource
  | .inventoryLocator inventoryKey apiGroup version resourceKind inNamespace name =>
    [inventoryKey, apiGroup, version, resourceKind, name] ++ inNamespace.toList
  | .incident incidentId correlationId => incidentId :: correlationId.toList
  | .applicationWorkflow applicationId bindingId workflowRunId =>
    [applicationId, bindingId, workflowRunId]

variable (env : Platform)

def Platform.storesEvent (event : TimelineEvent) : Bool :=
  let texts := [event.sourceKey, event.eventId, event.nativeId, event.title]
    ++ subjectTexts event.subject ++ event.resource.toList.flatMap resourceTexts
  (texts.all fun text => (env.textColumn (.scalar (.str text))).isSome)
    && (env.jsonb event.metadata).isSome

/-- `append_timeline_events` in the transaction of a snapshot, whose facts are all of one
workspace.
-/
def appendFacts (ledger : LedgerTable) (events : List TimelineEvent)
    : Except SaveError LedgerTable :=
  if events.all env.storesEvent then
    .ok (appendTimelineEvents env.zone ledger events).1
  else
    .error .refusedValue

def saveInventorySnapshotWithTimeline (tables : InventoryTimeline)
    (workspaceId clusterId : String) (delivery : Delivery)
    : Except SaveError (InventoryTimeline × SnapshotMutation) := do
  let saved ← saveInventorySnapshotMutation env tables.inventory workspaceId clusterId delivery
  let ledger ← appendFacts env tables.ledger saved.2.timelineEvents
  return ({ inventory := saved.1, ledger }, saved.2)

/-- The calls on one cluster, each with what it returns; a failed one leaves the tables as they
were.
-/
def timelineMachine (workspaceId clusterId : String)
    : Machine InventoryTimeline Delivery SnapshotMutation where
  step := fun tables delivery =>
    match saveInventorySnapshotWithTimeline env tables workspaceId clusterId delivery with
    | .ok (next, mutation) => (next, [mutation])
    | .error _ => (tables, [])

/-- A cut of the cluster that was observed later is already recorded. -/
def staleAt (workspaceId clusterId : String) (tables : InventoryTimeline) (delivery : Delivery)
    : Bool :=
  (readCut env workspaceId clusterId delivery).any fun cut =>
    tables.inventory.isStale workspaceId clusterId cut.observedAt

variable {env : Platform} {tables next : InventoryTimeline} {workspaceId clusterId : String}
  {delivery : Delivery} {mutation : SnapshotMutation}

/-- A saved snapshot and its facts, both written. -/
theorem saveInventorySnapshotWithTimeline_ok
    : saveInventorySnapshotWithTimeline env tables workspaceId clusterId delivery
        = .ok (next, mutation)
      ↔ saveInventorySnapshotMutation env tables.inventory workspaceId clusterId delivery
          = .ok (next.inventory, mutation)
        ∧ mutation.timelineEvents.all env.storesEvent = true
        ∧ next.ledger
          = (appendTimelineEvents env.zone tables.ledger mutation.timelineEvents).1 := by
  simp only [saveInventorySnapshotWithTimeline, bind_ok, appendFacts]
  constructor
  · rintro ⟨⟨inventory, saved⟩, done, ledger, appended, same⟩
    obtain ⟨rfl, rfl⟩ := Prod.mk.inj (Except.ok.inj same)
    split at appended
    next stored => exact ⟨done, stored, (Except.ok.inj appended).symm⟩
    · cases appended
  · rintro ⟨done, stored, same⟩
    refine ⟨_, done, next.ledger, ?_, rfl⟩
    rw [if_pos stored, same]

/-- A call that is saved is accepted, or it is stale and only recorded. -/
theorem staleAt_saved
    (saved : saveInventorySnapshotWithTimeline env tables workspaceId clusterId delivery
      = .ok (next, mutation))
    : mutation.accepted = !staleAt env workspaceId clusterId tables delivery := by
  obtain ⟨done, _, _⟩ := saveInventorySnapshotWithTimeline_ok.mp saved
  simp only [saveInventorySnapshotMutation, bind_ok, orError_ok] at done
  obtain ⟨cut, read, done⟩ := done
  have stale : staleAt env workspaceId clusterId tables delivery
      = tables.inventory.isStale workspaceId clusterId cut.observedAt := by
    rw [staleAt, read]
    rfl
  cases quiet : tables.inventory.isStale workspaceId clusterId cut.observedAt with
  | false =>
    rw [quiet] at done
    obtain ⟨_, _, _, accepted⟩ := acceptCut_ok done
    rw [stale, quiet, accepted.accepted]
    rfl
  | true =>
    rw [quiet] at done
    simp only [if_true, bind_ok, insertSnapshot_ok] at done
    obtain ⟨_, _, _, _, done⟩ := done
    obtain ⟨_, rfl⟩ := Prod.mk.inj (Except.ok.inj done)
    rw [stale, quiet]
    rfl

/-- What a successful call preserves, every call of the machine preserves. -/
theorem timelineMachine_keeps {holds : InventoryTimeline → Prop}
    {allowed : InventoryTimeline → Delivery → Prop}
    (step : ∀ {tables next : InventoryTimeline} {delivery : Delivery} {mutation : SnapshotMutation},
        holds tables → allowed tables delivery
        → saveInventorySnapshotWithTimeline env tables workspaceId clusterId delivery
          = .ok (next, mutation)
        → holds next)
    (tables : InventoryTimeline) (delivery : Delivery) (held : holds tables)
    (may : allowed tables delivery)
    : holds ((timelineMachine env workspaceId clusterId).step tables delivery).1 := by
  unfold timelineMachine
  simp only
  split
  next next mutation saved => exact step held may saved
  · exact held

end K8sClue.Inventory
