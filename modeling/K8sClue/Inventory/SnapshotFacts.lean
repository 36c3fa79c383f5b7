import K8sClue.Inventory.TimelineSaves

/-! The Timeline facts of an accepted snapshot.
Each fact tells a change of a resource against the live rows, or an Event observation that has
advanced; every change and every such observation is told.
-/

namespace K8sClue.Inventory

open Python Timeline Library List Keyed

variable (cut : SnapshotCut) (previous current : List InventoryResource) in
inductive IsChange : InventoryChange → Prop where
  | add {now : InventoryResource} (listed : now ∈ current)
      (eligible : now.timelineEligible = true)
      (absent : ∀ before ∈ previous, before.inventoryKey ≠ now.inventoryKey)
      : IsChange
          { change := .add, resource := now, firstObservation := !cut.resourcesComplete }
  | update {before now : InventoryResource} (listed : now ∈ current)
      (eligible : now.timelineEligible = true) (known : before ∈ previous)
      (same : before.inventoryKey = now.inventoryKey)
      (changed : inventoryResourceChanged before now = true)
      : IsChange { change := .update, resource := now }
  | delete {before : InventoryResource} (known : before ∈ previous)
      (eligible : before.timelineEligible = true)
      (unlisted : ∀ now ∈ current, now.inventoryKey ≠ before.inventoryKey)
      (gone : (cut.resourcesComplete
          || rowInDeletionScopes before.resourceType before.inNamespace cut.deleteScopes)
        = true)
      : IsChange { change := .delete, resource := before }

section Changes

variable {cut : SnapshotCut} {previous current : List InventoryResource}

variable {row : InventoryResource} {item : InventoryChange}

theorem mem_timelineRows {rows : List InventoryResource}
    (unique : Unique (·.inventoryKey) rows)
    : row ∈ timelineRows rows ↔ row ∈ rows ∧ row.timelineEligible = true := by
  rw [timelineRows, latest_of_unique (unique.filter _), mem_filter]

variable
  (before : Unique (·.inventoryKey) previous) (now : Unique (·.inventoryKey) current)
  (types : ∀ old ∈ previous, ∀ row ∈ current, old.inventoryKey = row.inventoryKey
    → old.timelineEligible = row.timelineEligible)

include before types

/-- What is found of a listed resource among the earlier rows that a change can be about. -/
theorem find_timelineRows (listed : row ∈ current) (eligible : row.timelineEligible = true)
    : Keyed.find (·.inventoryKey) (timelineRows previous) row.inventoryKey
      = Keyed.find (·.inventoryKey) previous row.inventoryKey := by
  rw [timelineRows, latest_of_unique (before.filter _), before.find_filter]
  cases found : Keyed.find (·.inventoryKey) previous row.inventoryKey with
  | none => rfl
  | some old =>
    obtain ⟨known, same⟩ := mem_of_find found
    rw [Option.filter_some, types old known row listed same, eligible, if_pos rfl]

/-- The change that a listed resource makes. -/
theorem observedChange_iff (listed : row ∈ current) (eligible : row.timelineEligible = true)
    : observedChange cut.resourcesComplete (timelineRows previous) row = some item
      ↔ (∀ old ∈ previous, old.inventoryKey ≠ row.inventoryKey)
          ∧ item = { change := .add, resource := row, firstObservation := !cut.resourcesComplete }
        ∨ ∃ old ∈ previous, old.inventoryKey = row.inventoryKey
            ∧ inventoryResourceChanged old row = true
            ∧ item = { change := .update, resource := row } := by
  rw [observedChange, find_timelineRows before types listed eligible]
  cases found : Keyed.find (·.inventoryKey) previous row.inventoryKey with
  | none =>
    have absent := find_eq_none.mp found
    simp only [Option.some.injEq]
    constructor
    · exact fun same => .inl ⟨absent, same.symm⟩
    · rintro (⟨_, same⟩ | ⟨old, known, same, _⟩)
      · exact same.symm
      · exact absurd same (absent old known)
  | some old =>
    obtain ⟨known, same⟩ := mem_of_find found
    simp only [Option.ite_none_right_eq_some, Option.some.injEq]
    constructor
    · rintro ⟨changed, made⟩
      exact .inr ⟨old, known, same, changed, made.symm⟩
    · rintro (⟨absent, _⟩ | ⟨other, inside, key, changed, made⟩)
      · exact absurd same (absent old known)
      · obtain rfl := before.eq_of_key inside known (key.trans same.symm)
        exact ⟨changed, made.symm⟩

include now

/-- The changes of a cut, each one once. -/
theorem mem_inventoryChanges
    : item ∈ inventoryChanges cut.resourcesComplete cut.deleteScopes previous current
      ↔ IsChange cut previous current item := by
  simp only [inventoryChanges, mem_append, mem_filterMap, mem_map,
    mem_filter, sortedByKey, mem_insertionSort, mem_timelineRows before, mem_timelineRows now,
    Option.isNone_iff_eq_none, find_eq_none]
  constructor
  · rintro (⟨row, ⟨listed, eligible⟩, made⟩ | ⟨row, ⟨⟨⟨known, eligible⟩, unlisted⟩, gone⟩, rfl⟩)
    · rcases (observedChange_iff before types listed eligible).mp made with
        ⟨absent, rfl⟩ | ⟨old, known, same, changed, rfl⟩
      · exact .add listed eligible absent
      · exact .update listed eligible known same changed
    · refine .delete known eligible ?_ gone
      intro other listed same
      exact unlisted other ⟨listed, types row known other listed same.symm ▸ eligible⟩ same
  · intro change
    cases change with
    | add listed eligible absent =>
      exact .inl ⟨_, ⟨listed, eligible⟩,
        (observedChange_iff before types listed eligible).mpr (.inl ⟨absent, rfl⟩)⟩
    | update listed eligible known same changed =>
      exact .inl ⟨_, ⟨listed, eligible⟩, (observedChange_iff before types listed eligible).mpr
        (.inr ⟨_, known, same, changed, rfl⟩)⟩
    | delete known eligible unlisted gone =>
      exact .inr ⟨_, ⟨⟨⟨known, eligible⟩, fun other listed => unlisted other listed.1⟩, gone⟩,
        rfl⟩

end Changes

variable {item : InventoryChange} {result : TimelineEvent} {snapshotId : String}
  {projection : ProjectionMutation} {previous current : List InventoryResource}

/-- The changes of one key are of one kind. -/
theorem IsChange.same_kind {cut : SnapshotCut}
    {other : InventoryChange} (left : IsChange cut previous current item)
    (right : IsChange cut previous current other)
    (same : item.resource.inventoryKey = other.resource.inventoryKey)
    : item.change = other.change := by
  cases left with
  | add listed _ absent =>
    cases right with
    | add => rfl
    | update _ _ known key _ => exact absurd (key.trans same.symm) (absent _ known)
    | delete known _ _ _ => exact absurd same.symm (absent _ known)
  | update listed _ known key _ =>
    cases right with
    | add _ _ absent => exact absurd (key.trans same) (absent _ known)
    | update => rfl
    | delete _ _ unlisted _ => exact absurd same (unlisted _ listed)
  | delete known _ unlisted _ =>
    cases right with
    | add _ _ absent => exact absurd same (absent _ known)
    | update listed _ _ _ _ => exact absurd same.symm (unlisted _ listed)
    | delete => rfl

structure TellsChange (env : Platform) (item : InventoryChange) (event : TimelineEvent)
    : Prop where
  source : event.source = .inventory
  nativeId : event.nativeId = item.resource.inventoryKey
  eventType : event.eventType = item.change.eventType
  sourceKey : ∃ tail,
      event.sourceKey
      = inventoryTimelineSourceKey env item.change item.resource ++ tail

structure TellsObservation (env : Platform) (obs : KubernetesEventObservation)
    (event : TimelineEvent)
    : Prop where
  source : event.source = .kubernetesEvent
  nativeId : event.nativeId = obs.uid
  sourceKey : event.sourceKey = kubernetesEventSourceKey env obs

theorem validated_some {event : TimelineEvent} (valid : validated event = some result)
    : result = event := by
  unfold validated at valid
  split at valid
  · exact (Option.some.inj valid).symm
  · cases valid

variable {event : TimelineEvent} {env : Platform} {workspaceId clusterId : String}

theorem inventoryChangeTimelineEvent_tells {observedAt : Int}
    (made
      : inventoryChangeTimelineEvent env workspaceId clusterId observedAt item = some event)
    : TellsChange env item event := by
  unfold inventoryChangeTimelineEvent at made
  split at made
  next nonempty =>
    obtain rfl := validated_some made
    exact ⟨rfl, rfl, rfl, "", String.append_empty.symm⟩
  · cases made

theorem kubernetesEventTimelineEvent_tells {obs : KubernetesEventObservation}
    {capture : KubernetesEventCapture}
    (made : kubernetesEventTimelineEvent env workspaceId clusterId obs capture
      = some event)
    : TellsObservation env obs event := by
  unfold kubernetesEventTimelineEvent at made
  split at made
  next nonempty =>
    obtain rfl := validated_some made
    exact ⟨rfl, rfl, rfl⟩
  · cases made

theorem TellsChange.correlated (tells : TellsChange env item event) (snapshotId : String)
    (revisionId versionId : Nat)
    : TellsChange env item (correlated snapshotId revisionId versionId event) := by
  obtain ⟨tail, key⟩ := tells.sourceKey
  refine ⟨tells.source, tells.nativeId, tells.eventType, ?_⟩
  unfold Inventory.correlated
  simp only [key, String.append_assoc]
  exact ⟨_, rfl⟩

/-- What correlating an event gives: a change under the key of its revision, or the event. -/
theorem correlateEvent_ok {event : TimelineEvent}
    (done : correlateEvent snapshotId projection event = .ok result)
    : event.source = .inventory
        ∧ (∃ versionId, result = correlated snapshotId projection.revisionId versionId event)
      ∨ event.source ≠ .inventory ∧ result = event := by
  unfold correlateEvent at done
  split at done
  next inventory =>
    split at done
    next versionId _ => exact .inl ⟨inventory, versionId + 1, (Except.ok.inj done).symm⟩
    · cases done
  next other => exact .inr ⟨other, (Except.ok.inj done).symm⟩

theorem correlateInventoryTimelineEvents_ok {events results : List TimelineEvent}
    (done : correlateInventoryTimelineEvents events snapshotId projection = .ok results)
    : Forall₂
        (fun event result => correlateEvent (strip snapshotId) projection event = .ok result)
        events results := by
  simp only [correlateInventoryTimelineEvents] at done
  split at done
  · cases done
  · exact mapM_ok.mp done

/-- The facts before they are correlated: those of the changes, then those of the Events. -/
theorem inventoryTimelineEvents_some {cut : SnapshotCut} {batch : Option KubernetesEventFactBatch}
    {events : List TimelineEvent}
    (derived : inventoryTimelineEvents env workspaceId clusterId cut previous current batch
      = some events)
    : ∃ changes observed, events = changes ++ observed
        ∧ Forall₂ (TellsChange env)
            (inventoryChanges cut.resourcesComplete cut.deleteScopes previous current) changes
        ∧ Forall₂ (TellsObservation env)
            (advancedObservations cut.observedAt batch cut.batch) observed := by
  simp only [inventoryTimelineEvents, Option.bind_eq_bind,
    Option.bind_eq_some_iff, Option.pure_def, Option.some.injEq] at derived
  obtain ⟨changes, told, observed, seen, rfl⟩ := derived
  exact ⟨changes, observed, rfl,
    (mapM_some.mp told).imp fun _ _ => inventoryChangeTimelineEvent_tells,
    (mapM_some.mp seen).imp fun _ _ => kubernetesEventTimelineEvent_tells⟩

section Accepted

variable {env : Platform} {store next : InventoryStore} {workspaceId clusterId : String}
  {delivery : Delivery} {cut : SnapshotCut} {mutation : SnapshotMutation}
  {events : List TimelineEvent} {snapshot : SnapshotRow} {rows : List ResourceRow}

theorem previousRows_unique (sound : store.Sound env)
    : Unique (fun row : InventoryResource => row.inventoryKey)
        (store.previousRows workspaceId clusterId) := by
  unfold InventoryStore.previousRows Keyed.Unique
  rw [map_map]
  exact sound.rowKeys.filter _

variable {resource first second : InventoryResource} {item : InventoryChange}

theorem mem_previousRows
    : resource ∈ store.previousRows workspaceId clusterId
      ↔ ∃ row ∈ store.resources, row.workspaceId = workspaceId ∧ row.clusterId = clusterId
          ∧ row.deleted = false ∧ row.toInventoryResource = resource := by
  simp only [InventoryStore.previousRows, InventoryStore.liveRows, mem_map, mem_filter,
    decide_eq_true_eq, and_assoc]

/-- Resources under one key are of one identity. -/
theorem identity_of_key (left : first.KeyFits env) (right : second.KeyFits env)
    (same : first.inventoryKey = second.inventoryKey)
    : first.identity = second.identity := by
  refine env.inventoryResourceKey_injective ?_
  rw [← left, ← right, same]

theorem timelineEligible_of_key (left : first.KeyFits env) (right : second.KeyFits env)
    (same : first.inventoryKey = second.inventoryKey)
    : first.timelineEligible = second.timelineEligible := by
  have types : first.resourceType = second.resourceType :=
    congrArg InventoryIdentity.resourceType (identity_of_key left right same)
  unfold InventoryResource.timelineEligible
  rw [types]

variable
  (sound : store.Sound env) (read : readCut env workspaceId clusterId delivery = some cut)

include sound in
theorem previousRows_fit (known : resource ∈ store.previousRows workspaceId clusterId)
    : resource.KeyFits env := by
  obtain ⟨row, stored, _, _, _, rfl⟩ := mem_previousRows.mp known
  exact sound.fits row stored

include sound read

/-- The changes of a cut against the tables. -/
theorem mem_changes
    : item ∈ inventoryChanges cut.resourcesComplete cut.deleteScopes
        (store.previousRows workspaceId clusterId) cut.resources
      ↔ IsChange cut (store.previousRows workspaceId clusterId) cut.resources item := by
  obtain ⟨made, unique⟩ := readCut_resources read
  refine mem_inventoryChanges (previousRows_unique sound) unique ?_
  intro old known row listed same
  exact timelineEligible_of_key (previousRows_fit sound known) (made row listed).key same

/-- A change is about a resource under the key of its identity. -/
theorem IsChange.keyFits
    (change : IsChange cut (store.previousRows workspaceId clusterId) cut.resources item)
    : item.resource.KeyFits env := by
  obtain ⟨made, _⟩ := readCut_resources read
  cases change with
  | add listed => exact (made _ listed).key
  | update listed => exact (made _ listed).key
  | delete known => exact previousRows_fit sound known

variable
  (accepted : AcceptedBy env store workspaceId clusterId delivery cut events snapshot rows next
      mutation)

include accepted

/-- The facts of an accepted snapshot, before and after they are correlated. -/
theorem AcceptedBy.correlatedFacts
    : ∃ changes observed,
        Forall₂ (TellsChange env) (inventoryChanges cut.resourcesComplete cut.deleteScopes
            (store.previousRows workspaceId clusterId) cut.resources) changes
        ∧ Forall₂ (TellsObservation env) (advancedObservations cut.observedAt
              (store.previousBatch env workspaceId clusterId cut) cut.batch) observed
        ∧ Forall₂ (fun event result =>
              correlateEvent (strip delivery.snapshotId)
                (projectionAfter env (cut.projected workspaceId clusterId delivery)
                  (nextRevision store delivery) (firstVersion store delivery) next.resources
                  store.versions) event
              = .ok result)
            (changes ++ observed) mutation.timelineEvents := by
  have derived := accepted.derived
  rw [preserved_resources sound read] at derived
  obtain ⟨changes, observed, rfl, told, seen⟩ := inventoryTimelineEvents_some derived
  exact ⟨changes, observed, told, seen, correlateInventoryTimelineEvents_ok accepted.correlated⟩

/-- Every fact tells a change, under the revision of the snapshot, or an observation. -/
theorem AcceptedBy.fact_of_mem {event : TimelineEvent} (mem : event ∈ mutation.timelineEvents)
    : (∃ item, IsChange cut (store.previousRows workspaceId clusterId) cut.resources item
          ∧ TellsChange env item event
          ∧ ∃ inner snapshotId versionId,
              event
                = Inventory.correlated snapshotId (nextRevision store delivery) versionId inner)
      ∨ ∃ obs ∈ advancedObservations cut.observedAt
            (store.previousBatch env workspaceId clusterId cut) cut.batch,
          TellsObservation env obs event := by
  obtain ⟨changes, observed, told, seen, correlates⟩ := accepted.correlatedFacts sound read
  obtain ⟨inner, inside, done⟩ := forall₂_mem_right correlates mem
  rcases mem_append.mp inside with change | fact
  · obtain ⟨item, listed, tells⟩ := forall₂_mem_right told change
    rcases correlateEvent_ok done with ⟨_, versionId, rfl⟩ | ⟨other, _⟩
    · exact .inl ⟨item, (mem_changes sound read).mp listed, tells.correlated _ _ _,
        inner, _, versionId, rfl⟩
    · exact absurd tells.source other
  · obtain ⟨obs, listed, tells⟩ := forall₂_mem_right seen fact
    rcases correlateEvent_ok done with ⟨inventory, _⟩ | ⟨_, rfl⟩
    · rw [tells.source] at inventory
      cases inventory
    · exact .inr ⟨obs, listed, tells⟩

/-- Every change is told by a fact. -/
theorem AcceptedBy.change_told
    (change : IsChange cut (store.previousRows workspaceId clusterId) cut.resources item)
    : ∃ event ∈ mutation.timelineEvents, TellsChange env item event := by
  obtain ⟨changes, observed, told, seen, correlates⟩ := accepted.correlatedFacts sound read
  obtain ⟨inner, inside, tells⟩ := forall₂_mem_left told ((mem_changes sound read).mpr change)
  obtain ⟨event, mem, done⟩ := forall₂_mem_left correlates (mem_append_left _ inside)
  rcases correlateEvent_ok done with ⟨_, versionId, rfl⟩ | ⟨other, _⟩
  · exact ⟨_, mem, tells.correlated _ _ _⟩
  · exact absurd tells.source other

/-- Every observation that has advanced is told by a fact. -/
theorem AcceptedBy.observation_told {obs : KubernetesEventObservation}
    (advanced : obs ∈ advancedObservations cut.observedAt
        (store.previousBatch env workspaceId clusterId cut) cut.batch)
    : ∃ event ∈ mutation.timelineEvents, TellsObservation env obs event := by
  obtain ⟨changes, observed, told, seen, correlates⟩ := accepted.correlatedFacts sound read
  obtain ⟨inner, inside, tells⟩ := forall₂_mem_left seen advanced
  obtain ⟨event, mem, done⟩ := forall₂_mem_left correlates (mem_append_right _ inside)
  rcases correlateEvent_ok done with ⟨inventory, _⟩ | ⟨_, rfl⟩
  · rw [tells.source] at inventory
    cases inventory
  · exact ⟨_, mem, tells⟩

end Accepted

end K8sClue.Inventory
