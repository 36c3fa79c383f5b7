import K8sClue.Inventory.LedgerStory

/-! Correlation, newest events and repeated snapshots, over every run of calls on a cluster. -/

namespace K8sClue.Inventory

open Python Timeline Library List

def writtenStore (env : Platform) (store : InventoryStore) (workspaceId clusterId : String)
    (delivery : Delivery) (cut : SnapshotCut) (snapshot : SnapshotRow) (rows : List ResourceRow)
    : InventoryStore :=
  let previous := store.previousRows workspaceId clusterId
  let resources := markDeleted workspaceId clusterId delivery.snapshotId cut
    (missingInventoryKeys cut previous (preserveExistingInventoryKeys cut.resources previous))
    (Keyed.putAll (·.inventoryKey) ResourceRow.updated store.resources rows)
  let projected := cut.projected workspaceId clusterId delivery
  {
    snapshots := store.snapshots ++ [snapshot]
    resources
    versions := versionsAfter env projected (nextRevision store delivery)
      (firstVersion store delivery) resources store.versions
    revisions := store.revisions ++ [{
      revisionId := nextRevision store delivery
      snapshotId := delivery.snapshotId
      workspaceId, clusterId }]
    lastRevision := nextRevision store delivery
    lastVersion := firstVersion store delivery
      + (computeProjectionDiff env projected resources store.versions).desired.length }

variable {env : Platform} {store : InventoryStore} {workspaceId clusterId : String}
  {delivery : Delivery} {cut : SnapshotCut}

/-- Where the versions are missing at the end of a transaction, all else was written. -/
theorem acceptCut_unavailable
    (failed : acceptCut env store workspaceId clusterId delivery cut
      = .error .correlationUnavailable)
    : ∃ events snapshot rows,
        WrittenBy env store workspaceId clusterId delivery cut snapshot rows
          (writtenStore env store workspaceId clusterId delivery cut snapshot rows)
        ∧ inventoryTimelineEvents env workspaceId clusterId cut
            (store.previousRows workspaceId clusterId)
            (preserveExistingInventoryKeys cut.resources (store.previousRows workspaceId clusterId))
            (store.previousBatch env workspaceId clusterId cut)
          = some events
        ∧ correlateInventoryTimelineEvents events delivery.snapshotId
            (projectionAfter env (cut.projected workspaceId clusterId delivery)
              (nextRevision store delivery) (firstVersion store delivery)
              (writtenStore env store workspaceId clusterId delivery cut snapshot
                rows).resources
              store.versions)
          = .error .correlationUnavailable := by
  simp only [acceptCut, bind_error, orError_error, orError_ok, reduceCtorEq, and_false,
    false_or, insertSnapshot_ok, Option.filter_eq_some_iff, Option.some.injEq] at failed
  obtain ⟨events, derived, snapshot, stored, duplicate | inserted⟩ := failed
  · cases insertSnapshot_error duplicate
  · obtain ⟨snapshots, ⟨fresh, rfl⟩, rows, written, samples, _, projection, ⟨rfl, _⟩,
      missing | impossible⟩ := inserted
    · exact ⟨events, snapshot, rows,
        ⟨stored, fresh, written, rfl, rfl, rfl, rfl, rfl, rfl⟩, derived, missing⟩
    · obtain ⟨_, _, impossible⟩ := impossible
      cases impossible

theorem correlateEvent_unavailable {snapshotId : String} {projection : ProjectionMutation}
    {event : TimelineEvent}
    (failed : correlateEvent snapshotId projection event = .error .correlationUnavailable)
    : event.source = .inventory
      ∧ ∀ versionId, projection.versionId event.nativeId ≠ some (versionId + 1) := by
  unfold correlateEvent at failed
  split at failed
  next inventory =>
    refine ⟨inventory, ?_⟩
    intro versionId found
    rw [found] at failed
    cases failed
  · cases failed

variable {snapshot : SnapshotRow} {rows : List ResourceRow} {next : InventoryStore}
  {again : Delivery} {repeated : SnapshotCut} {tables : InventoryTimeline}

/-- The projection of an accepted snapshot reports a version for every change.
Witness: a listed resource has a version now, and a missing one had an open version before.
-/
theorem WrittenBy.change_reported (sound : store.Sound env)
    (read : readCut env workspaceId clusterId delivery = some cut)
    (accepted : WrittenBy env store workspaceId clusterId delivery cut snapshot rows next)
    {item : InventoryChange}
    (change : IsChange cut (store.previousRows workspaceId clusterId) cut.resources item)
    : ∃ versionId,
        (projectionAfter env (cut.projected workspaceId clusterId delivery)
          (nextRevision store delivery) (firstVersion store delivery) next.resources
          store.versions).versionId item.resource.inventoryKey
        = some (versionId + 1) := by
  have above : store.lastVersion < firstVersion store delivery := by
    unfold firstVersion
    omega
  refine versionId_reported sound.versions above ?_
  have current : ∀ now ∈ cut.resources,
      ∃ row ∈ (cut.projected workspaceId clusterId delivery).currentRows next.resources,
        row.inventoryKey = now.inventoryKey := by
    intro now listed
    obtain ⟨row, written, stored⟩ := row_of_resource sound read accepted.written listed
    exact ⟨row, (accepted.mem_currentRows sound read).mpr written,
      (Platform.storeResource_some stored).key⟩
  cases change with
  | add listed => exact .inl (current _ listed)
  | update listed => exact .inl (current _ listed)
  | delete known =>
    obtain ⟨row, stored, workspace, cluster, alive, rfl⟩ := mem_previousRows.mp known
    obtain ⟨version, opened, describes⟩ := sound.described row stored alive
    refine .inr ⟨version, opened, describes.key, ?_⟩
    exact decide_eq_true ⟨describes.workspace.trans workspace, describes.cluster.trans cluster⟩

/-- No call on sound tables lacks the version of a change. -/
theorem InventoryStore.Sound.correlates (sound : store.Sound env)
    : saveInventorySnapshotMutation env store workspaceId clusterId delivery
      ≠ .error .correlationUnavailable := by
  intro failed
  simp only [saveInventorySnapshotMutation, bind_error, orError_error, orError_ok, reduceCtorEq,
    and_false, false_or] at failed
  obtain ⟨cut, read, failed⟩ := failed
  split at failed
  · simp only [bind_error, orError_error, reduceCtorEq, and_false, false_or] at failed
    obtain ⟨snapshot, _, duplicate | ⟨_, _, impossible⟩⟩ := failed
    · cases insertSnapshot_error duplicate
    · cases impossible
  · obtain ⟨events, snapshot, rows, accepted, derived, missing⟩ := acceptCut_unavailable failed
    rw [preserved_resources sound read] at derived
    obtain ⟨changes, observed, rfl, told, seen⟩ := inventoryTimelineEvents_some derived
    simp only [correlateInventoryTimelineEvents] at missing
    split at missing
    · cases missing
    · obtain ⟨event, mem, unavailable⟩ := mapM_error missing
      obtain ⟨source, unreported⟩ := correlateEvent_unavailable unavailable
      rcases mem_append.mp mem with change | fact
      · obtain ⟨item, listed, tells⟩ := forall₂_mem_right told change
        obtain ⟨versionId, reported⟩ :=
          accepted.change_reported sound read ((mem_changes sound read).mp listed)
        exact unreported versionId (by rw [tells.nativeId, reported])
      · obtain ⟨obs, _, tells⟩ := forall₂_mem_right seen fact
        rw [tells.source] at source
        cases source

structure IsNewest (rows : List LedgerRow) (key : String) (event : LedgerRow) : Prop where
  stored : event ∈ rows
  source : event.source = .inventory
  nativeId : event.nativeId = key
  last : ∀ other ∈ rows, other.source = .inventory → other.nativeId = key
    → other.sequence ≤ event.sequence

theorem isNewest_of_newestOf {table : LedgerTable} (sound : table.Sound) {key : String}
    {event : LedgerRow} (newest : newestOf table.rows key = some event)
    : IsNewest table.rows key event := by
  obtain ⟨stored, source, native⟩ := mem_of_newestOf newest
  refine ⟨stored, source, native, ?_⟩
  intro other held inventory same
  have ordered := (sound.ordered.filter (·.source = .inventory)).filter (·.nativeId = key)
  obtain ⟨earlier, split⟩ := getLast?_eq_some_iff.mp newest
  have listed : other ∈ (inventoryEvents table.rows).filter (·.nativeId = key) := by
    simp [mem_inventoryEvents, held, inventory, same]
  rw [split] at listed
  change ((inventoryEvents table.rows).filter (·.nativeId = key)).Pairwise _ at ordered
  rw [split, pairwise_append] at ordered
  rcases mem_append.mp listed with before | last
  · exact le_of_lt (ordered.2.2 other before event mem_cons_self)
  · rw [mem_singleton.mp last]

def InventoryResource.taken (snapshotId : String) (resource : InventoryResource)
    : InventoryResource :=
  { resource with snapshotId }

theorem normalizeInventoryResource_taken (env : Platform)
    (workspaceId clusterId first second : String) (entries : PyDict)
    : env.normalizeInventoryResource workspaceId clusterId second entries
      = (env.normalizeInventoryResource workspaceId clusterId first entries).map
          (InventoryResource.taken second) := by
  unfold Platform.normalizeInventoryResource
  cases dictOrEmpty (entries.get "summary") with
  | none => rfl
  | some summary =>
    cases dictOrEmpty (entries.get "labels") with
    | none => rfl
    | some labels =>
      cases dictOrEmpty (entries.get "annotations") with
      | none => rfl
      | some annotations => cases dictOrEmpty (entries.get "raw") <;> rfl

/-- What a payload says does not depend on when it is read. -/
theorem readCut_again (read : readCut env workspaceId clusterId delivery = some cut)
    (payload : again.payload = delivery.payload)
    (reread : readCut env workspaceId clusterId again = some repeated)
    : repeated.resources = cut.resources.map (InventoryResource.taken again.snapshotId)
      ∧ repeated.resourcesComplete = cut.resourcesComplete
      ∧ repeated.deleteScopes = cut.deleteScopes := by
  simp only [readCut, payload, Option.bind_eq_bind, Option.bind_eq_some_iff, Option.pure_def,
    Option.some.injEq] at read reread
  obtain ⟨_, _, entries, listed, resources, normalized, summary, source, _, _, _, _, rfl⟩ := read
  obtain ⟨_, _, entries', listed', resources', normalized', summary', source', _, _, _, _,
    rfl⟩ := reread
  obtain rfl := Option.some.inj (listed.symm.trans listed')
  obtain rfl := Option.some.inj (source.symm.trans source')
  have taken : resources' = resources.map (InventoryResource.taken again.snapshotId) := by
    have mapped : entries.mapM
        (env.normalizeInventoryResource workspaceId clusterId again.snapshotId)
        = some (resources.map (InventoryResource.taken again.snapshotId)) := by
      refine mapM_some.mpr (forall₂_map_right_iff.mpr ((mapM_some.mp normalized).imp ?_))
      intro entry resource made
      rw [normalizeInventoryResource_taken env workspaceId clusterId delivery.snapshotId, made]
      rfl
    exact Option.some.inj (normalized'.symm.trans mapped)
  refine ⟨?_, rfl, rfl⟩
  rw [taken]
  exact Keyed.latest_map fun _ => rfl

def ReadsBackEqual (env : Platform) (workspaceId clusterId : String) (delivery : Delivery)
    : Prop :=
  ∀ cut, readCut env workspaceId clusterId delivery = some cut
    → ∀ resource ∈ cut.resources, resource.timelineEligible = true
      → ∀ row, env.storeResource resource = some row
        → inventoryResourceChanged row.toInventoryResource resource = false

/-- The changes of a snapshot that was just accepted: the resources that are not read back as
they were written.
Witness: all that it lists is live, and all that it proves gone is marked.
-/
theorem WrittenBy.change_again (sound : store.Sound env)
    (read : readCut env workspaceId clusterId delivery = some cut)
    (accepted : WrittenBy env store workspaceId clusterId delivery cut snapshot rows next)
    (payload : again.payload = delivery.payload)
    (reread : readCut env workspaceId clusterId again = some repeated)
    : (∃ item, IsChange repeated (next.previousRows workspaceId clusterId) repeated.resources item)
      ↔ ¬ReadsBackEqual env workspaceId clusterId delivery := by
  obtain ⟨resources, complete, scopes⟩ := readCut_again read payload reread
  have live : ∀ row ∈ rows,
      row.toInventoryResource ∈ next.previousRows workspaceId clusterId := by
    intro row written
    obtain ⟨made, _, _, alive⟩ := rows_of sound read accepted.written written
    exact mem_previousRows.mpr ⟨row, (accepted.mem_resources sound read).mpr (.inl written),
      made.workspace, made.cluster, alive, rfl⟩
  have unique : Keyed.Unique (fun row : InventoryResource => row.inventoryKey)
      (next.previousRows workspaceId clusterId) :=
    previousRows_unique (accepted.sound_next sound read)
  rw [resources]
  constructor
  · rintro ⟨item, change⟩ equal
    cases change with
    | add listed _ absent =>
      obtain ⟨resource, inside, rfl⟩ := mem_map.mp listed
      obtain ⟨row, written, stored⟩ := row_of_resource sound read accepted.written inside
      exact absent _ (live row written) (Platform.storeResource_some stored).key
    | update listed eligible known same changed =>
      obtain ⟨resource, inside, rfl⟩ := mem_map.mp listed
      obtain ⟨row, written, stored⟩ := row_of_resource sound read accepted.written inside
      obtain rfl := unique.eq_of_key known (live row written)
        (same.trans (Platform.storeResource_some stored).key.symm)
      have unchanged := equal cut read resource inside eligible row stored
      change inventoryResourceChanged row.toInventoryResource resource = true at changed
      rw [unchanged] at changed
      cases changed
    | delete known _ unlisted gone =>
      rw [complete, scopes] at gone
      obtain ⟨row, held, workspace, cluster, alive, rfl⟩ := mem_previousRows.mp known
      rcases (accepted.mem_resources sound read).mp held with written | ⟨old, _, _, rfl⟩
      · obtain ⟨resource, inside, stored⟩ := resource_of_row sound read accepted.written written
        exact unlisted _ (mem_map_of_mem inside) (Platform.storeResource_some stored).key.symm
      · obtain ⟨same, kept, _⟩ := live_of_unlisted alive
        rw [same] at workspace cluster gone
        simp [SnapshotCut.provesGone, workspace, cluster, gone] at kept
  · intro unequal
    simp only [ReadsBackEqual, not_forall, Bool.not_eq_false] at unequal
    obtain ⟨cut', read', resource, inside, eligible, row, stored, changed⟩ := unequal
    obtain rfl := Option.some.inj (read.symm.trans read')
    obtain ⟨row', written, stored'⟩ := row_of_resource sound read accepted.written inside
    obtain rfl := Option.some.inj (stored.symm.trans stored')
    exact ⟨_, .update (mem_map_of_mem inside) eligible (live row written)
      (Platform.storeResource_some stored).key changed⟩

/-- Which inventory events a call appends: none, or those of the changes of an accepted cut. -/
theorem Story.silent_iff {next : InventoryTimeline} {mutation : SnapshotMutation}
    (story : Story env tables)
    (saved : saveInventorySnapshotWithTimeline env tables workspaceId clusterId delivery
      = .ok (next, mutation))
    : inventoryEvents next.ledger.rows = inventoryEvents tables.ledger.rows
      ↔ mutation.accepted = true
        → ∀ cut, readCut env workspaceId clusterId delivery = some cut
          → ¬∃ item, IsChange cut (tables.inventory.previousRows workspaceId clusterId)
              cut.resources item := by
  obtain ⟨done, _, ledger⟩ := saveInventorySnapshotWithTimeline_ok.mp saved
  obtain ⟨cut, read, accepted | stale⟩ := saveInventorySnapshotMutation_ok done
  · obtain ⟨events, snapshot, rows, _, accepted⟩ := accepted
    rw [ledger, (accepted.freshStory story read).silent_iff]
    constructor
    · rintro silent _ cut' read' ⟨item, change⟩
      obtain rfl := Option.some.inj (read.symm.trans read')
      obtain ⟨event, mem, tells⟩ := accepted.change_told story.inventory read change
      exact silent event mem tells.source
    · intro unchanged event mem source
      obtain ⟨item, change, _⟩ := accepted.change_of_fact story read mem source
      exact unchanged accepted.accepted cut read ⟨item, change⟩
  · obtain ⟨_, _, _, _, refused, silent⟩ := stale
    rw [ledger, silent, refused]
    exact ⟨fun _ impossible => (nomatch impossible), fun _ => rfl⟩

/-- A snapshot that is sent again, and that no later cut has made stale, tells nothing the
second time exactly if its resources are read back as they were written.
-/
theorem Story.resent_iff {accepted next : InventoryTimeline} {first second : SnapshotMutation}
    (story : Story env tables)
    (saved : saveInventorySnapshotWithTimeline env tables workspaceId clusterId delivery
      = .ok (accepted, first))
    (taken : first.accepted = true) (payload : again.payload = delivery.payload)
    (resent : saveInventorySnapshotWithTimeline env accepted workspaceId clusterId again
      = .ok (next, second))
    : inventoryEvents next.ledger.rows = inventoryEvents accepted.ledger.rows
      ↔ (staleAt env workspaceId clusterId accepted again = false
        → ReadsBackEqual env workspaceId clusterId delivery) := by
  rw [(story.save saved).silent_iff resent, staleAt_saved resent, Bool.not_eq_true']
  obtain ⟨done, _, _⟩ := saveInventorySnapshotWithTimeline_ok.mp saved
  obtain ⟨redone, _, _⟩ := saveInventorySnapshotWithTimeline_ok.mp resent
  obtain ⟨cut, read, written | ⟨_, _, _, _, refused, _⟩⟩ := saveInventorySnapshotMutation_ok done
  · obtain ⟨events, snapshot, rows, _, written⟩ := written
    obtain ⟨repeated, reread, _⟩ := saveInventorySnapshotMutation_ok redone
    have changes := written.change_again story.inventory read payload reread
    refine imp_congr_right fun _ => ?_
    constructor
    · intro unchanged
      exact not_not.mp (fun unequal => unchanged repeated reread (changes.mpr unequal))
    · intro equal repeated' reread' change
      obtain rfl := Option.some.inj (reread.symm.trans reread')
      exact changes.mp change equal
  · rw [taken] at refused
    cases refused

structure LedgerAgrees (env : Platform) (workspaceId clusterId : String)
    (tables : InventoryTimeline)
    : Prop where
  correlated : ∀ delivery,
      saveInventorySnapshotWithTimeline env tables workspaceId clusterId delivery
      ≠ .error .correlationUnavailable
  newest : ∀ row ∈ tables.inventory.resources, row.timelineEligible = true
    → ∃ event, IsNewest tables.ledger.rows row.inventoryKey event
        ∧ (event.eventType = .delete ↔ row.deleted = true)
  resent : ∀ delivery accepted first again next second,
      saveInventorySnapshotWithTimeline env tables workspaceId clusterId delivery
        = .ok (accepted, first)
      → first.accepted = true
      → again.payload = delivery.payload
      → saveInventorySnapshotWithTimeline env accepted workspaceId clusterId again
        = .ok (next, second)
      → (inventoryEvents next.ledger.rows = inventoryEvents accepted.ledger.rows
        ↔ (staleAt env workspaceId clusterId accepted again = false
          → ReadsBackEqual env workspaceId clusterId delivery))

/-- After every run of calls the ledger agrees with the inventory; a snapshot that is sent
again is silent exactly where the database reads back what was written.
-/
theorem ledger_agrees_with_inventory (env : Platform) (workspaceId clusterId : String)
    (deliveries : List Delivery)
    : LedgerAgrees env workspaceId clusterId
        ((timelineMachine env workspaceId clusterId).run {} deliveries) := by
  have story := story_run env workspaceId clusterId deliveries
  refine ⟨?_, ?_, ?_⟩
  · intro delivery failed
    rcases bind_error.mp failed with unavailable | ⟨saved, _, refused⟩
    · exact story.inventory.correlates unavailable
    · rcases bind_error.mp refused with refused | ⟨_, _, impossible⟩
      · unfold appendFacts at refused
        split at refused
        · cases refused
        · cases refused
      · cases impossible
  · intro row mem eligible
    obtain ⟨event, newest, marked⟩ := story.tells row mem eligible
    exact ⟨event, isNewest_of_newestOf story.ledger newest, marked⟩
  · intro delivery accepted first again next second saved taken payload resent
    exact story.resent_iff saved taken payload resent

/-- A float that Python writes as `1e+23`, and that the database reads as the integer. -/
def exponentFloat : Rat := 99999999999999991611392

def exponentTables : Plain.Tables where
  identities := [⟨"w", "c", "pod", "", "", "pod", "p"⟩]
  contents := [{
    inventoryKey := "000"
    resourceType := "pod"
    apiVersion := ""
    kind := "pod"
    inNamespace := none
    name := "p"
    uid := none
    resourceVersion := none
    status := "unknown"
    health := "unknown"
    labels := []
    summary := [(.str "v", .scalar (.int (10 ^ 23)))]
    applicationIds := []
    applicationBindingComplete := true }]
  exponents := [(exponentFloat, 10 ^ 23)]

def exponentDelivery (snapshotId : String) : Delivery where
  payload := .dict [(.str "resources", .list [.dict [
    (.str "resource_type", .scalar (.str "pod")), (.str "name", .scalar (.str "p")),
    (.str "summary", .dict [(.str "v", .scalar (.float (.finite exponentFloat)))])]])]
  snapshotId
  now := 0
  bindings := { applicationIds := fun _ _ _ _ => [], complete := true }

/-- The snapshot is accepted twice in a row, and the second time it tells an update. -/
theorem exponent_resent_tells_update
    : (exponentDelivery "2").payload = (exponentDelivery "1").payload
      ∧ ((timelineMachine (plainPlatform exponentTables) "w" "c").trace {}
          [exponentDelivery "1", exponentDelivery "2"]).map (·.accepted) = [true, true]
      ∧ (inventoryEvents ((timelineMachine (plainPlatform exponentTables) "w" "c").run {}
          [exponentDelivery "1"]).ledger.rows).map (·.eventType) = [.add]
      ∧ (inventoryEvents ((timelineMachine (plainPlatform exponentTables) "w" "c").run {}
          [exponentDelivery "1", exponentDelivery "2"]).ledger.rows).map (·.eventType)
        = [.add, .update] :=
  ⟨rfl, by decide +kernel, by decide +kernel, by decide +kernel⟩

end K8sClue.Inventory
