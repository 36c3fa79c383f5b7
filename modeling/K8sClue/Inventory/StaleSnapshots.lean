import K8sClue.Inventory.TimelineSaves
import K8sClue.Library.Locking

/-! Stale snapshots change nothing.
A stale cut is recorded beside the others, where later calls read the time of the newest cut and
the latest complete Event capture; neither depends on it, so a run ends as it does without the
stale calls.
-/

namespace K8sClue.Inventory

open Python Timeline Library List

variable (env : Platform) (workspaceId clusterId : String)

def acceptedTimes
    (tables : InventoryTimeline)
    : List Delivery → List Int
  | [] => []
  | delivery :: rest =>
    let step := (timelineMachine env workspaceId clusterId).step tables delivery
    let times := if step.2.any (·.accepted) then
        ((readCut env workspaceId clusterId delivery).map (·.observedAt)).toList
      else
        []
    times ++ acceptedTimes step.1 rest

section Step

variable {env : Platform} {workspaceId clusterId : String}
  {tables next : InventoryTimeline} {delivery : Delivery} {mutation : SnapshotMutation}

theorem isStale_iff {store : InventoryStore} {observedAt : Int}
    : store.isStale workspaceId clusterId observedAt = true
      ↔ ∃ row ∈ store.snapshots, (row.workspaceId = workspaceId ∧ row.clusterId = clusterId)
          ∧ observedAt < row.collectedAt := by
  simp only [InventoryStore.isStale, any_eq_true, decide_eq_true_eq, and_assoc]

/-- A stale call adds one row to the recorded snapshots and nothing else. -/
theorem stale_call
    (saved : saveInventorySnapshotWithTimeline env tables workspaceId clusterId delivery
      = .ok (next, mutation))
    (stale : staleAt env workspaceId clusterId tables delivery = true)
    : ∃ snapshot, snapshot.status = ignoredStale ∧ snapshot.snapshotId = delivery.snapshotId
        ∧ (∃ later ∈ tables.inventory.snapshots,
            (later.workspaceId = workspaceId ∧ later.clusterId = clusterId)
            ∧ snapshot.collectedAt < later.collectedAt)
        ∧ next = {
            inventory := {
              tables.inventory with snapshots := tables.inventory.snapshots ++ [snapshot] }
            ledger := tables.ledger } := by
  have refused := staleAt_saved saved
  rw [stale] at refused
  obtain ⟨done, _, ledger⟩ := saveInventorySnapshotWithTimeline_ok.mp saved
  obtain ⟨cut, read, accepted | recorded⟩ := saveInventorySnapshotMutation_ok done
  · obtain ⟨_, _, _, _, accepted⟩ := accepted
    rw [accepted.accepted] at refused
    cases refused
  · obtain ⟨snapshot, stored, _, same, _, silent⟩ := recorded
    obtain ⟨_, _, time, status, id⟩ := storeSnapshot_fields stored
    rw [staleAt, read, Option.any_some, isStale_iff] at stale
    refine ⟨snapshot, status, id, by rw [time]; exact stale, ?_⟩
    obtain ⟨inventory, table⟩ := next
    simp only at same ledger
    rw [same, ledger, silent]
    rfl

end Step

/-- The tables differ in the stale snapshots that one of them has recorded: all later decisions
about the cluster are the same.
-/
structure Undisturbed (full reduced : InventoryTimeline)
    : Prop where
  same : full = {
      inventory := { reduced.inventory with snapshots := full.inventory.snapshots }
      ledger := reduced.ledger }
  kept : reduced.inventory.snapshots.Sublist full.inventory.snapshots
  counted : full.inventory.snapshots.filter (·.status ≠ ignoredStale)
    = reduced.inventory.snapshots.filter (·.status ≠ ignoredStale)
  covered : ∀ row ∈ full.inventory.snapshots,
      ∃ newer ∈ reduced.inventory.snapshots,
        (newer.workspaceId = workspaceId ∧ newer.clusterId = clusterId)
        ∧ row.collectedAt ≤ newer.collectedAt

section Alike

variable {env : Platform} {workspaceId clusterId : String}
  {full reduced : InventoryTimeline} {delivery : Delivery}

theorem Undisturbed.isStale_eq (undisturbed : Undisturbed workspaceId clusterId full reduced)
    (observedAt : Int)
    : full.inventory.isStale workspaceId clusterId observedAt
      = reduced.inventory.isStale workspaceId clusterId observedAt := by
  rw [Bool.eq_iff_iff, isStale_iff, isStale_iff]
  constructor
  · rintro ⟨row, held, _, later⟩
    obtain ⟨newer, inside, own, least⟩ := undisturbed.covered row held
    exact ⟨newer, inside, own, Int.lt_of_lt_of_le later least⟩
  · rintro ⟨row, held, own, later⟩
    exact ⟨row, undisturbed.kept.mem held, own, later⟩

/-- The latest complete capture is sought among the snapshots that are not stale. -/
theorem latestComplete_congr {first second : List SnapshotRow}
    (counted : first.filter (·.status ≠ ignoredStale) = second.filter (·.status ≠ ignoredStale))
    : latestCompleteKubernetesEventBatch env first workspaceId clusterId
      = latestCompleteKubernetesEventBatch env second workspaceId clusterId := by
  have candidates : ∀ rows : List SnapshotRow,
      rows.filter (fun row =>
        row.Accepted workspaceId clusterId && row.eventCaptureObservedAt.isSome)
      = (rows.filter (·.status ≠ ignoredStale)).filter (fun row =>
          row.Accepted workspaceId clusterId && row.eventCaptureObservedAt.isSome) := by
    intro rows
    rw [filter_filter]
    refine filter_congr ?_
    intro row _
    rw [Bool.eq_iff_iff]
    simp only [Bool.and_eq_true, decide_eq_true_eq]
    constructor
    · exact fun both => ⟨both, both.1.2.2⟩
    · exact fun both => both.1
  unfold latestCompleteKubernetesEventBatch
  rw [candidates first, candidates second, counted]

/-- The transaction of a cut does the same over tables that differ in their snapshots, if the
latest capture is the same and the id of the snapshot is new to both.
-/
theorem acceptCut_alike {store : InventoryStore} {snapshots : List SnapshotRow} {cut : SnapshotCut}
    (batch : latestCompleteKubernetesEventBatch env snapshots workspaceId clusterId
      = latestCompleteKubernetesEventBatch env store.snapshots workspaceId clusterId)
    (unknown : ∀ row ∈ snapshots, row.snapshotId ≠ delivery.snapshotId)
    (fresh : ∀ row ∈ store.snapshots, row.snapshotId ≠ delivery.snapshotId)
    : EndsAlike (fun left right => left.2 = right.2
          ∧ ∃ row, row.workspaceId = workspaceId ∧ row.clusterId = clusterId
              ∧ left.1 = { right.1 with snapshots := snapshots ++ [row] }
              ∧ right.1.snapshots = store.snapshots ++ [row])
        (acceptCut env { store with snapshots } workspaceId clusterId delivery cut)
        (acceptCut env store workspaceId clusterId delivery cut) := by
  have previous : InventoryStore.previousBatch env { store with snapshots } workspaceId
      clusterId cut = store.previousBatch env workspaceId clusterId cut := by
    unfold InventoryStore.previousBatch
    rw [batch]
  rw [acceptCut, previous]
  refine EndsAlike.bind_same _ fun events _ => ?_
  refine EndsAlike.bind_same _ fun row recorded => ?_
  rw [orError_ok] at recorded
  obtain ⟨workspace, cluster, _, _, id⟩ := storeSnapshot_fields recorded
  have inserted : EndsAlike
      (fun left right => left = snapshots ++ [row] ∧ right = store.snapshots ++ [row])
      (InventoryStore.insertSnapshot { store with snapshots } row) (store.insertSnapshot row) := by
    rw [insertSnapshot_ok.mpr ⟨by rw [id]; exact unknown, rfl⟩,
      insertSnapshot_ok.mpr ⟨by rw [id]; exact fresh, rfl⟩]
    exact .ok ⟨rfl, rfl⟩
  refine inserted.bind ?_
  rintro _ _ ⟨rfl, rfl⟩
  refine EndsAlike.bind_same _ fun rows _ => ?_
  refine EndsAlike.bind_same _ fun samples _ => ?_
  refine EndsAlike.bind_same _ fun projection _ => ?_
  refine EndsAlike.bind_same _ fun timelineEvents _ => ?_
  exact .ok ⟨rfl, row, workspace, cluster, rfl, rfl⟩

variable (undisturbed : Undisturbed workspaceId clusterId full reduced)
include undisturbed

theorem Undisturbed.batch_eq
    : latestCompleteKubernetesEventBatch env full.inventory.snapshots workspaceId clusterId
      = latestCompleteKubernetesEventBatch env reduced.inventory.snapshots workspaceId
          clusterId :=
  latestComplete_congr undisturbed.counted

/-- A stale call moves only the tables that it is made on. -/
theorem Undisturbed.skip
    (stale : staleAt env workspaceId clusterId full delivery = true)
    : Undisturbed workspaceId clusterId
        ((timelineMachine env workspaceId clusterId).step full delivery).1 reduced := by
  unfold timelineMachine
  simp only
  split
  next next mutation saved =>
    obtain ⟨snapshot, status, _, ⟨later, held, _, before⟩, rfl⟩ := stale_call saved stale
    refine ⟨?_, ?_, ?_, ?_⟩
    · have same := undisturbed.same
      rw [same]
    · exact undisturbed.kept.trans (sublist_append_left _ _)
    · rw [filter_append, undisturbed.counted]
      simp [status]
    · intro row mem
      rcases mem_append.mp mem with old | now
      · exact undisturbed.covered row old
      · rw [mem_singleton.mp now]
        obtain ⟨newer, inside, own, least⟩ := undisturbed.covered later held
        exact ⟨newer, inside, own, Int.le_of_lt (Int.lt_of_lt_of_le before least)⟩
  · exact undisturbed

/-- Tables that get the same new snapshot stay undisturbed. -/
theorem Undisturbed.record
    {left right : InventoryStore} {row : SnapshotRow} (ledger : LedgerTable)
    (workspace : row.workspaceId = workspaceId) (cluster : row.clusterId = clusterId)
    (first : left = { right with snapshots := full.inventory.snapshots ++ [row] })
    (second : right.snapshots = reduced.inventory.snapshots ++ [row])
    : Undisturbed workspaceId clusterId { inventory := left, ledger }
        { inventory := right, ledger } := by
  subst first
  refine ⟨rfl, ?_, ?_, ?_⟩
  · rw [second]
    exact undisturbed.kept.append_right [row]
  · rw [second, filter_append, filter_append, undisturbed.counted]
  · intro other mem
    rw [second]
    rcases mem_append.mp mem with old | now
    · obtain ⟨newer, inside, own, least⟩ := undisturbed.covered other old
      exact ⟨newer, mem_append_left _ inside, own, least⟩
    · rw [mem_singleton.mp now]
      exact ⟨row, by simp, ⟨workspace, cluster⟩, Int.le_refl _⟩

variable (fresh : ∀ row ∈ full.inventory.snapshots, row.snapshotId ≠ delivery.snapshotId)
  (current : staleAt env workspaceId clusterId full delivery = false)
include fresh current

/-- Every other call does the same on both tables. -/
theorem Undisturbed.saved_alike
    : EndsAlike
        (fun left right => left.2 = right.2 ∧ Undisturbed workspaceId clusterId left.1 right.1)
        (saveInventorySnapshotWithTimeline env full workspaceId clusterId delivery)
        (saveInventorySnapshotWithTimeline env reduced workspaceId clusterId delivery) := by
  have inventory : full.inventory
      = { reduced.inventory with snapshots := full.inventory.snapshots } :=
    congrArg InventoryTimeline.inventory undisturbed.same
  have ledger : full.ledger = reduced.ledger := by
    rw [undisturbed.same]
  have mutation : EndsAlike (fun left right => left.2 = right.2
        ∧ ∃ row, row.workspaceId = workspaceId ∧ row.clusterId = clusterId
            ∧ left.1 = { right.1 with snapshots := full.inventory.snapshots ++ [row] }
            ∧ right.1.snapshots = reduced.inventory.snapshots ++ [row])
      (saveInventorySnapshotMutation env full.inventory workspaceId clusterId delivery)
      (saveInventorySnapshotMutation env reduced.inventory workspaceId clusterId
        delivery) := by
    refine EndsAlike.bind_same _ fun cut read => ?_
    have quiet : full.inventory.isStale workspaceId clusterId cut.observedAt = false := by
      rwa [staleAt, orError_ok.mp read] at current
    rw [undisturbed.isStale_eq] at quiet
    rw [undisturbed.isStale_eq, quiet, inventory]
    exact acceptCut_alike undisturbed.batch_eq fresh
      (fun row held => fresh row (undisturbed.kept.mem held))
  refine mutation.bind ?_
  rintro ⟨left, told⟩ ⟨right, retold⟩ ⟨same, row, workspace, cluster, first, second⟩
  rw [ledger, same]
  refine EndsAlike.bind_same _ fun table _ => ?_
  exact .ok ⟨rfl, undisturbed.record table workspace cluster first second⟩

theorem Undisturbed.follow
    : Undisturbed workspaceId clusterId
        ((timelineMachine env workspaceId clusterId).step full delivery).1
        ((timelineMachine env workspaceId clusterId).step reduced delivery).1 := by
  have alike := undisturbed.saved_alike fresh current
  unfold timelineMachine
  simp only
  cases left : saveInventorySnapshotWithTimeline env full workspaceId clusterId delivery with
  | ok result =>
    rw [left] at alike
    cases right : saveInventorySnapshotWithTimeline env reduced workspaceId clusterId
        delivery with
    | ok other =>
      rw [right] at alike
      cases alike with
      | ok holds => exact holds.2
    | error wrong =>
      rw [right] at alike
      cases alike
  | error wrong =>
    rw [left] at alike
    cases right : saveInventorySnapshotWithTimeline env reduced workspaceId clusterId
        delivery with
    | ok other =>
      rw [right] at alike
      cases alike
    | error same => exact undisturbed

end Alike

section Run

variable {env : Platform} {workspaceId clusterId : String} {tables : InventoryTimeline}

/-- A call records one snapshot with the id that was drawn for it, or none. -/
theorem step_snapshots (tables : InventoryTimeline) (delivery : Delivery)
    : ∃ added,
        ((timelineMachine env workspaceId clusterId).step tables
          delivery).1.inventory.snapshots = tables.inventory.snapshots ++ added
        ∧ ∀ row ∈ added, row.snapshotId = delivery.snapshotId := by
  unfold timelineMachine
  simp only
  split
  next next mutation saved =>
    obtain ⟨done, _, _⟩ := saveInventorySnapshotWithTimeline_ok.mp saved
    obtain ⟨cut, _, ⟨_, snapshot, _, _, accepted⟩ | ⟨snapshot, stored, _, same, _⟩⟩ :=
      saveInventorySnapshotMutation_ok done
    · refine ⟨[snapshot], accepted.snapshots, ?_⟩
      simpa using storeSnapshot_id accepted.recorded
    · refine ⟨[snapshot], by rw [same], ?_⟩
      simpa using storeSnapshot_id stored
  · exact ⟨[], by simp, by simp⟩

variable {deliveries : List Delivery} {time : Int}

/-- Calls with different ids find their ids unused. -/
theorem admits_fresh (env : Platform) (workspaceId clusterId : String)
    (different : (deliveries.map (·.snapshotId)).Nodup)
    (unused : ∀ row ∈ tables.inventory.snapshots, row.snapshotId ∉ deliveries.map (·.snapshotId))
    : (timelineMachine env workspaceId clusterId).Admits (fun state delivery =>
          ∀ row ∈ state.inventory.snapshots, row.snapshotId ≠ delivery.snapshotId)
        tables deliveries := by
  induction deliveries generalizing tables with
  | nil => trivial
  | cons delivery rest ih =>
    rw [map_cons, nodup_cons] at different
    refine ⟨?_, ih different.2 ?_⟩
    · intro row held same
      exact unused row held (by simp [same])
    · obtain ⟨added, grown, ids⟩ := @step_snapshots env workspaceId clusterId tables delivery
      intro row mem
      rw [grown] at mem
      rcases mem_append.mp mem with old | now
      · exact fun later => unused row old (by simp [later])
      · rw [ids row now]
        exact different.1

/-- Tables that a run and the run without its stale calls end with. -/
theorem undisturbed_run (env : Platform) (workspaceId clusterId : String)
    (different : (deliveries.map (·.snapshotId)).Nodup)
    : Undisturbed workspaceId clusterId
        ((timelineMachine env workspaceId clusterId).run {} deliveries)
        ((timelineMachine env workspaceId clusterId).run {}
          ((timelineMachine env workspaceId clusterId).without
            (staleAt env workspaceId clusterId) {} deliveries)) := by
  refine Machine.run_without ?_ ?_ ⟨rfl, Sublist.refl _, rfl, by simp⟩
    (admits_fresh env workspaceId clusterId different (by simp))
  · intro full reduced delivery undisturbed _ stale
    exact undisturbed.skip stale
  · intro full reduced delivery undisturbed fresh current
    exact undisturbed.follow fresh current

/-- An accepted call finds no later cut recorded, and records its own. -/
theorem accepted_call {delivery : Delivery}
    (accepted : ((timelineMachine env workspaceId clusterId).step tables delivery).2.any
        (·.accepted) = true)
    (read : (readCut env workspaceId clusterId delivery).map (·.observedAt) = some time)
    : (∀ row ∈ tables.inventory.snapshots,
        row.workspaceId = workspaceId ∧ row.clusterId = clusterId → row.collectedAt ≤ time)
      ∧ ∃ row ∈ ((timelineMachine env workspaceId clusterId).step tables
            delivery).1.inventory.snapshots,
          (row.workspaceId = workspaceId ∧ row.clusterId = clusterId)
          ∧ row.collectedAt = time := by
  obtain ⟨cut, found, rfl⟩ := Option.map_eq_some_iff.mp read
  unfold timelineMachine at accepted ⊢
  simp only at accepted ⊢
  split at accepted
  next next mutation saved =>
    rw [any_cons, any_nil, Bool.or_false] at accepted
    have current := staleAt_saved saved
    rw [accepted, eq_comm, Bool.not_eq_true', staleAt, found, Option.any_some,
      ← Bool.not_eq_true, isStale_iff] at current
    constructor
    · intro row held own
      exact Int.not_lt.mp fun later => current ⟨row, held, own, later⟩
    · obtain ⟨done, _, _⟩ := saveInventorySnapshotWithTimeline_ok.mp saved
      obtain ⟨same, again, ⟨_, snapshot, _, _, written⟩ | ⟨_, _, _, _, refused, _⟩⟩ :=
        saveInventorySnapshotMutation_ok done
      · rw [found] at again
        cases again
        obtain ⟨workspace, cluster, observed, _⟩ := storeSnapshot_fields written.recorded
        refine ⟨snapshot, ?_, ⟨workspace, cluster⟩, observed⟩
        rw [written.snapshots]
        simp
      · rw [accepted] at refused
        cases refused
  · cases accepted

/-- No accepted snapshot is older than one that is recorded before it. -/
theorem recorded_le_accepted
    (accepted : time ∈ acceptedTimes env workspaceId clusterId tables deliveries)
    {row : SnapshotRow} (held : row ∈ tables.inventory.snapshots)
    (own : row.workspaceId = workspaceId ∧ row.clusterId = clusterId)
    : row.collectedAt ≤ time := by
  induction deliveries generalizing tables with
  | nil => cases accepted
  | cons delivery rest ih =>
    rcases mem_append.mp accepted with now | later
    · split at now
      next taken => exact (accepted_call taken (Option.mem_toList.mp now)).1 row held own
      · cases now
    · refine ih later ?_
      obtain ⟨added, grown, _⟩ := @step_snapshots env workspaceId clusterId tables delivery
      rw [grown]
      exact mem_append_left _ held

/-- Snapshots are accepted in the order of their times. -/
theorem acceptedTimes_ordered (env : Platform) (workspaceId clusterId : String)
    (tables : InventoryTimeline) (deliveries : List Delivery)
    : (acceptedTimes env workspaceId clusterId tables deliveries).Pairwise (· ≤ ·) := by
  induction deliveries generalizing tables with
  | nil => exact Pairwise.nil
  | cons delivery rest ih =>
    unfold acceptedTimes
    simp only
    split
    next taken =>
      cases read : (readCut env workspaceId clusterId delivery).map (·.observedAt) with
      | none => exact ih _
      | some time =>
        refine pairwise_cons.mpr ⟨?_, ih _⟩
        intro later mem
        obtain ⟨row, held, own, rfl⟩ := (accepted_call taken read).2
        exact recorded_le_accepted mem held own
    · exact ih _

end Run

/-- The saves of concurrent transactions, each under the advisory lock of the cluster. -/
def lockedSaves
    : Machine (LockState Nat Unit InventoryTimeline Delivery (List SnapshotMutation))
        (LockAction Nat Unit Delivery) (Call Nat Unit Delivery (List SnapshotMutation)) :=
  Locking.machine (timelineMachine env workspaceId clusterId).step

variable (actions : List (LockAction Nat Unit Delivery))

/-- The tables as committed by the transactions. -/
def committedTables : InventoryTimeline :=
  ((lockedSaves env workspaceId clusterId).run
    (Locking.initial fun _ => {}) actions).committed ()

def committedSaves : List Delivery :=
  ((lockedSaves env workspaceId clusterId).trace
    (Locking.initial fun _ => {}) actions).map (·.operation)

/-- The lock of the cluster makes every interleaving a run of its committed calls. -/
theorem committedTables_eq
    : committedTables env workspaceId clusterId actions
      = (timelineMachine env workspaceId clusterId).run {}
          (committedSaves env workspaceId clusterId actions) := by
  have replays := (Locking.run_serial (timelineMachine env workspaceId clusterId).step
    (fun _ => {}) actions).replays ()
  have all : ∀ calls : List (Call Nat Unit Delivery (List SnapshotMutation)),
      Locking.callsAt () calls = calls := by
    simp [Locking.callsAt]
  rw [all] at replays
  exact replays.run.symm

def SameInventory (left right : InventoryTimeline) : Prop :=
  left.inventory.resources = right.inventory.resources
  ∧ left.inventory.revisions = right.inventory.revisions
  ∧ left.inventory.versions = right.inventory.versions
  ∧ left.inventory.usageSamples = right.inventory.usageSamples
  ∧ left.ledger = right.ledger

/-- Stale snapshots change nothing, in any interleaving of the transactions of a cluster. -/
structure StaleChangesNothing
    : Prop where
  /-- What is committed is what the committed calls do one after the other. -/
  serial : committedTables env workspaceId clusterId actions
    = (timelineMachine env workspaceId clusterId).run {}
        (committedSaves env workspaceId clusterId actions)
  ordered : (acceptedTimes env workspaceId clusterId {}
      (committedSaves env workspaceId clusterId actions)).Pairwise (· ≤ ·)
  /-- A successful call with an earlier time than a recorded one adds one row and no more. -/
  unchanged : ∀ earlier delivery later,
      committedSaves env workspaceId clusterId actions = earlier ++ delivery :: later
      → ∀ cut, readCut env workspaceId clusterId delivery = some cut
      → ∀ before, before = (timelineMachine env workspaceId clusterId).run {} earlier
      → (∃ row ∈ before.inventory.snapshots,
          (row.workspaceId = workspaceId ∧ row.clusterId = clusterId)
          ∧ cut.observedAt < row.collectedAt)
      → ∀ after, after = (timelineMachine env workspaceId clusterId).step before delivery
      → SameInventory after.1 before
        ∧ ∃ added, after.1.inventory.snapshots = before.inventory.snapshots ++ added
            ∧ added.length = after.2.length
            ∧ ∀ row ∈ added, row.status = ignoredStale
  /-- Snapshot ids are drawn at random and do not repeat. -/
  removed : ((committedSaves env workspaceId clusterId actions).map (·.snapshotId)).Nodup
    → SameInventory (committedTables env workspaceId clusterId actions)
        ((timelineMachine env workspaceId clusterId).run {}
          ((timelineMachine env workspaceId clusterId).without
            (staleAt env workspaceId clusterId) {}
            (committedSaves env workspaceId clusterId actions)))

/-- A call that is stale leaves the tables as they were, but for its row. -/
theorem stale_step {env : Platform} {workspaceId clusterId : String}
    {tables : InventoryTimeline} {delivery : Delivery}
    (stale : staleAt env workspaceId clusterId tables delivery = true)
    : ∃ added,
        ((timelineMachine env workspaceId clusterId).step tables delivery).1
          = {
            inventory := {
              tables.inventory with snapshots := tables.inventory.snapshots ++ added }
            ledger := tables.ledger }
        ∧ added.length
          = ((timelineMachine env workspaceId clusterId).step tables delivery).2.length
        ∧ ∀ row ∈ added, row.status = ignoredStale := by
  unfold timelineMachine
  simp only
  split
  next next mutation saved =>
    obtain ⟨snapshot, status, _, _, same⟩ := stale_call saved stale
    exact ⟨[snapshot], same, rfl, by simp [status]⟩
  · exact ⟨[], by simp, rfl, by simp⟩

theorem stale_snapshots_change_nothing
    : StaleChangesNothing env workspaceId clusterId actions where
  serial := committedTables_eq env workspaceId clusterId actions
  ordered := acceptedTimes_ordered env workspaceId clusterId {} _
  unchanged := by
    intro earlier delivery later _ cut read before _ found after rfl
    have stale : staleAt env workspaceId clusterId before delivery = true := by
      rw [staleAt, read, Option.any_some, isStale_iff]
      exact found
    obtain ⟨added, same, length, status⟩ := stale_step stale
    refine ⟨?_, added, ?_, length, status⟩
    · rw [same]
      exact ⟨rfl, rfl, rfl, rfl, rfl⟩
    · rw [same]
  removed := by
    intro different
    rw [committedTables_eq]
    rw [(undisturbed_run env workspaceId clusterId different).same]
    exact ⟨rfl, rfl, rfl, rfl, rfl⟩

end K8sClue.Inventory
