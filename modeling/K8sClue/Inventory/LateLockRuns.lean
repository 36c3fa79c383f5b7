import K8sClue.Inventory.LateLock
import K8sClue.Inventory.PlainPlatform
import K8sClue.Inventory.TimeTravel

/-! Concurrent snapshots of a workspace are serial.
What a transaction has read of its own cluster stays true until it ends, and only the holder of
the workspace lock has a revision; so each commit does what the lock-first path does alone.
-/

namespace K8sClue.Inventory

open Python Timeline Library List Function

def CommittedSave.delivered (save : CommittedSave) (store : InventoryStore) : Delivery :=
  { save.delivery with
    skippedRevisions := (save.numbers.getD (0, 0)).1 - store.lastRevision - 1
    skippedVersions := (save.numbers.getD (0, 0)).2 - store.lastVersion - 1 }

variable (env : Platform) (workspaceId : String)

def lockFirstSave
    (tables : InventoryStore × List FilterRevision) (save : CommittedSave)
    : Except SaveError (InventoryStore × List FilterRevision) := do
  let delivery := save.delivered tables.1
  let cut ← orError .malformedPayload (readCut env workspaceId save.clusterId delivery)
  let saved ← saveInventorySnapshotMutation env tables.1 workspaceId save.clusterId delivery
  let row : RevisionRow := {
    revisionId := saved.1.lastRevision
    snapshotId := delivery.snapshotId
    workspaceId
    clusterId := save.clusterId }
  return (saved.1,
    if saved.2.accepted then
      (revisionDetails delivery.payload cut).lockFirst delivery.bindings.complete row tables.2
    else
      tables.2)

-----------------------------------------------------------------------------------------
-- What a transaction reads
-----------------------------------------------------------------------------------------

section Reads

variable {env : Platform} {workspaceId clusterId : String} {delivery : Delivery}
  {cut : SnapshotCut} {store next : InventoryStore} {tx : SnapshotTransaction}
  {prepared : PreparedCut} {work : SnapshotWork}

structure PreparedBy (env : Platform) (store : InventoryStore)
    (workspaceId clusterId : String) (delivery : Delivery) (cut : SnapshotCut)
    (prepared : PreparedCut)
    : Prop where
  derived : inventoryTimelineEvents env workspaceId clusterId cut
      (store.previousRows workspaceId clusterId)
      (preserveExistingInventoryKeys cut.resources (store.previousRows workspaceId clusterId))
      (store.previousBatch env workspaceId clusterId cut)
    = some prepared.events
  recorded : storeSnapshot env workspaceId clusterId delivery cut cut.status
    = some prepared.snapshot
  fresh : ∀ known ∈ store.snapshots, known.snapshotId ≠ prepared.snapshot.snapshotId
  written : (preserveExistingInventoryKeys cut.resources
      (store.previousRows workspaceId clusterId)).mapM env.storeResource
    = some prepared.rows
  sampled : storeUsage env workspaceId clusterId delivery cut = some prepared.samples
  missing : prepared.missing
    = missingInventoryKeys cut (store.previousRows workspaceId clusterId)
        (preserveExistingInventoryKeys cut.resources (store.previousRows workspaceId clusterId))

theorem prepareCut_ok
    : prepareCut env store workspaceId clusterId delivery cut = .ok prepared
      ↔ PreparedBy env store workspaceId clusterId delivery cut prepared := by
  simp only [prepareCut, bind_ok, orError_ok, insertSnapshot_ok]
  constructor
  · rintro ⟨events, derived, snapshot, recorded, _, ⟨fresh, _⟩, rows, written, samples, sampled,
      done⟩
    cases done
    exact ⟨derived, recorded, fresh, written, sampled, rfl⟩
  · intro known
    refine ⟨_, known.derived, _, known.recorded, _, ⟨known.fresh, rfl⟩, _, known.written, _,
      known.sampled, ?_⟩
    rw [← known.missing]
    rfl

theorem startWork_ok
    : tx.startWork env workspaceId store = .ok work
      ↔ (∃ snapshot, work = .stale snapshot
          ∧ store.isStale workspaceId tx.clusterId tx.cut.observedAt = true
          ∧ storeSnapshot env workspaceId tx.clusterId tx.delivery tx.cut ignoredStale
            = some snapshot
          ∧ ∀ known ∈ store.snapshots, known.snapshotId ≠ snapshot.snapshotId)
        ∨ ∃ prepared, work = .accepted prepared
          ∧ store.isStale workspaceId tx.clusterId tx.cut.observedAt = false
          ∧ PreparedBy env store workspaceId tx.clusterId tx.delivery tx.cut prepared := by
  unfold SnapshotTransaction.startWork
  cases store.isStale workspaceId tx.clusterId tx.cut.observedAt with
  | true =>
    simp only [if_true, bind_ok, orError_ok, insertSnapshot_ok, reduceCtorEq, false_and,
      and_false, exists_false, or_false, true_and]
    constructor
    · rintro ⟨snapshot, recorded, _, ⟨fresh, _⟩, done⟩
      exact ⟨snapshot, (Except.ok.inj done).symm, recorded, fresh⟩
    · rintro ⟨snapshot, rfl, recorded, fresh⟩
      exact ⟨snapshot, recorded, _, ⟨fresh, rfl⟩, rfl⟩
  | false =>
    simp only [Bool.false_eq_true, if_false, bind_ok, prepareCut_ok, false_and, and_false,
      exists_false, false_or, true_and]
    constructor
    · rintro ⟨prepared, known, done⟩
      exact ⟨prepared, (Except.ok.inj done).symm, known⟩
    · rintro ⟨prepared, rfl, known⟩
      exact ⟨prepared, known, rfl⟩

def OtherSnapshots (tx : SnapshotTransaction) (store next : InventoryStore) : Prop :=
  ∀ known ∈ next.snapshots, known ∈ store.snapshots ∨ known.snapshotId ≠ tx.delivery.snapshotId

variable (same : SameCluster workspaceId tx.clusterId next store)
  (read : readCut env workspaceId tx.clusterId tx.delivery
    = some tx.cut)
  (known : PreparedBy env store workspaceId tx.clusterId tx.delivery tx.cut prepared)
include same known

theorem PreparedBy.kept (others : OtherSnapshots tx store next)
    : PreparedBy env next workspaceId tx.clusterId tx.delivery tx.cut prepared where
  derived := by
    rw [same.previousRows, same.previousBatch]
    exact known.derived
  recorded := known.recorded
  fresh := by
    intro row mem
    rcases others row mem with before | other
    · exact known.fresh row before
    · rw [storeSnapshot_id known.recorded]
      exact other
  written := by
    rw [same.previousRows]
    exact known.written
  sampled := known.sampled
  missing := by
    rw [same.previousRows]
    exact known.missing

omit known in
/-- What a transaction does first, it could still do after others have changed other clusters. -/
theorem startWork_kept (others : OtherSnapshots tx store next)
    (started : tx.startWork env workspaceId store = .ok work)
    : tx.startWork env workspaceId next = .ok work := by
  rw [startWork_ok] at started ⊢
  rw [same.isStale]
  rcases started with ⟨snapshot, rfl, stale, recorded, fresh⟩ | ⟨prepared, rfl, current, known⟩
  · refine .inl ⟨snapshot, rfl, stale, recorded, ?_⟩
    intro row mem
    rcases others row mem with before | other
    · exact fresh row before
    · rw [storeSnapshot_id recorded]
      exact other
  · exact .inr ⟨prepared, rfl, current, known.kept same others⟩

include read

omit same in
/-- The rows of a cluster after the transaction's writes come from those before. -/
theorem resources_own (sound : store.Sound env)
    : (tx.resources workspaceId prepared store).filter
        (ResourceRow.ofCluster workspaceId tx.clusterId)
      = markDeleted workspaceId tx.clusterId tx.delivery.snapshotId tx.cut prepared.missing
          (Keyed.putAll (·.inventoryKey) ResourceRow.updated
            (store.resources.filter (ResourceRow.ofCluster workspaceId tx.clusterId))
            prepared.rows) := by
  have own {row : ResourceRow}
      (here : row.workspaceId = workspaceId ∧ row.clusterId = tx.clusterId)
      : ResourceRow.ofCluster workspaceId tx.clusterId row = true := by
    simp [ResourceRow.ofCluster, here]
  have upserted : (Keyed.putAll (·.inventoryKey) ResourceRow.updated store.resources
        prepared.rows).filter (ResourceRow.ofCluster workspaceId tx.clusterId)
      = if true then
          Keyed.putAll (·.inventoryKey) ResourceRow.updated
            (store.resources.filter (ResourceRow.ofCluster workspaceId tx.clusterId))
            prepared.rows
        else
          store.resources.filter (ResourceRow.ofCluster workspaceId tx.clusterId) := by
    refine Keyed.filter_putAll (fun _ _ => rfl) ?_ ?_
    · intro row written
      obtain ⟨made, _⟩ := rows_of sound read known.written written
      exact own ⟨made.workspace, made.cluster⟩
    · intro old before row written key
      exact own (rows_owned sound read known.written before written key)
  rw [SnapshotTransaction.resources, filter_markDeleted, upserted, if_pos rfl]

/-- The comparison of a transaction is not changed by others that change other clusters. -/
theorem compare_kept (sound : store.Sound env) (sound_next : next.Sound env)
    (others : OtherSnapshots tx store next)
    : tx.compare env workspaceId prepared next
      = tx.compare env workspaceId prepared store := by
  have current (resources : List ResourceRow) : (tx.projected workspaceId).currentRows resources
      = (resources.filter (ResourceRow.ofCluster workspaceId tx.clusterId)).filter
          (fun row => row.snapshotId = tx.delivery.snapshotId
            ∧ row.deleted = false) := by
    rw [filter_filter]
    refine filter_congr fun row _ => ?_
    rw [Bool.eq_iff_iff]
    simp only [Bool.and_eq_true, decide_eq_true_eq, ResourceRow.ofCluster]
    tauto
  have rows : (tx.projected workspaceId).currentRows (tx.resources workspaceId prepared next)
      = (tx.projected workspaceId).currentRows (tx.resources workspaceId prepared store) := by
    rw [current, current, resources_own read known sound,
      resources_own read (known.kept same others) sound_next, same.resources]
  have active : (tx.projected workspaceId).activeRows next.versions
      = (tx.projected workspaceId).activeRows store.versions :=
    same.activeRows rfl rfl
  unfold SnapshotTransaction.compare computeProjectionDiff
  rw [rows, active]

end Reads

-----------------------------------------------------------------------------------------
-- What a commit does
-----------------------------------------------------------------------------------------

section Commits

variable {env : Platform} {workspaceId : String} {store : InventoryStore}
  {revisions : List FilterRevision} {tx : SnapshotTransaction}
  {prepared : PreparedCut} {diff : ProjectionDiff} {revisionId firstId : Nat}

def SnapshotTransaction.save (tx : SnapshotTransaction) (numbers : Option (Nat × Nat))
    : CommittedSave where
  clusterId := tx.clusterId
  delivery := tx.delivery
  numbers := numbers

variable
  (read : readCut env workspaceId tx.clusterId tx.delivery
    = some tx.cut)
  (current : store.isStale workspaceId tx.clusterId tx.cut.observedAt = false)
  (known : PreparedBy env store workspaceId tx.clusterId tx.delivery tx.cut prepared)
  (compared : tx.compare env workspaceId prepared store = diff)
  (laterRevision : store.lastRevision < revisionId) (laterVersion : store.lastVersion < firstId)
  (correlates : tx.correlates env workspaceId prepared diff revisionId firstId = true)

include known compared correlates

/-- Committing what was prepared and compared is accepting the cut. -/
theorem acceptCut_published
    (revision : nextRevision store tx.delivery = revisionId)
    (version : firstVersion store tx.delivery = firstId)
    : ∃ mutation : SnapshotMutation, mutation.accepted = true
        ∧ acceptCut env store workspaceId tx.clusterId tx.delivery tx.cut
          = .ok (tx.published env workspaceId prepared diff revisionId firstId store,
              mutation) := by
  obtain ⟨wellFormed, correlated⟩ := Bool.and_eq_true_iff.mp correlates
  obtain ⟨timelineEvents, correlated⟩ := isOk_iff.mp correlated
  subst compared revision version
  simp only [acceptCut, bind_ok, orError_ok, insertSnapshot_ok, Option.filter_eq_some_iff]
  rw [← known.missing]
  exact ⟨_, rfl, _, known.derived, _, known.recorded, _, ⟨known.fresh, rfl⟩, _, known.written, _,
    known.sampled, _, ⟨rfl, wellFormed⟩, timelineEvents, correlated, rfl⟩

def SnapshotTransaction.renumbered (tx : SnapshotTransaction) (store : InventoryStore)
    (revisionId firstId : Nat)
    : SnapshotTransaction :=
  { tx with
    delivery := (tx.save (some (revisionId, firstId))).delivered store }

include laterRevision laterVersion

/-- A commit with its own numbers is the serial save that draws them. -/
theorem acceptCut_renumbered
    : ∃ mutation : SnapshotMutation, mutation.accepted = true
        ∧ acceptCut env store workspaceId tx.clusterId
            (tx.renumbered store revisionId firstId).delivery tx.cut
          = .ok (tx.published env workspaceId prepared diff revisionId firstId store,
              mutation) := by
  have revision : nextRevision store (tx.renumbered store revisionId firstId).delivery
      = revisionId := by
    change store.lastRevision + (revisionId - store.lastRevision - 1) + 1 = revisionId
    omega
  have version : firstVersion store (tx.renumbered store revisionId firstId).delivery
      = firstId := by
    change store.lastVersion + (firstId - store.lastVersion - 1) + 1 = firstId
    omega
  have renumbered : PreparedBy env store workspaceId tx.clusterId
        (tx.renumbered store revisionId firstId).delivery tx.cut prepared :=
    ⟨known.derived, known.recorded, known.fresh, known.written, known.sampled, known.missing⟩
  exact @acceptCut_published env workspaceId store
    (tx.renumbered store revisionId firstId) prepared diff revisionId firstId renumbered
    compared correlates revision version

theorem published_by
    : ∃ rows, WrittenBy env store workspaceId tx.clusterId
        (tx.renumbered store revisionId firstId).delivery tx.cut
        prepared.snapshot rows
        (tx.published env workspaceId prepared diff revisionId firstId store) := by
  obtain ⟨mutation, _, saved⟩ := acceptCut_renumbered known compared laterRevision laterVersion
    correlates
  obtain ⟨_, snapshot, rows, accepted⟩ := acceptCut_ok saved
  have same : prepared.snapshot = snapshot :=
    Option.some.inj (known.recorded.symm.trans accepted.recorded)
  exact ⟨rows, same ▸ accepted.toWrittenBy⟩

include read current

theorem lockFirstSave_accepted
    (fresh : ∀ held ∈ revisions, held.revisionId ≠ revisionId)
    : lockFirstSave env workspaceId (store, revisions) (tx.save (some (revisionId, firstId)))
      = .ok (tx.published env workspaceId prepared diff revisionId firstId store,
          revisions ++ [tx.details.insertedLate tx.delivery.bindings.complete
            (tx.revisionRow workspaceId revisionId)]) := by
  obtain ⟨mutation, accepted, saved⟩ := acceptCut_renumbered known compared laterRevision
    laterVersion correlates
  have whole : saveInventorySnapshotMutation env store workspaceId tx.clusterId
        (tx.renumbered store revisionId firstId).delivery
      = .ok (tx.published env workspaceId prepared diff revisionId firstId store,
          mutation) := by
    simp only [saveInventorySnapshotMutation, bind_ok, orError_ok]
    refine ⟨tx.cut, read, ?_⟩
    rw [current]
    exact saved
  simp only [lockFirstSave, bind_ok, orError_ok]
  refine ⟨tx.cut, read, _, whole, ?_⟩
  rw [accepted]
  refine congrArg Except.ok (Prod.ext rfl ?_)
  exact RevisionDetails.lockFirst_eq _ fresh

omit current known compared laterRevision laterVersion correlates

theorem lockFirstSave_stale {snapshot : SnapshotRow}
    (stale : store.isStale workspaceId tx.clusterId tx.cut.observedAt = true)
    (recorded : storeSnapshot env workspaceId tx.clusterId tx.delivery tx.cut ignoredStale
      = some snapshot)
    (fresh : ∀ known ∈ store.snapshots, known.snapshotId ≠ snapshot.snapshotId)
    : lockFirstSave env workspaceId (store, revisions) (tx.save none)
      = .ok ({ store with snapshots := store.snapshots ++ [snapshot] }, revisions) := by
  let mutation : SnapshotMutation := {
    accepted := false
    snapshotId := tx.delivery.snapshotId
    clusterId := tx.clusterId
    resourceCount := tx.cut.resources.length
    markedDeleted := 0
    resourceTypes := (fromKeys (tx.cut.resources.map (·.resourceType))).insertionSort (· ≤ ·) }
  have saved : saveInventorySnapshotMutation env store workspaceId tx.clusterId
        ((tx.save none).delivered store)
      = .ok ({ store with snapshots := store.snapshots ++ [snapshot] }, mutation) := by
    simp only [saveInventorySnapshotMutation, bind_ok, orError_ok]
    refine ⟨tx.cut, read, ?_⟩
    rw [if_pos stale]
    simp only [bind_ok, orError_ok, insertSnapshot_ok]
    exact ⟨snapshot, recorded, _, ⟨fresh, rfl⟩, rfl⟩
  simp only [lockFirstSave, bind_ok, orError_ok]
  exact ⟨tx.cut, read, _, saved, rfl⟩

end Commits

-----------------------------------------------------------------------------------------
-- The invariant of a run
-----------------------------------------------------------------------------------------

/-- What an open transaction holds and has found out, as if it had looked just now. -/
structure Progressing (state : WorkspaceState)
    (id : Nat) (tx : SnapshotTransaction)
    : Prop where
  read : readCut env workspaceId tx.clusterId tx.delivery
    = some tx.cut
  cluster : state.locks (.cluster tx.clusterId) = some id
  work : ∀ work, tx.work = some work
    → state.locks (.snapshot tx.delivery.snapshotId) = some id
      ∧ tx.startWork env workspaceId state.store = .ok work
  diff : ∀ diff, tx.diff = some diff
    → ∃ prepared, tx.work = some (.accepted prepared)
        ∧ tx.compare env workspaceId prepared state.store = diff
  revision : ∀ revision, tx.revision = some revision
    → state.locks .workspace = some id
      ∧ state.store.lastRevision < revision.revisionId
      ∧ revision.revisionId ≤ state.revisionSequence
      ∧ revision
        = if tx.diff.isSome then
            tx.details.insertedLate tx.delivery.bindings.complete
              (tx.revisionRow workspaceId revision.revisionId)
          else
            tx.details.insertedFirst (tx.revisionRow workspaceId revision.revisionId)
  firstId : ∀ firstId, tx.firstId = some firstId
    → ∃ revision diff, tx.revision = some revision ∧ tx.diff = some diff
        ∧ state.store.lastVersion < firstId
        ∧ firstId + diff.desired.length ≤ state.versionSequence

structure LeftAlone (state next : WorkspaceState) (id : Nat)
    (tx : SnapshotTransaction)
    : Prop where
  locks : ∀ name, state.locks name = some id → next.locks name = some id
  cluster : SameCluster workspaceId tx.clusterId next.store state.store
  snapshots : state.locks (.snapshot tx.delivery.snapshotId) = some id
    → OtherSnapshots tx state.store next.store
  numbers : state.locks .workspace = some id
    → next.store.lastRevision = state.store.lastRevision
      ∧ next.store.lastVersion = state.store.lastVersion
  revisions : state.revisionSequence ≤ next.revisionSequence
  versions : state.versionSequence ≤ next.versionSequence

section Invariant

variable {env : Platform} {workspaceId : String} {state next : WorkspaceState}
  {id other : Nat} {tx : SnapshotTransaction}

theorem Progressing.leftAlone (progress : Progressing env workspaceId state id tx)
    (sound : state.store.Sound env) (sound_next : next.store.Sound env)
    (others : LeftAlone workspaceId state next id tx)
    : Progressing env workspaceId next id tx where
  read := progress.read
  cluster := others.locks _ progress.cluster
  work := by
    intro work done
    obtain ⟨held, started⟩ := progress.work work done
    exact ⟨others.locks _ held, startWork_kept others.cluster (others.snapshots held) started⟩
  diff := by
    intro diff done
    obtain ⟨prepared, work, compared⟩ := progress.diff diff done
    obtain ⟨held, started⟩ := progress.work _ work
    refine ⟨prepared, work, ?_⟩
    rcases startWork_ok.mp started with ⟨_, impossible, _⟩ | ⟨_, same, _, known⟩
    · cases impossible
    · cases same
      rw [compare_kept others.cluster progress.read known sound sound_next (others.snapshots held)]
      exact compared
  revision := by
    intro revision done
    obtain ⟨held, later, drawn, row⟩ := progress.revision revision done
    rw [(others.numbers held).1]
    exact ⟨others.locks _ held, later, drawn.trans others.revisions, row⟩
  firstId := by
    intro firstId done
    obtain ⟨revision, diff, numbered, compared, later, drawn⟩ := progress.firstId firstId done
    rw [(others.numbers (progress.revision revision numbered).1).2]
    exact ⟨revision, diff, numbered, compared, later, drawn.trans others.versions⟩

theorem SameCluster.refl (workspaceId clusterId : String) (store : InventoryStore)
    : SameCluster workspaceId clusterId store store := ⟨rfl, rfl, rfl⟩

/-- A lock that can be taken is not the lock of another transaction. -/
theorem lock_others {name taken : LockName} (free : state.canLock taken other = true)
    (different : id ≠ other) (held : state.locks name = some id)
    : (state.lock taken other).locks name = some id := by
  refine (update_of_ne ?_ _ _).trans held
  rintro rfl
  simp only [WorkspaceState.canLock, held, Option.all_some, decide_eq_true_eq] at free
  exact different free

theorem lock_self (taken : LockName)
    : (state.lock taken id).locks taken = some id := update_self ..

theorem lock_own {name : LockName} (taken : LockName) (held : state.locks name = some id)
    : (state.lock taken id).locks name = some id := by
  by_cases same : name = taken
  · rw [same]
    exact lock_self taken
  · exact (update_of_ne same _ _).trans held

theorem finish_others {name : LockName} (different : id ≠ other) (held : state.locks name = some id)
    : (state.finish other).locks name = some id := by
  simp [WorkspaceState.finish, held, different]

structure SerialWorkspace (env : Platform) (workspaceId : String) (state : WorkspaceState)
    (past : List CommittedSave)
    : Prop where
  serial : past.foldlM (lockFirstSave env workspaceId) ({}, [])
    = .ok (state.store, state.filterRevisions)
  sound : state.store.Sound env
  numbered : state.filterRevisions.map (·.revisionId) = past.filterMap (·.numbers.map Prod.fst)
  ordered : state.filterRevisions.Pairwise fun first second => first.revisionId < second.revisionId
  below : ∀ row ∈ state.filterRevisions, row.revisionId ≤ state.store.lastRevision
  revisions : state.store.lastRevision ≤ state.revisionSequence
  versions : state.store.lastVersion ≤ state.versionSequence
  progress : ∀ id tx, state.transactions id = some tx
    → Progressing env workspaceId state id tx

theorem serialWorkspace_empty (env : Platform) (workspaceId : String)
    : SerialWorkspace env workspaceId {} [] where
  serial := rfl
  sound := sound_empty env
  numbered := rfl
  ordered := Pairwise.nil
  below := by simp
  revisions := le_rfl
  versions := le_rfl
  progress := fun _ _ opened => absurd opened (Option.some_ne_none _).symm

variable {past : List CommittedSave}

section Quiet

variable (workspace : SerialWorkspace env workspaceId state past)
  (store : next.store = state.store) (rows : next.filterRevisions = state.filterRevisions)
  (revisions : state.revisionSequence ≤ next.revisionSequence)
  (versions : state.versionSequence ≤ next.versionSequence)
include store revisions versions

/-- Steps that leave the tables alone and only take free locks disturb nobody. -/
theorem LeftAlone.of_store
    (locks : ∀ name, state.locks name = some id → next.locks name = some id)
    : LeftAlone workspaceId state next id tx where
  locks := locks
  cluster := by
    rw [store]
    exact SameCluster.refl ..
  snapshots := fun _ known mem => .inl (store ▸ mem)
  numbers := fun _ => ⟨congrArg _ store, congrArg _ store⟩
  revisions := revisions
  versions := versions

include workspace rows

/-- A step of one transaction that leaves the tables alone. -/
theorem SerialWorkspace.quiet
    (others : ∀ other, other ≠ id → next.transactions other = state.transactions other
      ∧ ∀ name, state.locks name = some other → next.locks name = some other)
    (own : ∀ tx, next.transactions id = some tx
      → Progressing env workspaceId next id tx)
    : SerialWorkspace env workspaceId next past where
  serial := by
    rw [store, rows]
    exact workspace.serial
  sound := store ▸ workspace.sound
  numbered := rows ▸ workspace.numbered
  ordered := rows ▸ workspace.ordered
  below := by
    rw [store, rows]
    exact workspace.below
  revisions := by
    rw [store]
    exact workspace.revisions.trans revisions
  versions := by
    rw [store]
    exact workspace.versions.trans versions
  progress := by
    intro other tx opened
    by_cases same : other = id
    · subst same
      exact own tx opened
    · obtain ⟨untouched, locks⟩ := others other same
      rw [untouched] at opened
      exact (workspace.progress other tx opened).leftAlone workspace.sound
        (store ▸ workspace.sound) (LeftAlone.of_store store revisions versions locks)

/-- A step that only changes the transaction's own record. -/
theorem SerialWorkspace.keep
    (locks : ∀ other, other ≠ id → ∀ name, state.locks name = some other
      → next.locks name = some other)
    (kept : next.transactions = update state.transactions id (some tx))
    (own : Progressing env workspaceId next id tx)
    : SerialWorkspace env workspaceId next past := by
  refine workspace.quiet store rows revisions versions
    (fun other different => ⟨?_, locks other different⟩) (fun known opened => ?_)
  · rw [kept]
    exact update_of_ne different ..
  · rw [kept, update_self] at opened
    exact Option.some.inj opened ▸ own

end Quiet

section Steps

variable (workspace : SerialWorkspace env workspaceId state past)
include workspace

theorem SerialWorkspace.begins {clusterId : String} {delivery : Delivery} {lateLock : Bool}
    {cut : SnapshotCut} (read : readCut env workspaceId clusterId delivery = some cut)
    (free : state.canLock (.cluster clusterId) id = true)
    : SerialWorkspace env workspaceId
        ((state.lock (.cluster clusterId) id).keep id { clusterId, delivery, lateLock, cut })
        past := by
  refine workspace.keep rfl rfl le_rfl le_rfl
    (fun other different name held => lock_others free different held) rfl ?_
  exact ⟨read, lock_self _, nofun, nofun, nofun, nofun⟩

variable (opened : state.transactions id = some tx)
include opened

theorem SerialWorkspace.reads {work : SnapshotWork} (unread : tx.work = none)
    (free : state.canLock (.snapshot tx.delivery.snapshotId) id = true)
    (started : tx.startWork env workspaceId state.store = .ok work)
    : SerialWorkspace env workspaceId
        ((state.lock (.snapshot tx.delivery.snapshotId) id).keep id
          { tx with work := some work })
        past := by
  have progress := workspace.progress id tx opened
  refine workspace.keep rfl rfl le_rfl le_rfl
    (fun other different name held => lock_others free different held) rfl ?_
  exact { progress with
    cluster := lock_own (.snapshot tx.delivery.snapshotId) progress.cluster
    work := fun found same => ⟨lock_self _, Option.some.inj same ▸ started⟩
    diff := by
      intro diff done
      obtain ⟨prepared, work, _⟩ := progress.diff diff done
      rw [unread] at work
      cases work
    revision := by
      intro revision done
      obtain ⟨held, known⟩ := progress.revision revision done
      exact ⟨lock_own (.snapshot tx.delivery.snapshotId) held, known⟩ }

theorem SerialWorkspace.compares {prepared : PreparedCut}
    (work : tx.work = some (.accepted prepared)) (undone : tx.diff = none)
    : SerialWorkspace env workspaceId (state.keep id { tx with
          diff := some (tx.compare env workspaceId prepared state.store)
          revision := tx.revision.map (tx.details.updated tx.delivery.bindings.complete) })
        past := by
  have progress := workspace.progress id tx opened
  refine workspace.keep rfl rfl le_rfl le_rfl (fun _ _ _ held => held) rfl ?_
  exact { progress with
    diff := fun diff done => ⟨prepared, work, Option.some.inj done⟩
    revision := by
      intro revision done
      obtain ⟨inserted, numbered, rfl⟩ := Option.map_eq_some_iff.mp done
      obtain ⟨held, later, drawn, row⟩ := progress.revision inserted numbered
      refine ⟨held, later, drawn, ?_⟩
      rw [undone] at row
      exact congrArg (tx.details.updated tx.delivery.bindings.complete) row
    firstId := by
      intro firstId done
      obtain ⟨_, _, _, compared, _⟩ := progress.firstId firstId done
      rw [undone] at compared
      cases compared }

theorem SerialWorkspace.locks (free : state.canLock .workspace id = true)
    : SerialWorkspace env workspaceId (state.lock .workspace id) past := by
  refine workspace.quiet rfl rfl le_rfl le_rfl
    (fun other different => ⟨rfl, fun name held => lock_others free different held⟩)
    (fun known found => ?_)
  obtain rfl := Option.some.inj (opened.symm.trans found)
  exact (workspace.progress id tx opened).leftAlone workspace.sound workspace.sound
    (LeftAlone.of_store rfl le_rfl le_rfl fun name held => lock_own _ held)

theorem SerialWorkspace.allocates (skipped : Nat) (held : state.locks .workspace = some id)
    (unnumbered : tx.revision = none) (turn : tx.lateLock = tx.diff.isSome)
    : SerialWorkspace env workspaceId (allocateStep workspaceId state id tx skipped) past := by
  have progress := workspace.progress id tx opened
  have last := workspace.revisions
  have guard : (state.locks .workspace = some id && tx.revision.isNone
      && tx.lateLock = tx.diff.isSome) = true := by
    simp [held, unnumbered, turn]
  rw [allocateStep, if_pos guard]
  refine workspace.keep rfl rfl ?_ le_rfl (fun _ _ _ kept => kept) rfl ?_
  · change state.revisionSequence ≤ state.revisionSequence + skipped + 1
    omega
  exact { progress with
    revision := by
      intro revision done
      have later : state.store.lastRevision < state.revisionSequence + skipped + 1 := by omega
      cases done
      rw [← turn]
      by_cases late : tx.lateLock = true
      · simp only [if_pos late]
        exact ⟨held, later, le_rfl, rfl⟩
      · simp only [if_neg late]
        exact ⟨held, later, le_rfl, rfl⟩
    firstId := by
      intro firstId done
      obtain ⟨_, _, numbered, _⟩ := progress.firstId firstId done
      rw [unnumbered] at numbered
      cases numbered }

variable {revision : FilterRevision}

theorem SerialWorkspace.writes {diff : ProjectionDiff}
    (skipped : Nat) (compared : tx.diff = some diff)
    (numbered : tx.revision = some revision) (unwritten : tx.firstId = none)
    : SerialWorkspace env workspaceId (writeStep state id tx skipped) past := by
  have progress := workspace.progress id tx opened
  have last := workspace.versions
  have written : writeStep state id tx skipped
      = { state.keep id { tx with
            firstId := some (state.versionSequence + skipped + 1) } with
          versionSequence :=
            state.versionSequence + skipped + 1 + diff.desired.length } := by
    simp [writeStep, compared, numbered, unwritten]
  rw [written]
  refine workspace.keep rfl rfl le_rfl ?_ (fun _ _ _ kept => kept) rfl ?_
  · change state.versionSequence ≤ state.versionSequence + skipped + 1 + diff.desired.length
    omega
  exact { progress with
    firstId := by
      intro firstId done
      cases done
      refine ⟨revision, diff, numbered, compared, ?_, le_rfl⟩
      exact Nat.lt_succ_of_le (last.trans (Nat.le_add_right ..)) }

omit opened in
theorem SerialWorkspace.ends : SerialWorkspace env workspaceId (state.finish id) past := by
  refine workspace.quiet rfl rfl le_rfl le_rfl (fun other different =>
      ⟨update_of_ne different .., fun name held => finish_others different held⟩)
    (fun known found => ?_)
  have gone : (state.finish id).transactions id = none := update_self ..
  rw [gone] at found
  cases found

omit opened in
/-- A commit: the save is done serially, and it does not disturb the others. -/
theorem SerialWorkspace.publishes {store : InventoryStore} {rows : List FilterRevision}
    {save : CommittedSave}
    (saved : lockFirstSave env workspaceId (state.store, state.filterRevisions) save
      = .ok (store, rows))
    (sound : store.Sound env)
    (numbered : rows.map (·.revisionId)
      = state.filterRevisions.map (·.revisionId) ++ (save.numbers.map Prod.fst).toList)
    (ordered : rows.Pairwise fun first second => first.revisionId < second.revisionId)
    (below : ∀ row ∈ rows, row.revisionId ≤ store.lastRevision)
    (revisions : store.lastRevision ≤ state.revisionSequence)
    (versions : store.lastVersion ≤ state.versionSequence)
    (others : ∀ other known, other ≠ id → state.transactions other = some known
      → LeftAlone workspaceId state
          { state.finish id with store, filterRevisions := rows } other known)
    : SerialWorkspace env workspaceId
        { state.finish id with store, filterRevisions := rows } (past ++ [save]) where
  serial := by
    rw [foldlM_append, workspace.serial]
    change (lockFirstSave env workspaceId (state.store, state.filterRevisions) save
      >>= fun tables => [].foldlM (lockFirstSave env workspaceId) tables) = _
    rw [saved]
    rfl
  sound := sound
  numbered := by
    rw [numbered, workspace.numbered]
    cases found : save.numbers <;> simp [found]
  ordered := ordered
  below := below
  revisions := revisions
  versions := versions
  progress := by
    intro other known found
    obtain ⟨different, before⟩ := of_update_none found
    exact (workspace.progress other known before).leftAlone workspace.sound sound
      (others other known different before)

variable {known : SnapshotTransaction}

/-- Two open transactions are of two clusters. -/
theorem SerialWorkspace.clusters_ne (different : other ≠ id)
    (found : state.transactions other = some known)
    : tx.clusterId ≠ known.clusterId := by
  intro same
  have mine := (workspace.progress id tx opened).cluster
  have theirs := (workspace.progress other known found).cluster
  rw [same, theirs] at mine
  exact different (Option.some.inj mine)

omit workspace opened in
/-- The recorded snapshot of a commit is not that of another open transaction. -/
theorem snapshots_ne {snapshot : SnapshotRow}
    {status : String} {next : InventoryStore} (different : other ≠ id)
    (recorded : storeSnapshot env workspaceId tx.clusterId tx.delivery tx.cut status
      = some snapshot)
    (held : state.locks (.snapshot tx.delivery.snapshotId) = some id)
    (snapshots : next.snapshots = state.store.snapshots ++ [snapshot])
    (theirs : state.locks (.snapshot known.delivery.snapshotId) = some other)
    : OtherSnapshots known state.store next := by
  intro row mem
  rw [snapshots] at mem
  rcases mem_append.mp mem with before | last
  · exact .inl before
  · right
    rw [mem_singleton.mp last, storeSnapshot_id recorded]
    intro same
    rw [same, theirs] at held
    exact different (Option.some.inj held)

theorem SerialWorkspace.commitsStale {snapshot : SnapshotRow}
    (work : tx.work = some (.stale snapshot))
    : SerialWorkspace env workspaceId (commitStale state id tx snapshot).1
        (past ++ (commitStale state id tx snapshot).2) := by
  have progress := workspace.progress id tx opened
  obtain ⟨held, started⟩ := progress.work _ work
  rcases startWork_ok.mp started with ⟨_, same, stale, recorded, fresh⟩ | ⟨_, impossible, _⟩
  case inr => cases impossible
  cases same
  refine workspace.publishes (lockFirstSave_stale progress.read stale recorded fresh)
    (workspace.sound.record snapshot) (append_nil _).symm workspace.ordered workspace.below
    workspace.revisions workspace.versions ?_
  intro other known different found
  obtain ⟨ofWorkspace, ofCluster, _⟩ := storeSnapshot_fields recorded
  exact {
    locks := fun name kept => finish_others different kept
    cluster := {
      snapshots := sameCluster_record
        (fun both => workspace.clusters_ne opened different found both.2)
        ⟨ofWorkspace, ofCluster⟩
      resources := rfl
      versions := rfl }
    snapshots := fun theirs => snapshots_ne different recorded held rfl theirs
    numbers := fun _ => ⟨rfl, rfl⟩
    revisions := le_rfl
    versions := le_rfl }

theorem SerialWorkspace.commitsAccepted {prepared : PreparedCut} {diff : ProjectionDiff}
    {firstId : Nat} (work : tx.work = some (.accepted prepared))
    (compared : tx.diff = some diff) (numbered : tx.revision = some revision)
    (written : tx.firstId = some firstId)
    (correlates
      : tx.correlates env workspaceId prepared diff revision.revisionId firstId
        = true)
    : SerialWorkspace env workspaceId (state.publish id
          (tx.published env workspaceId prepared diff revision.revisionId firstId
            state.store) revision)
        (past ++ [tx.save (some (revision.revisionId, firstId))]) := by
  have progress := workspace.progress id tx opened
  obtain ⟨held, started⟩ := progress.work _ work
  rcases startWork_ok.mp started with ⟨_, impossible, _⟩ | ⟨_, same, current, known⟩
  case inl => cases impossible
  cases same
  obtain ⟨_, same, found⟩ := progress.diff diff compared
  rw [work] at same
  cases same
  obtain ⟨locked, later, drawn, row⟩ := progress.revision revision numbered
  obtain ⟨_, _, _, same, laterVersion, drawnVersion⟩ := progress.firstId firstId written
  rw [compared] at same
  cases same
  rw [compared, Option.isSome_some, if_pos rfl] at row
  have below : ∀ held ∈ state.filterRevisions, held.revisionId < revision.revisionId :=
    fun held mem => lt_of_le_of_lt (workspace.below held mem) later
  have saved := lockFirstSave_accepted progress.read current known found later laterVersion
    correlates (fun held mem => Nat.ne_of_lt (below held mem))
  rw [← row] at saved
  obtain ⟨rows, accepted⟩ := published_by known found later laterVersion correlates
  have read : readCut env workspaceId tx.clusterId
        (tx.renumbered state.store revision.revisionId firstId).delivery
      = some tx.cut := progress.read
  refine workspace.publishes saved (accepted.sound_next workspace.sound read) ?_ ?_ ?_ drawn
    drawnVersion ?_
  · simp [SnapshotTransaction.save]
  · refine pairwise_append.mpr ⟨workspace.ordered, pairwise_singleton .., ?_⟩
    intro held mem last same
    rw [mem_singleton.mp same]
    exact below held mem
  · intro held mem
    rcases mem_append.mp mem with before | last
    · exact le_of_lt (below held before)
    · rw [mem_singleton.mp last]
      exact le_rfl
  · intro other against different opened_
    exact {
      locks := fun name kept => finish_others different kept
      cluster := accepted.sameCluster workspace.sound read
        (fun both => workspace.clusters_ne opened different opened_ both.2)
      snapshots := fun theirs => snapshots_ne different known.recorded held rfl theirs
      numbers := by
        intro theirs
        rw [theirs] at locked
        exact absurd (Option.some.inj locked) different
      revisions := le_rfl
      versions := le_rfl }

end Steps

theorem SerialWorkspace.step (workspace : SerialWorkspace env workspaceId state past)
    (taken : Nat × TransactionAction)
    : SerialWorkspace env workspaceId
        ((workspaceMachine env workspaceId).step state taken).1
        (past ++ ((workspaceMachine env workspaceId).step state taken).2) := by
  have moves := workspaceStep_moves env workspaceId state taken
  generalize (workspaceMachine env workspaceId).step state taken = next at moves ⊢
  cases moves with
  | waits => exact (append_nil past).symm ▸ workspace
  | begins _ read free => exact (append_nil past).symm ▸ workspace.begins read free
  | reads opened unread free started =>
    exact (append_nil past).symm ▸ workspace.reads opened unread free started
  | compares opened work undone =>
    exact (append_nil past).symm ▸ workspace.compares opened work undone
  | locks opened free => exact (append_nil past).symm ▸ workspace.locks opened free
  | allocates skipped opened held unnumbered turn =>
    exact (append_nil past).symm
      ▸ workspace.allocates opened skipped held unnumbered turn
  | writes skipped opened compared numbered unwritten =>
    exact (append_nil past).symm
      ▸ workspace.writes opened skipped compared numbered unwritten
  | ends => exact (append_nil past).symm ▸ workspace.ends
  | commitsStale opened work => exact workspace.commitsStale opened work
  | commitsAccepted opened work compared numbered written correlates =>
    exact workspace.commitsAccepted opened work compared numbered written correlates

theorem serialWorkspace_run (env : Platform) (workspaceId : String)
    (actions : List (Nat × TransactionAction))
    : SerialWorkspace env workspaceId ((workspaceMachine env workspaceId).run {} actions)
        ((workspaceMachine env workspaceId).trace {} actions) :=
  Machine.trace_invariant (fun taken workspace => workspace.step taken)
    (serialWorkspace_empty env workspaceId) actions

end Invariant

-----------------------------------------------------------------------------------------
-- Answers at a revision
-----------------------------------------------------------------------------------------

def VersionRow.shownAt (revision : Nat) (version : VersionRow) : VersionRow :=
  { version with validTo := version.validTo.filter (· ≤ revision) }

/-- What a reader of some clusters is answered at a revision. -/
def answerAt (store : InventoryStore) (workspaceId : String) (clusterIds : List String)
    (revision : Nat)
    : List RevisionRow × List VersionRow :=
  let latest := latestFilterRevisions store.revisions workspaceId clusterIds revision
  (latest,
    (inventoryVersionsAtRevision store.versions latest workspaceId clusterIds revision).map
      (·.shownAt revision))

section Answers

variable {env : Platform} {workspaceId : String} {clusterIds : List String}
  {revision : Nat} {state : WorkspaceState} {past : List CommittedSave} {closes : VersionRow → Bool}

/-- Closing a version later changes nothing that is shown. -/
theorem shownAt_superseded {later : Nat} (before : revision < later) (version : VersionRow)
    : (versionValidity.superseded later closes version).shownAt revision
      = version.shownAt revision := by
  unfold Validity.superseded
  split
  next both =>
    have opened : version.validTo = none := both.1
    simp [VersionRow.shownAt, versionValidity, opened, before]
  · rfl

theorem latestFilterRevisions_append {revisions : List RevisionRow} {row : RevisionRow}
    (later : revision < row.revisionId)
    : latestFilterRevisions (revisions ++ [row]) workspaceId clusterIds revision
      = latestFilterRevisions revisions workspaceId clusterIds revision := by
  have excluded (clusterId : String) : (revisions ++ [row]).filter (fun row =>
        row.workspaceId = workspaceId ∧ row.clusterId = clusterId ∧ row.revisionId ≤ revision)
      = revisions.filter (fun row =>
          row.workspaceId = workspaceId ∧ row.clusterId = clusterId
          ∧ row.revisionId ≤ revision) := by
    simp [Nat.not_le.mpr later]
  unfold latestFilterRevisions
  simp only [excluded]

/-- What is read before a revision is what was read before it, closed where it was superseded. -/
theorem inventoryVersionsAtRevision_advance {later : Nat}
    {added versions : List VersionRow} {rows : List RevisionRow} (before : revision < later)
    (starts : ∀ version ∈ added, versionValidity.validFrom version = later)
    : inventoryVersionsAtRevision (versionValidity.advance later closes added versions) rows
        workspaceId clusterIds revision
      = (inventoryVersionsAtRevision versions rows workspaceId clusterIds revision).map
          (versionValidity.superseded later closes) := by
  have apart (versions : List VersionRow) : versions.filter (fun version =>
        version.workspaceId = workspaceId ∧ version.clusterId ∈ clusterIds
        ∧ versionValidity.ValidAt revision version)
      = (versions.filter (versionValidity.ValidAt revision ·)).filter (fun version =>
          version.workspaceId = workspaceId ∧ version.clusterId ∈ clusterIds) := by
    rw [filter_filter]
    refine filter_congr fun version _ => ?_
    rw [← Bool.decide_and]
    exact decide_eq_decide.mpr and_assoc.symm
  have workspace (version : VersionRow)
      : (versionValidity.superseded later closes version).workspaceId = version.workspaceId := by
    unfold Validity.superseded
    split <;> rfl
  have cluster (version : VersionRow)
      : (versionValidity.superseded later closes version).clusterId = version.clusterId := by
    unfold Validity.superseded
    split <;> rfl
  unfold inventoryVersionsAtRevision
  rw [apart, apart, Validity.validAt_advance before starts, filter_map, flatMap_map,
    map_flatMap]
  simp only [comp_def, workspace, cluster, map_map]

/-- A commit with a later revision changes no answer. -/
theorem answerAt_published {tx : SnapshotTransaction} {prepared : PreparedCut}
    {diff : ProjectionDiff} {store : InventoryStore} {revisionId firstId : Nat}
    (before : revision < revisionId)
    : answerAt (tx.published env workspaceId prepared diff revisionId firstId store)
        workspaceId clusterIds revision
      = answerAt store workspaceId clusterIds revision := by
  have latest : latestFilterRevisions
        (tx.published env workspaceId prepared diff revisionId firstId
          store).revisions workspaceId clusterIds revision
      = latestFilterRevisions store.revisions workspaceId clusterIds revision :=
    latestFilterRevisions_append before
  rw [answerAt, latest]
  refine Prod.ext rfl ?_
  have versions : (tx.published env workspaceId prepared diff revisionId firstId
        store).versions
      = versionValidity.advance revisionId
          (fun version => decide (version.versionId ∈ diff.closeIds))
          (insertedVersions env (tx.projected workspaceId) revisionId firstId
            diff.desired) store.versions := rfl
  dsimp only
  rw [versions, inventoryVersionsAtRevision_advance before
    fun version mem => (mem_insertedVersions mem).1.starts, map_map]
  refine map_congr_left fun version _ => ?_
  exact shownAt_superseded before version

/-- No step changes the answer at a committed revision. -/
theorem SerialWorkspace.answer_step
    (workspace : SerialWorkspace env workspaceId state past)
    (taken : Nat × TransactionAction) (committed : revision ≤ state.store.lastRevision)
    (clusterIds : List String)
    : let next := ((workspaceMachine env workspaceId).step state taken).1
      revision ≤ next.store.lastRevision
      ∧ answerAt next.store workspaceId clusterIds revision
        = answerAt state.store workspaceId clusterIds revision := by
  have moves := workspaceStep_moves env workspaceId state taken
  generalize (workspaceMachine env workspaceId).step state taken = next at moves ⊢
  cases moves with
  | waits | begins | reads | compares | locks | ends => exact ⟨committed, rfl⟩
  | allocates skipped =>
    dsimp only
    rw [allocateStep_store]
    exact ⟨committed, rfl⟩
  | writes skipped =>
    dsimp only
    rw [writeStep_store]
    exact ⟨committed, rfl⟩
  | commitsStale => exact ⟨committed, rfl⟩
  | commitsAccepted opened work compared numbered written correlates =>
    have later := ((workspace.progress _ _ opened).revision _ numbered).2.1
    have before := lt_of_le_of_lt committed later
    exact ⟨le_of_lt before, answerAt_published before⟩

theorem SerialWorkspace.answer_run
    (workspace : SerialWorkspace env workspaceId state past)
    (actions : List (Nat × TransactionAction)) (committed : revision ≤ state.store.lastRevision)
    (clusterIds : List String)
    : answerAt ((workspaceMachine env workspaceId).run state actions).store workspaceId
        clusterIds revision
      = answerAt state.store workspaceId clusterIds revision := by
  induction actions generalizing state past with
  | nil => rfl
  | cons taken rest ih =>
    obtain ⟨still, same⟩ := workspace.answer_step taken committed clusterIds
    exact (ih (workspace.step taken) still).trans same

end Answers

-----------------------------------------------------------------------------------------
-- The guarantee of the late-lock path
-----------------------------------------------------------------------------------------

structure Gapless (state : WorkspaceState) : Prop where
  ended : ∀ row ∈ state.filterRevisions, ∀ id tx revision,
      state.transactions id = some tx → tx.revision = some revision
      → row.revisionId < revision.revisionId
  ahead : ∀ row ∈ state.filterRevisions, row.revisionId ≤ state.revisionSequence

variable (actions : List (Nat × TransactionAction))

structure LateLockSerial
    : Prop where
  gapless : Gapless ((workspaceMachine env workspaceId).run {} actions)
  fixed : ∀ later, ∀ row ∈ ((workspaceMachine env workspaceId).run {} actions).filterRevisions,
      ∀ revision ≤ row.revisionId, ∀ clusterIds,
        answerAt ((workspaceMachine env workspaceId).run {} (actions ++ later)).store
            workspaceId clusterIds revision
          = answerAt ((workspaceMachine env workspaceId).run {} actions).store
              workspaceId clusterIds revision
  serial : ((workspaceMachine env workspaceId).trace {} actions).foldlM
      (lockFirstSave env workspaceId) ({}, [])
    = .ok (((workspaceMachine env workspaceId).run {} actions).store,
        ((workspaceMachine env workspaceId).run {} actions).filterRevisions)
  ordered : (((workspaceMachine env workspaceId).trace {} actions).filterMap
      (·.numbers.map Prod.fst)).Pairwise (· < ·)

/-- Snapshots that lock the workspace late leave what lock-first snapshots leave one after the
other in the order of their revisions, and a committed revision never changes its answer.
-/
theorem late_lock_serial : LateLockSerial env workspaceId actions := by
  have workspace := serialWorkspace_run env workspaceId actions
  exact {
    gapless := {
      ended := by
        intro row mem id tx revision opened numbered
        exact lt_of_le_of_lt (workspace.below row mem)
          ((workspace.progress id tx opened).revision revision numbered).2.1
      ahead := fun row mem => (workspace.below row mem).trans workspace.revisions }
    fixed := by
      intro later row mem revision upTo clusterIds
      rw [Machine.run_append]
      exact workspace.answer_run later (upTo.trans (workspace.below row mem)) clusterIds
    serial := workspace.serial
    ordered := by
      rw [← workspace.numbered, pairwise_map]
      exact workspace.ordered }

/-- Whatever transactions interleave, an identity has one row, and the open versions describe the
living rows, one version each.
-/
theorem living_rows_projected (env : Platform) (workspaceId : String)
    (actions : List (Nat × TransactionAction))
    : let store := ((workspaceMachine env workspaceId).run {} actions).store
      (∀ row ∈ store.resources, ∀ other ∈ store.resources,
        row.identity = other.identity → row = other)
      ∧ ((openVersions store.versions).map (·.inventoryKey)).Nodup
      ∧ (∀ row ∈ store.resources, row.deleted = false
        → ∃ version ∈ openVersions store.versions, Describes env version row)
      ∧ ∀ version ∈ openVersions store.versions,
        ∃ row ∈ store.resources, row.deleted = false ∧ Describes env version row := by
  have sound := (serialWorkspace_run env workspaceId actions).sound
  refine ⟨fun row mem other mem' same => sound.rowKeys.eq_of_key mem mem' ?_,
    sound.versions.openKeys, sound.described, sound.live⟩
  rw [sound.fits row mem, sound.fits other mem', same]

end K8sClue.Inventory
