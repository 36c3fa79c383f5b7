import K8sClue.Inventory.StoreSteps

/-! The part of the tables that belongs to one cluster.
A snapshot reads and writes the rows of its own cluster only: what it reads does not change when
a snapshot of another cluster is saved.
-/

namespace K8sClue.Inventory

open Python Timeline Library List

variable (workspaceId clusterId : String)

def SnapshotRow.ofCluster (row : SnapshotRow) : Bool :=
  row.workspaceId = workspaceId && row.clusterId = clusterId

def ResourceRow.ofCluster (row : ResourceRow) : Bool :=
  row.workspaceId = workspaceId && row.clusterId = clusterId

def VersionRow.ofCluster (version : VersionRow) : Bool :=
  version.workspaceId = workspaceId && version.clusterId = clusterId

structure SameCluster (left right : InventoryStore)
    : Prop where
  snapshots : left.snapshots.filter (SnapshotRow.ofCluster workspaceId clusterId)
    = right.snapshots.filter (SnapshotRow.ofCluster workspaceId clusterId)
  resources : left.resources.filter (ResourceRow.ofCluster workspaceId clusterId)
    = right.resources.filter (ResourceRow.ofCluster workspaceId clusterId)
  versions : left.versions.filter (VersionRow.ofCluster workspaceId clusterId)
    = right.versions.filter (VersionRow.ofCluster workspaceId clusterId)

section Reads

variable {env : Platform} {workspaceId clusterId : String} {left right : InventoryStore}
  (same : SameCluster workspaceId clusterId left right)
include same

theorem SameCluster.isStale (observedAt : Int)
    : left.isStale workspaceId clusterId observedAt
      = right.isStale workspaceId clusterId observedAt := by
  have parts (store : InventoryStore) : store.isStale workspaceId clusterId observedAt
      = (store.snapshots.filter (SnapshotRow.ofCluster workspaceId clusterId)).any
          (fun row => observedAt < row.collectedAt) := by
    rw [InventoryStore.isStale, any_filter]
    congr 1
    simp [SnapshotRow.ofCluster, Bool.and_assoc]
  rw [parts left, parts right, same.snapshots]

theorem SameCluster.previousRows
    : left.previousRows workspaceId clusterId = right.previousRows workspaceId clusterId := by
  have parts (store : InventoryStore) : store.liveRows workspaceId clusterId
      = (store.resources.filter (ResourceRow.ofCluster workspaceId clusterId)).filter
          (fun row => row.deleted = false) := by
    rw [filter_filter]
    refine filter_congr fun row _ => ?_
    simp [ResourceRow.ofCluster, Bool.and_comm, Bool.and_left_comm]
  unfold InventoryStore.previousRows
  rw [parts left, parts right, same.resources]

theorem SameCluster.previousBatch (cut : SnapshotCut)
    : left.previousBatch env workspaceId clusterId cut
      = right.previousBatch env workspaceId clusterId cut := by
  have parts (rows : List SnapshotRow) : rows.filter (fun row =>
        row.Accepted workspaceId clusterId && row.eventCaptureObservedAt.isSome)
      = (rows.filter (SnapshotRow.ofCluster workspaceId clusterId)).filter (fun row =>
          row.status ≠ ignoredStale && row.eventCaptureObservedAt.isSome) := by
    rw [filter_filter]
    refine filter_congr fun row _ => ?_
    rw [Bool.eq_iff_iff]
    simp only [Bool.and_eq_true, decide_eq_true_eq, SnapshotRow.ofCluster]
    unfold SnapshotRow.Accepted
    tauto
  unfold InventoryStore.previousBatch latestCompleteKubernetesEventBatch
  rw [parts left.snapshots, parts right.snapshots, same.snapshots]

theorem SameCluster.activeRows {cut : ProjectedCut} (workspace : cut.workspaceId = workspaceId)
    (cluster : cut.clusterId = clusterId)
    : cut.activeRows left.versions = cut.activeRows right.versions := by
  have parts (versions : List VersionRow) : versions.filter (fun version =>
        version.workspaceId = cut.workspaceId ∧ version.clusterId = cut.clusterId
        ∧ versionValidity.IsOpen version)
      = (versions.filter (VersionRow.ofCluster workspaceId clusterId)).filter
          (fun version => versionValidity.IsOpen version) := by
    rw [filter_filter]
    simp [VersionRow.ofCluster, workspace, cluster, Bool.and_comm, Bool.and_assoc]
  unfold ProjectedCut.activeRows
  rw [parts left.versions, parts right.versions, same.versions]

end Reads

section Others

variable {env : Platform} {store next : InventoryStore} {workspaceId clusterId : String}
  {delivery : Delivery} {cut : SnapshotCut} {snapshot : SnapshotRow} {rows : List ResourceRow}
  {workspace cluster : String}

/-- A recorded snapshot of another cluster adds nothing to the cluster. -/
theorem sameCluster_record (other : ¬ (workspaceId = workspace ∧ clusterId = cluster))
    (ofOther : snapshot.workspaceId = workspaceId ∧ snapshot.clusterId = clusterId)
    : (store.snapshots ++ [snapshot]).filter (SnapshotRow.ofCluster workspace cluster)
      = store.snapshots.filter (SnapshotRow.ofCluster workspace cluster) := by
  have outside : SnapshotRow.ofCluster workspace cluster snapshot = false := by
    rw [← Bool.not_eq_true]
    intro inside
    obtain ⟨here, there⟩ := by simpa [SnapshotRow.ofCluster] using inside
    exact other ⟨ofOther.1.symm.trans here, ofOther.2.symm.trans there⟩
  simp [outside]

/-- Marking rows of a cluster as deleted leaves the others. -/
theorem filter_markDeleted (snapshotId : String) (missing : List String)
    (resources : List ResourceRow)
    : (markDeleted workspaceId clusterId snapshotId cut missing resources).filter
        (ResourceRow.ofCluster workspace cluster)
      = markDeleted workspaceId clusterId snapshotId cut missing
          (resources.filter (ResourceRow.ofCluster workspace cluster)) := by
  rw [markDeleted_eq, markDeleted_eq, filter_map]
  congr 1
  refine filter_congr fun row _ => ?_
  dsimp only [Function.comp]
  split <;> rfl

theorem markDeleted_other (other : ¬ (workspaceId = workspace ∧ clusterId = cluster))
    (snapshotId : String) (missing : List String) (resources : List ResourceRow)
    : markDeleted workspaceId clusterId snapshotId cut missing
        (resources.filter (ResourceRow.ofCluster workspace cluster))
      = resources.filter (ResourceRow.ofCluster workspace cluster) := by
  rw [markDeleted_eq]
  refine (map_congr_left fun row mem => ?_).trans (map_id _)
  obtain ⟨-, inside⟩ := mem_filter.mp mem
  obtain ⟨here, there⟩ := by simpa [ResourceRow.ofCluster] using inside
  refine if_neg ?_
  intro marked
  simp only [markedDeleted, Bool.and_eq_true, decide_eq_true_eq] at marked
  exact other ⟨marked.1.1.1.1.1.symm.trans here, marked.1.1.1.1.2.symm.trans there⟩

variable (sound : store.Sound env)
  (read : readCut env workspaceId clusterId delivery = some cut)
  (accepted : WrittenBy env store workspaceId clusterId delivery cut snapshot rows next)
  (other : ¬ (workspaceId = workspace ∧ clusterId = cluster))
include sound accepted other

theorem WrittenBy.versions_other
    : next.versions.filter (VersionRow.ofCluster workspace cluster)
      = store.versions.filter (VersionRow.ofCluster workspace cluster) := by
  have foreign {version : VersionRow}
      (own : (cut.projected workspaceId clusterId delivery).owns version = true)
      : VersionRow.ofCluster workspace cluster version = false := by
    obtain ⟨ownWorkspace, ownCluster⟩ := of_decide_eq_true own
    rw [← Bool.not_eq_true]
    intro inside
    obtain ⟨here, there⟩ := by simpa [VersionRow.ofCluster] using inside
    exact other ⟨ownWorkspace.symm.trans here, ownCluster.symm.trans there⟩
  rw [accepted.versions]
  unfold versionsAfter writeProjectionVersions Validity.advance
  generalize computed : computeProjectionDiff env
    (cut.projected workspaceId clusterId delivery) next.resources store.versions = diff
  have none_inserted : (insertedVersions env (cut.projected workspaceId clusterId delivery)
      (nextRevision store delivery) (firstVersion store delivery) diff.desired).filter
      (VersionRow.ofCluster workspace cluster) = [] := by
    rw [filter_eq_nil_iff]
    intro version mem inside
    rw [foreign (mem_insertedVersions mem).1.owned] at inside
    cases inside
  have stays (closes : VersionRow → Bool) : VersionRow.ofCluster workspace cluster
        ∘ versionValidity.superseded (nextRevision store delivery) closes
      = VersionRow.ofCluster workspace cluster := by
    funext version
    dsimp only [Function.comp]
    unfold Validity.superseded
    split <;> rfl
  rw [filter_append, none_inserted, append_nil, filter_map, stays]
  refine (map_congr_left fun version mem => ?_).trans (map_id _)
  obtain ⟨held, inside⟩ := mem_filter.mp mem
  -- a version that the snapshot closes is one of its own cluster
  refine Validity.superseded_of_kept ?_
  rintro ⟨opened, closed⟩
  have active : version ∈ openVersions store.versions :=
    mem_filter.mpr ⟨held, decide_eq_true opened⟩
  rw [← computed] at closed
  have own := ((mem_closeIds sound.versions active).mp (of_decide_eq_true closed)).1
  rw [foreign own] at inside
  cases inside

include read

theorem WrittenBy.resources_other
    : next.resources.filter (ResourceRow.ofCluster workspace cluster)
      = store.resources.filter (ResourceRow.ofCluster workspace cluster) := by
  have outside {row : ResourceRow}
      (own : row.workspaceId = workspaceId ∧ row.clusterId = clusterId)
      : ResourceRow.ofCluster workspace cluster row = false := by
    rw [← Bool.not_eq_true]
    intro inside
    obtain ⟨here, there⟩ := by simpa [ResourceRow.ofCluster] using inside
    exact other ⟨own.1.symm.trans here, own.2.symm.trans there⟩
  have upserted : (Keyed.putAll (·.inventoryKey) ResourceRow.updated store.resources
        rows).filter (ResourceRow.ofCluster workspace cluster)
      = if false then
          Keyed.putAll (·.inventoryKey) ResourceRow.updated
            (store.resources.filter (ResourceRow.ofCluster workspace cluster)) rows
        else
          store.resources.filter (ResourceRow.ofCluster workspace cluster) := by
    refine Keyed.filter_putAll (fun _ _ => rfl) ?_ ?_
    · intro row written
      obtain ⟨made, _⟩ := rows_of sound read accepted.written written
      exact outside ⟨made.workspace, made.cluster⟩
    · intro old before row written same
      exact outside (rows_owned sound read accepted.written before written same)
  rw [accepted.resources, filter_markDeleted, upserted, if_neg Bool.false_ne_true,
    markDeleted_other other]

/-- An accepted snapshot leaves the rows of the other clusters. -/
theorem WrittenBy.sameCluster : SameCluster workspace cluster next store where
  snapshots := by
    obtain ⟨ofWorkspace, ofCluster, -⟩ := storeSnapshot_fields accepted.recorded
    rw [accepted.snapshots]
    exact sameCluster_record other ⟨ofWorkspace, ofCluster⟩
  resources := accepted.resources_other sound read other
  versions := accepted.versions_other sound other

end Others

end K8sClue.Inventory
