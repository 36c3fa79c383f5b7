import K8sClue.Timeline.Contracts
import Mathlib.Data.List.Sort
import Mathlib.Data.String.Basic

/-! The stored inventory snapshots of all clusters, and the read of those around a window. -/

namespace K8sClue.Inventory

open Python Timeline List

def ignoredStale : String := "ignored_stale"

structure SnapshotRow where
  (snapshotId workspaceId clusterId status : String)
  collectedAt : Int
  eventCaptureObservedAt : Option Int
  (eventCapture summary : PyValue)
  createdAt : Int

namespace SnapshotRow

def Accepted (row : SnapshotRow) (workspaceId clusterId : String) : Prop :=
  row.workspaceId = workspaceId ∧ row.clusterId = clusterId ∧ row.status ≠ ignoredStale

instance (row : SnapshotRow) (workspaceId clusterId : String)
    : Decidable (row.Accepted workspaceId clusterId) :=
  inferInstanceAs (Decidable (_ ∧ _))

def Newer (left right : SnapshotRow) : Prop :=
  right.collectedAt < left.collectedAt
  ∨ right.collectedAt = left.collectedAt ∧ right.snapshotId ≤ left.snapshotId

instance : DecidableRel Newer := fun _ _ => inferInstanceAs (Decidable (_ ∨ _))

end SnapshotRow

def listInventorySnapshotObservations (calendar : Calendar) (rows : List SnapshotRow)
    (workspaceId clusterId : String) (window : TimelineWindow) (marginMs : Int)
    (limit : Nat := 1000)
    : List SnapshotRow :=
  let lower := calendar.fromMilliseconds (max (window.fromMs - marginMs) 0)
  let upper := calendar.fromMilliseconds window.toMs
  let selected := rows.filter fun row =>
    row.Accepted workspaceId clusterId ∧ lower ≤ row.collectedAt ∧ row.collectedAt < upper
  ((selected.insertionSort SnapshotRow.Newer).take limit).reverse

theorem accepted_of_listed {calendar : Calendar} {rows : List SnapshotRow}
    {workspaceId clusterId : String} {window : TimelineWindow} {marginMs : Int} {limit : Nat}
    {row : SnapshotRow}
    (listed : row ∈ listInventorySnapshotObservations calendar rows workspaceId clusterId window
        marginMs limit)
    : row ∈ rows ∧ row.Accepted workspaceId clusterId := by
  simp only [listInventorySnapshotObservations, mem_reverse] at listed
  have selected := (mem_insertionSort _).mp (mem_of_mem_take listed)
  simp only [mem_filter, decide_eq_true_eq] at selected
  exact ⟨selected.1, selected.2.1⟩

end K8sClue.Inventory
