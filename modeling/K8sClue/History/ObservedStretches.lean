import K8sClue.History.ProvenCuts
import K8sClue.Inventory.SnapshotRows
import Mathlib

/-! What a complete history says about the times at which nothing was observed.
The gap test sees the observations around the window only: at the window's edges it measures
from the edge, and between two observations it measures the whole stretch.
-/

namespace K8sClue.History

open Python Timeline Inventory List

variable (calendar : Calendar)

def observationFromSnapshotRow (row : SnapshotRow) : Option InventoryObservation :=
  if row.status = ignoredStale then
    none
  else
    some {
      collectedAtMs := calendar.milliseconds row.collectedAt
      resourcesComplete := ((row.summary.get "timeline_proof").get "resources_complete").isBool true
      eventCaptureComplete :=
        (row.eventCapture.get "complete").isBool true
          && (row.eventCapture.get "truncated").isBool false
          && (row.eventCapture.get "reason").isText "complete" }

variable (rows : List SnapshotRow) (workspaceId clusterId : String)

def readObservations (window : TimelineWindow) (limit : Nat) : List InventoryObservation :=
  (listInventorySnapshotObservations calendar rows workspaceId clusterId window
    observationMaxGapMs limit).filterMap (observationFromSnapshotRow calendar)

def acceptedTimes : Set Int :=
  { time | ∃ row ∈ rows,
      row.Accepted workspaceId clusterId ∧ calendar.milliseconds row.collectedAt = time }

theorem accepted_of_read {calendar : Calendar} {rows : List SnapshotRow}
    {workspaceId clusterId : String} {window : TimelineWindow} {limit : Nat}
    {item : InventoryObservation}
    (read : item ∈ readObservations calendar rows workspaceId clusterId window limit)
    : item.collectedAtMs ∈ acceptedTimes calendar rows workspaceId clusterId := by
  obtain ⟨row, listed, observed⟩ := mem_filterMap.mp read
  obtain ⟨stored, accepted⟩ := accepted_of_listed listed
  rw [observationFromSnapshotRow, if_neg accepted.2.2] at observed
  exact ⟨row, stored, accepted, by rw [← Option.some.inj observed]⟩

structure Stretch (times : Set Int) (final : Int) (before : WithBot Int) (after : Int)
    : Prop where
  starts : before = ⊥ ∨ ∃ time ∈ times, before = time
  ends : after ∈ times ∨ after = final ∧ ∀ time ∈ times, (time : WithBot Int) ≤ before
  ordered : before < after
  silent : ∀ time ∈ times, (time : WithBot Int) ≤ before ∨ after ≤ time

/-- Neighbouring points, and the last point and the end, are no more than a gap apart. -/
def Linked (toMs : Int) : List Int → Prop
  | [] => True
  | [point] => toMs - point ≤ observationMaxGapMs
  | point :: next :: rest => next - point ≤ observationMaxGapMs ∧ Linked toMs (next :: rest)

theorem linked_of_edges {fromMs toMs first : Int} {rest : List Int}
    (edges : gapEdges fromMs toMs (first :: rest) = [])
    : first - fromMs ≤ observationMaxGapMs ∧ Linked toMs (first :: rest) := by
  simp only [gapEdges, append_eq_nil_iff, ite_eq_right_iff, cons_ne_self, imp_false,
    filter_eq_nil_iff, decide_eq_true_eq, not_lt] at edges
  obtain ⟨⟨left, between⟩, right⟩ := edges
  refine ⟨left, ?_⟩
  clear left
  induction rest generalizing first with
  | nil => simpa [Linked] using right
  | cons next others ih =>
    refine ⟨between (first, next) (by simp), ih ?_ ?_⟩
    · simpa using right
    · intro edge mem
      exact between edge (by simp [mem])

/-- A reported edge always has an interval of its own. -/
theorem gapEdges_of_gaps {observations : List InventoryObservation} {fromMs toMs : Int}
    {scope : ClusterScope} (silent : observationGaps observations fromMs toMs scope = [])
    : gapEdges fromMs toMs (observations.map (·.collectedAtMs)) = [] := by
  rw [observationGaps, filterMap_eq_nil_iff] at silent
  rw [eq_nil_iff_forall_not_mem]
  intro edge mem
  have narrow : ¬ edge.1 < edge.2 := by
    intro width
    have covered := silent edge mem
    simp [gapCoverage, width] at covered
  have wide : edge.2 - edge.1 > observationMaxGapMs := by
    cases points : observations.map (·.collectedAtMs) with
    | nil => simp [points, gapEdges] at mem
    | cons first rest =>
      simp only [points, gapEdges, mem_append, mem_filter, mem_ite_nil_right,
        mem_singleton, decide_eq_true_eq] at mem
      rcases mem with (⟨wide, rfl⟩ | ⟨_, wide⟩) | ⟨wide, rfl⟩
      · exact wide
      · exact wide
      · exact wide
  unfold observationMaxGapMs at wide
  omega

/-- From a linked point on, no stretch without points is longer than a gap. -/
theorem Linked.bounded {toMs first start finish : Int} {rest : List Int}
    (linked : Linked toMs (first :: rest)) (begun : first ≤ start) (ends : finish ≤ toMs)
    (silent : ∀ point ∈ rest, point ≤ start ∨ finish ≤ point)
    : finish - start ≤ observationMaxGapMs := by
  induction rest generalizing first with
  | nil =>
    have last : toMs - first ≤ observationMaxGapMs := linked
    omega
  | cons next others ih =>
    obtain ⟨near, later⟩ := linked
    rcases silent next (by simp) with passed | reached
    · exact ih later passed (fun point mem => silent point (by simp [mem]))
    · omega

/-- A complete history has an observation in range, and all of them are linked. -/
theorem linked_of_complete {req : CompletenessRequest}
    (complete : (assessCompleteness req).status = .complete)
    : ∃ first rest, req.inRange.map (·.collectedAtMs) = first :: rest
        ∧ first - req.window.fromMs ≤ observationMaxGapMs
        ∧ Linked req.toMs (first :: rest) := by
  have clean := ((CompletenessRequest.complete_iff_silent req).mp complete).1
  simp only [CompletenessRequest.OtherwiseIncomplete, not_or, not_not] at clean
  obtain ⟨_, observed, _, silent⟩ := clean
  have edges := gapEdges_of_gaps silent
  cases points : req.inRange.map (·.collectedAtMs) with
  | nil => exact absurd (.inl (map_eq_nil_iff.mp points)) observed
  | cons first rest =>
    rw [points] at edges
    exact ⟨first, rest, rfl, linked_of_edges edges⟩

/-- How long a stretch may be for the history to be complete: inside the window no more than
a gap, and between two observations that were read no more than a gap as a whole.
-/
structure ShortStretch (req : CompletenessRequest) (before : WithBot Int) (after : Int)
    : Prop where
  inside : ∀ start finish : Int, before ≤ start → req.window.fromMs ≤ start
    → finish ≤ after → finish ≤ req.toMs
    → finish - start ≤ observationMaxGapMs
  whole : ∀ item ∈ req.observations, req.InRange item → before = item.collectedAtMs
    → after ≤ req.toMs
    → after - item.collectedAtMs ≤ observationMaxGapMs

/-- In a complete history every stretch between accepted snapshots is short.
Witness: the points in range split the stretch's part of the window, and neighbouring points
are linked.
-/
theorem complete_stretches_short (limit : Nat) (req : CompletenessRequest)
    (read : req.observations
      = readObservations calendar rows workspaceId clusterId req.window limit)
    (complete : (assessCompleteness req).status = .complete)
    {before : WithBot Int} {after : Int}
    (stretch
      : Stretch (acceptedTimes calendar rows workspaceId clusterId) req.toMs before after)
    : ShortStretch req before after := by
  obtain ⟨first, rest, points, left, linked⟩ := linked_of_complete complete
  have split : ∀ point ∈ first :: rest, (point : WithBot Int) ≤ before ∨ after ≤ point := by
    intro point mem
    rw [← points] at mem
    obtain ⟨item, inside, rfl⟩ := mem_map.mp mem
    have observed := (CompletenessRequest.mem_inRange.mp inside).1
    exact stretch.silent _ (accepted_of_read (read ▸ observed))
  constructor
  · intro start finish begins within ends final
    have separated : ∀ point ∈ first :: rest, point ≤ start ∨ finish ≤ point := by
      intro point mem
      rcases split point mem with earlier | later
      · exact .inl (WithBot.coe_le_coe.mp (earlier.trans begins))
      · exact .inr (ends.trans later)
    rcases separated first (by simp) with passed | reached
    · exact linked.bounded passed final (fun point mem => separated point (by simp [mem]))
    · omega
  · rintro item observed inside rfl final
    have mem : item.collectedAtMs ∈ first :: rest := by
      rw [← points]
      exact mem_map_of_mem (CompletenessRequest.mem_inRange.mpr ⟨observed, inside⟩)
    have sorted : (first :: rest).Pairwise (· ≤ ·) := by
      rw [← points]
      exact pairwise_map.mpr req.inRange_timeOrdered
    have begun : first ≤ item.collectedAtMs := by
      rcases mem_cons.mp mem with same | later
      · exact le_of_eq same.symm
      · exact (pairwise_cons.mp sorted).1 _ later
    refine linked.bounded begun final ?_
    intro point further
    rcases split point (by simp [further]) with earlier | later
    · exact .inl (WithBot.coe_le_coe.mp earlier)
    · exact .inr later

def completeCut (snapshotId : String) (ms : Int) : SnapshotRow where
  snapshotId := snapshotId
  workspaceId := "workspace-1"
  clusterId := "cluster-1"
  status := "accepted"
  collectedAt := ms * 1000
  eventCaptureObservedAt := some (ms * 1000)
  eventCapture := .dict [
    (.str "complete", .scalar (.bool true)),
    (.str "truncated", .scalar (.bool false)),
    (.str "reason", .scalar (.str "complete"))]
  summary := .dict [
    (.str "timeline_proof", .dict [(.str "resources_complete", .scalar (.bool true))])]
  createdAt := ms * 1000

def resumedCuts : List SnapshotRow := [completeCut "cut-1" 2400000, completeCut "cut-2" 3660000]

def resumedWindow : TimelineWindow where
  fromMs := 3600000
  toMs := 3900000
  nonnegative := by decide
  positiveWidth := by decide

def resumedRequest : CompletenessRequest :=
  { sameTimeCuts with
    window := resumedWindow
    nowMs := 3900000
    observations :=
      readObservations exactCalendar resumedCuts "workspace-1" "cluster-1" resumedWindow 1000 }

theorem resumedCuts_times
    : acceptedTimes exactCalendar resumedCuts "workspace-1" "cluster-1"
      = {2400000, 3660000} := by
  ext time
  simp only [acceptedTimes, resumedCuts, mem_cons, not_mem_nil, or_false,
    exists_eq_or_imp, exists_eq_left, Set.mem_ofPred_eq, Set.mem_insert_iff,
    Set.mem_singleton_iff]
  have accepted : ∀ name ms, (completeCut name ms).Accepted "workspace-1" "cluster-1" :=
    fun _ _ => ⟨rfl, rfl, by simp [completeCut, ignoredStale]⟩
  have first : exactCalendar.milliseconds (completeCut "cut-1" 2400000).collectedAt = 2400000 :=
    by decide
  have second : exactCalendar.milliseconds (completeCut "cut-2" 3660000).collectedAt = 3660000 :=
    by decide
  simp only [accepted, first, second, true_and, eq_comm]

/-- The last stretch of that history, from its second cut to the window's end. -/
theorem complete_stretches_short_resumed
    : (assessCompleteness resumedRequest).status = .complete
      ∧ ShortStretch resumedRequest (3660000 : Int) 3900000 := by
  have complete : (assessCompleteness resumedRequest).status = .complete := by decide +kernel
  refine ⟨complete, complete_stretches_short exactCalendar resumedCuts "workspace-1" "cluster-1"
    1000 resumedRequest rfl complete ?_⟩
  rw [resumedCuts_times]
  refine ⟨.inr ⟨3660000, by simp, rfl⟩, .inr ⟨by decide, ?_⟩,
    WithBot.coe_lt_coe.mpr (by decide), ?_⟩
  · rintro time (rfl | rfl)
    · exact WithBot.coe_le_coe.mpr (by decide)
    · exact le_refl _
  · rintro time (rfl | rfl)
    · exact .inl (WithBot.coe_le_coe.mpr (by decide))
    · exact .inl (le_refl _)

/-- The history is complete although its first two cuts are longer apart than a gap and the
stretch between them reaches into the window.
-/
theorem resumedCuts_long_stretch
    : (assessCompleteness resumedRequest).status = .complete
      ∧ Stretch (acceptedTimes exactCalendar resumedCuts "workspace-1" "cluster-1")
          resumedRequest.toMs (2400000 : Int) 3660000
      ∧ (3660000 : Int) - 2400000 > observationMaxGapMs
      ∧ ∃ time : Int, 2400000 ≤ time ∧ time < 3660000
          ∧ resumedRequest.window.fromMs ≤ time ∧ time < resumedRequest.toMs := by
  refine ⟨by decide +kernel, ?_, by decide, 3600000, by decide, by decide, by decide, by decide⟩
  rw [resumedCuts_times]
  refine ⟨.inr ⟨2400000, by simp, rfl⟩, .inl (by simp), WithBot.coe_lt_coe.mpr (by decide), ?_⟩
  rintro time (rfl | rfl)
  · exact .inl (le_refl _)
  · exact .inr (le_refl _)

end K8sClue.History
