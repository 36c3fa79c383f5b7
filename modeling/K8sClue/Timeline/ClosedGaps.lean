import K8sClue.Library.Results
import K8sClue.Timeline.Coverage

/-! When the projection of the coverage is refused by its own contract.
Gaps are compared by their moments and told in milliseconds, so that a gap that closes within its
millisecond has no width.
-/

namespace K8sClue.Timeline

open Python Inventory Library List Function

/-- The recovery is the first one of its cluster that is later than the gap. -/
structure Closes (gap : CaptureObservation) (between : List CaptureObservation)
    (recovery : CaptureObservation)
    : Prop where
  opens : gap.state = .gap
  recovers : recovery.state = .recovery
  cluster : recovery.clusterId = gap.clusterId
  later : gap.observedAt < recovery.observedAt
  first : ∀ obs ∈ between, obs.clusterId = gap.clusterId → obs.state = .recovery
    → obs.observedAt ≤ gap.observedAt

/-- Observations after which no gap of the cluster is open: apart from recoveries and other
clusters, gaps up to the recoveries that close them.
-/
inductive Settled (clusterId : String) : List CaptureObservation → Prop
  | nil : Settled clusterId []
  | idle {observations : List CaptureObservation} {obs : CaptureObservation}
      (settled : Settled clusterId observations)
      (quiet : obs.clusterId = clusterId → obs.state = .recovery)
    : Settled clusterId (observations ++ [obs])
  | closed {observations between : List CaptureObservation} {gap recovery : CaptureObservation}
      (settled : Settled clusterId observations) (own : gap.clusterId = clusterId)
      (closes : Closes gap between recovery)
    : Settled clusterId (observations ++ gap :: (between ++ [recovery]))

/-- A gap of the cluster is open since the given moment. -/
def LeftOpen (clusterId : String) (observations : List CaptureObservation) (openedAt : Int)
    : Prop :=
  ∃ before gap between, observations = before ++ gap :: between ∧ Settled clusterId before
    ∧ gap.clusterId = clusterId ∧ gap.state = .gap ∧ gap.observedAt = openedAt
    ∧ ∀ obs ∈ between, obs.clusterId = clusterId → obs.state = .recovery
      → obs.observedAt ≤ openedAt

/-- The gaps that are open after the observations. -/
def openAfter (opened : String → Option Int) (observations : List CaptureObservation)
    : String → Option Int :=
  observations.foldl (fun opened obs =>
    update opened obs.clusterId (openNext (opened obs.clusterId) obs)) opened

variable {calendar : Calendar} {window : TimelineWindow} {opened : String → Option Int}
  {observations between : List CaptureObservation} {obs : CaptureObservation} {clusterId : String}
  {openedAt : Int} {closing : Closing}

theorem openAfter_concat
    : openAfter opened (observations ++ [obs])
      = update (openAfter opened observations) obs.clusterId
          (openNext (openAfter opened observations obs.clusterId) obs) := by
  rw [openAfter, foldl_append]
  rfl

/-- A gap stays open over everything but a later recovery of its cluster. -/
theorem openAfter_kept (known : opened clusterId = some openedAt)
    (early : ∀ obs ∈ between, obs.clusterId = clusterId → obs.state = .recovery
      → obs.observedAt ≤ openedAt)
    : openAfter opened between clusterId = some openedAt := by
  induction between using List.reverseRecOn with
  | nil => exact known
  | append_singleton between obs ih =>
    have before := ih fun other mem => early other (mem_append_left _ mem)
    rw [openAfter_concat]
    by_cases own : obs.clusterId = clusterId
    · subst own
      rw [update_self, before, openNext]
      cases change : obs.state with
      | gap => rfl
      | recovery =>
        have notLater := early obs (mem_append_right _ mem_cons_self) rfl change
        simp [Option.filter, notLater]
    · rwa [update_of_ne (Ne.symm own)]

theorem openAfter_gap (settled : openAfter (fun _ => none) observations obs.clusterId = none)
    (opens : obs.state = .gap)
    (early : ∀ other ∈ between, other.clusterId = obs.clusterId → other.state = .recovery
      → other.observedAt ≤ obs.observedAt)
    : openAfter (fun _ => none) (observations ++ obs :: between) obs.clusterId
      = some obs.observedAt := by
  rw [openAfter, foldl_append, foldl_cons]
  refine openAfter_kept ?_ early
  rw [update_self]
  change openNext (openAfter _ observations obs.clusterId) obs = _
  rw [settled, openNext, opens]
  rfl

theorem Settled.openAfter (settled : Settled clusterId observations)
    : openAfter (fun _ => none) observations clusterId = none := by
  induction settled with
  | nil => rfl
  | @idle observations obs _ quiet ih =>
    rw [openAfter_concat]
    by_cases own : obs.clusterId = clusterId
    · subst own
      rw [update_self, ih, openNext, quiet rfl]
      rfl
    · rwa [update_of_ne (Ne.symm own)]
  | @closed observations between gap recovery _ own closes ih =>
    subst own
    rw [← cons_append, ← append_assoc, openAfter_concat, closes.cluster, update_self,
      openAfter_gap ih closes.opens closes.first, openNext, closes.recovers]
    simp [Option.filter, closes.later]

/-- What is open can be told by the observations alone.
Witness: induction on the last observation; a recovery that closes a gap ends the part that the gap
began.
-/
theorem openAfter_told (clusterId : String) (observations : List CaptureObservation)
    : (openAfter (fun _ => none) observations clusterId = none → Settled clusterId observations)
      ∧ ∀ openedAt, openAfter (fun _ => none) observations clusterId = some openedAt
        → LeftOpen clusterId observations openedAt := by
  induction observations using List.reverseRecOn with
  | nil => exact ⟨fun _ => .nil, nofun⟩
  | append_singleton observations obs ih =>
    obtain ⟨settles, leaves⟩ := ih
    rw [openAfter_concat]
    -- An observation that is no later recovery of the cluster is added to what the gap began.
    have stays {openedAt : Int}
        (known : openAfter (fun _ => none) observations clusterId = some openedAt)
        (early : obs.clusterId = clusterId → obs.state = .recovery → obs.observedAt ≤ openedAt)
        : LeftOpen clusterId (observations ++ [obs]) openedAt := by
      obtain ⟨before, gap, between, rfl, settled, own, opens, at_, first⟩ := leaves _ known
      refine ⟨before, gap, between ++ [obs], by simp, settled, own, opens, at_, ?_⟩
      intro other mem
      rcases mem_append.mp mem with inside | last
      · exact first other inside
      · exact mem_singleton.mp last ▸ early
    by_cases own : obs.clusterId = clusterId
    · subst own
      rw [update_self, openNext]
      cases change : obs.state with
      | gap =>
        refine ⟨nofun, fun openedAt same => ?_⟩
        cases known : openAfter (fun _ => none) observations obs.clusterId with
        | none =>
          rw [known] at same
          exact ⟨observations, obs, [], rfl, settles known, rfl, change, Option.some.inj same,
            nofun⟩
        | some before =>
          rw [known] at same
          cases same
          exact stays known fun _ recovers => nomatch change.symm.trans recovers
      | recovery =>
        cases known : openAfter (fun _ => none) observations obs.clusterId with
        | none => exact ⟨fun _ => .idle (settles known) fun _ => change, nofun⟩
        | some before =>
          by_cases early : obs.observedAt ≤ before
          · simp only [Option.filter, early, decide_true, if_true]
            refine ⟨nofun, fun openedAt same => ?_⟩
            cases same
            exact stays known fun _ _ => early
          · simp only [Option.filter, early, decide_false, Bool.false_eq_true, if_false]
            refine ⟨fun _ => ?_, nofun⟩
            obtain ⟨start, gap, between, rfl, settled, own, opens, rfl, first⟩ := leaves _ known
            rw [append_assoc, cons_append]
            refine settled.closed own ⟨opens, change, own.symm, not_le.mp early, ?_⟩
            rwa [own]
    · rw [update_of_ne (Ne.symm own)]
      refine ⟨fun none => .idle (settles none) fun same => absurd same own, fun _ known => ?_⟩
      exact stays known fun same => absurd same own

/-- A gap is closed where a recovery finds it open. -/
theorem mem_closings
    : closing ∈ closings calendar window opened observations
      ↔ ∃ earlier obs later, observations = earlier ++ obs :: later
        ∧ closingOf calendar window (openAfter opened earlier obs.clusterId) obs
          = some closing := by
  induction observations generalizing opened with
  | nil => simp [closings]
  | cons first rest ih =>
    rw [closings, mem_append, Option.mem_toList, ih]
    constructor
    · rintro (here | ⟨earlier, obs, later, rfl, closes⟩)
      · exact ⟨[], first, rest, rfl, here⟩
      · exact ⟨first :: earlier, obs, later, rfl, closes⟩
    · rintro ⟨earlier, obs, later, split, closes⟩
      cases earlier with
      | nil =>
        cases split
        exact .inl closes
      | cons _ earlier =>
        cases split
        exact .inr ⟨earlier, obs, later, rfl, closes⟩

theorem closingOf_eq_some {opened : Option Int}
    : closingOf calendar window opened obs = some closing
      ↔ obs.state = .recovery ∧ ∃ openedAt, opened = some openedAt ∧ openedAt < obs.observedAt
        ∧ Intersects window (calendar.milliseconds openedAt) (calendar.milliseconds obs.observedAt)
        ∧ ⟨obs.clusterId, calendar.milliseconds openedAt, calendar.milliseconds obs.observedAt⟩
          = closing := by
  unfold closingOf
  cases obs.state with
  | gap => simp
  | recovery =>
    simp only [Option.filter_eq_some_iff, Option.map_eq_some_iff, decide_eq_true_eq, true_and]
    constructor
    · rintro ⟨⟨openedAt, ⟨known, later⟩, rfl⟩, inside⟩
      exact ⟨openedAt, known, later, inside, rfl⟩
    · rintro ⟨openedAt, known, later, inside, rfl⟩
      exact ⟨⟨openedAt, ⟨known, later⟩, rfl⟩, inside⟩

variable (calendar window) in
/-- Every gap that closes in the window starts no earlier than the epoch, and closes in a later
millisecond than it starts.
-/
def GapsHaveWidth (observations : List CaptureObservation) : Prop :=
  ∀ before gap between recovery after,
    observations = before ++ gap :: (between ++ recovery :: after)
    → Settled gap.clusterId before → Closes gap between recovery
    → Intersects window (calendar.milliseconds gap.observedAt)
        (calendar.milliseconds recovery.observedAt)
    → 0 ≤ calendar.milliseconds gap.observedAt
      ∧ calendar.milliseconds gap.observedAt < calendar.milliseconds recovery.observedAt

def Closing.Valid (closing : Closing) : Prop := 0 ≤ closing.fromMs ∧ closing.fromMs < closing.toMs

instance (closing : Closing) : Decidable closing.Valid := inferInstanceAs (Decidable (_ ∧ _))

theorem gapsHaveWidth_iff
    : GapsHaveWidth calendar window observations
      ↔ ∀ closing ∈ closings calendar window (fun _ => none) observations, closing.Valid := by
  constructor
  · intro wide closing closed
    obtain ⟨earlier, obs, later, rfl, closes⟩ := mem_closings.mp closed
    obtain ⟨recovers, openedAt, known, after, inside, rfl⟩ := closingOf_eq_some.mp closes
    obtain ⟨before, gap, between, rfl, settled, own, opens, rfl, first⟩ :=
      (openAfter_told obs.clusterId earlier).2 openedAt known
    refine wide before gap between obs later (by simp) (own ▸ settled) ⟨opens, recovers,
      own.symm, after, ?_⟩ inside
    rwa [own]
  · rintro valid before gap between recovery after rfl settled closes inside
    have known := openAfter_gap settled.openAfter closes.opens closes.first
    rw [← closes.cluster] at known
    exact valid _ (mem_closings.mpr ⟨before ++ gap :: between, recovery, after, by simp,
      closingOf_eq_some.mpr ⟨closes.recovers, _, known, closes.later, inside, rfl⟩⟩)

variable {readScope : TimelineLedgerReadScope} {maxIntervals : Option Nat} {closed : List Closing}

/-- An interval ends the projection by the limit, or by bounds that the contract refuses. -/
theorem appendInterval_error {fromMs toMs : Int} {projected : List TimelineCoverage}
    {scope : ClusterScope} {failure : CoverageError}
    (stopped : appendInterval maxIntervals fromMs toMs projected scope = .error failure)
    : maxIntervals ≠ none ∧ failure = .limitExceeded
      ∨ ¬ (0 ≤ fromMs ∧ fromMs < toMs) ∧ failure = .invalidInterval fromMs toMs := by
  unfold appendInterval at stopped
  split at stopped
  next exceeded =>
    cases stopped
    refine .inl ⟨?_, rfl⟩
    rintro rfl
    cases exceeded
  next =>
    split at stopped
    · cases stopped
    next invalid =>
      cases stopped
      exact .inr ⟨invalid, rfl⟩

theorem closedCoverage_error {failure : CoverageError}
    (stopped : closedCoverage readScope maxIntervals closed = .error failure)
    : maxIntervals ≠ none ∧ failure = .limitExceeded
      ∨ ∃ closing ∈ closed, ¬ closing.Valid
        ∧ failure = .invalidInterval closing.fromMs closing.toMs := by
  unfold closedCoverage at stopped
  cases folded : closed.foldlM (appendClosing readScope maxIntervals) [] with
  | ok intervals =>
    rw [folded] at stopped
    cases stopped
  | error other =>
    rw [folded] at stopped
    cases stopped
    obtain ⟨closing, mem, _, refused⟩ := foldlM_error folded
    obtain ⟨scope, _, _, failed⟩ := foldlM_error refused
    exact (appendInterval_error failed).imp_right fun invalid => ⟨closing, mem, invalid⟩

theorem closedCoverage_ok {intervals : List TimelineCoverage}
    (returned : closedCoverage readScope none closed = .ok intervals)
    (granted : ∀ closing ∈ closed, authorizedScopes readScope closing.clusterId ≠ [])
    : ∀ closing ∈ closed, closing.Valid := by
  intro closing mem
  unfold closedCoverage at returned
  cases folded : closed.foldlM (appendClosing readScope none) [] with
  | error failure =>
    rw [folded] at returned
    cases returned
  | ok projected =>
    obtain ⟨_, _, appended⟩ := foldlM_ok folded closing mem
    obtain ⟨scope, isIn⟩ := exists_mem_of_ne_nil _ (granted closing mem)
    obtain ⟨_, _, made⟩ := foldlM_ok appended scope isIn
    unfold appendInterval at made
    simp only [Option.any_none, Bool.false_eq_true, if_false] at made
    split at made
    next valid => exact valid
    next => cases made

variable {reader : CoverageReader} {rows : List SnapshotRow}

/-- Only the clusters of authorized scopes are observed. -/
theorem granted_of_closed
    (mem : closing ∈ closings reader.calendar window (fun _ => none)
      (rows.filterMap (captureObservation reader readScope window)))
    : authorizedScopes readScope closing.clusterId ≠ [] := by
  obtain ⟨earlier, obs, later, split, closes⟩ := mem_closings.mp mem
  obtain ⟨_, _, _, _, _, rfl⟩ := closingOf_eq_some.mp closes
  have observed : obs ∈ rows.filterMap (captureObservation reader readScope window) := by
    rw [split]
    exact mem_append_right _ mem_cons_self
  obtain ⟨row, _, seen⟩ := mem_filterMap.mp observed
  unfold captureObservation at seen
  dsimp only at seen
  split at seen
  · cases seen
  next accepted =>
    intro unauthorized
    obtain ⟨_, _, made⟩ := Option.bind_eq_some_iff.mp seen
    split_ifs at made <;> cases made <;> exact accepted (.inr (by simp [unauthorized]))

/-- Over observations in the order of their times, the projection returns or exceeds its limit,
whatever the limit, exactly if its gaps have a width in milliseconds.
-/
theorem projection_returns_iff
    (ordered : TimesOrdered (rows.filterMap (captureObservation reader readScope window)))
    : (∀ maxIntervals,
        (∃ coverage, projectOrderedCaptureCoverage reader readScope window maxIntervals rows
          = .ok coverage)
        ∨ projectOrderedCaptureCoverage reader readScope window maxIntervals rows
          = .error .limitExceeded)
      ↔ GapsHaveWidth reader.calendar window
          (rows.filterMap (captureObservation reader readScope window)) := by
  simp only [projectOrdered_eq reader readScope window _ ordered]
  rw [gapsHaveWidth_iff]
  constructor
  · intro returns
    rcases returns none with ⟨coverage, returned⟩ | exceeded
    · exact closedCoverage_ok returned fun closing => granted_of_closed
    · rcases closedCoverage_error exceeded with ⟨limited, _⟩ | ⟨_, _, _, invalid⟩
      · exact absurd rfl limited
      · cases invalid
  · intro valid maxIntervals
    cases ended : closedCoverage readScope maxIntervals (closings reader.calendar window
        (fun _ => none) (rows.filterMap (captureObservation reader readScope window))) with
    | ok coverage => exact .inl ⟨coverage, rfl⟩
    | error failure =>
      rcases closedCoverage_error ended with ⟨_, rfl⟩ | ⟨closing, mem, invalid, _⟩
      · exact .inr rfl
      · exact absurd (valid closing mem) invalid

def plainReader : CoverageReader where
  python := insertionRuntime
  iso := digitIso
  calendar := exactCalendar

def shortWindow : TimelineWindow where
  fromMs := 10
  toMs := 20
  nonnegative := by decide
  positiveWidth := by decide

def globalCoverage : List (PyScalar × PyValue) :=
  [(.str "scope", .scalar (.str "all_namespaces")), (.str "pagination", .scalar (.str "continue"))]

def gapCapture (moment : Int) : KubernetesEventCapture where
  complete := false
  truncated := false
  reason := "timeout"
  observedAt := some moment
  coverage := globalCoverage ++ [(.str "gap", .scalar (.str "timeout"))]

def recoveryCapture (moment : Int) : KubernetesEventCapture where
  complete := true
  truncated := false
  reason := "complete"
  observedAt := some moment
  maxAgeSeconds := some 60
  coverage := globalCoverage ++ [
    (.str "page_count", .scalar (.int 1)),
    (.str "event_count", .scalar (.int 0)),
    (.str "resource_version", .scalar (.str "1"))]

def captureRow (snapshotId : String) (capture : KubernetesEventCapture) : SnapshotRow where
  snapshotId := snapshotId
  workspaceId := "workspace-1"
  clusterId := "cluster-1"
  status := "accepted"
  collectedAt := 0
  eventCaptureObservedAt := capture.observedAt
  eventCapture := capture.projection digitIso
  summary := .scalar .none
  createdAt := 0

/-- A gap, the recovery of the same moment, and one of the given moment. -/
def gapUntil (moment : Int) : List SnapshotRow :=
  [captureRow "snapshot-1" (gapCapture 15000), captureRow "snapshot-2" (recoveryCapture 15000),
    captureRow "snapshot-3" (recoveryCapture moment)]

instance : DecidablePred TimesOrdered := fun _ => inferInstanceAs (Decidable (Pairwise _ _))

theorem projection_returns_iff_wide
    : TimesOrdered ((gapUntil 16000).filterMap
        (captureObservation plainReader eventScope shortWindow))
      ∧ ∀ maxIntervals,
        (∃ coverage, projectOrderedCaptureCoverage plainReader eventScope shortWindow maxIntervals
          (gapUntil 16000) = .ok coverage)
        ∨ projectOrderedCaptureCoverage plainReader eventScope shortWindow maxIntervals
            (gapUntil 16000) = .error .limitExceeded := by
  have ordered : TimesOrdered ((gapUntil 16000).filterMap
      (captureObservation plainReader eventScope shortWindow)) := by decide +kernel
  have valid : ∀ closing ∈ closings exactCalendar shortWindow (fun _ => none)
      ((gapUntil 16000).filterMap (captureObservation plainReader eventScope shortWindow)),
      closing.Valid := by decide +kernel
  exact ⟨ordered, (projection_returns_iff ordered).mpr (gapsHaveWidth_iff.mpr valid)⟩

/-- A gap that closes within its millisecond ends the projection. -/
theorem gapUntil_refused
    : TimesOrdered ((gapUntil 15500).filterMap
        (captureObservation plainReader eventScope shortWindow))
      ∧ projectOrderedCaptureCoverage plainReader eventScope shortWindow none (gapUntil 15500)
        = .error (.invalidInterval 15 15) := by
  decide +kernel

end K8sClue.Timeline
