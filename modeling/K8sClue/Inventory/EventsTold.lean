import K8sClue.Inventory.LedgerStory

/-! Which Kubernetes Events of complete captures reach the Timeline.
An observation is told unless an earlier complete capture has it already. The earlier capture is
any authoritative one, but only those that are fresh when they are saved are told; what a late
capture has seen is then never told.
-/

namespace K8sClue.Inventory

open Python Timeline Library List

variable (env : Platform)

def SnapshotRow.completeBatch (row : SnapshotRow) : Option KubernetesEventFactBatch :=
  if row.projectsAuthoritative env then
    match row.summary.get "summary" with
    | .dict entries =>
      some (KubernetesEventFactBatch.fromSnapshotSummary env.python env.iso
        (.dict entries)) |>.filter (·.capture.authoritative)
    | _ => none
  else
    none

def Told (ledger : LedgerTable) (uid : String) : Prop :=
  ∃ row ∈ ledger.rows, row.source = .kubernetesEvent ∧ row.nativeId = uid

variable (workspaceId clusterId : String) (tables : InventoryTimeline)

/-- What later snapshots find of this one as a complete capture is what it told: it was fresh,
and the database reads back its uids.
-/
def ServedFresh (delivery : Delivery) : Prop :=
  ∀ cut, readCut env workspaceId clusterId delivery = some cut
    → tables.inventory.isStale workspaceId clusterId cut.observedAt = false
    → ∀ row, storeSnapshot env workspaceId clusterId delivery cut cut.status = some row
    → row.status ≠ ignoredStale
    → ∀ batch, row.completeBatch env = some batch
    → ∀ obs ∈ batch.observations,
        cut.batch.capture.isFreshAt cut.observedAt = true
        ∧ ∃ saved ∈ cut.batch.observations, saved.uid = obs.uid

section Previous

variable {env : Platform} {workspaceId clusterId : String}

/-- The latest complete batch is that of an accepted row. -/
theorem completeBatch_of_latest {rows : List SnapshotRow} {batch : KubernetesEventFactBatch}
    (latest : latestCompleteKubernetesEventBatch env rows workspaceId clusterId = some batch)
    : ∃ row ∈ rows, row.Accepted workspaceId clusterId
        ∧ row.completeBatch env = some batch := by
  simp only [latestCompleteKubernetesEventBatch, Option.bind_eq_bind,
    Option.bind_eq_some_iff] at latest
  obtain ⟨row, found, read⟩ := latest
  have authoritative := find?_some found
  have listed := mem_of_mem_take (mem_of_find?_eq_some found)
  rw [mem_insertionSort, mem_filter, Bool.and_eq_true, decide_eq_true_eq] at listed
  refine ⟨row, listed.1, listed.2.1, ?_⟩
  rw [SnapshotRow.completeBatch, if_pos authoritative]
  cases summary : row.summary.get "summary" with
  | dict entries =>
    rw [summary] at read
    dsimp only at read ⊢
    split at read <;> cases read
    rename_i complete
    rw [Option.filter_some, if_pos complete]
  | _ =>
    rw [summary] at read
    cases read

/-- The newest observations have the uids of all. -/
theorem mem_eventObservationsByUid {observations : List KubernetesEventObservation} {uid : String}
    : uid ∈ (eventObservationsByUid observations).map (·.uid)
      ↔ uid ∈ observations.map (·.uid) := by
  rw [eventObservationsByUid, Keyed.mem_keys_putAll]
  · simp
  · intro existing obs same
    split
    · rfl
    · exact same

/-- An observation of a fresh batch has advanced, or the previous batch has its uid. -/
theorem advanced_or_known {observedAt : Int} {previous : Option KubernetesEventFactBatch}
    {current : KubernetesEventFactBatch} (fresh : current.capture.isFreshAt observedAt = true)
    {obs : KubernetesEventObservation} (seen : obs ∈ current.observations)
    : (∃ newest ∈ advancedObservations observedAt previous current,
        newest.uid = obs.uid)
      ∨ ∃ batch, previous = some batch
          ∧ ∃ known ∈ batch.observations, known.uid = obs.uid := by
  have listed := mem_eventObservationsByUid.mpr (mem_map_of_mem seen)
  obtain ⟨newest, held, same⟩ := mem_map.mp listed
  unfold advancedObservations
  rw [if_pos fresh]
  simp only [mem_filter, mem_insertionSort]
  refine or_iff_not_imp_left.mpr fun untold => ?_
  have unchanged := fun advanced => untold ⟨newest, ⟨held, advanced⟩, same⟩
  unfold eventObservationAdvanced at unchanged
  split at unchanged
  · exact absurd rfl unchanged
  next earlier found =>
    obtain ⟨inside, uid⟩ := Keyed.mem_of_find found
    split at inside
    next batch =>
      split at inside
      · have keys := mem_eventObservationsByUid.mp (mem_map_of_mem inside)
        obtain ⟨known, mem, equal⟩ := mem_map.mp keys
        exact ⟨batch, rfl, known, mem, equal.trans (uid.trans same)⟩
      · cases inside
    · cases inside

end Previous

def Voiced (row : LedgerRow) : Prop :=
  (∃ obs : KubernetesEventObservation, row.source = .kubernetesEvent
      ∧ row.nativeId = obs.uid
      ∧ row.sourceKey = kubernetesEventSourceKey env obs)
  ∨ ∃ change resource tail,
      row.sourceKey = inventoryTimelineSourceKey env change resource ++ tail

structure Heard
    : Prop where
  inventory : tables.inventory.Sound env
  voiced : ∀ row ∈ tables.ledger.rows, Voiced env row
  captures : ∀ row ∈ tables.inventory.snapshots, row.Accepted workspaceId clusterId
    → ∀ batch, row.completeBatch env = some batch
    → ∀ obs ∈ batch.observations, Told tables.ledger obs.uid

theorem heard_empty : Heard env workspaceId clusterId {} where
  inventory := sound_empty env
  voiced := by simp
  captures := by simp

section Save

variable {env : Platform} {tables next : InventoryTimeline} {workspaceId clusterId : String}
  {delivery : Delivery} {cut : SnapshotCut} {mutation : SnapshotMutation}
  {events : List TimelineEvent} {snapshot : SnapshotRow} {rows : List ResourceRow}
  {inventory : InventoryStore}

/-- What is told stays told. -/
theorem Told.append {ledger : LedgerTable} {uid : String} (told : Told ledger uid)
    (zone : Int → Int) (batch : List TimelineEvent)
    : Told (appendTimelineEvents zone ledger batch).1 uid := by
  obtain ⟨row, held, source, native⟩ := told
  obtain ⟨inserted, grown, _⟩ := append_rows zone ledger batch
  refine ⟨row, ?_, source, native⟩
  rw [grown]
  exact mem_append_left _ held

section Accepted

variable (heard : Heard env workspaceId clusterId tables)
  (read : readCut env workspaceId clusterId delivery = some cut)
  (accepted
    : AcceptedBy env tables.inventory workspaceId clusterId delivery cut events snapshot rows
        inventory mutation)

include heard read accepted

theorem AcceptedBy.voiced_next
    : ∀ row ∈ (appendTimelineEvents env.zone tables.ledger mutation.timelineEvents).1.rows,
        Voiced env row := by
  obtain ⟨inserted, grown, _, _, values⟩ :=
    append_rows env.zone tables.ledger mutation.timelineEvents
  intro row mem
  rw [grown] at mem
  rcases mem_append.mp mem with old | now
  · exact heard.voiced row old
  · obtain ⟨event, inside, written⟩ := values row now
    rw [written]
    rcases accepted.fact_of_mem heard.inventory read inside with
      ⟨item, _, tells, _⟩ | ⟨obs, _, tells⟩
    · obtain ⟨tail, key⟩ := tells.sourceKey
      exact .inr ⟨_, _, tail, key⟩
    · exact .inl ⟨obs, tells.source, tells.nativeId, tells.sourceKey⟩

variable {obs : KubernetesEventObservation}

/-- An observation that has advanced is told by the ledger.
Witness: the row under its key tells an observation with the same uid, whenever it was written.
-/
theorem AcceptedBy.told_of_advanced
    (advanced : obs ∈ advancedObservations cut.observedAt
        (tables.inventory.previousBatch env workspaceId clusterId cut) cut.batch)
    : Told (appendTimelineEvents env.zone tables.ledger mutation.timelineEvents).1
        obs.uid := by
  obtain ⟨event, inside, tells⟩ := accepted.observation_told heard.inventory read advanced
  have present := (append_sourceKeys env.zone tables.ledger mutation.timelineEvents
    event.sourceKey).mpr (.inr (mem_map_of_mem inside))
  obtain ⟨row, mem, key⟩ := mem_map.mp present
  rw [tells.sourceKey] at key
  rcases accepted.voiced_next heard read row mem with
    ⟨other, source, native, same⟩ | ⟨change, resource, tail, same⟩
  · refine ⟨row, mem, source, ?_⟩
    rw [native, (kubernetesEventSourceKey_told (same.symm.trans key)).1]
  · exact absurd (same.symm.trans key) (inventorySourceKey_apart env _ _ obs)

/-- All observations of a fresh batch are told by the ledger afterwards. -/
theorem AcceptedBy.batch_told (fresh : cut.batch.capture.isFreshAt cut.observedAt = true)
    (seen : obs ∈ cut.batch.observations)
    : Told (appendTimelineEvents env.zone tables.ledger mutation.timelineEvents).1
        obs.uid := by
  rcases advanced_or_known fresh seen with
    ⟨newest, advanced, same⟩ | ⟨batch, previous, known, mem, same⟩
  · rw [← same]
    exact accepted.told_of_advanced heard read advanced
  · unfold InventoryStore.previousBatch at previous
    split at previous
    · obtain ⟨row, held, kept, complete⟩ := completeBatch_of_latest previous
      rw [← same]
      exact (heard.captures row held kept batch complete known mem).append _ _
    · cases previous

theorem AcceptedBy.heard_next
    (current : tables.inventory.isStale workspaceId clusterId cut.observedAt = false)
    (served : ServedFresh env workspaceId clusterId tables delivery)
    : Heard env workspaceId clusterId {
        inventory
        ledger := (appendTimelineEvents env.zone tables.ledger mutation.timelineEvents).1 } where
  inventory := accepted.sound_next heard.inventory read
  voiced := accepted.voiced_next heard read
  captures := by
    intro row mem kept batch complete obs seen
    simp only [accepted.snapshots] at mem
    rcases mem_append.mp mem with old | now
    · exact (heard.captures row old kept batch complete obs seen).append _ _
    · obtain rfl := mem_singleton.mp now
      obtain ⟨fresh, saved, inside, same⟩ := served cut read current row accepted.recorded
        kept.2.2 batch complete obs seen
      rw [← same]
      exact accepted.batch_told heard read fresh inside

end Accepted

/-- Every successful call keeps what is heard. -/
theorem Heard.save (heard : Heard env workspaceId clusterId tables)
    (served : ServedFresh env workspaceId clusterId tables delivery)
    (saved : saveInventorySnapshotWithTimeline env tables workspaceId clusterId delivery
      = .ok (next, mutation))
    : Heard env workspaceId clusterId next := by
  obtain ⟨done, _, ledger⟩ := saveInventorySnapshotWithTimeline_ok.mp saved
  obtain ⟨inventory, table⟩ := next
  obtain ⟨cut, read, accepted | stale⟩ := saveInventorySnapshotMutation_ok done
  · obtain ⟨events, snapshot, rows, current, accepted⟩ := accepted
    simp only at ledger accepted
    rw [ledger]
    exact accepted.heard_next heard read current served
  · obtain ⟨snapshot, stored, _, same, _, silent⟩ := stale
    simp only at ledger same
    rw [ledger, silent, same]
    refine ⟨heard.inventory.record snapshot, heard.voiced, ?_⟩
    intro row mem kept
    rcases mem_append.mp mem with old | now
    · exact heard.captures row old kept
    · obtain ⟨_, _, _, status, _⟩ := storeSnapshot_fields stored
      rw [mem_singleton.mp now] at kept
      exact absurd status kept.2.2

end Save

/-- After the call, if it is accepted with a fresh and complete capture, the ledger has an event
of every Kubernetes Event in it.
-/
def CaptureTold (delivery : Delivery) : Prop :=
  ∀ cut, readCut env workspaceId clusterId delivery = some cut
    → cut.batch.capture.isFreshAt cut.observedAt = true
    → ∀ after, after = (timelineMachine env workspaceId clusterId).step tables delivery
    → after.2.any (·.accepted) = true
    → ∀ obs ∈ cut.batch.observations, Told after.1.ledger obs.uid

theorem Heard.captureTold {env : Platform} {workspaceId clusterId : String}
    {tables : InventoryTimeline} (heard : Heard env workspaceId clusterId tables)
    (delivery : Delivery)
    : CaptureTold env workspaceId clusterId tables delivery := by
  intro cut read fresh after same taken obs seen
  unfold timelineMachine at same
  simp only at same
  split at same
  next next mutation saved =>
    subst same
    obtain ⟨done, _, ledger⟩ := saveInventorySnapshotWithTimeline_ok.mp saved
    obtain ⟨cut', read', accepted | stale⟩ := saveInventorySnapshotMutation_ok done
    · obtain ⟨_, _, _, _, accepted⟩ := accepted
      obtain rfl := Option.some.inj (read.symm.trans read')
      rw [ledger]
      exact accepted.batch_told heard read fresh seen
    · obtain ⟨_, _, _, _, refused, _⟩ := stale
      simp [refused] at taken
  · subst same
    cases taken

/-- No Kubernetes Event of a fresh and complete capture is lost in a run whose captures are told
before later ones are compared with them.
-/
theorem captured_events_told
    (deliveries : List Delivery)
    (served : (timelineMachine env workspaceId clusterId).Admits
        (ServedFresh env workspaceId clusterId) {} deliveries)
    : ∀ earlier delivery later, deliveries = earlier ++ delivery :: later
      → CaptureTold env workspaceId clusterId
          ((timelineMachine env workspaceId clusterId).run {} earlier) delivery := by
  rintro earlier delivery later rfl
  have heard : Heard env workspaceId clusterId
      ((timelineMachine env workspaceId clusterId).run {} earlier) :=
    Machine.run_invariant
      (timelineMachine_keeps (fun heard may saved => Heard.save heard may saved))
      (heard_empty env workspaceId clusterId) (Machine.admits_append.mp served).1
  exact heard.captureTold delivery

def captureDelivery (snapshotId : String) (capturedAt collectedAt : Int) : Delivery where
  payload := .dict [(.str "summary", .dict [
    (.str eventCaptureSummaryKey, .dict [
      (.str "complete", .scalar (.bool true)), (.str "truncated", .scalar (.bool false)),
      (.str "reason", .scalar (.str "complete")),
      (.str "freshness", .dict [(.str "observed_at", .scalar (.str (digitIso.write capturedAt))),
        (.str "max_age_seconds", .scalar (.int 1))]),
      (.str "coverage", .dict [(.str "scope", .scalar (.str "all_namespaces")),
        (.str "pagination", .scalar (.str "continue")),
        (.str "event_count", .scalar (.int 1))])]),
    (.str eventFactsSummaryKey, .list [.dict [(.str "uid", .scalar (.str "u")),
      (.str "name", .scalar (.str "n")), (.str "count", .scalar (.int 1)),
      (.str "last_timestamp", .scalar (.str (digitIso.write 0)))]])])]
  snapshotId
  now := collectedAt
  bindings := { applicationIds := fun _ _ _ _ => [], complete := true }

/-- A fresh capture, which is told and read back as it was written. -/
theorem captured_events_told_fresh
    : CaptureTold (plainPlatform {}) "w" "c"
        ((timelineMachine (plainPlatform {}) "w" "c").run {} [captureDelivery "1" 0 0])
        (captureDelivery "2" 0 0) := by
  have fresh : ∀ snapshotId ∈ ["1", "2"],
      (readCut (plainPlatform {}) "w" "c" (captureDelivery snapshotId 0 0)).all (fun cut =>
        cut.batch.capture.isFreshAt cut.observedAt
          && cut.batch.observations.map (·.uid) = ["u"]) = true := by
    decide +kernel
  have reread : ∀ snapshotId ∈ ["1", "2"],
      ((readCut (plainPlatform {}) "w" "c" (captureDelivery snapshotId 0 0)).bind fun cut =>
        (storeSnapshot (plainPlatform {}) "w" "c" (captureDelivery snapshotId 0 0) cut
          cut.status).bind (·.completeBatch (plainPlatform {}))).all (fun batch =>
            batch.observations.all (·.uid = "u")) = true := by
    decide +kernel
  have served : ∀ snapshotId ∈ ["1", "2"], ∀ tables,
      ServedFresh (plainPlatform {}) "w" "c" tables (captureDelivery snapshotId 0 0) := by
    intro snapshotId listed tables cut read _ row stored _ batch complete obs seen
    have told := fresh snapshotId listed
    have back := reread snapshotId listed
    rw [read, Option.all_some, Bool.and_eq_true, decide_eq_true_eq] at told
    rw [read, Option.bind_some, stored, Option.bind_some, complete, Option.all_some,
      all_eq_true] at back
    refine ⟨told.1, ?_⟩
    rw [of_decide_eq_true (back obs seen), ← mem_map, told.2]
    simp
  exact captured_events_told (plainPlatform {}) "w" "c"
    [captureDelivery "1" 0 0, captureDelivery "2" 0 0]
    ⟨served "1" (by simp) _, served "2" (by simp) _, trivial⟩ [captureDelivery "1" 0 0] _ [] rfl

/-- The first capture is two seconds old when it is saved, so that it is not told; the second one
is fresh and has the same Event, which is then not told either.
-/
theorem late_capture_silences_event
    : ¬ CaptureTold (plainPlatform {}) "w" "c"
        ((timelineMachine (plainPlatform {}) "w" "c").run {} [captureDelivery "1" 0 2000000])
        (captureDelivery "2" 2000000 2000000) := by
  intro told
  have observed : (readCut (plainPlatform {}) "w" "c" (captureDelivery "2" 2000000 2000000)).any
      (fun cut => cut.batch.capture.isFreshAt cut.observedAt
        && !cut.batch.observations.isEmpty) = true := by
    decide +kernel
  obtain ⟨cut, read, holds⟩ := Option.any_eq_true _ _ |>.mp observed
  rw [Bool.and_eq_true, Bool.not_eq_true', isEmpty_eq_false_iff_exists_mem] at holds
  obtain ⟨fresh, obs, seen⟩ := holds
  obtain ⟨row, mem, _⟩ := told cut read fresh _ rfl (by decide +kernel) obs seen
  have silent : ((timelineMachine (plainPlatform {}) "w" "c").step
      ((timelineMachine (plainPlatform {}) "w" "c").run {} [captureDelivery "1" 0 2000000])
      (captureDelivery "2" 2000000 2000000)).1.ledger.rows.length = 0 := by
    decide +kernel
  rw [length_eq_zero_iff] at silent
  rw [silent] at mem
  cases mem

end K8sClue.Inventory
