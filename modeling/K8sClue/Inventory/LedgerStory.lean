import K8sClue.Inventory.PlainPlatform
import K8sClue.Inventory.SnapshotFacts

/-! The Timeline ledger tells the same story as the live inventory.
After every call the newest inventory event of a key says whether the row of that key is marked
deleted. A snapshot that is sent again tells nothing new, as long as the database gives back
what was written to it.
-/

namespace K8sClue.Inventory

open Python Timeline Library List

def inventoryEvents (rows : List LedgerRow) : List LedgerRow :=
  rows.filter (·.source = .inventory)

def newestOf (rows : List LedgerRow) (key : String) : Option LedgerRow :=
  ((inventoryEvents rows).filter (·.nativeId = key)).getLast?

variable {rows : List LedgerRow}

theorem mem_inventoryEvents {row : LedgerRow}
    : row ∈ inventoryEvents rows ↔ row ∈ rows ∧ row.source = .inventory := by
  simp [inventoryEvents]

theorem newestOf_append (rows more : List LedgerRow) (key : String)
    : newestOf (rows ++ more) key = (newestOf more key).or (newestOf rows key) := by
  simp [newestOf, inventoryEvents, getLast?_append]

theorem mem_of_newestOf {key : String} {row : LedgerRow} (newest : newestOf rows key = some row)
    : row ∈ rows ∧ row.source = .inventory ∧ row.nativeId = key := by
  have mem := mem_of_getLast? newest
  simp only [mem_filter, mem_inventoryEvents, decide_eq_true_eq] at mem
  exact ⟨mem.1.1, mem.1.2, mem.2⟩

theorem newestOf_eq_none {key : String}
    : newestOf rows key = none ↔ ∀ row ∈ rows, row.source = .inventory → row.nativeId ≠ key := by
  simp only [newestOf, getLast?_eq_none_iff, filter_eq_nil_iff, mem_inventoryEvents,
    decide_eq_true_eq, and_imp]

structure FreshStory (rows : List LedgerRow) (batch : List TimelineEvent) : Prop where
  unstored : ∀ event ∈ batch, event.source = .inventory → event.sourceKey ∉ rows.map (·.sourceKey)
  told : ∀ event ∈ batch, ∀ other ∈ batch, event.sourceKey = other.sourceKey
    → event.source = .inventory → other.source = .inventory ∧ event.nativeId = other.nativeId
  agree : ∀ event ∈ batch, ∀ other ∈ batch, event.source = .inventory → other.source = .inventory
    → event.nativeId = other.nativeId → event.eventType = other.eventType

section Append

variable (zone : Int → Int) {table : LedgerTable} {batch : List TimelineEvent}

/-- A batch without an event of a key leaves the newest event of the key. -/
theorem newestOf_untold {key : String}
    (untold : ∀ event ∈ batch, event.source = .inventory → event.nativeId ≠ key)
    : newestOf (appendTimelineEvents zone table batch).1.rows key = newestOf table.rows key := by
  obtain ⟨inserted, rows, _, _, values⟩ := append_rows zone table batch
  have none_told : newestOf inserted key = none := by
    rw [newestOf_eq_none]
    intro row mem inventory
    obtain ⟨event, inside, written⟩ := values row mem
    rw [written] at inventory ⊢
    exact untold event inside inventory
  rw [rows, newestOf_append, none_told, Option.none_or]

/-- An inventory event of a batch is stored.
Witness: its key is new, and the row under the key is of an event with the same native id.
-/
theorem FreshStory.inserted (story : FreshStory table.rows batch) {event : TimelineEvent}
    (mem : event ∈ batch) (inventory : event.source = .inventory) {inserted : List LedgerRow}
    (rows : (appendTimelineEvents zone table batch).1.rows = table.rows ++ inserted)
    (values : ∀ row ∈ inserted, ∃ event ∈ batch, row = eventValues zone event row.sequence)
    : ∃ row ∈ inserted, row.source = .inventory ∧ row.nativeId = event.nativeId := by
  have present : event.sourceKey ∈ (appendTimelineEvents zone table batch).1.sourceKeys :=
    (append_sourceKeys zone table batch _).mpr (.inr (mem_map_of_mem mem))
  rw [LedgerTable.sourceKeys, rows, map_append] at present
  have now := (mem_append.mp present).resolve_left (story.unstored event mem inventory)
  obtain ⟨row, inside, same⟩ := mem_map.mp now
  obtain ⟨other, listed, written⟩ := values row inside
  have keys : event.sourceKey = other.sourceKey := by
    rw [← same, written]
    rfl
  obtain ⟨source, native⟩ := story.told event mem other listed keys inventory
  refine ⟨row, inside, ?_, ?_⟩
  · rw [written]
    exact source
  · rw [written, native]
    rfl

/-- An inventory event of a batch is of the newest type of its key afterwards. -/
theorem FreshStory.newest (story : FreshStory table.rows batch) {event : TimelineEvent}
    (mem : event ∈ batch) (inventory : event.source = .inventory)
    : ∃ row,
        newestOf (appendTimelineEvents zone table batch).1.rows event.nativeId = some row
        ∧ row.eventType = event.eventType := by
  obtain ⟨inserted, rows, _, _, values⟩ := append_rows zone table batch
  obtain ⟨known, inside, source, native⟩ := story.inserted zone mem inventory rows values
  have some_told : newestOf inserted event.nativeId ≠ none := by
    rw [Ne, newestOf_eq_none]
    exact fun absent => absent known inside source native
  obtain ⟨row, newest⟩ := Option.ne_none_iff_exists'.mp some_told
  obtain ⟨held, told, same⟩ := mem_of_newestOf newest
  obtain ⟨other, listed, written⟩ := values row held
  refine ⟨row, by rw [rows, newestOf_append, newest, Option.some_or], ?_⟩
  rw [written] at told same ⊢
  exact (story.agree event mem other listed inventory told same.symm).symm

/-- The inventory events are the same after a batch exactly if it has none. -/
theorem FreshStory.silent_iff (story : FreshStory table.rows batch)
    : inventoryEvents (appendTimelineEvents zone table batch).1.rows = inventoryEvents table.rows
      ↔ ∀ event ∈ batch, event.source ≠ .inventory := by
  obtain ⟨inserted, rows, _, _, values⟩ := append_rows zone table batch
  have split : inventoryEvents (table.rows ++ inserted)
      = inventoryEvents table.rows ++ inventoryEvents inserted := by
    simp [inventoryEvents]
  rw [rows, split, append_right_eq_self]
  constructor
  · intro none_inserted event mem inventory
    obtain ⟨row, inside, source, _⟩ := story.inserted zone mem inventory rows values
    have held := mem_inventoryEvents.mpr ⟨inside, source⟩
    rw [none_inserted] at held
    cases held
  · intro silent
    rw [eq_nil_iff_forall_not_mem]
    intro row held
    obtain ⟨inside, source⟩ := mem_inventoryEvents.mp held
    obtain ⟨event, mem, written⟩ := values row inside
    rw [written] at source
    exact silent event mem source

end Append

section Accepted

variable {env : Platform} {store next : InventoryStore} {workspaceId clusterId : String}
  {delivery : Delivery} {cut : SnapshotCut} {mutation : SnapshotMutation}
  {events : List TimelineEvent} {snapshot : SnapshotRow} {rows : List ResourceRow}
  (sound : store.Sound env) (read : readCut env workspaceId clusterId delivery = some cut)

def ChangeTells (cut : SnapshotCut) (store : InventoryStore) (workspaceId clusterId : String)
    (row : ResourceRow)
    : Prop :=
  (∃ item, IsChange cut (store.previousRows workspaceId clusterId) cut.resources item
      ∧ item.resource.inventoryKey = row.inventoryKey
      ∧ (item.change = .delete ↔ row.deleted = true))
  ∨ (∀ item, IsChange cut (store.previousRows workspaceId clusterId) cut.resources item
        → item.resource.inventoryKey ≠ row.inventoryKey)
    ∧ ∃ old ∈ store.resources, old.inventoryKey = row.inventoryKey
        ∧ old.timelineEligible = row.timelineEligible ∧ old.deleted = row.deleted

include sound read

variable (accepted : WrittenBy env store workspaceId clusterId delivery cut snapshot rows next)
include accepted

theorem WrittenBy.tells_listed
    {row : ResourceRow} (written : row ∈ rows) (eligible : row.timelineEligible = true)
    : ChangeTells cut store workspaceId clusterId row := by
  obtain ⟨resource, listed, stored⟩ := resource_of_row sound read accepted.written written
  obtain ⟨made, _, _, live⟩ := rows_of sound read accepted.written written
  have key := (Platform.storeResource_some stored).key
  have resourceEligible : resource.timelineEligible = true := by
    rw [← timelineEligible_of_key made.key ((readCut_resources read).1 resource listed).key key]
    exact eligible
  by_cases known : ∃ before ∈ store.previousRows workspaceId clusterId,
      before.inventoryKey = resource.inventoryKey
  · obtain ⟨before, previous, same⟩ := known
    cases changed : inventoryResourceChanged before resource with
    | true =>
      refine .inl ⟨_, .update listed resourceEligible previous same changed, key.symm, ?_⟩
      simp [live]
    | false =>
      obtain ⟨old, held, _, _, alive, rfl⟩ := mem_previousRows.mp previous
      refine .inr ⟨?_, old, held, same.trans key.symm, ?_, alive.trans live.symm⟩
      · intro item change told
        rw [key] at told
        -- the key is known, listed and unchanged, so no kind of change fits it
        cases change with
        | add _ _ absent => exact absent _ previous (same.trans told.symm)
        | update other _ earlier both differs =>
          obtain rfl := (readCut_resources read).2.eq_of_key other listed told
          obtain rfl := (previousRows_unique sound).eq_of_key earlier previous
            (both.trans same.symm)
          rw [changed] at differs
          cases differs
        | delete _ _ unlisted _ => exact unlisted _ listed told.symm
      · exact timelineEligible_of_key (sound.fits old held) made.key (same.trans key.symm)
  · refine .inl ⟨_, .add listed resourceEligible ?_, key.symm, ?_⟩
    · exact fun before previous same => known ⟨before, previous, same⟩
    · simp [live]

theorem WrittenBy.tells_unlisted
    {old : ResourceRow} (held : old ∈ store.resources)
    (absent : ∀ other ∈ rows, other.inventoryKey ≠ old.inventoryKey)
    (eligible : old.timelineEligible = true)
    : ChangeTells cut store workspaceId clusterId (cut.unlisted workspaceId clusterId old) := by
  have unlisted : ∀ now ∈ cut.resources, now.inventoryKey ≠ old.inventoryKey := by
    intro now listed same
    obtain ⟨row, written, stored⟩ := row_of_resource sound read accepted.written listed
    exact absent row written ((Platform.storeResource_some stored).key.trans same)
  rw [ChangeTells, SnapshotCut.unlisted_resource]
  by_cases gone : cut.provesGone workspaceId clusterId old = true ∧ old.deleted = false
  · obtain ⟨proved, alive⟩ := gone
    have owned := proved
    simp only [SnapshotCut.provesGone, Bool.and_eq_true, decide_eq_true_eq] at owned
    refine .inl ⟨_, .delete (mem_previousRows.mpr ⟨old, held, owned.1.1, owned.1.2, alive, rfl⟩)
      eligible unlisted owned.2, rfl, ?_⟩
    simp [SnapshotCut.unlisted, proved]
  · refine .inr ⟨?_, old, held, rfl, rfl, ?_⟩
    · intro item change told
      cases change with
      | add listed => exact unlisted _ listed told
      | update listed => exact unlisted _ listed told
      | delete known _ _ proved =>
        obtain ⟨row, stored, workspace, cluster, alive, rfl⟩ := mem_previousRows.mp known
        obtain rfl := sound.rowKeys.eq_of_key stored held told
        refine gone ⟨?_, alive⟩
        simp [SnapshotCut.provesGone, workspace, cluster, proved]
    · unfold SnapshotCut.unlisted
      split
      next proved =>
        cases alive : old.deleted with
        | true => rfl
        | false => exact absurd ⟨proved, alive⟩ gone
      · rfl

/-- Every row after an accepted snapshot is told by a change, or is as it was. -/
theorem WrittenBy.tells
    {row : ResourceRow} (mem : row ∈ next.resources) (eligible : row.timelineEligible = true)
    : ChangeTells cut store workspaceId clusterId row := by
  rcases (accepted.mem_resources sound read).mp mem with written | ⟨old, held, absent, rfl⟩
  · exact accepted.tells_listed sound read written eligible
  · rw [SnapshotCut.unlisted_resource] at eligible
    exact accepted.tells_unlisted sound read held absent eligible

omit accepted

end Accepted

variable (env : Platform)

def StoredKey (lastRevision : Nat) (key : String) : Prop :=
  (∃ obs, key = kubernetesEventSourceKey env obs)
  ∨ ∃ inner snapshotId revisionId versionId,
      key = (correlated snapshotId revisionId versionId inner).sourceKey
      ∧ revisionId ≤ lastRevision

structure Story (tables : InventoryTimeline) : Prop where
  inventory : tables.inventory.Sound env
  ledger : tables.ledger.Sound
  keys : ∀ key ∈ tables.ledger.sourceKeys, StoredKey env tables.inventory.lastRevision key
  tells : ∀ row ∈ tables.inventory.resources, row.timelineEligible = true
    → ∃ event, newestOf tables.ledger.rows row.inventoryKey = some event
        ∧ (event.eventType = .delete ↔ row.deleted = true)

theorem story_empty : Story env {} where
  inventory := sound_empty env
  ledger := Timeline.sound_empty
  keys := by simp [LedgerTable.sourceKeys]
  tells := by simp

theorem eventType_delete (change : InventoryTimelineChange)
    : change.eventType = .delete ↔ change = .delete := by
  cases change <;> decide

variable {env : Platform} {tables next : InventoryTimeline} {workspaceId clusterId : String}
  {delivery : Delivery} {cut : SnapshotCut} {mutation : SnapshotMutation}

section Accepted

variable {events : List TimelineEvent} {snapshot : SnapshotRow} {rows : List ResourceRow}
  {inventory : InventoryStore} (story : Story env tables)
  (read : readCut env workspaceId clusterId delivery = some cut)
  (accepted
    : AcceptedBy env tables.inventory workspaceId clusterId delivery cut events snapshot rows
        inventory mutation)

include story read accepted

/-- The keys of an accepted snapshot's facts. -/
theorem AcceptedBy.fact_keys {event : TimelineEvent} (mem : event ∈ mutation.timelineEvents)
    : StoredKey env inventory.lastRevision event.sourceKey := by
  rcases accepted.fact_of_mem story.inventory read mem with
    ⟨_, _, _, inner, snapshotId, versionId, rfl⟩ | ⟨obs, _, tells⟩
  · rw [accepted.lastRevision]
    exact .inr ⟨inner, snapshotId, _, versionId, rfl, le_rfl⟩
  · exact .inl ⟨obs, tells.sourceKey⟩

/-- An inventory fact tells a change under the revision of the snapshot. -/
theorem AcceptedBy.change_of_fact {event : TimelineEvent}
    (mem : event ∈ mutation.timelineEvents) (source : event.source = .inventory)
    : ∃ item,
        IsChange cut (tables.inventory.previousRows workspaceId clusterId) cut.resources item
        ∧ TellsChange env item event
        ∧ ∃ inner snapshotId versionId,
            event = Inventory.correlated snapshotId (nextRevision tables.inventory delivery)
              versionId inner := by
  rcases accepted.fact_of_mem story.inventory read mem with found | ⟨_, _, tells⟩
  · exact found
  · rw [tells.source] at source
    cases source

/-- The facts of an accepted snapshot are new and speak with one voice for each key. -/
theorem AcceptedBy.freshStory : FreshStory tables.ledger.rows mutation.timelineEvents where
  unstored := by
    intro event mem source stored
    obtain ⟨item, _, tells, inner, snapshotId, versionId, rfl⟩ :=
      accepted.change_of_fact story read mem source
    obtain ⟨tail, key⟩ := tells.sourceKey
    rcases story.keys _ stored with ⟨obs, same⟩ | ⟨_, _, revision, _, same, before⟩
    · exact inventorySourceKey_apart env _ _ obs (key.symm.trans same)
    · have revised := correlated_revision same
      unfold nextRevision at revised
      omega
  told := by
    intro event mem other listed same source
    obtain ⟨item, change, tells, _⟩ := accepted.change_of_fact story read mem source
    obtain ⟨tail, key⟩ := tells.sourceKey
    rcases accepted.fact_of_mem story.inventory read listed with
      ⟨item', change', tells', _⟩ | ⟨obs, _, tells'⟩
    · obtain ⟨tail', key'⟩ := tells'.sourceKey
      have keys := (inventorySourceKey_told (change.keyFits story.inventory read)
        (change'.keyFits story.inventory read) (key.symm.trans (same.trans key'))).2
      exact ⟨tells'.source, by rw [tells.nativeId, tells'.nativeId, keys]⟩
    · exact absurd (key.symm.trans (same.trans tells'.sourceKey))
        (inventorySourceKey_apart env _ _ obs)
  agree := by
    intro event mem other listed source source' same
    obtain ⟨item, change, tells, _⟩ := accepted.change_of_fact story read mem source
    obtain ⟨item', change', tells', _⟩ := accepted.change_of_fact story read listed source'
    rw [tells.nativeId, tells'.nativeId] at same
    rw [tells.eventType, tells'.eventType, change.same_kind change' same]

/-- After an accepted snapshot the newest events tell the marks of the rows. -/
theorem AcceptedBy.story_next
    : Story env {
        inventory
        ledger := (appendTimelineEvents env.zone tables.ledger mutation.timelineEvents).1 } where
  inventory := accepted.sound_next story.inventory read
  ledger := story.ledger.append env.zone mutation.timelineEvents
  keys := by
    intro key mem
    rcases (append_sourceKeys env.zone tables.ledger mutation.timelineEvents key).mp mem
      with before | now
    · refine (story.keys key before).imp_right ?_
      rintro ⟨inner, snapshotId, revision, versionId, same, old⟩
      refine ⟨inner, snapshotId, revision, versionId, same, ?_⟩
      rw [accepted.lastRevision]
      unfold nextRevision
      omega
    · obtain ⟨event, inside, rfl⟩ := mem_map.mp now
      exact accepted.fact_keys story read inside
  tells := by
    intro row mem eligible
    have fresh := accepted.freshStory story read
    rcases accepted.tells story.inventory read mem eligible with
      ⟨item, change, key, marked⟩ | ⟨unchanged, old, held, key, type, mark⟩
    · obtain ⟨event, inside, tells⟩ := accepted.change_told story.inventory read change
      obtain ⟨newest, found, same⟩ := fresh.newest env.zone inside tells.source
      rw [tells.nativeId, key] at found
      refine ⟨newest, found, ?_⟩
      rw [same, tells.eventType, eventType_delete, marked]
    · have untold : ∀ event ∈ mutation.timelineEvents, event.source = .inventory
          → event.nativeId ≠ row.inventoryKey := by
        intro event inside source
        obtain ⟨item, change, tells, _⟩ := accepted.change_of_fact story read inside source
        rw [tells.nativeId]
        exact unchanged item change
      obtain ⟨newest, found, told⟩ := story.tells old held (type.trans eligible)
      rw [key] at found
      rw [mark] at told
      exact ⟨newest, (newestOf_untold env.zone untold).trans found, told⟩

end Accepted

/-- Every successful call keeps the story.
Witness: a stale cut writes neither rows nor facts.
-/
theorem Story.save (story : Story env tables)
    (saved : saveInventorySnapshotWithTimeline env tables workspaceId clusterId delivery
      = .ok (next, mutation))
    : Story env next := by
  obtain ⟨done, _, ledger⟩ := saveInventorySnapshotWithTimeline_ok.mp saved
  obtain ⟨inventory, table⟩ := next
  obtain ⟨cut, read, accepted | stale⟩ := saveInventorySnapshotMutation_ok done
  · obtain ⟨events, snapshot, rows, _, accepted⟩ := accepted
    simp only at ledger accepted
    rw [ledger]
    exact accepted.story_next story read
  · obtain ⟨snapshot, _, _, same, _, silent⟩ := stale
    simp only at ledger same
    rw [ledger, silent, same]
    exact ⟨story.inventory.record snapshot, story.ledger, story.keys, story.tells⟩

/-- The story holds after every run of calls on a cluster. -/
theorem story_run (env : Platform) (workspaceId clusterId : String)
    (deliveries : List Delivery)
    : Story env ((timelineMachine env workspaceId clusterId).run {} deliveries) :=
  Machine.run_invariant (timelineMachine_keeps (fun story _ saved => Story.save story saved))
    (story_empty env) (Machine.admits_true _ _)

end K8sClue.Inventory
