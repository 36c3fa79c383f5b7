import K8sClue.Inventory.Snapshots
import K8sClue.Inventory.VersionSteps
import K8sClue.Library.Results

/-! What an accepted snapshot does to the tables of the inventory.
The live rows and the open versions of a cluster are written by different code; between
snapshots the open version of each key describes the live row of that key.
-/

namespace K8sClue.Inventory

open Python Timeline Library List Keyed

variable {α : Type} {error : SaveError} {value : Option α} {row : SnapshotRow}
  {version : VersionRow} {status : String}

theorem orError_ok {result : α} : orError error value = .ok result ↔ value = some result := by
  cases value with
  | none => exact ⟨nofun, nofun⟩
  | some held =>
    exact ⟨fun done => congrArg some (Except.ok.inj done),
      fun same => congrArg Except.ok (Option.some.inj same)⟩

theorem orError_error {reported : SaveError}
    : orError error value = .error reported ↔ value = none ∧ error = reported := by
  cases value with
  | none =>
    exact ⟨fun failed => ⟨rfl, Except.error.inj failed⟩, fun both => congrArg _ both.2⟩
  | some held => exact ⟨nofun, fun both => nomatch both.1⟩

theorem insertSnapshot_error {store : InventoryStore}
    (failed : store.insertSnapshot row = .error error)
    : error = .duplicateSnapshot := by
  unfold InventoryStore.insertSnapshot at failed
  split at failed
  · exact (Except.error.inj failed).symm
  · cases failed

theorem insertSnapshot_ok {store : InventoryStore} {snapshots : List SnapshotRow}
    : store.insertSnapshot row = .ok snapshots
      ↔ (∀ known ∈ store.snapshots, known.snapshotId ≠ row.snapshotId)
        ∧ snapshots = store.snapshots ++ [row] := by
  unfold InventoryStore.insertSnapshot
  by_cases taken : store.snapshots.any (·.snapshotId = row.snapshotId)
  · rw [if_pos taken]
    simp only [reduceCtorEq, false_iff, not_and]
    intro fresh
    obtain ⟨known, mem, same⟩ := any_eq_true.mp taken
    exact absurd (of_decide_eq_true same) (fresh known mem)
  · rw [if_neg taken, Except.ok.injEq, eq_comm]
    simp only [any_eq_true, decide_eq_true_eq, not_exists, not_and] at taken
    exact ⟨fun same => ⟨taken, same⟩, fun both => both.2⟩

def nextRevision (store : InventoryStore) (delivery : Delivery) : Nat :=
  store.lastRevision + delivery.skippedRevisions + 1

def firstVersion (store : InventoryStore) (delivery : Delivery) : Nat :=
  store.lastVersion + delivery.skippedVersions + 1

structure WrittenBy (env : Platform) (store : InventoryStore)
    (workspaceId clusterId : String) (delivery : Delivery) (cut : SnapshotCut)
    (snapshot : SnapshotRow) (rows : List ResourceRow) (next : InventoryStore)
    : Prop where
  recorded : storeSnapshot env workspaceId clusterId delivery cut cut.status = some snapshot
  fresh : ∀ known ∈ store.snapshots, known.snapshotId ≠ snapshot.snapshotId
  written : (preserveExistingInventoryKeys cut.resources
      (store.previousRows workspaceId clusterId)).mapM env.storeResource
    = some rows
  snapshots : next.snapshots = store.snapshots ++ [snapshot]
  resources : next.resources
    = markDeleted workspaceId clusterId delivery.snapshotId cut
        (missingInventoryKeys cut (store.previousRows workspaceId clusterId)
          (preserveExistingInventoryKeys cut.resources (store.previousRows workspaceId clusterId)))
        (Keyed.putAll (·.inventoryKey) ResourceRow.updated store.resources rows)
  versions : next.versions
    = versionsAfter env (cut.projected workspaceId clusterId delivery)
        (nextRevision store delivery) (firstVersion store delivery) next.resources
        store.versions
  revisions : next.revisions
    = store.revisions ++ [{
        revisionId := nextRevision store delivery
        snapshotId := delivery.snapshotId
        workspaceId, clusterId }]
  lastRevision : next.lastRevision = nextRevision store delivery
  lastVersion : next.lastVersion
    = firstVersion store delivery
      + (computeProjectionDiff env (cut.projected workspaceId clusterId delivery)
          next.resources store.versions).desired.length

/-- Everything that an accepted snapshot does: it writes, and it returns Timeline facts. -/
structure AcceptedBy (env : Platform) (store : InventoryStore)
    (workspaceId clusterId : String) (delivery : Delivery) (cut : SnapshotCut)
    (events : List TimelineEvent) (snapshot : SnapshotRow) (rows : List ResourceRow)
    (next : InventoryStore) (mutation : SnapshotMutation)
    : Prop extends
      WrittenBy env store workspaceId clusterId delivery cut snapshot rows next where
  derived : inventoryTimelineEvents env workspaceId clusterId cut
      (store.previousRows workspaceId clusterId)
      (preserveExistingInventoryKeys cut.resources (store.previousRows workspaceId clusterId))
      (store.previousBatch env workspaceId clusterId cut)
    = some events
  correlated : correlateInventoryTimelineEvents events delivery.snapshotId
      (projectionAfter env (cut.projected workspaceId clusterId delivery)
        (nextRevision store delivery) (firstVersion store delivery) next.resources
        store.versions)
    = .ok mutation.timelineEvents
  accepted : mutation.accepted = true

variable {env : Platform} {store next : InventoryStore} {workspaceId clusterId : String}
  {delivery : Delivery} {cut : SnapshotCut} {mutation : SnapshotMutation}

theorem acceptCut_ok
    (saved : acceptCut env store workspaceId clusterId delivery cut = .ok (next, mutation))
    : ∃ events snapshot rows,
        AcceptedBy env store workspaceId clusterId delivery cut events snapshot rows next
          mutation := by
  simp only [acceptCut, bind_ok, orError_ok, insertSnapshot_ok, Option.filter_eq_some_iff,
    Option.some.injEq] at saved
  obtain ⟨events, derived, snapshot, stored, snapshots, ⟨fresh, rfl⟩, rows, written, samples, _,
    projection, ⟨rfl, _⟩, timelineEvents, correlated, done⟩ := saved
  obtain ⟨rfl, rfl⟩ := Prod.mk.inj (Except.ok.inj done)
  exact ⟨events, snapshot, rows, ⟨stored, fresh, written, rfl, rfl, rfl, rfl, rfl, rfl⟩,
    derived, correlated, rfl⟩

/-- A snapshot is saved by being accepted, or by being recorded as stale. -/
theorem saveInventorySnapshotMutation_ok
    (saved : saveInventorySnapshotMutation env store workspaceId clusterId delivery
      = .ok (next, mutation))
    : ∃ cut, readCut env workspaceId clusterId delivery = some cut
        ∧ ((∃ events snapshot rows,
              store.isStale workspaceId clusterId cut.observedAt = false
              ∧ AcceptedBy env store workspaceId clusterId delivery cut events snapshot rows
                  next mutation)
          ∨ ∃ snapshot,
              storeSnapshot env workspaceId clusterId delivery cut ignoredStale
                = some snapshot
              ∧ (∀ known ∈ store.snapshots, known.snapshotId ≠ snapshot.snapshotId)
              ∧ next = { store with snapshots := store.snapshots ++ [snapshot] }
              ∧ mutation.accepted = false ∧ mutation.timelineEvents = []) := by
  simp only [saveInventorySnapshotMutation, bind_ok, orError_ok] at saved
  obtain ⟨cut, read, saved⟩ := saved
  refine ⟨cut, read, ?_⟩
  cases stale : store.isStale workspaceId clusterId cut.observedAt with
  | false =>
    rw [stale] at saved
    obtain ⟨events, snapshot, rows, accepted⟩ := acceptCut_ok saved
    exact .inl ⟨events, snapshot, rows, rfl, accepted⟩
  | true =>
    rw [stale] at saved
    simp only [if_true, bind_ok, orError_ok, insertSnapshot_ok] at saved
    obtain ⟨snapshot, stored, snapshots, ⟨fresh, rfl⟩, done⟩ := saved
    obtain ⟨rfl, rfl⟩ := Prod.mk.inj (Except.ok.inj done)
    exact .inr ⟨snapshot, stored, fresh, rfl, rfl, rfl⟩

structure Describes (env : Platform) (version : VersionRow) (row : ResourceRow) : Prop where
  workspace : version.workspaceId = row.workspaceId
  cluster : version.clusterId = row.clusterId
  content : ∃ bindings,
      version.content = versionContent env.python bindings row.toInventoryResource

theorem Describes.key {row : ResourceRow} (describes : Describes env version row)
    : version.inventoryKey = row.inventoryKey := by
  obtain ⟨bindings, same⟩ := describes.content
  exact congrArg VersionContent.inventoryKey same

structure InventoryStore.Sound (env : Platform) (store : InventoryStore) : Prop where
  rowKeys : Unique (·.inventoryKey) store.resources
  fits : ∀ row ∈ store.resources, row.KeyFits env
  stripped : ∀ row ∈ store.resources, strip row.resourceType = row.resourceType
  summaries : ∀ row ∈ store.resources, env.jsonb row.summary = some row.summary
  columns : ∀ row ∈ store.resources, row.ReadBack
  recorded : ∀ row ∈ store.resources,
      ∃ snapshot ∈ store.snapshots, snapshot.snapshotId = row.snapshotId
  versions : VersionsSound env store.lastRevision store.lastVersion store.versions
  described : ∀ row ∈ store.resources, row.deleted = false
    → ∃ version ∈ openVersions store.versions, Describes env version row
  live : ∀ version ∈ openVersions store.versions,
      ∃ row ∈ store.resources, row.deleted = false ∧ Describes env version row

theorem sound_empty (env : Platform) : ({} : InventoryStore).Sound env where
  rowKeys := nodup_nil
  fits := by simp
  stripped := by simp
  summaries := by simp
  columns := by simp
  recorded := by simp
  versions := ⟨⟨by simp, by simp⟩, nodup_nil, by simp, nodup_nil, by simp⟩
  described := by simp
  live := by simp [openVersions]

/-- The resources of a cut, each under the key of its identity and each key once. -/
theorem readCut_resources (read : readCut env workspaceId clusterId delivery = some cut)
    : (∀ resource ∈ cut.resources,
        resource.Of env workspaceId clusterId delivery.snapshotId)
      ∧ Unique (fun resource : InventoryResource => resource.inventoryKey)
          cut.resources := by
  simp only [readCut, Option.bind_eq_bind, Option.bind_eq_some_iff, Option.pure_def,
    Option.some.injEq] at read
  obtain ⟨observedAt, _, entries, _, resources, normalized, summary, _, health, _, usage, _,
    rfl⟩ := read
  refine ⟨?_, unique_latest⟩
  intro resource mem
  obtain ⟨entry, _, made⟩ :=
    forall₂_mem_right (mapM_some.mp normalized) (mem_of_mem_latest mem)
  exact Platform.normalizeInventoryResource_of made

theorem storeSnapshot_fields {snapshot : SnapshotRow}
    (recorded : storeSnapshot env workspaceId clusterId delivery cut status = some snapshot)
    : snapshot.workspaceId = workspaceId ∧ snapshot.clusterId = clusterId
      ∧ snapshot.collectedAt = cut.observedAt ∧ snapshot.status = status
      ∧ snapshot.snapshotId = delivery.snapshotId := by
  simp only [storeSnapshot, Option.bind_eq_bind, Option.bind_eq_some_iff, Option.pure_def,
    Option.some.injEq] at recorded
  obtain ⟨summary, _, capture, _, rfl⟩ := recorded
  exact ⟨rfl, rfl, rfl, rfl, rfl⟩

/-- A recorded snapshot has the id that was drawn for it. -/
theorem storeSnapshot_id {snapshot : SnapshotRow}
    (recorded : storeSnapshot env workspaceId clusterId delivery cut status = some snapshot)
    : snapshot.snapshotId = delivery.snapshotId := (storeSnapshot_fields recorded).2.2.2.2

/-- The cut proves that a row of its cluster is gone if it does not list it. -/
def SnapshotCut.provesGone (cut : SnapshotCut) (workspaceId clusterId : String) (row : ResourceRow)
    : Bool :=
  row.workspaceId = workspaceId && row.clusterId = clusterId
  && (cut.resourcesComplete
    || rowInDeletionScopes row.resourceType row.inNamespace cut.deleteScopes)

def SnapshotCut.unlisted (cut : SnapshotCut) (workspaceId clusterId : String) (row : ResourceRow)
    : ResourceRow :=
  if cut.provesGone workspaceId clusterId row then { row with deleted := true } else row

/-- Marking a row changes nothing that is told of the resource. -/
theorem SnapshotCut.unlisted_resource (row : ResourceRow)
    : (cut.unlisted workspaceId clusterId row).toInventoryResource
      = row.toInventoryResource := by
  unfold SnapshotCut.unlisted
  split <;> rfl

/-- A row that is live after the snapshot and not written by it was live before. -/
theorem live_of_unlisted {old : ResourceRow}
    (live : (cut.unlisted workspaceId clusterId old).deleted = false)
    : cut.unlisted workspaceId clusterId old = old
      ∧ cut.provesGone workspaceId clusterId old = false ∧ old.deleted = false := by
  unfold SnapshotCut.unlisted at live ⊢
  cases gone : cut.provesGone workspaceId clusterId old with
  | false => simpa [gone] using live
  | true => simp [gone] at live

/-- The two deletion tests, on a row and on the version that describes it, agree. -/
theorem provesGone_eq {row : ResourceRow} (describes : Describes env version row)
    : (cut.projected workspaceId clusterId delivery).provesGone version
      = cut.provesGone workspaceId clusterId row := by
  obtain ⟨bindings, same⟩ := describes.content
  unfold ProjectedCut.provesGone SnapshotCut.provesGone ProjectedCut.owns
  rw [describes.workspace, describes.cluster, same, Bool.decide_and]
  rfl

theorem mem_missingInventoryKeys {previous current : List InventoryResource} {key : String}
    : key ∈ missingInventoryKeys cut previous current
      ↔ (∃ row ∈ previous, (cut.resourcesComplete = true
            ∨ rowInDeletionScopes row.resourceType row.inNamespace cut.deleteScopes = true)
          ∧ row.inventoryKey = key)
        ∧ Keyed.find (·.inventoryKey) current key = none := by
  simp only [missingInventoryKeys, mem_filter, mem_map, Bool.or_eq_true, and_assoc,
    Option.isNone_iff_eq_none]

/-- Where the update is left out there is no row that it would mark. -/
theorem markDeleted_eq (snapshotId : String) (missing : List String) (resources : List ResourceRow)
    : markDeleted workspaceId clusterId snapshotId cut missing resources
      = resources.map fun row =>
          if markedDeleted workspaceId clusterId snapshotId cut missing row then
            { row with deleted := true }
          else
            row := by
  unfold markDeleted
  split
  · rfl
  next nothing =>
    have unmarked : ∀ row,
        markedDeleted workspaceId clusterId snapshotId cut missing row = false := by
      intro row
      rw [← Bool.not_eq_true]
      intro marked
      simp only [markedDeleted, Bool.and_eq_true, Bool.or_eq_true, decide_eq_true_eq] at marked
      obtain ⟨⟨⟨_, listed⟩, _⟩, authority⟩ := marked
      refine nothing (Bool.and_eq_true_iff.mpr ⟨?_, ?_⟩)
      · rw [Bool.or_eq_true]
        refine authority.imp_right ?_
        intro proved
        obtain ⟨scope, inside, _⟩ := any_eq_true.mp proved
        simpa using ne_nil_of_mem inside
      · simpa using ne_nil_of_mem listed
    simp [unmarked]

section Accepted

variable {snapshot : SnapshotRow} {rows : List ResourceRow} (sound : store.Sound env)
  (read : readCut env workspaceId clusterId delivery = some cut)
  (accepted : WrittenBy env store workspaceId clusterId delivery cut snapshot rows next)

include sound read

/-- The resources of the cut are written under their own keys. -/
theorem preserved_resources
    : preserveExistingInventoryKeys cut.resources (store.previousRows workspaceId clusterId)
      = cut.resources := by
  obtain ⟨made, unique⟩ := readCut_resources read
  refine preserveExistingInventoryKeys_eq (fun row mem => (made row mem).key) ?_ unique
  intro row mem
  obtain ⟨stored, live, rfl⟩ := mem_map.mp mem
  exact sound.fits stored (mem_of_mem_filter live)

section Rows

variable
  (written : (preserveExistingInventoryKeys cut.resources
      (store.previousRows workspaceId clusterId)).mapM env.storeResource
    = some rows)

include written

/-- Each resource of the cut is stored in one row. -/
theorem rows_stored
    : Forall₂ (fun resource row => env.storeResource resource = some row)
        cut.resources rows := by
  rw [preserved_resources sound read] at written
  exact mapM_some.mp written

theorem row_of_resource {resource : InventoryResource} (listed : resource ∈ cut.resources)
    : ∃ row ∈ rows, env.storeResource resource = some row :=
  forall₂_mem_left (rows_stored sound read written) listed

theorem resource_of_row {row : ResourceRow} (mem : row ∈ rows)
    : ∃ resource ∈ cut.resources, env.storeResource resource = some row := by
  obtain ⟨resource, listed, stored⟩ := forall₂_mem_right (rows_stored sound read written) mem
  exact ⟨resource, listed, stored⟩

/-- What a written row tells of the snapshot it is from. -/
theorem rows_of {row : ResourceRow} (mem : row ∈ rows)
    : row.toInventoryResource.Of env workspaceId clusterId delivery.snapshotId
      ∧ env.jsonb row.summary = some row.summary ∧ row.ReadBack ∧ row.deleted = false := by
  obtain ⟨resource, listed, stored⟩ := resource_of_row sound read written mem
  have made := (readCut_resources read).1 resource listed
  have kept := Platform.storeResource_some stored
  refine ⟨⟨kept.workspace.trans made.workspace, kept.cluster.trans made.cluster,
    kept.snapshot.trans made.snapshot, ?_, ?_⟩, kept.summary, kept.columns, kept.live⟩
  · rw [InventoryResource.KeyFits, kept.key, kept.identity]
    exact made.key
  · rw [kept.resourceType]
    exact made.typeStripped

/-- A row with the key of a written one has its identity. -/
theorem rows_identity {old row : ResourceRow} (before : old ∈ store.resources)
    (mem : row ∈ rows) (same : old.inventoryKey = row.inventoryKey)
    : old.identity = row.identity := by
  obtain ⟨made, _⟩ := rows_of sound read written mem
  refine env.inventoryResourceKey_injective ?_
  rw [← sound.fits old before, ← made.key, same]

/-- A row with the key of a written one is of the cluster of the snapshot. -/
theorem rows_owned {old row : ResourceRow} (before : old ∈ store.resources)
    (mem : row ∈ rows) (same : old.inventoryKey = row.inventoryKey)
    : old.workspaceId = workspaceId ∧ old.clusterId = clusterId := by
  obtain ⟨made, _⟩ := rows_of sound read written mem
  have identities := rows_identity sound read written before mem same
  exact ⟨(congrArg InventoryIdentity.workspaceId identities).trans made.workspace,
    (congrArg InventoryIdentity.clusterId identities).trans made.cluster⟩

end Rows

include accepted

variable {row : ResourceRow}

theorem WrittenBy.row_keys : rows.map (·.inventoryKey) = cut.resources.map (·.inventoryKey) :=
  forall₂_map_eq (rows_stored sound read accepted.written)
    (fun _ _ written => (Platform.storeResource_some written).key)

theorem WrittenBy.rows_unique : Keyed.Unique (·.inventoryKey) rows := by
  rw [Keyed.Unique, accepted.row_keys sound read]
  exact (readCut_resources read).2

/-- A row that is written again is as if it were written for the first time.
Witness: a row with the same key has the same identity, so the columns that stay are equal.
-/
theorem WrittenBy.updated_eq {old : ResourceRow} (before : old ∈ store.resources)
    (mem : row ∈ rows) (same : old.inventoryKey = row.inventoryKey)
    : old.updated row = row := by
  obtain ⟨made, _, _, live⟩ := rows_of sound read accepted.written mem
  obtain ⟨workspace, cluster⟩ := rows_owned sound read accepted.written before mem same
  have type : old.resourceType = row.resourceType :=
    congrArg InventoryIdentity.resourceType
      (rows_identity sound read accepted.written before mem same)
  rw [ResourceRow.updated, same, workspace, cluster, ← made.workspace, ← made.cluster, type, ← live]

/-- The rows after the upsert: those of the cut, and the others as they were. -/
theorem WrittenBy.find_upserted (key : String)
    : Keyed.find (·.inventoryKey)
        (Keyed.putAll (·.inventoryKey) ResourceRow.updated store.resources rows) key
      = (Keyed.find (·.inventoryKey) rows key).or
          (Keyed.find (·.inventoryKey) store.resources key) := by
  rw [find_putAll ResourceRow.updated_key (accepted.rows_unique sound read)]
  cases written : Keyed.find (·.inventoryKey) rows key with
  | none => rfl
  | some row =>
    cases held : Keyed.find (·.inventoryKey) store.resources key with
    | none => rfl
    | some old =>
      obtain ⟨mem, rowKey⟩ := mem_of_find written
      obtain ⟨before, oldKey⟩ := mem_of_find held
      simp only [Option.some_or]
      rw [accepted.updated_eq sound read before mem (oldKey.trans rowKey.symm)]

/-- An old row of a key that the cut does not list is marked exactly if the cut proves that it
is gone.
-/
theorem WrittenBy.marked_iff (before : row ∈ store.resources)
    (unlisted : ∀ other ∈ rows, other.inventoryKey ≠ row.inventoryKey)
    : markedDeleted workspaceId clusterId delivery.snapshotId cut
        (missingInventoryKeys cut (store.previousRows workspaceId clusterId)
          (preserveExistingInventoryKeys cut.resources (store.previousRows workspaceId clusterId)))
        row
      = (cut.provesGone workspaceId clusterId row && !row.deleted) := by
  have other : row.snapshotId ≠ delivery.snapshotId := by
    obtain ⟨known, mem, same⟩ := sound.recorded row before
    rw [← same, ← storeSnapshot_id accepted.recorded]
    exact accepted.fresh known mem
  have absent : Keyed.find (fun resource : InventoryResource => resource.inventoryKey)
      cut.resources row.inventoryKey = none := by
    rw [find_eq_none]
    intro resource listed same
    have key : resource.inventoryKey ∈ rows.map (·.inventoryKey) := by
      rw [accepted.row_keys sound read]
      exact mem_map_of_mem listed
    obtain ⟨stored, mem, equal⟩ := mem_map.mp key
    exact unlisted stored mem (equal.trans same)
  rw [preserved_resources sound read, Bool.eq_iff_iff]
  simp only [markedDeleted, SnapshotCut.provesGone,
    deleteScopePredicate_eq (sound.stripped row before), Bool.and_eq_true, Bool.or_eq_true,
    decide_eq_true_eq, mem_missingInventoryKeys]
  constructor
  · rintro ⟨⟨⟨⟨owned, _⟩, _⟩, live⟩, authority⟩
    exact ⟨⟨owned, authority⟩, live⟩
  · rintro ⟨⟨owned, authority⟩, live⟩
    refine ⟨⟨⟨⟨owned, other⟩, ⟨row.toInventoryResource, ?_, authority, rfl⟩, absent⟩, live⟩,
      authority⟩
    have listed : row ∈ store.liveRows workspaceId clusterId :=
      mem_filter.mpr ⟨before, decide_eq_true ⟨owned.1, owned.2, by simpa using live⟩⟩
    exact mem_map_of_mem listed

/-- What is found under a key after an accepted snapshot. -/
theorem WrittenBy.find_resources (key : String)
    : Keyed.find (·.inventoryKey) next.resources key
      = (Keyed.find (·.inventoryKey) rows key).or
          ((Keyed.find (·.inventoryKey) store.resources key).map
            (cut.unlisted workspaceId clusterId)) := by
  rw [accepted.resources, markDeleted_eq, find_map, accepted.find_upserted sound read]
  · cases written : Keyed.find (·.inventoryKey) rows key with
    | some row =>
      obtain ⟨made, _⟩ := rows_of sound read accepted.written (mem_of_find written).1
      simp [markedDeleted, made.snapshot]
    | none =>
      cases held : Keyed.find (·.inventoryKey) store.resources key with
      | none => rfl
      | some old =>
        obtain ⟨before, rfl⟩ := mem_of_find held
        have marked := accepted.marked_iff sound read before (find_eq_none.mp written)
        simp only [Option.none_or, Option.map_some, marked, SnapshotCut.unlisted]
        cases gone : cut.provesGone workspaceId clusterId old with
        | false => simp
        | true =>
          cases live : old.deleted with
          | false => simp
          | true => simp [← live]
  · intro row
    split <;> rfl

omit read in
theorem WrittenBy.resources_unique : Unique (·.inventoryKey) next.resources := by
  rw [accepted.resources, markDeleted_eq]
  refine Unique.map (sound.rowKeys.putAll ResourceRow.updated_key) ?_
  intro row
  split <;> rfl

/-- The rows after an accepted snapshot: those of the cut, and the others with their marks. -/
theorem WrittenBy.mem_resources
    : row ∈ next.resources
      ↔ row ∈ rows
        ∨ ∃ old ∈ store.resources, (∀ other ∈ rows, other.inventoryKey ≠ old.inventoryKey)
            ∧ cut.unlisted workspaceId clusterId old = row := by
  have unique := accepted.resources_unique sound
  have here : row ∈ next.resources
      ↔ Keyed.find (·.inventoryKey) next.resources row.inventoryKey
        = some row :=
    ⟨unique.find_eq, fun found => (mem_of_find found).1⟩
  rw [here, accepted.find_resources sound read, Option.or_eq_some_iff]
  constructor
  · rintro (written | ⟨absent, kept⟩)
    · exact .inl (mem_of_find written).1
    · obtain ⟨old, held, same⟩ := Option.map_eq_some_iff.mp kept
      obtain ⟨before, key⟩ := mem_of_find held
      refine .inr ⟨old, before, ?_, same⟩
      rw [key]
      exact find_eq_none.mp absent
  · rintro (written | ⟨old, before, absent, rfl⟩)
    · exact .inl ((accepted.rows_unique sound read).find_eq written)
    · rw [SnapshotCut.unlisted_resource, sound.rowKeys.find_eq before]
      exact .inr ⟨find_eq_none.mpr absent, rfl⟩

/-- What holds of the resources written and of those before holds of all afterwards. -/
theorem WrittenBy.forall_resources (holds : InventoryResource → Prop)
    (written : ∀ row ∈ rows, holds row.toInventoryResource)
    (before : ∀ row ∈ store.resources, holds row.toInventoryResource)
    : ∀ row ∈ next.resources, holds row.toInventoryResource := by
  intro row mem
  rcases (accepted.mem_resources sound read).mp mem with now | ⟨old, stored, _, rfl⟩
  · exact written row now
  · rw [SnapshotCut.unlisted_resource]
    exact before old stored

/-- The rows that carry the id of the snapshot are those it wrote. -/
theorem WrittenBy.mem_currentRows
    : row ∈ (cut.projected workspaceId clusterId delivery).currentRows next.resources
      ↔ row ∈ rows := by
  rw [ProjectedCut.currentRows, mem_filter, accepted.mem_resources sound read]
  constructor
  · rintro ⟨written | ⟨old, before, _, rfl⟩, own⟩
    · exact written
    · obtain ⟨known, mem, same⟩ := sound.recorded old before
      have id : old.snapshotId = delivery.snapshotId := by
        have carried := (of_decide_eq_true own).2.2.1
        rwa [SnapshotCut.unlisted_resource] at carried
      refine absurd ?_ (accepted.fresh known mem)
      rw [same, id, storeSnapshot_id accepted.recorded]
  · intro written
    obtain ⟨made, _, _, live⟩ := rows_of sound read accepted.written written
    exact ⟨.inl written, decide_eq_true ⟨made.workspace, made.cluster, made.snapshot, live⟩⟩

/-- An open version under the key of a written row is of the same cluster. -/
theorem WrittenBy.owned (written : row ∈ rows) {version : VersionRow}
    (opened : version ∈ openVersions store.versions)
    (same : version.inventoryKey = row.inventoryKey)
    : (cut.projected workspaceId clusterId delivery).owns version = true := by
  obtain ⟨old, before, _, describes⟩ := sound.live version opened
  obtain ⟨workspace, cluster⟩ :=
    rows_owned sound read accepted.written before written (describes.key.symm.trans same)
  exact decide_eq_true ⟨describes.workspace.trans workspace, describes.cluster.trans cluster⟩

theorem WrittenBy.cutFits
    : CutFits env (cut.projected workspaceId clusterId delivery) next.resources
        store.versions where
  rowKeys := (accepted.resources_unique sound).filter _
  stored := fun _ listed =>
    (rows_of sound read accepted.written ((accepted.mem_currentRows sound read).mp listed)).2.1
  owned := fun _ listed _ opened same =>
    accepted.owned sound read ((accepted.mem_currentRows sound read).mp listed) opened same

/-- A version that is open after the snapshot, under the key of a row that it wrote. -/
theorem WrittenBy.describes_written (written : row ∈ rows)
    : ∃ version,
        Keyed.find (·.inventoryKey) (openVersions next.versions) row.inventoryKey = some version
        ∧ Describes env version row := by
  obtain ⟨made, _⟩ := rows_of sound read accepted.written written
  obtain ⟨version, found, own, content⟩ := find_open_listed sound.versions
    (accepted.cutFits sound read) ((accepted.mem_currentRows sound read).mpr written)
  have owned := of_decide_eq_true own
  refine ⟨version, ?_, owned.1.trans made.workspace.symm, owned.2.trans made.cluster.symm,
    delivery.bindings, content⟩
  rw [accepted.versions]
  exact found

/-- The open version of a key that the snapshot did not write. -/
theorem WrittenBy.find_unwritten {key : String} (absent : ∀ row ∈ rows, row.inventoryKey ≠ key)
    : Keyed.find (·.inventoryKey) (openVersions next.versions) key
      = (Keyed.find (·.inventoryKey) (openVersions store.versions) key).filter (fun version =>
            !(cut.projected workspaceId clusterId delivery).provesGone version) := by
  rw [accepted.versions]
  refine find_open_unlisted sound.versions (accepted.cutFits sound read) ?_
  intro row listed
  exact absent row ((accepted.mem_currentRows sound read).mp listed)

theorem WrittenBy.versionsSound
    : VersionsSound env next.lastRevision next.lastVersion next.versions := by
  rw [accepted.lastRevision, accepted.lastVersion, accepted.versions]
  refine sound.versions.after (accepted.cutFits sound read) ?_ ?_
  · unfold nextRevision
    omega
  · unfold firstVersion
    omega

/-- The open versions still describe the live rows after an accepted snapshot. -/
theorem WrittenBy.sound_next : next.Sound env where
  rowKeys := accepted.resources_unique sound
  fits := accepted.forall_resources sound read (·.KeyFits env)
    (fun _ written => (rows_of sound read accepted.written written).1.key) sound.fits
  stripped := accepted.forall_resources sound read
    (fun resource => strip resource.resourceType = resource.resourceType)
    (fun _ written => (rows_of sound read accepted.written written).1.typeStripped) sound.stripped
  summaries := accepted.forall_resources sound read
    (fun resource => env.jsonb resource.summary = some resource.summary)
    (fun _ written => (rows_of sound read accepted.written written).2.1) sound.summaries
  columns := accepted.forall_resources sound read (·.ReadBack)
    (fun _ written => (rows_of sound read accepted.written written).2.2.1) sound.columns
  recorded := by
    rw [accepted.snapshots]
    refine accepted.forall_resources sound read (fun resource =>
      ∃ known ∈ store.snapshots ++ [snapshot], known.snapshotId = resource.snapshotId) ?_ ?_
    · intro row written
      refine ⟨snapshot, by simp, ?_⟩
      rw [storeSnapshot_id accepted.recorded]
      exact (rows_of sound read accepted.written written).1.snapshot.symm
    · intro row before
      obtain ⟨known, listed, same⟩ := sound.recorded row before
      exact ⟨known, mem_append_left _ listed, same⟩
  versions := accepted.versionsSound sound read
  described := by
    intro row mem live
    rcases (accepted.mem_resources sound read).mp mem with written | ⟨old, before, absent, rfl⟩
    · obtain ⟨version, found, describes⟩ := accepted.describes_written sound read written
      exact ⟨version, (mem_of_find found).1, describes⟩
    · obtain ⟨same, kept, alive⟩ := live_of_unlisted live
      obtain ⟨version, opened, describes⟩ := sound.described old before alive
      have key := describes.key
      have found := accepted.find_unwritten sound read absent
      rw [← key, sound.versions.openKeys.find_eq opened, Option.filter_some,
        provesGone_eq describes, kept] at found
      rw [same]
      exact ⟨version, (mem_of_find found).1, describes⟩
  live := by
    intro version opened
    have found := (accepted.versionsSound sound read).openKeys.find_eq opened
    by_cases listed : ∃ row ∈ rows, row.inventoryKey = version.inventoryKey
    · obtain ⟨row, written, same⟩ := listed
      obtain ⟨described, here, describes⟩ := accepted.describes_written sound read written
      obtain rfl : described = version := by
        rw [same, found] at here
        exact (Option.some.inj here).symm
      exact ⟨row, (accepted.mem_resources sound read).mpr (.inl written),
        (rows_of sound read accepted.written written).2.2.2, describes⟩
    · have absent : ∀ row ∈ rows, row.inventoryKey ≠ version.inventoryKey :=
        fun row written same => listed ⟨row, written, same⟩
      rw [accepted.find_unwritten sound read absent, Option.filter_eq_some_iff] at found
      obtain ⟨before, kept⟩ := found
      obtain ⟨old, stored, alive, describes⟩ := sound.live version (mem_of_find before).1
      have stays : cut.unlisted workspaceId clusterId old = old := by
        rw [provesGone_eq describes] at kept
        rw [SnapshotCut.unlisted, if_neg (by simpa using kept)]
      refine ⟨old, (accepted.mem_resources sound read).mpr (.inr ⟨old, stored, ?_, stays⟩),
        alive, describes⟩
      rw [← describes.key]
      exact absent

end Accepted

/-- A recorded snapshot changes nothing else. -/
theorem InventoryStore.Sound.record (sound : store.Sound env) (snapshot : SnapshotRow)
    : ({ store with snapshots := store.snapshots ++ [snapshot] } : InventoryStore).Sound
        env :=
  { sound with
    recorded := fun row mem =>
      let ⟨known, listed, same⟩ := sound.recorded row mem
      ⟨known, mem_append_left _ listed, same⟩ }

/-- Saving a snapshot keeps the tables sound. -/
theorem InventoryStore.Sound.save (sound : store.Sound env)
    (saved : saveInventorySnapshotMutation env store workspaceId clusterId delivery
      = .ok (next, mutation))
    : next.Sound env := by
  obtain ⟨cut, read, accepted | stale⟩ := saveInventorySnapshotMutation_ok saved
  · obtain ⟨events, snapshot, rows, _, accepted⟩ := accepted
    exact accepted.sound_next sound read
  · obtain ⟨snapshot, _, _, rfl, _⟩ := stale
    exact sound.record snapshot

end K8sClue.Inventory
