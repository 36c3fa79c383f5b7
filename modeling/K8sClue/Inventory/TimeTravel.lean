import K8sClue.Inventory.ClusterParts

/-! Reading the inventory as it was at a revision.
The archive keeps, for each cluster and revision, the rows that were live right after the latest
accepted snapshot up to that revision; the versions valid at the revision are those rows.
-/

namespace K8sClue.Inventory

open Python Timeline Library List

structure SaveCall where
  (workspaceId clusterId : String)
  delivery : Delivery

abbrev Archive := String → String → Nat → List ResourceRow

def Archive.after (archive : Archive) (workspaceId clusterId : String) (revision : Nat)
    (rows : List ResourceRow)
    : Archive :=
  fun workspace cluster at_ =>
    if workspace = workspaceId ∧ cluster = clusterId ∧ revision ≤ at_ then
      rows
    else
      archive workspace cluster at_

variable (env : Platform) (state : InventoryStore × Archive)

def saveArchived (call : SaveCall) : InventoryStore × Archive :=
  match saveInventorySnapshotMutation env state.1 call.workspaceId call.clusterId
      call.delivery with
  | .ok (next, mutation) =>
    (next,
      if mutation.accepted then
        state.2.after call.workspaceId call.clusterId next.lastRevision
          (next.liveRows call.workspaceId call.clusterId)
      else
        state.2)
  | .error _ => state

def runArchived (calls : List SaveCall) : InventoryStore × Archive :=
  calls.foldl (saveArchived env) ({}, fun _ _ _ => [])

variable (python : Runtime)

structure SameResource (version : VersionRow) (row : ResourceRow) : Prop where
  name : version.content.name = row.name
  kind : version.content.kind = row.kind
  inNamespace : version.content.inNamespace = row.inNamespace
  uid : columnValue version.content.uid = row.uid
  resourceVersion : columnValue version.content.resourceVersion = row.resourceVersion
  status : version.content.status = row.status
  health : version.content.health = row.health
  labels : version.content.labels = normalizedLabels python row.labels
  summary : version.content.summary = row.summary

structure ExactlyRows (versions : List VersionRow) (rows : List ResourceRow)
    : Prop where
  one : ∀ row ∈ rows, ∃ version,
      versions.filter (·.inventoryKey = row.inventoryKey) = [version]
      ∧ SameResource python version row
  only : ∀ version ∈ versions, ∃ row ∈ rows, row.inventoryKey = version.inventoryKey

theorem optionalStr_columnValue (text : Option String)
    : python.optionalStr (columnValue text) = text := by
  cases text <;> rfl

theorem Describes.sameResource {env : Platform} {version : VersionRow} {row : ResourceRow}
    (describes : Describes env version row) (columns : row.ReadBack)
    : SameResource env.python version row := by
  obtain ⟨bindings, content⟩ := describes.content
  obtain ⟨uid, resourceVersion, uid_eq, version_eq⟩ := columns
  constructor <;> rw [content]
  all_goals simp only [versionContent, uid_eq, version_eq, optionalStr_columnValue]

variable (versions : List VersionRow) (workspaceId clusterId : String)

def versionsAt (revision : Nat) : List VersionRow :=
  versions.filter fun version =>
    (version.workspaceId = workspaceId ∧ version.clusterId = clusterId)
    ∧ versionValidity.ValidAt revision version

theorem versionsAt_eq (revision : Nat)
    : versionsAt versions workspaceId clusterId revision
      = (versions.filter (VersionRow.ofCluster workspaceId clusterId)).filter
          (versionValidity.ValidAt revision ·) := by
  rw [filter_filter]
  refine filter_congr fun version _ => ?_
  simp [VersionRow.ofCluster, Bool.and_comm]

def StartsRevised (store : InventoryStore) : Prop :=
  ∀ version ∈ store.versions, ∃ row ∈ store.revisions,
    row.workspaceId = version.workspaceId ∧ row.clusterId = version.clusterId
    ∧ row.revisionId = version.validFrom

/-- The join with the latest revisions keeps each version once.
Witness: a valid version starts at a revision of its cluster, so the cluster has a latest one.
-/
theorem inventoryVersionsAtRevision_eq {store : InventoryStore} (starts : StartsRevised store)
    (workspaceId clusterId : String) (revision : Nat)
    : inventoryVersionsAtRevision store.versions
        (latestFilterRevisions store.revisions workspaceId [clusterId] revision)
        workspaceId [clusterId] revision
      = versionsAt store.versions workspaceId clusterId revision := by
  have selected : (store.versions.filter fun version =>
        version.workspaceId = workspaceId ∧ version.clusterId ∈ [clusterId]
        ∧ versionValidity.ValidAt revision version)
      = versionsAt store.versions workspaceId clusterId revision := by
    refine filter_congr ?_
    simp [and_assoc]
  have joined : ∀ version ∈ versionsAt store.versions workspaceId clusterId revision,
      ((latestFilterRevisions store.revisions workspaceId [clusterId] revision).filter fun row =>
        row.workspaceId = version.workspaceId ∧ row.clusterId = version.clusterId).map
        (fun _ => version) = [version] := by
    intro version mem
    obtain ⟨held, valid⟩ := mem_filter.mp mem
    obtain ⟨⟨workspace, cluster⟩, started, _⟩ := of_decide_eq_true valid
    obtain ⟨row, listed, rowWorkspace, rowCluster, same⟩ := starts version held
    have candidate : row ∈ store.revisions.filter fun row =>
        row.workspaceId = workspaceId ∧ row.clusterId = clusterId
        ∧ row.revisionId ≤ revision := by
      refine mem_filter.mpr ⟨listed, decide_eq_true
        ⟨rowWorkspace.trans workspace, rowCluster.trans cluster, ?_⟩⟩
      rw [same]
      exact started
    have sorted := (mem_insertionSort
      (fun left right : RevisionRow => right.revisionId ≤ left.revisionId)).mpr candidate
    obtain ⟨latest, rest, first⟩ := exists_cons_of_ne_nil (ne_nil_of_mem sorted)
    have own : latest.workspaceId = workspaceId ∧ latest.clusterId = clusterId
        ∧ latest.revisionId ≤ revision := by
      have inside := (mem_insertionSort
        (fun left right : RevisionRow => right.revisionId ≤ left.revisionId)).mp
        (first ▸ mem_cons_self)
      exact of_decide_eq_true (mem_filter.mp inside).2
    have single : latestFilterRevisions store.revisions workspaceId [clusterId] revision
        = [latest] := by
      simp only [latestFilterRevisions, filterMap_cons, filterMap_nil, first,
        head?_cons]
    rw [single]
    simp [own.1, own.2.1, workspace, cluster]
  rw [inventoryVersionsAtRevision, selected, flatMap_congr joined]
  simp

section Accepted

variable {env : Platform} {store next : InventoryStore} {workspaceId clusterId : String}
  {delivery : Delivery} {cut : SnapshotCut} {mutation : SnapshotMutation}
  {events : List TimelineEvent} {snapshot : SnapshotRow} {rows : List ResourceRow}

variable {revision : Nat} {closes : VersionRow → Bool} {workspace cluster : String}

/-- Closing a version changes nothing that it tells of a resource. -/
theorem Describes.superseded {version : VersionRow} {row : ResourceRow}
    : Describes env (versionValidity.superseded revision closes version) row
      ↔ Describes env version row := by
  unfold Validity.superseded
  split
  · exact ⟨fun known => ⟨known.workspace, known.cluster, known.content⟩,
      fun known => ⟨known.workspace, known.cluster, known.content⟩⟩
  · exact Iff.rfl

theorem superseded_key (version : VersionRow)
    : (versionValidity.superseded revision closes version).inventoryKey
      = version.inventoryKey := by
  unfold Validity.superseded
  split <;> rfl

variable
  (sound : store.Sound env)
  (accepted : AcceptedBy env store workspaceId clusterId delivery cut events snapshot rows next
      mutation)

include accepted

/-- At an earlier revision the same versions are valid; some of them are closed by now. -/
theorem AcceptedBy.versionsAt_before {earlier : Nat} (before : earlier < next.lastRevision)
    (workspace cluster : String)
    : ∃ closes,
        versionsAt next.versions workspace cluster earlier
        = (versionsAt store.versions workspace cluster earlier).map
            (versionValidity.superseded next.lastRevision closes) := by
  refine ⟨fun version => decide (version.versionId ∈ (computeProjectionDiff env
    (cut.projected workspaceId clusterId delivery) next.resources store.versions).closeIds), ?_⟩
  rw [accepted.lastRevision] at before ⊢
  unfold versionsAt
  simp only [Bool.decide_and _ (versionValidity.ValidAt earlier _)]
  rw [← filter_filter, ← filter_filter, accepted.versions]
  unfold versionsAfter writeProjectionVersions
  rw [Validity.validAt_advance before fun version mem => (mem_insertedVersions mem).1.starts,
    filter_map]
  congr 1
  refine filter_congr ?_
  intro version _
  simp only [Function.comp]
  unfold Validity.superseded
  split <;> rfl

include sound

omit sound in
/-- A version that a snapshot inserts starts at the revision of the snapshot. -/
theorem AcceptedBy.startsRevised (starts : StartsRevised store) : StartsRevised next := by
  intro version mem
  rw [accepted.versions] at mem
  rw [accepted.revisions]
  rcases mem_append.mp mem with old | inserted
  · obtain ⟨before, held, rfl⟩ := mem_map.mp old
    obtain ⟨row, listed, known⟩ := starts before held
    refine ⟨row, mem_append_left _ listed, ?_⟩
    unfold Validity.superseded
    split <;> exact known
  · have made := (mem_insertedVersions inserted).1
    obtain ⟨workspace, cluster⟩ := of_decide_eq_true made.owned
    exact ⟨_, mem_append_right _ mem_cons_self, workspace.symm, cluster.symm,
      made.starts.symm⟩

/-- Before its revision, and for other clusters, a snapshot changes nothing that the versions
tell.
-/
theorem AcceptedBy.versionsAt_kept
    (elsewhere : ¬ (workspace = workspaceId ∧ cluster = clusterId ∧ next.lastRevision ≤ revision))
    : ∃ change : VersionRow → VersionRow,
        (∀ version, (change version).inventoryKey = version.inventoryKey)
        ∧ (∀ version row, Describes env (change version) row
            ↔ Describes env version row)
        ∧ versionsAt next.versions workspace cluster revision
          = (versionsAt store.versions workspace cluster revision).map change := by
  by_cases own : workspaceId = workspace ∧ clusterId = cluster
  · have before : revision < next.lastRevision := by
      by_contra reached
      exact elsewhere ⟨own.1.symm, own.2.symm, Nat.le_of_not_lt reached⟩
    obtain ⟨closes, same⟩ := accepted.versionsAt_before before workspace cluster
    exact ⟨_, superseded_key, fun _ _ => Describes.superseded, same⟩
  · refine ⟨id, fun _ => rfl, fun _ _ => Iff.rfl, ?_⟩
    rw [versionsAt_eq, versionsAt_eq, accepted.versions_other sound own, map_id]

end Accepted

structure DescribedAt
    (rows : List ResourceRow)
    : Prop where
  unique : Keyed.Unique (·.inventoryKey) versions
  columns : ∀ row ∈ rows, row.ReadBack
  fits : ∀ row ∈ rows, row.KeyFits env
  described : ∀ row ∈ rows, ∃ version ∈ versions, Describes env version row
  live : ∀ version ∈ versions, ∃ row ∈ rows, Describes env version row

structure Archived : Prop where
  sound : state.1.Sound env
  starts : StartsRevised state.1
  described : ∀ workspaceId clusterId revision,
      DescribedAt env (versionsAt state.1.versions workspaceId clusterId revision)
        (state.2 workspaceId clusterId revision)

variable {env : Platform} {versions : List VersionRow} {state : InventoryStore × Archive}

theorem DescribedAt.map {rows : List ResourceRow} {change : VersionRow → VersionRow}
    (known : DescribedAt env versions rows)
    (keys : ∀ version, (change version).inventoryKey = version.inventoryKey)
    (tells : ∀ version row, Describes env (change version) row
      ↔ Describes env version row)
    : DescribedAt env (versions.map change) rows where
  unique := known.unique.map keys
  columns := known.columns
  fits := known.fits
  described := by
    intro row mem
    obtain ⟨version, held, describes⟩ := known.described row mem
    exact ⟨change version, mem_map_of_mem held, (tells version row).mpr describes⟩
  live := by
    intro version mem
    obtain ⟨before, held, rfl⟩ := mem_map.mp mem
    obtain ⟨row, listed, describes⟩ := known.live before held
    exact ⟨row, listed, (tells before row).mpr describes⟩

/-- Two versions with the key of a row are one version. -/
theorem DescribedAt.exactly {rows : List ResourceRow} (known : DescribedAt env versions rows)
    : ExactlyRows env.python versions rows where
  one := by
    intro row mem
    obtain ⟨version, held, describes⟩ := known.described row mem
    have only : ∀ other ∈ versions.filter (·.inventoryKey = row.inventoryKey),
        other = version := by
      intro other inside
      obtain ⟨listed, same⟩ := mem_filter.mp inside
      exact known.unique.eq_of_key listed held
        ((of_decide_eq_true same).trans describes.key.symm)
    have present : version ∈ versions.filter (·.inventoryKey = row.inventoryKey) :=
      mem_filter.mpr ⟨held, decide_eq_true describes.key⟩
    have distinct : (versions.filter (·.inventoryKey = row.inventoryKey)).Nodup :=
      Nodup.of_map _ (known.unique.filter _)
    refine ⟨version, ?_, describes.sameResource (known.columns row mem)⟩
    exact perm_singleton.mp ((perm_ext_iff_of_nodup distinct (by simp)).mpr
      fun other => ⟨fun inside => by simp [only other inside],
        fun same => (mem_singleton.mp same) ▸ present⟩)
  only := by
    intro version mem
    obtain ⟨row, listed, describes⟩ := known.live version mem
    exact ⟨row, listed, describes.key.symm⟩

/-- From its revision on, the open versions describe the rows that an accepted snapshot left
live.
-/
theorem InventoryStore.Sound.describedNow {store : InventoryStore} (sound : store.Sound env)
    {later : Nat} (after : store.lastRevision ≤ later) (workspaceId clusterId : String)
    : DescribedAt env (versionsAt store.versions workspaceId clusterId later)
        (store.liveRows workspaceId clusterId) := by
  have valid : versionsAt store.versions workspaceId clusterId later
      = (openVersions store.versions).filter (fun version =>
          version.workspaceId = workspaceId ∧ version.clusterId = clusterId) := by
    unfold versionsAt openVersions
    rw [filter_filter]
    refine filter_congr ?_
    intro version held
    simp [sound.versions.upTo.validAt_iff_isOpen after held]
  rw [valid]
  refine ⟨sound.versions.openKeys.filter _, ?_, ?_, ?_, ?_⟩
  · intro row mem
    exact sound.columns row (mem_of_mem_filter mem)
  · intro row mem
    exact sound.fits row (mem_of_mem_filter mem)
  · intro row mem
    obtain ⟨held, own⟩ := mem_filter.mp mem
    obtain ⟨workspace, cluster, live⟩ := of_decide_eq_true own
    obtain ⟨version, opened, describes⟩ := sound.described row held live
    refine ⟨version, mem_filter.mpr ⟨opened, decide_eq_true ⟨?_, ?_⟩⟩, describes⟩
    · exact describes.workspace.trans workspace
    · exact describes.cluster.trans cluster
  · intro version mem
    obtain ⟨opened, own⟩ := mem_filter.mp mem
    obtain ⟨workspace, cluster⟩ := of_decide_eq_true own
    obtain ⟨row, held, live, describes⟩ := sound.live version opened
    refine ⟨row, mem_filter.mpr ⟨held, decide_eq_true ⟨?_, ?_, live⟩⟩, describes⟩
    · exact describes.workspace.symm.trans workspace
    · exact describes.cluster.symm.trans cluster

theorem archived_empty : Archived env ({}, fun _ _ _ => []) where
  sound := sound_empty env
  starts := by simp [StartsRevised]
  described := fun _ _ _ => ⟨nodup_nil, by simp, by simp, by simp, by simp [versionsAt]⟩

/-- The step: a call moves the archive of its cluster from its revision on. -/
theorem Archived.step (archived : Archived env state) (call : SaveCall)
    : Archived env (saveArchived env state call) := by
  unfold saveArchived
  split
  next next mutation saved =>
    have sound_next := archived.sound.save saved
    obtain ⟨cut, read, accepted | stale⟩ := saveInventorySnapshotMutation_ok saved
    · obtain ⟨events, snapshot, rows, _, accepted⟩ := accepted
      rw [accepted.accepted]
      refine ⟨sound_next, accepted.startsRevised archived.starts, ?_⟩
      intro workspaceId clusterId revision
      simp only [if_true, Archive.after]
      split
      next here =>
        obtain ⟨rfl, rfl, reached⟩ := here
        exact sound_next.describedNow reached _ _
      next elsewhere =>
        obtain ⟨change, keys, tells, same⟩ := accepted.versionsAt_kept archived.sound elsewhere
        rw [same]
        exact (archived.described workspaceId clusterId revision).map keys tells
    · obtain ⟨snapshot, _, _, rfl, ignored, _⟩ := stale
      rw [ignored]
      exact ⟨sound_next, archived.starts, archived.described⟩
  · exact archived

theorem archived_run (calls : List SaveCall) : Archived env (runArchived env calls) := by
  have carried : ∀ state, Archived env state
      → Archived env (calls.foldl (saveArchived env) state) := by
    induction calls with
    | nil => exact fun _ archived => archived
    | cons call rest ih => exact fun state archived => ih _ (archived.step call)
  exact carried _ archived_empty

/-- Versions with one key that are valid at one revision are of one cluster.
Witness: each describes an archived row, whose identity the key encodes.
-/
theorem Archived.cluster_of_key (archived : Archived env state) {revision : Nat}
    {first second : VersionRow} (left : first ∈ state.1.versions)
    (right : second ∈ state.1.versions) (firstValid : versionValidity.ValidAt revision first)
    (secondValid : versionValidity.ValidAt revision second)
    (same : first.inventoryKey = second.inventoryKey)
    : second.workspaceId = first.workspaceId ∧ second.clusterId = first.clusterId := by
  have row_of : ∀ version ∈ state.1.versions, versionValidity.ValidAt revision version
      → ∃ row : ResourceRow, row.KeyFits env ∧ Describes env version row := by
    intro version held valid
    obtain ⟨row, listed, describes⟩ :=
      (archived.described version.workspaceId version.clusterId revision).live version
        (mem_filter.mpr ⟨held, decide_eq_true ⟨⟨rfl, rfl⟩, valid⟩⟩)
    exact ⟨row, (archived.described _ _ _).fits row listed, describes⟩
  obtain ⟨row, fits, describes⟩ := row_of first left firstValid
  obtain ⟨other, otherFits, otherDescribes⟩ := row_of second right secondValid
  have identities : row.identity = other.identity := by
    refine env.inventoryResourceKey_injective ?_
    rw [← fits, ← otherFits, ← describes.key, ← otherDescribes.key, same]
  constructor
  · rw [otherDescribes.workspace, describes.workspace]
    exact (congrArg InventoryIdentity.workspaceId identities).symm
  · rw [otherDescribes.cluster, describes.cluster]
    exact (congrArg InventoryIdentity.clusterId identities).symm

/-- No revision has a key twice, in any cluster. -/
theorem Archived.unique_at (archived : Archived env state) (revision : Nat)
    : Keyed.Unique (·.inventoryKey)
        (state.1.versions.filter (versionValidity.ValidAt revision ·)) := by
  rw [Keyed.Unique, Nodup, pairwise_map, pairwise_filter, pairwise_iff_getElem]
  intro i j hi hj before firstValid secondValid same
  have left := of_decide_eq_true firstValid
  have right := of_decide_eq_true secondValid
  have cluster := archived.cluster_of_key (getElem_mem hi) (getElem_mem hj) left right
    same
  have unique := (archived.described state.1.versions[i].workspaceId
    state.1.versions[i].clusterId revision).unique
  rw [Keyed.Unique, Nodup, pairwise_map, versionsAt, pairwise_filter,
    pairwise_iff_getElem] at unique
  exact unique i j hi hj before (decide_eq_true ⟨⟨rfl, rfl⟩, left⟩)
    (decide_eq_true ⟨cluster, right⟩) same

/-- At most one version of a key is open. -/
theorem VersionsSound.one_open {lastRevision lastVersion : Nat}
    (sound : VersionsSound env lastRevision lastVersion versions) (key : String)
    : (versions.filter fun version =>
        version.inventoryKey = key ∧ version.validTo = none).length ≤ 1 := by
  have opened : (versions.filter fun version =>
        version.inventoryKey = key ∧ version.validTo = none)
      = (openVersions versions).filter (·.inventoryKey = key) := by
    rw [openVersions, filter_filter]
    refine filter_congr ?_
    intro version _
    rw [Bool.decide_and]
    exact congrArg _ (decide_eq_decide.mpr Iff.rfl)
  have keys : ((openVersions versions).filter (·.inventoryKey = key)).map (·.inventoryKey)
      = List.replicate ((openVersions versions).filter (·.inventoryKey = key)).length key := by
    refine eq_replicate_iff.mpr ⟨by simp, ?_⟩
    intro other mem
    obtain ⟨version, inside, rfl⟩ := mem_map.mp mem
    exact of_decide_eq_true (mem_filter.mp inside).2
  have distinct := sound.openKeys.filter (·.inventoryKey = key)
  rw [Keyed.Unique, keys, nodup_replicate] at distinct
  rw [opened]
  exact distinct

/-- Reading at any revision gives the rows that were live after the latest accepted snapshot of
the cluster up to it; no two validities of one key overlap, and at most one is open.
-/
theorem time_travel_exact (env : Platform) (calls : List SaveCall)
    (workspaceId clusterId : String) (revision : Nat)
    : let store := (runArchived env calls).1
      ExactlyRows env.python
        (inventoryVersionsAtRevision store.versions
          (latestFilterRevisions store.revisions workspaceId [clusterId] revision)
          workspaceId [clusterId] revision)
        ((runArchived env calls).2 workspaceId clusterId revision)
      ∧ (store.versions.Pairwise fun first second =>
          first.inventoryKey = second.inventoryKey → versionValidity.Apart first second)
      ∧ ∀ key, (store.versions.filter fun version =>
          version.inventoryKey = key ∧ version.validTo = none).length ≤ 1 := by
  have archived : Archived env (runArchived env calls) := archived_run calls
  refine ⟨?_, Validity.pairwise_apart archived.unique_at, archived.sound.versions.one_open⟩
  rw [inventoryVersionsAtRevision_eq archived.starts]
  exact (archived.described workspaceId clusterId revision).exactly

/-- Whatever snapshot is accepted next, the rows alive afterwards are those it lists, and of those
alive before the ones that it neither lists nor proves gone.
-/
def InventoryStore.TakesOver (env : Platform) (store : InventoryStore) : Prop :=
  ∀ workspaceId clusterId delivery next mutation,
    saveInventorySnapshotMutation env store workspaceId clusterId delivery = .ok (next, mutation)
    → mutation.accepted = true
    → ∃ cut rows, readCut env workspaceId clusterId delivery = some cut
        ∧ Forall₂ (fun resource row => env.storeResource resource = some row) cut.resources rows
        ∧ ∀ row, row ∈ next.resources ∧ row.deleted = false
          ↔ row ∈ rows ∨ (row ∈ store.resources ∧ row.deleted = false)
            ∧ row.inventoryKey ∉ cut.resources.map (·.inventoryKey)
            ∧ cut.provesGone workspaceId clusterId row = false

/-- After any saves, in any order and of any clusters, the inventory takes over what the next
accepted snapshot lists and drops only what that snapshot proves gone.
-/
theorem inventory_takes_over (env : Platform) (calls : List SaveCall)
    : (runArchived env calls).1.TakesOver env := by
  intro workspaceId clusterId delivery next mutation saved taken
  have sound : (runArchived env calls).1.Sound env := (archived_run calls).sound
  obtain ⟨cut, read, ⟨events, snapshot, rows, _, accepted⟩ | ⟨_, _, _, _, refused, _⟩⟩ :=
    saveInventorySnapshotMutation_ok saved
  · refine ⟨cut, rows, read, rows_stored sound read accepted.written, fun row => ?_⟩
    have unlisted (old : ResourceRow) : old.inventoryKey ∉ cut.resources.map (·.inventoryKey)
        ↔ ∀ other ∈ rows, other.inventoryKey ≠ old.inventoryKey := by
      rw [← accepted.row_keys sound read]
      simp
    rw [accepted.mem_resources sound read, unlisted]
    constructor
    · rintro ⟨written | ⟨old, before, absent, rfl⟩, live⟩
      · exact .inl written
      · obtain ⟨same, kept, alive⟩ := live_of_unlisted live
        rw [same]
        exact .inr ⟨⟨before, alive⟩, absent, kept⟩
    · rintro (written | ⟨⟨before, alive⟩, absent, kept⟩)
      · exact ⟨.inl written, (rows_of sound read accepted.written written).2.2.2⟩
      · exact ⟨.inr ⟨row, before, absent, by rw [SnapshotCut.unlisted, kept]; rfl⟩, alive⟩
  · rw [refused] at taken
    cases taken

end K8sClue.Inventory
