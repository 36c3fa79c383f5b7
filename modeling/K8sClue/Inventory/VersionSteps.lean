import K8sClue.Inventory.Versions

/-! What one snapshot does to the open versions of a cluster.
For each key there are three cases: the snapshot has a resource with it, the snapshot proves
that the resource is gone, or the snapshot says nothing about it.
-/

namespace K8sClue.Inventory

open Python Library List Keyed

def openVersions (versions : List VersionRow) : List VersionRow :=
  versions.filter (versionValidity.IsOpen ·)

structure VersionContent.Canonical (env : Platform) (content : VersionContent) : Prop where
  summary : env.jsonb content.summary = some content.summary
  labels : content.labels.Pairwise (fun left right => left.1 < right.1)

theorem contentHash_injective {env : Platform} {first second : VersionContent}
    (left : first.Canonical env) (right : second.Canonical env)
    (same : env.contentHash first = env.contentHash second)
    : first = second :=
  env.contentJson_injective left.summary right.summary left.labels right.labels
    (env.sha256_injective same)

/-- Witness: the labels are sorted by their keys before equal keys are merged. -/
theorem normalizedLabels_sorted (python : Runtime) (labels : PyDict)
    : (normalizedLabels python labels).Pairwise (fun left right => left.1 < right.1) := by
  unfold normalizedLabels
  generalize labels.map (fun entry => (python.strOf (.scalar entry.1), python.strOf entry.2))
    = texts
  have sorted := pairwise_insertionSort
    (fun left right : String × String => left.1 ≤ right.1) texts
  have kept := sorted.sublist (@List.filter_sublist _ (fun text => decide (text.1 ≠ "")) _)
  have keys : ((Keyed.latest Prod.fst
      ((texts.insertionSort (fun left right => left.1 ≤ right.1)).filter
        (·.1 ≠ ""))).map Prod.fst).Pairwise (· ≤ ·) :=
    (pairwise_map.mpr kept).sublist keys_latest_sublist
  have different : ((Keyed.latest Prod.fst
      ((texts.insertionSort (fun left right => left.1 ≤ right.1)).filter
        (·.1 ≠ ""))).map Prod.fst).Pairwise (· ≠ ·) := unique_latest
  refine pairwise_map.mp ((keys.and different).imp ?_)
  rintro first second ⟨before, apart⟩
  exact lt_of_le_of_ne before apart

structure VersionsSound (env : Platform) (lastRevision lastVersion : Nat)
    (versions : List VersionRow)
    : Prop where
  upTo : versionValidity.UpTo lastRevision versions
  ids : Unique (·.versionId) versions
  numbered : ∀ version ∈ versions, 0 < version.versionId ∧ version.versionId ≤ lastVersion
  openKeys : Unique (·.inventoryKey) (openVersions versions)
  hashed : ∀ version ∈ versions, version.contentHash = env.contentHash version.content
    ∧ version.content.Canonical env

namespace ProjectedCut

variable (cut : ProjectedCut)

def owns (version : VersionRow) : Bool :=
  version.workspaceId = cut.workspaceId ∧ version.clusterId = cut.clusterId

/-- The snapshot proves that the resource of a version is gone if it does not list it. -/
def provesGone (version : VersionRow) : Bool :=
  cut.owns version
  && (cut.resourcesComplete
    || rowInDeletionScopes version.content.resourceType version.content.inNamespace
      cut.deletionScopes)

end ProjectedCut

variable {env : Platform} {cut : ProjectedCut} {lastRevision lastVersion : Nat}
  {resources : List ResourceRow} {versions : List VersionRow}

variable (sound : VersionsSound env lastRevision lastVersion versions)
include sound

theorem activeRows_eq : cut.activeRows versions = (openVersions versions).filter cut.owns := by
  have same : versions.filter (fun version =>
      version.workspaceId = cut.workspaceId ∧ version.clusterId = cut.clusterId
      ∧ versionValidity.IsOpen version)
      = (openVersions versions).filter cut.owns := by
    rw [openVersions, filter_filter]
    refine filter_congr ?_
    simp [ProjectedCut.owns, Bool.and_assoc]
  rw [ProjectedCut.activeRows, same]
  exact latest_of_unique (sound.openKeys.filter cut.owns)

variable {version : VersionRow} {desired : List VersionContent} {content : VersionContent}
  {row : ResourceRow} {key : String}

theorem mem_activeRows
    : version ∈ cut.activeRows versions
      ↔ version ∈ openVersions versions ∧ cut.owns version = true := by
  rw [activeRows_eq sound, mem_filter]

omit sound

def Superseding (env : Platform) (cut : ProjectedCut) (versions : List VersionRow)
    (row : ResourceRow)
    : Prop :=
  unchangedVersion env cut.bindings (cut.activeRows versions) row = false

/-- Exactly these open versions are closed: those that a resource of the snapshot supersedes,
and those of the cluster whose absence the snapshot proves.
-/
theorem mem_closeIds (sound : VersionsSound env lastRevision lastVersion versions)
    (opened : version ∈ openVersions versions)
    : version.versionId ∈ (computeProjectionDiff env cut resources versions).closeIds
      ↔ cut.owns version = true
        ∧ ((∃ row ∈ cut.currentRows resources,
              row.inventoryKey = version.inventoryKey ∧ Superseding env cut versions row)
          ∨ (∀ row ∈ cut.currentRows resources, row.inventoryKey ≠ version.inventoryKey)
            ∧ cut.provesGone version = true) := by
  have inTable : ∀ {other : VersionRow}, other ∈ cut.activeRows versions → other ∈ versions :=
    fun active => mem_of_mem_filter ((mem_activeRows sound).mp active).1
  have same : ∀ {other : VersionRow}, other ∈ cut.activeRows versions
      → other.versionId = version.versionId → other = version :=
    fun active equal =>
      sound.ids.eq_of_key (inTable active) (mem_of_mem_filter opened) equal
  have missing : ∀ {other : VersionRow},
      (Keyed.find (·.inventoryKey) ((cut.currentRows resources).map (·.toInventoryResource))
        other.inventoryKey).isNone = true
      ↔ ∀ row ∈ cut.currentRows resources, row.inventoryKey ≠ other.inventoryKey := by
    intro other
    rw [Option.isNone_iff_eq_none, find_eq_none]
    simp
  simp only [computeProjectionDiff, mem_append, mem_filterMap, mem_map,
    mem_filter, Bool.and_eq_true, Option.map_eq_some_iff, missing]
  constructor
  · rintro (⟨row, ⟨listed, changed⟩, other, found, equal⟩ | ⟨other, ⟨active, gone⟩, equal⟩)
    · obtain ⟨active, key⟩ := mem_of_find found
      obtain rfl := same active equal
      exact ⟨((mem_activeRows sound).mp active).2,
        .inl ⟨row, listed, key.symm, by simpa [Superseding] using changed⟩⟩
    · obtain rfl := same active equal
      have own := ((mem_activeRows sound).mp active).2
      refine ⟨own, .inr ⟨gone.1, ?_⟩⟩
      simpa [ProjectedCut.provesGone, own] using gone.2
  · rintro ⟨own, ⟨row, listed, key, changed⟩ | ⟨absent, gone⟩⟩
    · refine .inl ⟨row, ⟨listed, by simpa [Superseding] using changed⟩, version, ?_, rfl⟩
      rw [activeRows_eq sound, sound.openKeys.find_filter, key, sound.openKeys.find_eq opened,
        Option.filter_some, own]
      rfl
    · refine .inr ⟨version, ⟨(mem_activeRows sound).mpr ⟨opened, own⟩, absent, ?_⟩, rfl⟩
      simpa [ProjectedCut.provesGone, own] using gone

structure InsertedBy (env : Platform) (cut : ProjectedCut) (revisionId firstId count : Nat)
    (version : VersionRow)
    : Prop where
  owned : cut.owns version = true
  opened : versionValidity.IsOpen version
  starts : version.validFrom = revisionId
  hash : version.contentHash = env.contentHash version.content
  numbered : firstId ≤ version.versionId ∧ version.versionId < firstId + count

theorem mem_insertedVersions {revisionId firstId : Nat}
    (mem : version ∈ insertedVersions env cut revisionId firstId desired)
    : InsertedBy env cut revisionId firstId desired.length version
      ∧ version.content ∈ desired := by
  rw [insertedVersions, mem_mapIdx] at mem
  obtain ⟨index, bound, rfl⟩ := mem
  refine ⟨⟨by simp [ProjectedCut.owns], rfl, rfl, rfl, by simp [bound]⟩, ?_⟩
  exact getElem_mem bound

theorem exists_insertedVersions (env : Platform) (cut : ProjectedCut)
    (revisionId firstId : Nat) (wanted : content ∈ desired)
    : ∃ version ∈ insertedVersions env cut revisionId firstId desired,
        version.content = content := by
  obtain ⟨index, bound, rfl⟩ := getElem_of_mem wanted
  exact ⟨_, mem_mapIdx.mpr ⟨index, bound, rfl⟩, rfl⟩

theorem insertedVersions_keys (revisionId firstId : Nat) (desired : List VersionContent)
    : (insertedVersions env cut revisionId firstId desired).map (·.inventoryKey)
      = desired.map (·.inventoryKey) := by
  exact ext_getElem (by simp [insertedVersions])
    (by simp [insertedVersions, VersionRow.inventoryKey])

theorem insertedVersions_ids (revisionId firstId : Nat) (desired : List VersionContent)
    : (insertedVersions env cut revisionId firstId desired).map (·.versionId)
      = List.range' firstId desired.length := by
  exact ext_getElem (by simp [insertedVersions]) (by simp [insertedVersions])

structure CutFits (env : Platform) (cut : ProjectedCut) (resources : List ResourceRow)
    (versions : List VersionRow)
    : Prop where
  rowKeys : Unique (fun row : ResourceRow => row.inventoryKey) (cut.currentRows resources)
  stored : ∀ row ∈ cut.currentRows resources, env.jsonb row.summary = some row.summary
  owned : ∀ row ∈ cut.currentRows resources, ∀ version ∈ openVersions versions,
      version.inventoryKey = row.inventoryKey → cut.owns version = true

def versionsAfter (env : Platform) (cut : ProjectedCut) (revisionId firstId : Nat)
    (resources : List ResourceRow) (versions : List VersionRow)
    : List VersionRow :=
  (writeProjectionVersions env cut revisionId firstId
    (computeProjectionDiff env cut resources versions) versions).1

variable {revisionId firstId : Nat}

/-- What is open after a snapshot: the versions it leaves open, then those it inserts. -/
theorem openVersions_after
    : openVersions (versionsAfter env cut revisionId firstId resources versions)
      = (openVersions versions).filter (fun version => decide (version.versionId
            ∉ (computeProjectionDiff env cut resources versions).closeIds))
        ++ insertedVersions env cut revisionId firstId
          (computeProjectionDiff env cut resources versions).desired := by
  unfold openVersions versionsAfter writeProjectionVersions
  rw [Validity.filter_isOpen_advance fun version mem => (mem_insertedVersions mem).1.opened]
  simp

/-- The contents to insert are those of the superseding rows. -/
theorem desired_eq
    : (computeProjectionDiff env cut resources versions).desired
      = ((cut.currentRows resources).filter fun row =>
          !unchangedVersion env cut.bindings (cut.activeRows versions) row).map
        fun row => versionContent env.python cut.bindings row.toInventoryResource := rfl

theorem mem_desired
    : content ∈ (computeProjectionDiff env cut resources versions).desired
      ↔ ∃ row ∈ cut.currentRows resources, Superseding env cut versions row
        ∧ versionContent env.python cut.bindings row.toInventoryResource = content := by
  rw [desired_eq]
  simp [Superseding, and_assoc]

variable (fits : CutFits env cut resources versions)
include fits

variable (sound : VersionsSound env lastRevision lastVersion versions)
include sound

/-- A row whose content is unchanged is described by the version that is open for its key. -/
theorem content_of_unchanged (listed : row ∈ cut.currentRows resources)
    (unchanged : ¬ Superseding env cut versions row)
    : ∃ version ∈ openVersions versions, version.inventoryKey = row.inventoryKey
        ∧ cut.owns version = true
        ∧ version.content
          = versionContent env.python cut.bindings row.toInventoryResource := by
  simp only [Superseding, unchangedVersion, Bool.not_eq_false, Option.any_eq_true,
    decide_eq_true_eq] at unchanged
  obtain ⟨version, found, hashes⟩ := unchanged
  obtain ⟨active, key⟩ := mem_of_find found
  obtain ⟨opened, own⟩ := (mem_activeRows sound).mp active
  obtain ⟨hash, canonical⟩ := sound.hashed version (mem_of_mem_filter opened)
  refine ⟨version, opened, key, own, contentHash_injective canonical ?_ (hash ▸ hashes)⟩
  exact ⟨fits.stored row listed, normalizedLabels_sorted _ _⟩

/-- No key is open twice after a snapshot.
Witness: a version whose key is inserted again is of the cluster, and so it was closed.
-/
theorem openKeys_after
    : Unique (·.inventoryKey)
        (openVersions (versionsAfter env cut revisionId firstId resources versions)) := by
  rw [openVersions_after, Keyed.Unique, map_append, nodup_append]
  refine ⟨sound.openKeys.filter _, ?_, ?_⟩
  · rw [insertedVersions_keys, desired_eq, map_map]
    exact fits.rowKeys.filter _
  · intro key before other after same
    subst other
    obtain ⟨version, kept, rfl⟩ := mem_map.mp before
    obtain ⟨opened, notClosed⟩ := mem_filter.mp kept
    rw [insertedVersions_keys] at after
    obtain ⟨content, inserted, key⟩ := mem_map.mp after
    obtain ⟨row, listed, changed, rfl⟩ := mem_desired.mp inserted
    have rowKey : row.inventoryKey = version.inventoryKey := key
    have own := fits.owned row listed version opened rowKey.symm
    refine (of_decide_eq_true notClosed) ((mem_closeIds sound opened).mpr ⟨own, .inl ?_⟩)
    exact ⟨row, listed, rowKey, changed⟩

/-- After a snapshot the open version of each of its resources has the resource's content. -/
theorem find_open_listed (listed : row ∈ cut.currentRows resources)
    : ∃ version,
        Keyed.find (·.inventoryKey)
            (openVersions (versionsAfter env cut revisionId firstId resources versions))
            row.inventoryKey = some version
        ∧ cut.owns version = true
        ∧ version.content
          = versionContent env.python cut.bindings row.toInventoryResource := by
  have unique : Unique (·.inventoryKey)
      (openVersions (versionsAfter env cut revisionId firstId resources versions)) :=
    openKeys_after sound fits
  by_cases changed : Superseding env cut versions row
  · obtain ⟨version, mem, same⟩ := exists_insertedVersions env cut revisionId firstId
      (mem_desired.mpr ⟨row, listed, changed, rfl⟩)
    refine ⟨version, unique.find_iff.mpr ⟨?_, congrArg VersionContent.inventoryKey same⟩,
      (mem_insertedVersions mem).1.owned, same⟩
    rw [openVersions_after]
    exact mem_append_right _ mem
  · obtain ⟨version, opened, key, own, same⟩ := content_of_unchanged sound fits listed changed
    refine ⟨version, unique.find_iff.mpr ⟨?_, key⟩, own, same⟩
    rw [openVersions_after]
    refine mem_append_left _ (mem_filter.mpr ⟨opened, decide_eq_true ?_⟩)
    rw [mem_closeIds sound opened]
    rintro ⟨_, ⟨other, inside, otherKey, otherChanged⟩ | ⟨absent, _⟩⟩
    · obtain rfl := fits.rowKeys.eq_of_key inside listed (otherKey.trans key)
      exact changed otherChanged
    · exact absent row listed key.symm

/-- A key that the snapshot does not list stays as it is, unless it is proved to be gone. -/
theorem find_open_unlisted (absent : ∀ row ∈ cut.currentRows resources, row.inventoryKey ≠ key)
    : Keyed.find (·.inventoryKey)
        (openVersions (versionsAfter env cut revisionId firstId resources versions)) key
      = (Keyed.find (·.inventoryKey) (openVersions versions) key).filter
          (fun version => !cut.provesGone version) := by
  have unique : Unique (·.inventoryKey)
      (openVersions (versionsAfter env cut revisionId firstId resources versions)) :=
    openKeys_after sound fits
  ext version
  rw [unique.find_iff, Option.filter_eq_some_iff, sound.openKeys.find_iff, openVersions_after,
    mem_append, mem_filter]
  constructor
  · rintro ⟨⟨opened, kept⟩ | inserted, rfl⟩
    · refine ⟨⟨opened, rfl⟩, ?_⟩
      have stays := of_decide_eq_true kept
      rw [mem_closeIds sound opened] at stays
      by_contra gone
      have proved : cut.provesGone version = true := by simpa using gone
      have own : cut.owns version = true := by
        exact (Bool.and_eq_true _ _ ▸ proved).1
      exact stays ⟨own, .inr ⟨absent, proved⟩⟩
    · obtain ⟨row, listed, _, same⟩ := mem_desired.mp (mem_insertedVersions inserted).2
      exact absurd (congrArg VersionContent.inventoryKey same) (absent row listed)
  · rintro ⟨⟨opened, rfl⟩, stays⟩
    refine ⟨.inl ⟨opened, decide_eq_true ?_⟩, rfl⟩
    rw [mem_closeIds sound opened]
    rintro ⟨_, ⟨row, listed, same, _⟩ | ⟨_, gone⟩⟩
    · exact absent row listed same
    · simp [gone] at stays

/-- A snapshot leaves the version table sound. -/
theorem VersionsSound.after
    (later : lastRevision < revisionId) (above : lastVersion < firstId)
    : VersionsSound env revisionId
        (firstId + (computeProjectionDiff env cut resources versions).desired.length)
        (versionsAfter env cut revisionId firstId resources versions) where
  upTo := sound.upTo.advance later (fun _ mem => (mem_insertedVersions mem).1.starts)
    (fun _ mem => (mem_insertedVersions mem).1.opened)
  ids := by
    have kept : (versions.map (versionValidity.superseded revisionId fun version =>
          decide (version.versionId
            ∈ (computeProjectionDiff env cut resources versions).closeIds))).map
          (·.versionId)
        = versions.map (·.versionId) := by
      rw [map_map]
      refine map_congr_left ?_
      intro version _
      simp only [Function.comp, Validity.superseded]
      split <;> rfl
    simp only [versionsAfter, writeProjectionVersions, Validity.advance, Keyed.Unique,
      map_append, kept, insertedVersions_ids, nodup_append]
    refine ⟨sound.ids, nodup_range', ?_⟩
    intro id before other after same
    obtain ⟨version, mem, rfl⟩ := mem_map.mp before
    have bound := (sound.numbered version mem).2
    have start := (mem_range'_1.mp after).1
    omega
  numbered := by
    intro version mem
    rcases mem_append.mp mem with old | inserted
    · obtain ⟨before, inside, rfl⟩ := mem_map.mp old
      have same : (versionValidity.superseded revisionId (fun version =>
          decide (version.versionId
            ∈ (computeProjectionDiff env cut resources versions).closeIds))
          before).versionId = before.versionId := by
        unfold Validity.superseded
        split <;> rfl
      have bounds := sound.numbered before inside
      omega
    · have bounds := (mem_insertedVersions inserted).1.numbered
      omega
  openKeys := openKeys_after sound fits
  hashed := by
    intro version mem
    rcases mem_append.mp mem with old | inserted
    · obtain ⟨before, inside, rfl⟩ := mem_map.mp old
      have known := sound.hashed before inside
      unfold Validity.superseded
      split <;> exact known
    · obtain ⟨made, wanted⟩ := mem_insertedVersions inserted
      obtain ⟨row, listed, _, same⟩ := mem_desired.mp wanted
      refine ⟨made.hash, ?_⟩
      rw [← same]
      exact ⟨fits.stored row listed, normalizedLabels_sorted _ _⟩

omit fits

omit sound

def projectionAfter (env : Platform) (cut : ProjectedCut) (revisionId firstId : Nat)
    (resources : List ResourceRow) (versions : List VersionRow)
    : ProjectionMutation :=
  (writeProjectionVersions env cut revisionId firstId
    (computeProjectionDiff env cut resources versions) versions).2

/-- Every reported id is that of a version, and so it is positive. -/
theorem versionId_pos (sound : VersionsSound env lastRevision lastVersion versions)
    (above : lastVersion < firstId) {id : Nat}
    (reported : (projectionAfter env cut revisionId firstId resources versions).versionId key
      = some id)
    : 0 < id := by
  obtain ⟨entry, found, rfl⟩ := Option.map_eq_some_iff.mp reported
  rcases mem_of_mem_putAll (fun _ _ => rfl) (mem_of_find found).1 with old | new
  · obtain ⟨version, active, rfl⟩ := mem_map.mp old
    exact (sound.numbered version (mem_of_mem_filter ((mem_activeRows sound).mp active).1)).1
  · obtain ⟨version, inserted, rfl⟩ := mem_map.mp new
    have bounds := (mem_insertedVersions inserted).1.numbered
    omega

/-- An id is reported for each resource of the snapshot and for each version of the cluster
that was open before it.
-/
theorem versionId_reported (sound : VersionsSound env lastRevision lastVersion versions)
    (above : lastVersion < firstId)
    (known : (∃ row ∈ cut.currentRows resources, row.inventoryKey = key)
      ∨ ∃ version ∈ openVersions versions, version.inventoryKey = key ∧ cut.owns version = true)
    : ∃ id,
        (projectionAfter env cut revisionId firstId resources versions).versionId key
        = some (id + 1) := by
  let projection := projectionAfter env cut revisionId firstId resources versions
  have inserted := @insertedVersions_keys env cut revisionId firstId
    (computeProjectionDiff env cut resources versions).desired
  have listed : key ∈ (cut.activeRows versions).map (·.inventoryKey)
      ∨ key ∈ (insertedVersions env cut revisionId firstId
        (computeProjectionDiff env cut resources versions).desired).map (·.inventoryKey) := by
    rcases known with ⟨row, inside, rfl⟩ | ⟨version, opened, rfl, own⟩
    · by_cases changed : Superseding env cut versions row
      · rw [inserted]
        exact .inr (mem_map.mpr ⟨_, mem_desired.mpr ⟨row, inside, changed, rfl⟩, rfl⟩)
      · simp only [Superseding, unchangedVersion, Bool.not_eq_false, Option.any_eq_true] at changed
        obtain ⟨version, found, _⟩ := changed
        obtain ⟨mem, same⟩ := mem_of_find found
        exact .inl (mem_map.mpr ⟨version, mem, same⟩)
    · exact .inl (mem_map_of_mem ((mem_activeRows sound).mpr ⟨opened, own⟩))
  have keys : key ∈ projection.versionIds.map Prod.fst := by
    refine (mem_keys_putAll (fun _ _ _ => rfl)).mpr (listed.imp ?_ ?_)
    · intro active
      simpa [computeProjectionDiff] using active
    · intro new
      simpa using new
  obtain ⟨entry, mem, same⟩ := mem_map.mp keys
  obtain ⟨reported, held⟩ :=
    Option.isSome_iff_exists.mp (find_isSome.mpr ⟨entry, mem, same⟩)
  have id_eq : projection.versionId key = some reported.2 := by
    rw [ProjectionMutation.versionId, held]
    rfl
  have positive := versionId_pos sound above id_eq
  exact ⟨reported.2 - 1, by rw [Nat.sub_add_cancel positive]; exact id_eq⟩

end K8sClue.Inventory
