import K8sClue.Inventory.ChangeEvents
import K8sClue.Library.Temporal

/-! The temporal projection behind workspace-wide filters.
Each snapshot advances a revision: it closes the versions it supersedes and adds a version for
every resource whose content hash is new.
-/

namespace K8sClue.Inventory

open Python Library

structure VersionRow where
  versionId : Nat
  (sourceSnapshotId workspaceId clusterId : String)
  validFrom : Nat
  validTo : Option Nat := none
  contentHash : String
  content : VersionContent

def VersionRow.inventoryKey (version : VersionRow) : String := version.content.inventoryKey

structure RevisionRow where
  revisionId : Nat
  (snapshotId workspaceId clusterId : String)
  deriving DecidableEq

def versionValidity : Validity VersionRow where
  validFrom := (·.validFrom)
  validTo := (·.validTo)
  close := fun revision version => { version with validTo := some revision }
  validFrom_close := fun _ _ => rfl
  validTo_close := fun _ _ => rfl

/-- What `_application_ids_by_resource_identity` finds at the time of a snapshot. -/
structure ApplicationBindings where
  applicationIds : String → String → Option String → String → List String
  complete : Bool

def normalizedLabels (python : Runtime) (labels : PyDict) : List (String × String) :=
  let texts := labels.map fun entry => (python.strOf (.scalar entry.1), python.strOf entry.2)
  Keyed.latest Prod.fst
    ((texts.insertionSort (fun left right => left.1 ≤ right.1)).filter (·.1 ≠ ""))

def versionContent (python : Runtime) (bindings : ApplicationBindings)
    (resource : InventoryResource)
    : VersionContent where
  inventoryKey := resource.inventoryKey
  resourceType := resource.resourceType
  apiVersion := resource.apiVersion
  kind := resource.kind
  inNamespace := resource.inNamespace
  name := resource.name
  uid := python.optionalStr resource.uid
  resourceVersion := python.optionalStr resource.resourceVersion
  status := resource.status
  health := resource.health
  labels := normalizedLabels python resource.labels
  summary := resource.summary
  applicationIds := bindings.applicationIds resource.apiVersion (python.casefold resource.kind)
    resource.inNamespace resource.name
  applicationBindingComplete := bindings.complete

variable (env : Platform)

def Platform.contentHash (content : VersionContent) : String :=
  env.sha256 (env.contentJson content)

structure ProjectedCut where
  (workspaceId clusterId snapshotId : String)
  resourcesComplete : Bool
  deletionScopes : List InventoryDeleteScope
  bindings : ApplicationBindings

namespace ProjectedCut

variable (cut : ProjectedCut)

def currentRows (resources : List ResourceRow) : List ResourceRow :=
  resources.filter fun row =>
    row.workspaceId = cut.workspaceId ∧ row.clusterId = cut.clusterId
    ∧ row.snapshotId = cut.snapshotId ∧ row.deleted = false

def activeRows (versions : List VersionRow) : List VersionRow :=
  Keyed.latest (·.inventoryKey) (versions.filter fun version =>
    version.workspaceId = cut.workspaceId ∧ version.clusterId = cut.clusterId
    ∧ versionValidity.IsOpen version)

end ProjectedCut

structure ProjectionDiff where
  desired : List VersionContent
  closeIds : List Nat
  versionIds : List (String × Nat)

/-- The content of a row is that of the version that is open for its key. -/
def unchangedVersion (bindings : ApplicationBindings) (active : List VersionRow) (row : ResourceRow)
    : Bool :=
  (Keyed.find (·.inventoryKey) active row.inventoryKey).any fun version =>
    version.contentHash
      = env.contentHash (versionContent env.python bindings row.toInventoryResource)

variable (cut : ProjectedCut)

def computeProjectionDiff
    (resources : List ResourceRow) (versions : List VersionRow)
    : ProjectionDiff :=
  let current := cut.currentRows resources
  let active := cut.activeRows versions
  let changed := current.filter fun row => !unchangedVersion env cut.bindings active row
  let missing := active.filter fun version =>
    (Keyed.find (·.inventoryKey) (current.map (·.toInventoryResource)) version.inventoryKey).isNone
    && (cut.resourcesComplete
      || rowInDeletionScopes version.content.resourceType version.content.inNamespace
        cut.deletionScopes)
  {
    desired := changed.map fun row =>
      versionContent env.python cut.bindings row.toInventoryResource
    closeIds :=
      (changed.filterMap fun row =>
        (Keyed.find (·.inventoryKey) active row.inventoryKey).map (·.versionId))
      ++ missing.map (·.versionId)
    versionIds := active.map fun version => (version.inventoryKey, version.versionId) }

def insertedVersions (revisionId firstId : Nat) (desired : List VersionContent) : List VersionRow :=
  desired.mapIdx fun index content => {
    versionId := firstId + index
    sourceSnapshotId := cut.snapshotId
    workspaceId := cut.workspaceId
    clusterId := cut.clusterId
    validFrom := revisionId
    contentHash := env.contentHash content
    content }

def writeProjectionVersions
    (revisionId firstId : Nat) (diff : ProjectionDiff) (versions : List VersionRow)
    : List VersionRow × ProjectionMutation :=
  let inserted := insertedVersions env cut revisionId firstId diff.desired
  (versionValidity.advance revisionId (fun version => version.versionId ∈ diff.closeIds) inserted
      versions,
    {
      revisionId
      versionIds := Keyed.putAll Prod.fst (fun _ entry => entry) diff.versionIds
        (inserted.map fun version => (version.inventoryKey, version.versionId)) })

def ProjectionMutation.wellFormed (projection : ProjectionMutation) : Bool :=
  1 ≤ projection.revisionId && projection.versionIds.all fun entry => entry.1 ≠ "" && 0 < entry.2

/-- `_latest_filter_revisions_statement`: the latest revision of each cluster up to one. -/
def latestFilterRevisions (revisions : List RevisionRow) (workspaceId : String)
    (clusterIds : List String) (atRevision : Nat)
    : List RevisionRow :=
  clusterIds.filterMap fun clusterId =>
    ((revisions.filter fun row =>
        row.workspaceId = workspaceId ∧ row.clusterId = clusterId ∧ row.revisionId ≤ atRevision)
      |>.insertionSort fun left right => right.revisionId ≤ left.revisionId).head?

/-- `_inventory_versions_at_revision_statement` with `include_deleted=False`. -/
def inventoryVersionsAtRevision (versions : List VersionRow)
    (latestRevisions : List RevisionRow) (workspaceId : String) (clusterIds : List String)
    (snapshotRevision : Nat)
    : List VersionRow :=
  let selected := versions.filter fun version =>
    version.workspaceId = workspaceId ∧ version.clusterId ∈ clusterIds
    ∧ versionValidity.ValidAt snapshotRevision version
  selected.flatMap fun version =>
    (latestRevisions.filter fun row =>
      row.workspaceId = version.workspaceId ∧ row.clusterId = version.clusterId).map
      fun _ => version

end K8sClue.Inventory
