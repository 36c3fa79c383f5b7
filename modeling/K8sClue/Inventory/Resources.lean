import K8sClue.Library.Keyed
import K8sClue.Python.Conversions
import K8sClue.Python.Time

/-! Inventory resources: how a snapshot's payload is normalized and what a row keeps of it.
Times of occurrence are left out, since no decision about a snapshot reads them.
-/

namespace K8sClue.Inventory

open Python Library List Function Keyed

structure InventoryIdentity where
  (workspaceId clusterId resourceType apiVersion inNamespace kind name : String)
  deriving DecidableEq

structure VersionContent where
  (inventoryKey resourceType apiVersion kind : String)
  inNamespace : Option String
  name : String
  (uid resourceVersion : Option String)
  (status health : String)
  labels : List (String × String)
  summary : PyDict
  applicationIds : List String
  applicationBindingComplete : Bool

def isHexDigit (char : Char) : Bool :=
  ('0' ≤ char && char ≤ '9') || ('a' ≤ char && char ≤ 'f')

/-- What the inventory takes from its surroundings: the runtime, the columns of the database
and the digests of JSON texts.
-/
structure Platform where
  python : Runtime
  iso : IsoFormat
  /-- the session's time zone -/
  zone : Int → Int
  /-- `str.lower()`; it leaves small letters and turns no other character into whitespace -/
  lower : String → String
  lower_small : ∀ text, text.toList.all Char.isLower = true → lower text = text
  strip_lower : ∀ text, strip (lower (strip text)) = lower (strip text)
  /-- what a text column gives back of a value that is written to it, or its refusal -/
  textColumn : PyValue → Option (Option String)
  /-- what a `jsonb` column gives back of an object that is written to it, or its refusal -/
  jsonb : PyDict → Option PyDict
  jsonb_stored : ∀ {written stored}, jsonb written = some stored → jsonb stored = some stored
  /-- `hashlib.sha256(text.encode()).hexdigest()` -/
  sha256 : String → String
  sha256_injective : Injective sha256
  sha256_nonempty : ∀ text, sha256 text ≠ ""
  sha256_hex : ∀ text, ∀ char ∈ (sha256 text).toList, isHexDigit char = true
  /-- `json.dumps` of an identity -/
  identityJson : InventoryIdentity → String
  identityJson_injective : Injective identityJson
  /-- `json.dumps` of the meaningful fields with sorted keys; objects read from the database
  list their keys in one order, and so do the labels -/
  contentJson : VersionContent → String
  contentJson_injective
    : ∀ {first second : VersionContent}, jsonb first.summary = some first.summary
      → jsonb second.summary = some second.summary
      → first.labels.Pairwise (fun left right => left.1 < right.1)
      → second.labels.Pairwise (fun left right => left.1 < right.1)
      → contentJson first = contentJson second → first = second
  /-- `json.dumps` of the fields that tell resources apart, with sorted keys -/
  factsJson : List (String × PyValue) → String
  /-- `value.astimezone(UTC)` -/
  utc : Int → UtcTime

/-- A resource as `normalize_inventory_resource` builds it, and as a row is read back. -/
structure InventoryResource where
  (inventoryKey snapshotId workspaceId clusterId resourceType apiVersion kind : String)
  inNamespace : Option String
  name : String
  (uid resourceVersion : PyValue)
  (status health : String)
  (labels annotations summary raw : PyDict)

def healthResourceType : String := "health"
def usageResourceType : String := "usage"
def eventResourceType : String := "event"
def unknownStatus : String := "unknown"

namespace Platform

variable (env : Platform)

def timestampWireValue (moment : Int) : String := (env.utc moment).wireText

def inventoryResourceKey (identity : InventoryIdentity) : String :=
  env.sha256 (env.identityJson identity)

theorem inventoryResourceKey_injective : Injective env.inventoryResourceKey :=
  env.sha256_injective.comp env.identityJson_injective

def resourceTypeOf (resource : PyDict) : String :=
  env.lower (strip (env.python.strOr (resource.get "resource_type") "custom"))

/-- `normalize_inventory_resource`; `none` is the error of a field that is no object. -/
def normalizeInventoryResource (workspaceId clusterId snapshotId : String) (resource : PyDict)
    : Option InventoryResource := do
  let python := env.python
  let resourceType := env.resourceTypeOf resource
  let apiVersion := python.strOr (resource.get "api_version") ""
  let kind := python.strOr (resource.get "kind") resourceType
  let inNamespace := python.optionalStr (resource.get "namespace")
  let name := python.strOr (resource.get "name")
    (python.strOr (resource.get "uid") (resourceType ++ "-resource"))
  let summary ← dictOrEmpty (resource.get "summary")
  let labels ← dictOrEmpty (resource.get "labels")
  let annotations ← dictOrEmpty (resource.get "annotations")
  let raw ← dictOrEmpty (resource.get "raw")
  return {
    inventoryKey := env.inventoryResourceKey {
      workspaceId, clusterId, resourceType, apiVersion
      inNamespace := inNamespace.getD ""
      kind, name }
    snapshotId, workspaceId, clusterId, resourceType, apiVersion, kind, inNamespace, name
    uid := resource.get "uid"
    resourceVersion := resource.get "resource_version"
    status := python.strOr (resource.get "status") unknownStatus
    health := python.strOr (resource.get "health") unknownStatus
    labels, annotations, summary, raw }

def snapshotResources (payload : PyValue) : Option (List PyDict) := do
  let python := env.python
  let items ← match lookup payload.mapping (.str "resources") with
    | none => some []
    | some value => iterate value
  let resources ← items.mapM dictOf
  let health ← dictOrEmpty (payload.get "health")
  let usage ← dictOrEmpty (payload.get "usage")
  let text := fun (value : String) => PyValue.scalar (.str value)
  let healthRow : PyDict := [
    (.str "resource_type", text healthResourceType), (.str "api_version", text "platform/v1"),
    (.str "kind", text "ClusterHealth"), (.str "namespace", .scalar .none),
    (.str "name", text "cluster"),
    (.str "status", text (python.strOr (health.get "status") unknownStatus)),
    (.str "health", text (python.strOr (health.get "health")
      (python.strOr (health.get "status") unknownStatus))),
    (.str "summary", .dict health), (.str "raw", .dict health)]
  let usageRow : PyDict := [
    (.str "resource_type", text usageResourceType), (.str "api_version", text "platform/v1"),
    (.str "kind", text "ClusterUsage"), (.str "namespace", .scalar .none),
    (.str "name", text "cluster"),
    (.str "status", text (python.strOr (usage.get "status") "sampled")),
    (.str "health", text unknownStatus),
    (.str "summary", .dict usage), (.str "raw", .dict usage)]
  return resources ++ (if health.isEmpty then [] else [healthRow])
    ++ (if usage.isEmpty then [] else [usageRow])

end Platform

namespace InventoryResource

def identity (resource : InventoryResource) : InventoryIdentity where
  workspaceId := resource.workspaceId
  clusterId := resource.clusterId
  resourceType := resource.resourceType
  apiVersion := resource.apiVersion
  inNamespace := resource.inNamespace.getD ""
  kind := resource.kind
  name := resource.name

/-- The resource is stored under the key of its identity. -/
def KeyFits (env : Platform) (resource : InventoryResource) : Prop :=
  resource.inventoryKey = env.inventoryResourceKey resource.identity

def timelineEligible (resource : InventoryResource) : Bool :=
  resource.resourceType ∉ [healthResourceType, usageResourceType, eventResourceType]

end InventoryResource

def dedupeInventoryRows (rows : List InventoryResource) : List InventoryResource :=
  Keyed.latest (·.inventoryKey) rows

def withExistingKey (existing : List InventoryResource) (row : InventoryResource)
    : InventoryResource :=
  match Keyed.find (·.identity) existing row.identity with
  | some known => { row with inventoryKey := known.inventoryKey }
  | none => row

def preserveExistingInventoryKeys (current previous : List InventoryResource)
    : List InventoryResource :=
  let existing := Keyed.latest (·.identity) (previous.filter (·.inventoryKey ≠ ""))
  dedupeInventoryRows (current.map (withExistingKey existing))

structure ResourceRow extends InventoryResource where
  deleted : Bool := false

def columnValue : Option String → PyValue
  | none => .scalar .none
  | some text => .scalar (.str text)

/-- What the columns keep of a resource, or the refusal of one of its values. -/
def Platform.storeResource (env : Platform) (resource : InventoryResource)
    : Option ResourceRow := do
  let uid ← env.textColumn resource.uid
  let resourceVersion ← env.textColumn resource.resourceVersion
  let labels ← env.jsonb resource.labels
  let annotations ← env.jsonb resource.annotations
  let summary ← env.jsonb resource.summary
  let raw ← env.jsonb resource.raw
  let texts := [resource.resourceType, resource.apiVersion, resource.kind, resource.name,
    resource.status, resource.health] ++ resource.inNamespace.toList
  if texts.all fun text => (env.textColumn (.scalar (.str text))).isSome then
    some {
      resource with
      uid := columnValue uid
      resourceVersion := columnValue resourceVersion
      labels, annotations, summary, raw }
  else
    none

/-- `ON CONFLICT (inventory_key) DO UPDATE`: the key, the cluster and the type stay. -/
def ResourceRow.updated (old row : ResourceRow) : ResourceRow :=
  { row with
    inventoryKey := old.inventoryKey
    workspaceId := old.workspaceId
    clusterId := old.clusterId
    resourceType := old.resourceType
    deleted := false }

theorem ResourceRow.updated_key (old row : ResourceRow) (same : old.inventoryKey = row.inventoryKey)
    : (old.updated row).inventoryKey = row.inventoryKey := same

structure InventoryResource.Of (env : Platform) (workspaceId clusterId snapshotId : String)
    (resource : InventoryResource)
    : Prop where
  workspace : resource.workspaceId = workspaceId
  cluster : resource.clusterId = clusterId
  snapshot : resource.snapshotId = snapshotId
  key : resource.KeyFits env
  typeStripped : strip resource.resourceType = resource.resourceType

variable {env : Platform} {resource : InventoryResource}

/-- Witness: every field of the normalized resource is read off its definition. -/
theorem Platform.normalizeInventoryResource_of
    {workspaceId clusterId snapshotId : String} {entries : PyDict}
    (normalized : env.normalizeInventoryResource workspaceId clusterId snapshotId entries
      = some resource)
    : resource.Of env workspaceId clusterId snapshotId := by
  simp only [Platform.normalizeInventoryResource, Option.bind_eq_bind, Option.pure_def,
    Option.bind_eq_some_iff, Option.some.injEq] at normalized
  obtain ⟨summary, _, labels, _, annotations, _, raw, _, rfl⟩ := normalized
  exact ⟨rfl, rfl, rfl, rfl, env.strip_lower _⟩

/-- Resources that are keyed by their identity keep their keys.
Witness: an existing row with the same identity has the key of that identity.
-/
theorem preserveExistingInventoryKeys_eq
    {current previous : List InventoryResource} (fits : ∀ row ∈ current, row.KeyFits env)
    (known : ∀ row ∈ previous, row.KeyFits env)
    (unique : Unique (·.inventoryKey) current)
    : preserveExistingInventoryKeys current previous = current := by
  have kept : ∀ row ∈ current,
      withExistingKey (Keyed.latest (·.identity) (previous.filter (·.inventoryKey ≠ ""))) row
      = row := by
    intro row mem
    unfold withExistingKey
    split
    next existing found =>
      obtain ⟨inside, same⟩ := mem_of_find found
      have before := (mem_filter.mp (mem_of_mem_latest inside)).1
      have keys : existing.inventoryKey = row.inventoryKey := by
        rw [known existing before, same, fits row mem]
      rw [keys]
    · rfl
  change dedupeInventoryRows (current.map (withExistingKey _)) = current
  rw [map_congr_left kept, map_id', dedupeInventoryRows, latest_of_unique unique]

/-- The values of the text columns are texts, or missing. -/
def InventoryResource.ReadBack (resource : InventoryResource) : Prop :=
  ∃ uid resourceVersion,
    resource.uid = columnValue uid ∧ resource.resourceVersion = columnValue resourceVersion

/-- A stored row tells what it was stored from, in the way the columns read it back. -/
structure ResourceRow.StoredFrom (env : Platform) (resource : InventoryResource)
    (row : ResourceRow)
    : Prop where
  key : row.inventoryKey = resource.inventoryKey
  snapshot : row.snapshotId = resource.snapshotId
  workspace : row.workspaceId = resource.workspaceId
  cluster : row.clusterId = resource.clusterId
  identity : row.identity = resource.identity
  resourceType : row.resourceType = resource.resourceType
  inNamespace : row.inNamespace = resource.inNamespace
  summary : env.jsonb row.summary = some row.summary
  columns : row.ReadBack
  live : row.deleted = false

theorem Platform.storeResource_some
    {row : ResourceRow} (stored : env.storeResource resource = some row)
    : row.StoredFrom env resource := by
  simp only [Platform.storeResource, Option.bind_eq_bind, Option.bind_eq_some_iff,
    Option.ite_none_right_eq_some, Option.some.injEq] at stored
  obtain ⟨uid, _, version, _, labels, _, annotations, _, summary, kept, raw, _, _, rfl⟩ := stored
  exact ⟨rfl, rfl, rfl, rfl, rfl, rfl, rfl, env.jsonb_stored kept,
    ⟨uid, version, rfl, rfl⟩, rfl⟩

end K8sClue.Inventory
