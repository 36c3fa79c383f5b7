import K8sClue.Inventory.Resources
import K8sClue.Python.Collections
import Mathlib.Data.List.Sort
import Mathlib.Data.String.Basic

/-! The scopes in which absence from a snapshot proves deletion.
A scope comes from a coverage entry that its producer marked complete; rows are tested against
the scopes once in Python and once in SQL.
-/

namespace K8sClue.Inventory

open Python

def collectionCoverageSummaryKey : String := "collection_coverage"

def podCollection : String := "pods"
def nodeCollection : String := "nodes"
def workloadCollection : String := "workloads"
def workloadRevisionCollection : String := "workload_revisions"
def serviceCollection : String := "services"
def ingressCollection : String := "ingresses"
def resourceQuotaCollection : String := "resourcequotas"
def endpointCollection : String := "endpoints"
def eventCollection : String := "events"
def customResourceCollection : String := "custom_resources"

def resourceTypesByCollection : List (String × List String) := [
  (podCollection, ["pod"]), (nodeCollection, ["node"]), (workloadCollection, ["workload"]),
  (workloadRevisionCollection, ["workload_revision"]), (serviceCollection, ["service"]),
  (ingressCollection, ["ingress"]), (resourceQuotaCollection, ["resourcequota"]),
  (endpointCollection, ["endpoint"]), (eventCollection, ["event"]),
  (customResourceCollection, ["custom_resource"])]

def namespacedCollections : List String := [
  podCollection, workloadCollection, workloadRevisionCollection, serviceCollection,
  ingressCollection, resourceQuotaCollection, endpointCollection, eventCollection]

def clusterCollections : List String := [nodeCollection]

/-- Events expire, so that their absence proves nothing. -/
def deleteSafeCollections : List String := [
  podCollection, nodeCollection, workloadCollection, workloadRevisionCollection,
  serviceCollection, ingressCollection, resourceQuotaCollection, endpointCollection]

structure InventoryDeleteScope where
  resourceType : String
  inNamespace : Option String
  deriving DecidableEq

/-- `_no_reasons`: only a list without reasons is the absence of reasons. -/
def noReasons : PyValue → Bool
  | .list [] => true
  | _ => false

variable (py : Runtime)

def deleteAuthoritativeEntry (entry : PyValue) : Bool :=
  (entry.get "complete").isBool true && (entry.get "delete_safe").isBool true
    && (entry.get "observed").isBool true && !(entry.get "truncated").isBool true
    && py.normalizedText (entry.get "label_selector") == ""
    && noReasons (entry.get "reason_codes")

def entryScopes (entry : PyValue) : List InventoryDeleteScope :=
  let collection := py.normalizedText (entry.get "collection")
  let resourceTypes := ((resourceTypesByCollection.find? (·.1 == collection)).map Prod.snd).getD []
  let scope := py.normalizedText (entry.get "scope")
  let inNamespace := py.normalizedText (entry.get "namespace")
  if collection ∉ deleteSafeCollections ∨ resourceTypes = []
      ∨ deleteAuthoritativeEntry py entry = false then
    []
  else if collection ∈ namespacedCollections ∧ scope = "namespace" ∧ inNamespace ≠ "" then
    resourceTypes.map fun resourceType => { resourceType, inNamespace := some inNamespace }
  else if collection ∈ clusterCollections ∧ scope = "cluster" then
    resourceTypes.map fun resourceType => { resourceType, inNamespace := none }
  else
    []

def InventoryDeleteScope.Before (left right : InventoryDeleteScope) : Prop :=
  left.resourceType < right.resourceType
  ∨ left.resourceType = right.resourceType
    ∧ left.inNamespace.getD "" ≤ right.inNamespace.getD ""

instance : DecidableRel InventoryDeleteScope.Before :=
  fun _ _ => inferInstanceAs (Decidable (_ ∨ _))

def inventoryDeletionScopes (summary : PyValue) : List InventoryDeleteScope :=
  if (summary.get "live_inventory").isBool true then
    match summary.get collectionCoverageSummaryKey with
    | .list entries =>
      (fromKeys (entries.flatMap (entryScopes py))).insertionSort InventoryDeleteScope.Before
    | _ => []
  else
    []

/-- A scope is proved by one of the listed entries. -/
theorem mem_inventoryDeletionScopes {py : Runtime} {summary : PyValue}
    {scope : InventoryDeleteScope}
    : scope ∈ inventoryDeletionScopes py summary
      ↔ (summary.get "live_inventory").isBool true = true
        ∧ ∃ entries, summary.get collectionCoverageSummaryKey = .list entries
          ∧ ∃ entry ∈ entries, scope ∈ entryScopes py entry := by
  unfold inventoryDeletionScopes
  split
  next live =>
    split
    next entries listed => simp [live, listed]
    next other =>
      have unlisted : ¬ ∃ entries, summary.get collectionCoverageSummaryKey = .list entries :=
        fun ⟨entries, listed⟩ => other entries listed
      simp only [List.not_mem_nil, live, true_and, false_iff]
      rintro ⟨entries, listed, _⟩
      exact unlisted ⟨entries, listed⟩
  next notLive => simp [notLive]

def rowInDeletionScopes (resourceType : String) (inNamespace : Option String)
    (scopes : List InventoryDeleteScope)
    : Bool :=
  scopes.any fun scope =>
    scope.resourceType == strip resourceType && scope.inNamespace == inNamespace

/-- `inventory_delete_scope_predicate`, as the database decides it for a row. -/
def deleteScopePredicate (resourceType : String) (inNamespace : Option String)
    (scopes : List InventoryDeleteScope)
    : Bool :=
  scopes.any fun scope =>
    resourceType == scope.resourceType
      && match scope.inNamespace with
        | none => inNamespace.isNone
        | some name => inNamespace == some name

/-- Rows are written with stripped types, so both tests agree on them. -/
theorem deleteScopePredicate_eq {resourceType : String}
    (stripped : strip resourceType = resourceType) (inNamespace : Option String)
    (scopes : List InventoryDeleteScope)
    : deleteScopePredicate resourceType inNamespace scopes
      = rowInDeletionScopes resourceType inNamespace scopes := by
  unfold deleteScopePredicate rowInDeletionScopes
  congr 1
  funext scope
  rw [stripped, Bool.beq_comm]
  cases scope.inNamespace with
  | none => cases inNamespace <;> rfl
  | some name => exact congrArg _ Bool.beq_comm

end K8sClue.Inventory
