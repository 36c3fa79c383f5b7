import K8sClue.Evidence.Ingest
import K8sClue.Inventory.PlainPlatform
import K8sClue.Inventory.SnapshotFacts

/-! Evidence marks no living Pod as deleted.
A certificate is followed from the Pod list of one query through merging, limiting, ingest and
the marking of missing rows.
-/

namespace K8sClue.Evidence

open Python Inventory Timeline Library Keyed

-----------------------------------------------------------------------------------------
-- The agent
-----------------------------------------------------------------------------------------

structure PodsKept (before after : KubernetesSnapshot) : Prop where
  coverage : after.collectionCoverage = before.collectionCoverage
  pods : Keyed.find Prod.fst after.limits SnapshotList.pods = none
    → Keyed.find Prod.fst before.limits SnapshotList.pods = none
      ∧ after.lists .pods = before.lists .pods

theorem PodsKept.refl (snapshot : KubernetesSnapshot) : PodsKept snapshot snapshot :=
  ⟨rfl, fun unlimited => ⟨unlimited, rfl⟩⟩

theorem PodsKept.trans {first second third : KubernetesSnapshot} (left : PodsKept first second)
    (right : PodsKept second third)
    : PodsKept first third := by
  refine ⟨right.coverage.trans left.coverage, ?_⟩
  intro unlimited
  obtain ⟨middle, same⟩ := right.pods unlimited
  obtain ⟨start, equal⟩ := left.pods middle
  exact ⟨start, same.trans equal⟩

variable (agent : Agent) (snapshot : KubernetesSnapshot)

/-- Shortening a list is recorded. -/
theorem podsKept_shortened (list : SnapshotList) (maxItems : Nat)
    : PodsKept snapshot (agent.shortened snapshot list maxItems) := by
  refine ⟨rfl, ?_⟩
  intro unlimited
  unfold Agent.shortened at unlimited ⊢
  rw [find_put (fun _ _ _ => rfl)] at unlimited
  split at unlimited
  · cases unlimited
  next other => exact ⟨unlimited, Function.update_of_ne (Ne.symm other) _ _⟩

theorem podsKept_limitPayloadList (list : SnapshotList)
    : PodsKept snapshot (agent.limitPayloadList snapshot list) := by
  unfold Agent.limitPayloadList
  split
  · exact PodsKept.refl snapshot
  · exact podsKept_shortened agent snapshot list _

theorem podsKept_limitLists (lists : List SnapshotList)
    : PodsKept snapshot (lists.foldl agent.limitPayloadList snapshot) := by
  induction lists generalizing snapshot with
  | nil => exact PodsKept.refl snapshot
  | cons list rest ih => exact (podsKept_limitPayloadList agent snapshot list).trans (ih _)

theorem podsKept_shrink (rounds : Nat) : PodsKept snapshot (agent.shrink rounds snapshot) := by
  induction rounds generalizing snapshot with
  | zero => exact PodsKept.refl snapshot
  | succ rounds ih =>
    unfold Agent.shrink
    split
    · exact PodsKept.refl snapshot
    · split
      · exact PodsKept.refl snapshot
      next list _ => exact (podsKept_shortened agent snapshot list _).trans (ih _)

theorem podsKept_limitPayloadSize : PodsKept snapshot (agent.limitPayloadSize snapshot) :=
  podsKept_shrink agent snapshot snapshot.itemCount

variable {entry : PodCoverage} {snapshot}

/-- A limited snapshot with a complete entry has all Pods. -/
theorem limit_complete
    (listed : entry ∈ (agent.limitKubernetesSnapshot snapshot).collectionCoverage)
    (complete : entry.complete = true)
    : entry ∈ snapshot.collectionCoverage
      ∧ (agent.limitKubernetesSnapshot snapshot).lists .pods = snapshot.lists .pods := by
  have kept := (podsKept_limitLists agent snapshot SnapshotList.all).trans
    (podsKept_limitPayloadSize agent _)
  unfold Agent.limitKubernetesSnapshot at listed ⊢
  generalize agent.limitPayloadSize (SnapshotList.all.foldl agent.limitPayloadList snapshot)
    = limited at kept listed ⊢
  simp only at listed ⊢
  split at listed
  · obtain ⟨former, _, rfl⟩ := List.mem_map.mp listed
    cases complete
  next unlimited =>
    rw [Option.not_isSome_iff_eq_none] at unlimited
    rw [unlimited]
    rw [kept.coverage] at listed
    exact ⟨listed, (kept.pods unlimited).2⟩

/-- Merging appends the Pods and the proofs about them. -/
theorem merged_pods (snapshots : List KubernetesSnapshot) (start : KubernetesSnapshot)
    : (snapshots.foldl agent.mergeSnapshot start).collectionCoverage
        = start.collectionCoverage ++ snapshots.flatMap (·.collectionCoverage)
      ∧ (snapshots.foldl agent.mergeSnapshot start).lists .pods
        = start.lists .pods ++ snapshots.flatMap (·.lists .pods) := by
  induction snapshots generalizing start with
  | nil => simp
  | cons snapshot rest ih =>
    obtain ⟨coverage, pods⟩ := ih (agent.mergeSnapshot start snapshot)
    constructor
    · rw [List.foldl_cons, coverage, List.flatMap_cons, ← List.append_assoc]
      rfl
    · rw [List.foldl_cons, pods, List.flatMap_cons, ← List.append_assoc]
      rfl

/-- What one answer puts into a snapshot. -/
theorem normalizePayload_some {query : KubernetesSnapshotQuery} {payload : PyDict}
    (normalized : agent.normalizePayload query payload = some snapshot)
    : snapshot.collectionCoverage = [podCollectionCoverage (payload.get podCollection)
        (agent.answeredNamespace query payload) query.labelSelector
        (agent.answeredStatus payload)]
      ∧ List.Forall₂ (fun item summary => agent.podSummary payload item = some summary)
          (scopedItems (payload.get podCollection) query.labelSelector)
          (snapshot.lists .pods) := by
  simp only [Agent.normalizePayload, Option.bind_eq_bind, Option.bind_eq_some_iff,
    Option.pure_def, Option.some.injEq] at normalized
  obtain ⟨pods, summarized, others, _, rfl⟩ := normalized
  exact ⟨rfl, mapM_some.mp summarized⟩

structure ProvedBy (snapshot : KubernetesSnapshot) (query : KubernetesSnapshotQuery)
    (payload : PyDict)
    : Prop where
  whole : WholePodList (payload.get podCollection) (agent.answeredNamespace query payload)
      query.labelSelector (agent.answeredStatus payload)
  sent : ∀ item ∈ items (payload.get podCollection),
      ∃ summary ∈ snapshot.lists .pods, agent.podSummary payload item = some summary

/-- A complete entry of the evidence is of an answer that proves its namespace. -/
theorem proved_of_complete {answers : List (KubernetesSnapshotQuery × PyDict)}
    (sent : agent.evidence answers = some snapshot) (listed : entry ∈ snapshot.collectionCoverage)
    (complete : entry.complete = true)
    : ∃ answer ∈ answers, entry.inNamespace = agent.answeredNamespace answer.1 answer.2
        ∧ ProvedBy agent snapshot answer.1 answer.2 := by
  simp only [Agent.evidence, Option.bind_eq_bind, Option.bind_eq_some_iff, Option.pure_def,
    Option.some.injEq] at sent
  obtain ⟨snapshots, normalized, rfl⟩ := sent
  obtain ⟨merged, pods⟩ := limit_complete agent listed complete
  rw [(merged_pods agent snapshots agent.emptySnapshot).1] at merged
  rw [(merged_pods agent snapshots agent.emptySnapshot).2] at pods
  obtain ⟨part, inside, own⟩ := List.mem_flatMap.mp ((List.mem_append.mp merged).resolve_left nofun)
  obtain ⟨answer, asked, made⟩ := forall₂_mem_right (mapM_some.mp normalized) inside
  obtain ⟨coverage, summaries⟩ := normalizePayload_some agent made
  rw [coverage, List.mem_singleton] at own
  subst own
  have whole := whole_of_complete complete
  refine ⟨answer, asked, rfl, whole, ?_⟩
  intro item listed
  have unscoped : scopedItems (answer.2.get podCollection) answer.1.labelSelector
      = items (answer.2.get podCollection) := by
    have unfiltered : answer.1.labelSelector.filter (· ≠ "") = none := by
      rw [Option.filter_eq_none_iff]
      intro selector given
      simpa using whole.unfiltered selector given
    rw [scopedItems, unfiltered]
  rw [unscoped] at summaries
  obtain ⟨summary, held, same⟩ := forall₂_mem_left summaries listed
  refine ⟨summary, ?_, same⟩
  rw [pods]
  exact List.mem_append_right _ (List.mem_flatMap.mpr ⟨part, inside, held⟩)

-----------------------------------------------------------------------------------------
-- The ingest
-----------------------------------------------------------------------------------------

theorem entries_pods : snapshot.entries.get "pods" = .list (snapshot.lists .pods) := by
  simp [PyDict.get, PyValue.get, PyValue.mapping, KubernetesSnapshot.entries,
    lookup_cons_str, SnapshotList.all, SnapshotList.key, podCollection]

theorem entries_coverage
    : snapshot.entries.get collectionCoverageSummaryKey
      = if snapshot.collectionCoverage.isEmpty then .scalar .none
        else .list (snapshot.collectionCoverage.map (·.toPy)) := by
  have status : lookup
      (snapshot.collectionStatus.elim [] fun status => [(.str "collection_status", .dict status)])
      (.str "collection_coverage") = none := by
    cases snapshot.collectionStatus <;> simp [lookup_cons_str]
  have limits : lookup snapshot.limitEntries (.str "collection_coverage") = none := by
    unfold KubernetesSnapshot.limitEntries
    split <;> simp [lookup_cons_str]
  simp only [PyDict.get, PyValue.get, PyValue.mapping, KubernetesSnapshot.entries, lookup_append,
    collectionCoverageSummaryKey, status, limits]
  split <;> simp [lookup_cons_str, SnapshotList.all, SnapshotList.key, podCollection]

theorem entryNamespace_toPy {inNamespace : String}
    (named : entryNamespace entry.toPy = some inNamespace)
    : inNamespace = entry.inNamespace := by
  unfold entryNamespace at named
  split at named
  · have kept : (some entry.inNamespace).filter (· ≠ "") = some inNamespace := named
    exact (Option.some.inj (Option.filter_eq_some_iff.mp kept).1).symm
  · cases named

/-- An entry that the ingest forwards as complete is a complete entry of the agent. -/
theorem podCoverage_complete {proof : PodCoverage}
    (forwarded : proof ∈ podCoverage snapshot.entries) (complete : proof.complete = true)
    : ∃ entry ∈ snapshot.collectionCoverage, entry.complete = true
        ∧ proof.inNamespace = entry.inNamespace := by
  unfold podCoverage at forwarded
  rw [entries_coverage] at forwarded
  split at forwarded
  next values listed =>
    split at listed
    · cases listed
    · obtain rfl := PyValue.list.inj listed
      split at forwarded
      · cases forwarded
      · obtain ⟨value, mem, made⟩ := List.mem_filterMap.mp forwarded
        obtain ⟨entry, held, rfl⟩ := List.mem_map.mp mem
        obtain ⟨inNamespace, named, rfl⟩ := Option.map_eq_some_iff.mp made
        refine ⟨entry, held, ?_, ?_⟩
        · unfold proofEntry at complete
          split at complete
          next granted =>
            simp only [Bool.and_eq_true, grantsDeletion] at granted
            exact granted.2.1.1.1.1.2
          · cases complete
        · have namespaces := entryNamespace_toPy named
          unfold proofEntry
          split
          · exact namespaces
          · exact namespaces
  · cases forwarded

variable {scope : InventoryDeleteScope}

/-- The scope that a coverage entry of the ingest proves. -/
theorem entryScopes_toPy {python : Runtime} {proof : PodCoverage}
    (proved : scope ∈ entryScopes python proof.toPy)
    : proof.complete = true
      ∧ scope = { resourceType := "pod", inNamespace := some (strip proof.inNamespace) } := by
  have collection : python.normalizedText (proof.toPy.get "collection") = "pods" := by
    change strip "pods" = "pods"
    decide
  have named : python.normalizedText (proof.toPy.get "namespace") = strip proof.inNamespace := rfl
  have types : ((resourceTypesByCollection.find? (·.1 == "pods")).map Prod.snd).getD []
      = ["pod"] := by decide
  have uncluster : "pods" ∉ clusterCollections := by decide
  unfold entryScopes at proved
  simp only [collection, named, types] at proved
  split at proved
  · cases proved
  next granted =>
    simp only [not_or, Bool.not_eq_false] at granted
    constructor
    · have authoritative := granted.2.2
      simp only [deleteAuthoritativeEntry, Bool.and_eq_true] at authoritative
      have complete : (PyValue.scalar (.bool proof.complete)).isBool true = true :=
        authoritative.1.1.1.1.1
      simpa [PyValue.isBool] using complete
    · split at proved
      · simpa using proved
      · cases proved

section Summary

variable (kubernetes : PyDict)

theorem summaryOf_coverage
    : (summaryOf kubernetes).get collectionCoverageSummaryKey
      = if (podCoverage kubernetes).isEmpty then .scalar .none
        else .list ((podCoverage kubernetes).map (·.toPy)) := by
  have others : ∀ value, lookup (scopeEntries value) (.str "collection_coverage") = none
      ∧ lookup (statusEntries value) (.str "collection_coverage") = none
      ∧ lookup (captureEntries value) (.str "collection_coverage") = none := by
    intro value
    unfold scopeEntries statusEntries captureEntries
    refine ⟨?_, ?_, ?_⟩ <;> split <;>
      simp [lookup_cons_str, eventCaptureSummaryKey, eventFactsSummaryKey]
  simp only [PyDict.get, PyValue.get, PyValue.mapping, summaryOf, lookup_append, others,
    collectionCoverageSummaryKey]
  unfold coverageEntries
  split <;> simp [lookup_cons_str, collectionCoverageSummaryKey]

end Summary

/-- A deletion scope of ingested evidence is of a namespace that the agent proved. -/
theorem scope_of_evidence {python : Runtime} {snapshot : KubernetesSnapshot}
    (proved : scope ∈ deleteScopesOf python (summaryOf snapshot.entries))
    : ∃ entry ∈ snapshot.collectionCoverage, entry.complete = true
        ∧ scope = { resourceType := "pod", inNamespace := some (strip entry.inNamespace) } := by
  have covered : ∃ proof ∈ podCoverage snapshot.entries, scope ∈ entryScopes python proof.toPy := by
    obtain ⟨live, entries, listed, value, mem, own⟩ := mem_inventoryDeletionScopes.mp proved
    have same : (summaryOf snapshot.entries).get collectionCoverageSummaryKey = .list entries := by
      split at listed
      · rw [← listed]
        exact congrArg (Option.getD · _) (lookup_setItem_other _ _ (by decide)).symm
      · exact listed
    rw [summaryOf_coverage] at same
    split at same
    · cases same
    · obtain rfl := PyValue.list.inj same
      obtain ⟨proof, forwarded, rfl⟩ := List.mem_map.mp mem
      exact ⟨proof, forwarded, own⟩
  obtain ⟨proof, forwarded, own⟩ := covered
  obtain ⟨complete, rfl⟩ := entryScopes_toPy own
  obtain ⟨entry, listed, whole, same⟩ := podCoverage_complete forwarded complete
  exact ⟨entry, listed, whole, by rw [same]⟩

section Save

variable {env : Platform} {workspaceId clusterId : String} {delivery : Delivery}
  {kubernetes : PyDict} {cut : SnapshotCut}

def evidenceResources (python : Runtime) (kubernetes : PyDict) : List PyDict :=
  podResources python (kubernetes.get "pods")
    ++ workloadResources python (kubernetes.get "workloads")

/-- The payload that the ingest makes of evidence. -/
theorem evidenceInventoryPayload_some {payload : PyValue}
    (ingested
      : evidenceInventoryPayload env.python env.iso (.dict kubernetes) = some payload)
    : ∃ collectedAt, payload = .dict [
        (.str "collected_at", .scalar (.str collectedAt)),
        (.str "source", .scalar (.str evidenceSnapshotSource)),
        (.str "replace", .scalar (.bool false)),
        (.str "resources", .list ((evidenceResources env.python kubernetes).map .dict)),
        (.str "summary", .dict (summaryOf kubernetes))] := by
  simp only [evidenceInventoryPayload, Option.bind_eq_bind, Option.bind_eq_some_iff] at ingested
  obtain ⟨observed, _, made⟩ := ingested
  split at made
  · cases made
  · exact ⟨_, (Option.some.inj made).symm⟩

theorem dictOf_dicts (entries : List PyDict)
    : entries.mapM (dictOf ∘ PyValue.dict) = some entries := by
  rw [mapM_some, List.forall₂_same]
  exact fun _ _ => rfl

/-- The identity that a Pod of the evidence is stored under. -/
theorem normalized_pod {item : PyDict} {snapshotId inNamespace name : String}
    {resource : InventoryResource} (place : item.get "namespace" = .scalar (.str inNamespace))
    (named : item.get "name" = .scalar (.str name)) (nonempty : name ≠ "") {entries : PyDict}
    (made : entries
      = resourceOf env.python item "pod" "v1" "Pod" (item.get "phase") podSummaryFields)
    (normalized : env.normalizeInventoryResource workspaceId clusterId snapshotId entries
      = some resource)
    : resource.identity = {
        workspaceId, clusterId, inNamespace, name
        resourceType := "pod"
        apiVersion := "v1"
        kind := "Pod" } := by
  have type : env.resourceTypeOf entries = "pod" := by
    have stripped : strip "pod" = "pod" := by decide
    subst made
    change env.lower (strip "pod") = "pod"
    rw [stripped, env.lower_small "pod" (by decide)]
  have called : entries.get "name" = .scalar (.str name) := by
    rw [made, ← named]
    rfl
  have placed : entries.get "namespace" = .scalar (.str inNamespace) := by
    rw [made, ← place]
    rfl
  simp only [Platform.normalizeInventoryResource, Option.bind_eq_bind, Option.pure_def,
    Option.bind_eq_some_iff, Option.some.injEq] at normalized
  obtain ⟨summary, _, labels, _, annotations, _, raw, _, rfl⟩ := normalized
  simp only [type, called, placed]
  have text : env.python.strOr (.scalar (.str name)) = fun _ => name := by
    funext default
    simp [Runtime.strOr, Runtime.strOf, PyValue.truthy, nonempty]
  rw [text, made]
  rfl

section Read

variable
  (ingested : evidenceInventoryPayload env.python env.iso (.dict kubernetes)
    = some delivery.payload)
  (read : readCut env workspaceId clusterId delivery = some cut)
include ingested read

/-- What the inventory reads of ingested evidence. -/
theorem readCut_evidence
    : cut.resourcesComplete = false
      ∧ cut.deleteScopes = deleteScopesOf env.python (summaryOf kubernetes)
      ∧ ∃ resources,
          (evidenceResources env.python kubernetes).mapM
            (env.normalizeInventoryResource workspaceId clusterId delivery.snapshotId)
            = some resources
          ∧ cut.resources = dedupeInventoryRows resources := by
  obtain ⟨collectedAt, payload⟩ := evidenceInventoryPayload_some ingested
  have summary : dictOrEmpty (delivery.payload.get "summary") = some (summaryOf kubernetes)
      ∧ (delivery.payload.get "replace").truthy = false := by
    rw [payload]
    exact ⟨rfl, rfl⟩
  have resources : env.snapshotResources delivery.payload
      = some (evidenceResources env.python kubernetes) := by
    have fields : lookup delivery.payload.mapping (.str "resources")
          = some (.list ((evidenceResources env.python kubernetes).map .dict))
        ∧ dictOrEmpty (delivery.payload.get "health") = some []
        ∧ dictOrEmpty (delivery.payload.get "usage") = some [] := by
      rw [payload]
      exact ⟨rfl, rfl, rfl⟩
    unfold Platform.snapshotResources
    simp [fields, iterate, dictOf_dicts]
  simp only [readCut, resources, summary, Option.bind_eq_bind, Option.bind_eq_some_iff,
    Option.pure_def, Option.some.injEq, exists_eq_left'] at read
  obtain ⟨observedAt, _, normalized, made, health, _, usage, _, rfl⟩ := read
  refine ⟨?_, rfl, normalized, made, rfl⟩
  simp [resourcesCompleteOf, summary]

/-- A Pod of the evidence is one of the cut's resources. -/
theorem pod_in_cut
    {item : PyDict} (listed : item ∈ identified (kubernetes.get "pods"))
    {inNamespace name : String} (place : item.get "namespace" = .scalar (.str inNamespace))
    (named : item.get "name" = .scalar (.str name)) (nonempty : name ≠ "")
    : ∃ resource ∈ cut.resources, resource.identity = {
        workspaceId, clusterId, inNamespace, name
        resourceType := "pod"
        apiVersion := "v1"
        kind := "Pod" } := by
  obtain ⟨_, _, resources, normalized, same⟩ := readCut_evidence ingested read
  have made : resourceOf env.python item "pod" "v1" "Pod" (item.get "phase") podSummaryFields
      ∈ evidenceResources env.python kubernetes :=
    List.mem_append_left _ (List.mem_map_of_mem listed)
  obtain ⟨resource, held, found⟩ := forall₂_mem_left (mapM_some.mp normalized) made
  have keys : resource.inventoryKey ∈ cut.resources.map (·.inventoryKey) := by
    rw [same]
    exact mem_keys_latest.mpr (List.mem_map_of_mem held)
  obtain ⟨kept, inside, equal⟩ := List.mem_map.mp keys
  have first := ((readCut_resources read).1 kept inside).key
  have second := (Platform.normalizeInventoryResource_of found).key
  have identities : kept.identity = resource.identity := by
    refine env.inventoryResourceKey_injective ?_
    rw [← first, ← second, equal]
  refine ⟨kept, inside, ?_⟩
  rw [identities]
  exact normalized_pod place named nonempty rfl found

end Read

end Save

-----------------------------------------------------------------------------------------
-- The marked rows
-----------------------------------------------------------------------------------------

structure OneRowEach (store : InventoryStore) : Prop where
  keys : Unique (fun row : ResourceRow => row.inventoryKey) store.resources
  named : ∀ row ∈ store.resources, row.inventoryKey ≠ ""
  identities : ∀ first ∈ store.resources, ∀ second ∈ store.resources, first.deleted = false
    → second.deleted = false → first.identity = second.identity → first = second

section Marked

variable {env : Platform} {store next : InventoryStore} {workspaceId clusterId : String}
  {delivery : Delivery} {cut : SnapshotCut} {snapshot : SnapshotRow} {rows : List ResourceRow}

/-- A live row of the cluster whose key is missing from the cut. -/
structure MissingRow (store : InventoryStore) (workspaceId clusterId : String)
    (cut : SnapshotCut) (old : ResourceRow)
    : Prop where
  held : old ∈ store.resources
  live : old.deleted = false
  own : old.workspaceId = workspaceId ∧ old.clusterId = clusterId
  missing : old.inventoryKey ∈ missingInventoryKeys cut (store.previousRows workspaceId clusterId)
      (preserveExistingInventoryKeys cut.resources (store.previousRows workspaceId clusterId))

/-- A live row is marked only if its key is missing from the cut and the cut covers it. -/
theorem marked_missing (each : OneRowEach store)
    (written : WrittenBy env store workspaceId clusterId delivery cut snapshot rows next)
    {old now : ResourceRow} (held : old ∈ store.resources) (live : old.deleted = false)
    (after : now ∈ next.resources) (same : now.inventoryKey = old.inventoryKey)
    (gone : now.deleted = true)
    : MissingRow store workspaceId clusterId cut old
      ∧ (cut.resourcesComplete = true
        ∨ deleteScopePredicate old.resourceType old.inNamespace cut.deleteScopes = true) := by
  rw [written.resources, markDeleted_eq] at after
  obtain ⟨row, upserted, made⟩ := List.mem_map.mp after
  have key : row.inventoryKey = old.inventoryKey := by
    rw [← same, ← made]
    split <;> rfl
  have unique : Unique (fun row : ResourceRow => row.inventoryKey)
      (Keyed.putAll (·.inventoryKey) ResourceRow.updated store.resources rows) :=
    each.keys.putAll ResourceRow.updated_key
  have stored := unique.find_eq upserted
  have current := mapM_some.mp written.written
  have rowKeys : rows.map (fun row => row.inventoryKey)
      = (preserveExistingInventoryKeys cut.resources
          (store.previousRows workspaceId clusterId)).map (·.inventoryKey) :=
    forall₂_map_eq current (fun _ _ kept => (Platform.storeResource_some kept).key)
  have listedOnce : Unique (fun row : ResourceRow => row.inventoryKey) rows := by
    rw [Keyed.Unique, rowKeys]
    exact Keyed.unique_latest
  rw [key, find_putAll ResourceRow.updated_key listedOnce, each.keys.find_eq held] at stored
  cases listed : Keyed.find (fun row : ResourceRow => row.inventoryKey) rows old.inventoryKey with
  | some known =>
    -- a key of the cut is not missing, and its row is written as live
    rw [listed] at stored
    cases stored
    have unmarked : markedDeleted workspaceId clusterId delivery.snapshotId cut
        (missingInventoryKeys cut (store.previousRows workspaceId clusterId)
          (preserveExistingInventoryKeys cut.resources
            (store.previousRows workspaceId clusterId))) (old.updated known) = false := by
      rw [← Bool.not_eq_true]
      intro marked
      simp only [markedDeleted, Bool.and_eq_true, decide_eq_true_eq,
        mem_missingInventoryKeys] at marked
      obtain ⟨inside, own⟩ := mem_of_find listed
      have present : old.inventoryKey ∈ rows.map (fun row => row.inventoryKey) :=
        List.mem_map.mpr ⟨known, inside, own⟩
      rw [rowKeys] at present
      obtain ⟨resource, mem, equal⟩ := List.mem_map.mp present
      have absent := marked.1.1.2.2
      exact find_eq_none.mp absent resource mem equal
    rw [unmarked] at made
    rw [← made] at gone
    cases gone
  | none =>
    rw [listed] at stored
    cases stored
    split at made
    next marked =>
      simp only [markedDeleted, Bool.and_eq_true, Bool.or_eq_true, decide_eq_true_eq] at marked
      exact ⟨⟨held, live, marked.1.1.1.1, marked.1.1.2⟩, marked.2⟩
    · rw [← made, live] at gone
      cases gone

/-- A missing key is not the key of a row that has the identity of a listed resource. -/
theorem listed_not_missing (each : OneRowEach store) {old : ResourceRow}
    (gone : MissingRow store workspaceId clusterId cut old)
    {resource : InventoryResource} (listed : resource ∈ cut.resources)
    : resource.identity ≠ old.identity := by
  intro same
  let existing := Keyed.latest InventoryResource.identity
    ((store.previousRows workspaceId clusterId).filter (·.inventoryKey ≠ ""))
  have known : old.toInventoryResource ∈ (store.previousRows workspaceId clusterId).filter
      (·.inventoryKey ≠ "") := by
    rw [List.mem_filter, mem_previousRows, decide_eq_true_eq]
    exact ⟨⟨old, gone.held, gone.own.1, gone.own.2, gone.live, rfl⟩, each.named old gone.held⟩
  have found : ∃ row,
      Keyed.find InventoryResource.identity existing resource.identity = some row := by
    rw [← Option.isSome_iff_exists, find_isSome, same, ← List.mem_map]
    exact mem_keys_latest.mpr (List.mem_map_of_mem known)
  obtain ⟨row, found⟩ := found
  have kept : (withExistingKey existing resource).inventoryKey = old.inventoryKey := by
    obtain ⟨inside, identity⟩ := mem_of_find found
    obtain ⟨stored, before, _, _, alive, rfl⟩ :=
      mem_previousRows.mp (List.mem_filter.mp (mem_of_mem_latest inside)).1
    obtain rfl := each.identities stored before old gone.held alive gone.live (identity.trans same)
    rw [withExistingKey, found]
  have absent := (mem_missingInventoryKeys.mp gone.missing).2
  have present : old.inventoryKey ∈ (preserveExistingInventoryKeys cut.resources
      (store.previousRows workspaceId clusterId)).map (·.inventoryKey) := by
    refine mem_keys_latest.mpr ?_
    rw [← kept]
    exact List.mem_map_of_mem (List.mem_map_of_mem listed)
  obtain ⟨other, mem, equal⟩ := List.mem_map.mp present
  exact find_eq_none.mp absent other mem equal

end Marked

-----------------------------------------------------------------------------------------
-- Deletions by evidence
-----------------------------------------------------------------------------------------

def isDnsLabel (text : String) : Bool :=
  let chars := text.toList
  chars.length ≤ 63 && chars.all (fun char => char.isLower || char.isDigit || char = '-')
    && chars.head?.any (· ≠ '-') && chars.getLast?.any (· ≠ '-')

/-- The characters of a label are no whitespace. -/
theorem isSpace_eq_false {char : Char} (plain : (char.isLower || char.isDigit || char = '-') = true)
    : isSpace char = false := by
  have code : char.toNat = 45 ∨ 48 ≤ char.toNat ∧ char.toNat ≤ 57
      ∨ 97 ≤ char.toNat ∧ char.toNat ≤ 122 := by
    simp only [Char.isLower, Char.isDigit, Bool.or_eq_true, Bool.and_eq_true, decide_eq_true_eq,
      UInt32.le_iff_toNat_le] at plain
    rcases plain with (lower | digit) | dash
    · exact .inr (.inr lower)
    · exact .inr (.inl digit)
    · exact .inl (by rw [dash]; rfl)
  unfold isSpace
  simp only [Bool.or_eq_false_iff, Bool.and_eq_false_iff, decide_eq_false_iff_not,
    beq_eq_false_iff_ne]
  omega

theorem strip_dnsLabel {text : String} (label : isDnsLabel text = true) : strip text = text := by
  simp only [isDnsLabel, Bool.and_eq_true] at label
  exact strip_of_visible fun char mem =>
    isSpace_eq_false (List.all_eq_true.mp label.1.1.2 char mem)

def payloadResources (payload : PyValue) : List PyDict :=
  match payload.get "resources" with
  | .list values => dictRows values
  | _ => []

variable (agent : Agent)

/-- What justifies that a Pod of a namespace is marked: a query has listed the whole namespace
without it, and no query has listed it.
-/
structure Justified (answers : List (KubernetesSnapshotQuery × PyDict))
    (payload : PyValue) (inNamespace name : String)
    : Prop where
  listed : ∃ answer ∈ answers, agent.answeredNamespace answer.1 answer.2 = inNamespace
      ∧ WholePodList (answer.2.get podCollection) inNamespace answer.1.labelSelector
          (agent.answeredStatus answer.2)
      ∧ ∀ item ∈ items (answer.2.get podCollection),
          (metadata item).get "name" ≠ .scalar (.str name)
  absent : ∀ resource ∈ payloadResources payload,
      resource.get "resource_type" = .scalar (.str "pod")
      → resource.get "namespace" = .scalar (.str inNamespace)
      → resource.get "name" ≠ .scalar (.str name)

theorem mem_dictRows {rows : List PyValue} {row : PyDict}
    : row ∈ dictRows rows ↔ .dict row ∈ rows := by
  rw [dictRows, List.mem_filterMap]
  constructor
  · rintro ⟨value, mem, same⟩
    split at same <;> cases same
    exact mem
  · exact fun mem => ⟨_, mem, rfl⟩

section Deletions

variable {agent : Agent} {env : Platform} {workspaceId clusterId : String}
  {answers : List (KubernetesSnapshotQuery × PyDict)} {snapshot : KubernetesSnapshot}
  {delivery : Delivery} {cut : SnapshotCut}

/-- A Pod that the ingest lists was listed by the agent under its name. -/
theorem mem_payloadResources
    (ingested : evidenceInventoryPayload env.python env.iso (.dict snapshot.entries)
      = some delivery.payload)
    {resource : PyDict} (listed : resource ∈ payloadResources delivery.payload)
    (type : resource.get "resource_type" = .scalar (.str "pod"))
    : ∃ item ∈ identified (snapshot.entries.get "pods"),
        item.get "name" = resource.get "name"
        ∧ item.get "namespace" = resource.get "namespace" := by
  obtain ⟨collectedAt, payload⟩ := evidenceInventoryPayload_some ingested
  have made : resource ∈ evidenceResources env.python snapshot.entries := by
    rw [payload] at listed
    have inside := mem_dictRows.mp listed
    obtain ⟨entries, mem, same⟩ := List.mem_map.mp inside
    rwa [← PyValue.dict.inj same]
  rcases List.mem_append.mp made with pod | workload
  · obtain ⟨item, held, rfl⟩ := List.mem_map.mp pod
    exact ⟨item, held, rfl, rfl⟩
  · obtain ⟨item, _, rfl⟩ := List.mem_map.mp workload
    exact absurd type (by
      simp [resourceOf, PyDict.get, PyValue.get, PyValue.mapping, lookup_cons_str])

/-- A Pod that an answer lists is among the named Pods of the evidence. -/
theorem identified_of_item {payload item : PyDict} {inNamespace : String}
    {query : KubernetesSnapshotQuery} (proved : ProvedBy agent snapshot query payload)
    (listed : item ∈ items (payload.get podCollection)) (row : IdentifiedRow inNamespace item)
    : ∃ pod ∈ identified (snapshot.entries.get "pods"),
        pod.get "name" = (metadata item).get "name"
        ∧ pod.get "namespace" = .scalar (.str inNamespace) := by
  obtain ⟨summary, sent, made⟩ := proved.sent item listed
  simp only [Agent.podSummary, Option.bind_eq_bind, Option.bind_eq_some_iff, Option.pure_def,
    Option.some.injEq] at made
  obtain ⟨details, _, rfl⟩ := made
  exact ⟨_, List.mem_filter.mpr ⟨mem_dictRows.mpr sent, row.name⟩, rfl, row.inNamespace⟩

theorem isNonemptyText_iff {value : PyValue}
    : isNonemptyText value = true ↔ ∃ text, value = .scalar (.str text) ∧ text ≠ "" := by
  unfold isNonemptyText
  split
  next text => simp
  next other =>
    constructor
    · exact fun impossible => nomatch impossible
    · exact fun ⟨text, same, _⟩ => absurd same (other text)

/-- A live Pod whose key is missing from the cut is not among the Pods of the evidence. -/
theorem unidentified {store : InventoryStore} (each : OneRowEach store)
    (ingested : evidenceInventoryPayload env.python env.iso (.dict snapshot.entries)
      = some delivery.payload)
    (read : readCut env workspaceId clusterId delivery = some cut)
    {old : ResourceRow} (gone : MissingRow store workspaceId clusterId cut old)
    {inNamespace : String} (place : old.inNamespace = some inNamespace)
    (type : old.resourceType = "pod") (version : old.apiVersion = "v1") (kind : old.kind = "Pod")
    : ∀ item ∈ identified (snapshot.entries.get "pods"),
        item.get "namespace" = .scalar (.str inNamespace)
        → item.get "name" ≠ .scalar (.str old.name) := by
  intro item listed inside named
  have nonempty : old.name ≠ "" := by
    rw [entries_pods, identified, List.mem_filter] at listed
    obtain ⟨text, same, nonempty⟩ := isNonemptyText_iff.mp listed.2
    rw [named] at same
    obtain rfl := PyScalar.str.inj (PyValue.scalar.inj same)
    exact nonempty
  obtain ⟨resource, mem, identity⟩ := pod_in_cut ingested read listed inside named nonempty
  refine listed_not_missing each gone mem ?_
  rw [identity]
  unfold InventoryResource.identity
  simp [gone.own, type, version, kind, place]

end Deletions

/-- What saved evidence may mark as deleted: a Pod that a query proved to be gone, and nothing
else.
-/
def DeletesOnlyProved (env : Platform) (workspaceId clusterId : String)
    (answers : List (KubernetesSnapshotQuery × PyDict))
    : Prop :=
  ∀ snapshot delivery store next mutation,
    agent.evidence answers = some snapshot
    → evidenceInventoryPayload env.python env.iso (.dict snapshot.entries)
      = some delivery.payload
    → OneRowEach store
    → saveInventorySnapshotMutation env store workspaceId clusterId delivery
      = .ok (next, mutation)
    → ∀ old ∈ store.resources, old.deleted = false
    → ∀ now ∈ next.resources, now.inventoryKey = old.inventoryKey → now.deleted = true
    → old.resourceType = "pod"
      ∧ (old.apiVersion = "v1" → old.kind = "Pod"
        → ∃ inNamespace, old.inNamespace = some inNamespace
            ∧ Justified agent answers delivery.payload inNamespace old.name)

/-- Evidence about namespaces with proper names marks no Pod that may be alive.
Witness: a mark needs a deletion scope, which only a complete entry gives; all Pods of that entry
are then in the cut, under the keys of their rows.
-/
theorem evidence_deletes_only_proved (env : Platform)
    (workspaceId clusterId : String) (answers : List (KubernetesSnapshotQuery × PyDict))
    (labels : ∀ answer ∈ answers, isDnsLabel (agent.answeredNamespace answer.1 answer.2) = true)
    : DeletesOnlyProved agent env workspaceId clusterId answers := by
  intro snapshot delivery store next mutation sent ingested each saved old held live now after
    same gone
  obtain ⟨cut, read, accepted | stale⟩ := saveInventorySnapshotMutation_ok saved
  · obtain ⟨_, _, _, _, accepted⟩ := accepted
    obtain ⟨missing, authority⟩ :=
      marked_missing each accepted.toWrittenBy held live after same gone
    obtain ⟨incomplete, scopes, _⟩ := readCut_evidence ingested read
    rw [incomplete, scopes] at authority
    have covered := authority.resolve_left nofun
    obtain ⟨scope, inside, matching⟩ := List.any_eq_true.mp covered
    obtain ⟨entry, listed, complete, rfl⟩ := scope_of_evidence inside
    obtain ⟨answer, asked, place, proved⟩ := proved_of_complete agent sent listed complete
    rw [place, strip_dnsLabel (labels answer asked)] at matching
    simp only [Bool.and_eq_true, beq_iff_eq] at matching
    obtain ⟨type, inNamespace⟩ := matching
    refine ⟨type, fun version kind => ⟨_, inNamespace, ?_, ?_⟩⟩
    all_goals have absent := unidentified each ingested read missing inNamespace type version kind
    · refine ⟨answer, asked, rfl, proved.whole, ?_⟩
      intro item mem named
      obtain ⟨pod, known, equal, within⟩ :=
        identified_of_item proved mem (proved.whole.rows item mem)
      exact absent pod known within (equal.trans named)
    · intro resource mem podType within named
      obtain ⟨item, known, called, placed⟩ := mem_payloadResources ingested mem podType
      exact absent item known (placed.trans within) (called.trans named)
  · obtain ⟨_, _, _, rfl, _⟩ := stale
    obtain rfl := each.keys.eq_of_key after held same
    rw [live] at gone
    cases gone

def plainAgent : Agent where
  python := insertionRuntime
  clusterId := "c"
  now := digitIso.write 0
  freshnessSeconds := 120
  podDetails := fun _ _ => some []
  summaries := fun _ _ _ => some []
  collectionStatuses := fun _ => none
  snapshotBytes := fun _ => 0
  listBytes := List.length

def podAnswer (names : List String) : KubernetesSnapshotQuery × PyDict :=
  ({ inNamespace := "n" }, [
    (.str podCollection, .dict [(.str "items", .list (names.map fun name => .dict [
      (.str "metadata", .dict [(.str "name", .scalar (.str name)),
        (.str "namespace", .scalar (.str "n")), (.str "uid", .scalar (.str "u"))])]))])])

def podIdentity (name : String) : InventoryIdentity := ⟨"w", "c", "pod", "v1", "n", "Pod", name⟩

def podPlatform : Platform := plainPlatform { identities := [podIdentity "p", podIdentity "q"] }

def livePod : ResourceRow where
  inventoryKey := podPlatform.inventoryResourceKey (podIdentity "q")
  snapshotId := "snapshot-1"
  workspaceId := "w"
  clusterId := "c"
  resourceType := "pod"
  apiVersion := "v1"
  kind := "Pod"
  inNamespace := some "n"
  name := "q"
  uid := .scalar .none
  resourceVersion := .scalar .none
  status := "unknown"
  health := "unknown"
  labels := []
  annotations := []
  summary := []
  raw := []

def podDelivery (payload : PyValue) : Delivery where
  payload := payload
  snapshotId := "snapshot-2"
  now := 0
  bindings := { applicationIds := fun _ _ _ _ => [], complete := true }

def livePodStore : InventoryStore where
  resources := [livePod]
  versions := [{
    versionId := 1
    sourceSnapshotId := "snapshot-1"
    workspaceId := "w"
    clusterId := "c"
    validFrom := 1
    contentHash := ""
    content := versionContent insertionRuntime ⟨fun _ _ _ _ => [], true⟩
      livePod.toInventoryResource }]
  lastRevision := 1
  lastVersion := 1

/-- The answer lists another Pod of the namespace only, and so proves the live one gone. -/
theorem evidence_deletes_only_proved_gone
    : ∃ delivery next mutation,
        saveInventorySnapshotMutation podPlatform livePodStore "w" "c" delivery
          = .ok (next, mutation)
        ∧ next.resources.map (fun row => (row.inventoryKey, row.deleted))
          = [(livePod.inventoryKey, true),
            (podPlatform.inventoryResourceKey (podIdentity "p"), false)]
        ∧ Justified plainAgent [podAnswer ["p"]] delivery.payload "n" "q" := by
  have evaluated : ((plainAgent.evidence [podAnswer ["p"]]).bind fun snapshot =>
      (evidenceInventoryPayload podPlatform.python podPlatform.iso (.dict snapshot.entries)).bind
        fun payload => (saveInventorySnapshotMutation podPlatform livePodStore "w" "c"
          (podDelivery payload)).toOption.map fun saved =>
            saved.1.resources.map fun row => (row.inventoryKey, row.deleted))
      = some [(livePod.inventoryKey, true),
          (podPlatform.inventoryResourceKey (podIdentity "p"), false)] := by
    decide +kernel
  simp only [Option.bind_eq_some_iff, Option.map_eq_some_iff] at evaluated
  obtain ⟨snapshot, sent, payload, ingested, ⟨next, mutation⟩, returned, rows⟩ := evaluated
  have saved : saveInventorySnapshotMutation podPlatform livePodStore "w" "c"
      (podDelivery payload) = .ok (next, mutation) := by
    cases result : saveInventorySnapshotMutation podPlatform livePodStore "w" "c"
        (podDelivery payload) with
    | error failure =>
      rw [result] at returned
      cases returned
    | ok pair =>
      rw [result] at returned
      cases returned
      rfl
  have each : OneRowEach livePodStore := {
    keys := List.nodup_singleton _
    named := by
      intro row mem
      rw [List.mem_singleton.mp mem]
      exact podPlatform.sha256_nonempty _
    identities := by
      intro first left second right _ _ _
      rw [List.mem_singleton.mp left, List.mem_singleton.mp right] }
  have marked : (livePod.inventoryKey, true)
      ∈ next.resources.map (fun row => (row.inventoryKey, row.deleted)) := by
    rw [rows]
    exact List.mem_cons_self
  obtain ⟨now, inside, same⟩ := List.mem_map.mp marked
  obtain ⟨key, gone⟩ := Prod.mk.inj same
  obtain ⟨_, proved⟩ := evidence_deletes_only_proved plainAgent podPlatform "w" "c"
    [podAnswer ["p"]] (by decide) snapshot (podDelivery payload) livePodStore next mutation sent
    ingested each saved livePod List.mem_cons_self rfl now inside key gone
  obtain ⟨inNamespace, place, justified⟩ := proved rfl rfl
  cases place
  exact ⟨_, next, mutation, saved, rows, justified⟩

end K8sClue.Evidence
