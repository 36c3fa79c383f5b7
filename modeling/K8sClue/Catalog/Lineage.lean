import K8sClue.Catalog.Backfill

/-! The lineage of the data catalog.
An edge from an asset to the normalized evidence is stored once for each run that confirms it. The
check for broken lineage looks at each stored edge alone, so it also calls an edge stale that a
later run has confirmed again.
-/

namespace K8sClue.Catalog

open Library List

section Model

/- `δ` are the days, as for the archive, and `π` the payloads of a source. -/
variable {δ π : Type} [LinearOrder δ]

structure LineageEdge (δ : Type) where
  (upstreamAssetId downstreamAssetId transformation : String)
  runId : δ × String
  deriving DecidableEq

def LineageEdge.key (edge : LineageEdge δ) : String × String × (δ × String) :=
  (edge.upstreamAssetId, edge.downstreamAssetId, edge.runId)

variable (assetId : π → String)

def ExtractOutcome.edges (logicalDate : δ) (outcome : ExtractOutcome δ π) : List (LineageEdge δ) :=
  if outcome.ok then
    (outcome.payloads.map assetId).dedup.map fun asset =>
      { upstreamAssetId := asset
        downstreamAssetId := "ops.normalized_evidence"
        transformation := "normalize_asset_schema"
        runId := (logicalDate, outcome.sourceId) }
  else
    []

def recordLineage (edges : List (LineageEdge δ)) (logicalDate : δ)
    (outcomes : List (ExtractOutcome δ π))
    : List (LineageEdge δ) :=
  Keyed.putAll LineageEdge.key (fun known _ => known) edges
    (outcomes.flatMap (ExtractOutcome.edges assetId logicalDate))

structure LineageState (δ : Type) where
  runs : List (CollectionRun δ) := []
  edges : List (LineageEdge δ) := []

inductive PipelineStep (δ π : Type) where
  /-- `extract` of the DAG -/
  | extract (logicalDate : δ) (finishedAt : Int) (outcomes : List (ExtractOutcome δ π))
  /-- `archive_and_load` of the DAG, where the archive has these payloads for the sources -/
  | load (logicalDate : δ) (payloads : String → List π)
  /-- the script that runs all steps in one transaction -/
  | script (logicalDate : δ) (finishedAt : Int) (outcomes : List (ExtractOutcome δ π))
      (downstream : Bool)

def LineageState.outcomes (state : LineageState δ) (logicalDate : δ) (payloads : String → List π)
    : List (ExtractOutcome δ π) :=
  (state.runs.filter (·.logicalDate = logicalDate)).map fun run =>
    { sourceId := run.sourceId, status := run.status, payloads := payloads run.sourceId }

def LineageState.apply (state : LineageState δ) : PipelineStep δ π → LineageState δ
  | .extract logicalDate finishedAt outcomes =>
    { state with runs := upsertCollectionRuns state.runs logicalDate finishedAt outcomes }
  | .load logicalDate payloads =>
    { state with
      edges := recordLineage assetId state.edges logicalDate (state.outcomes logicalDate payloads) }
  | .script logicalDate finishedAt outcomes downstream =>
    { runs := upsertCollectionRuns state.runs logicalDate finishedAt outcomes
      edges :=
        if downstream then recordLineage assetId state.edges logicalDate outcomes
        else state.edges }

def lineageMachine : Machine (LineageState δ) (PipelineStep δ π) Unit where
  step state action := (state.apply assetId action, [])

inductive LineageFinding where
  | noUpstream
  | danglingEdge
  | staleEdge
  deriving DecidableEq

structure LineageRow where
  assetId : String
  qualifiedName : Option String
  finding : LineageFinding
  detail : Option String
  deriving DecidableEq

def sevenDays : Int := 7 * 86400 * 1000000

variable (timestampText : Int → String)

def staleEdges (state : LineageState δ) (instant : Int) : List LineageRow :=
  state.edges.flatMap fun edge =>
    (state.runs.filter fun run =>
        run.runId = edge.runId && run.finishedAt < instant - sevenDays).map fun run =>
      { assetId := edge.downstreamAssetId
        qualifiedName := none
        finding := .staleEdge
        detail := some ("confirmed_at=" ++ timestampText run.finishedAt) }

/-- `lineage_break.sql`; `timestampText` is the text of a time. -/
def lineageBreak (assets : List DataAsset) (state : LineageState δ) (instant : Int)
    : List LineageRow :=
  (assets.filterMap fun asset =>
    if (asset.assetType = "normalized" || asset.assetType = "derived")
        && !state.edges.any (·.downstreamAssetId = asset.assetId) then
      some ⟨asset.assetId, some asset.qualifiedName, .noUpstream, none⟩
    else none)
  ++ (state.edges.filterMap fun edge =>
    if !assets.any (·.assetId = edge.upstreamAssetId) then
      some ⟨edge.downstreamAssetId, none, .danglingEdge, some edge.upstreamAssetId⟩
    else none)
  ++ staleEdges timestampText state instant

end Model

section Staleness

variable {δ π : Type} [LinearOrder δ]

def CollectionRun.Confirms (run : CollectionRun δ) (state : LineageState δ)
    (upstream downstream : String)
    : Prop :=
  ∃ edge ∈ state.edges, edge.upstreamAssetId = upstream
    ∧ edge.downstreamAssetId = downstream ∧ edge.runId = run.runId

def CollectionRun.Old (run : CollectionRun δ) (instant : Int) : Prop :=
  run.finishedAt < instant - sevenDays

variable (state : LineageState δ)

def LineageState.Upstream (upstream downstream : String) : Prop :=
  ∃ edge ∈ state.edges, edge.upstreamAssetId = upstream ∧ edge.downstreamAssetId = downstream

def StaleReported (timestampText : Int → String) (assets : List DataAsset)
    (state : LineageState δ) (instant : Int) (downstream : String)
    : Prop :=
  ∃ row ∈ lineageBreak timestampText assets state instant,
    row.finding = .staleEdge ∧ row.assetId = downstream

def Unconfirmed (instant : Int) (downstream : String) : Prop :=
  ∃ upstream, state.Upstream upstream downstream
    ∧ ∀ run ∈ state.runs, run.Confirms state upstream downstream → run.Old instant

/-- All upstreams of an asset have been confirmed in the last seven days, and some old run has
confirmed one of them too.
-/
def ConfirmedAgain (instant : Int) (downstream : String) : Prop :=
  (∃ upstream, ∃ run ∈ state.runs, run.Confirms state upstream downstream ∧ run.Old instant)
  ∧ ∀ upstream, state.Upstream upstream downstream
    → ∃ run ∈ state.runs, run.Confirms state upstream downstream ∧ ¬ run.Old instant

def LineageState.Traced : Prop :=
  ∀ edge ∈ state.edges, ∃ run ∈ state.runs, run.runId = edge.runId

variable {assetId : π → String} {state : LineageState δ} {outcomes : List (ExtractOutcome δ π)}

theorem mem_upsertCollectionRuns {runs : List (CollectionRun δ)} {logicalDate : δ}
    {finishedAt : Int} {runId : δ × String}
    : (∃ run ∈ upsertCollectionRuns runs logicalDate finishedAt outcomes, run.runId = runId)
      ↔ (∃ run ∈ runs, run.runId = runId)
        ∨ ∃ outcome ∈ outcomes, (logicalDate, outcome.sourceId) = runId := by
  have keys := @Keyed.mem_keys_putAll (CollectionRun δ) (δ × String) CollectionRun.runId runs
    (outcomes.map fun outcome =>
      { logicalDate, sourceId := outcome.sourceId, status := outcome.status, attempt := 1,
        finishedAt })
    _ (fun old new =>
      { old with status := new.status, attempt := old.attempt + 1, finishedAt := new.finishedAt })
    runId (fun _ _ same => same)
  simp only [mem_map, exists_exists_and_eq_and] at keys
  exact keys

theorem runId_of_mem_recordLineage {edges : List (LineageEdge δ)} {logicalDate : δ}
    {edge : LineageEdge δ}
    (mem : edge ∈ recordLineage assetId edges logicalDate outcomes)
    : edge ∈ edges ∨ ∃ outcome ∈ outcomes, (logicalDate, outcome.sourceId) = edge.runId := by
  have kept : ∃ added, recordLineage assetId edges logicalDate outcomes = edges ++ added
      ∧ added.Sublist (outcomes.flatMap (ExtractOutcome.edges assetId logicalDate)) :=
    Keyed.putAll_keeping
  obtain ⟨added, all, part⟩ := kept
  rw [all, mem_append] at mem
  refine mem.imp_right fun new => ?_
  obtain ⟨outcome, inside, made⟩ := mem_flatMap.mp (part.subset new)
  unfold ExtractOutcome.edges at made
  split at made
  · obtain ⟨asset, _, rfl⟩ := mem_map.mp made
    exact ⟨outcome, inside, rfl⟩
  · exact absurd made not_mem_nil

/-- Only runs that are stored record edges. -/
theorem LineageState.Traced.step (traced : state.Traced) (action : PipelineStep δ π)
    : (state.apply assetId action).Traced := by
  intro edge mem
  cases action with
  | extract logicalDate finishedAt outcomes =>
    exact mem_upsertCollectionRuns.mpr (.inl (traced edge mem))
  | load logicalDate payloads =>
    rcases runId_of_mem_recordLineage mem with before | ⟨outcome, inside, same⟩
    · exact traced edge before
    · obtain ⟨run, among, rfl⟩ := mem_map.mp inside
      obtain ⟨stored, dated⟩ := mem_filter.mp among
      refine ⟨run, stored, same ▸ ?_⟩
      rw [CollectionRun.runId, of_decide_eq_true dated]
  | script logicalDate finishedAt outcomes downstream =>
    refine mem_upsertCollectionRuns.mpr ?_
    cases downstream with
    | false => exact .inl (traced edge mem)
    | true => exact (runId_of_mem_recordLineage mem).imp_left (traced edge)

theorem traced_run (assetId : π → String) (actions : List (PipelineStep δ π))
    : ((lineageMachine assetId).run {} actions).Traced := by
  have keeps : ∀ (state : LineageState δ) (action : PipelineStep δ π), state.Traced → True
      → ((lineageMachine assetId).step state action).1.Traced :=
    fun _ action traced _ => traced.step action
  have start : ({} : LineageState δ).Traced := fun _ mem => absurd mem not_mem_nil
  exact Machine.run_invariant keeps start (Machine.admits_true _ actions)

/-- The query reports what any old run has confirmed. -/
theorem staleReported_iff {timestampText : Int → String} {assets : List DataAsset}
    {instant : Int} {downstream : String}
    : StaleReported timestampText assets state instant downstream
      ↔ ∃ upstream, ∃ run ∈ state.runs,
          run.Confirms state upstream downstream ∧ run.Old instant := by
  constructor
  · rintro ⟨row, mem, stale, rfl⟩
    rw [lineageBreak, mem_append, mem_append] at mem
    rcases mem with (missing | dangling) | found
    · obtain ⟨asset, _, made⟩ := mem_filterMap.mp missing
      split at made
      · rw [← Option.some.inj made] at stale
        cases stale
      · cases made
    · obtain ⟨edge, _, made⟩ := mem_filterMap.mp dangling
      split at made
      · rw [← Option.some.inj made] at stale
        cases stale
      · cases made
    · obtain ⟨edge, stored, joined⟩ := mem_flatMap.mp found
      obtain ⟨run, selected, rfl⟩ := mem_map.mp joined
      obtain ⟨among, conditions⟩ := mem_filter.mp selected
      rw [Bool.and_eq_true, decide_eq_true_eq, decide_eq_true_eq] at conditions
      exact ⟨edge.upstreamAssetId, run, among, ⟨edge, stored, rfl, rfl, conditions.1.symm⟩,
        conditions.2⟩
  · rintro ⟨upstream, run, among, ⟨edge, stored, _, rfl, same⟩, old⟩
    refine ⟨_, mem_append_right _ (mem_flatMap.mpr ⟨edge, stored,
      mem_map.mpr ⟨run, mem_filter.mpr ⟨among, ?_⟩, rfl⟩⟩), rfl, rfl⟩
    rw [Bool.and_eq_true, decide_eq_true_eq, decide_eq_true_eq]
    exact ⟨same.symm, old⟩

/-- The check reports an asset as stale exactly if an upstream of it is not confirmed, unless all
its upstreams have been confirmed again after an old run.
Witness: every edge has its run, so an upstream without recent runs has an old one.
-/
theorem stale_edge_exact_iff (assetId : π → String) (timestampText : Int → String)
    (assets : List DataAsset) (actions : List (PipelineStep δ π)) (instant : Int)
    (downstream : String)
    : (StaleReported timestampText assets ((lineageMachine assetId).run {} actions) instant
          downstream
        ↔ Unconfirmed ((lineageMachine assetId).run {} actions) instant downstream)
      ↔ ¬ ConfirmedAgain ((lineageMachine assetId).run {} actions) instant downstream := by
  have traced := traced_run assetId actions
  generalize (lineageMachine assetId).run {} actions = state at traced
  rw [staleReported_iff]
  constructor
  · rintro exact_ ⟨old, again⟩
    obtain ⟨upstream, edge, all⟩ := exact_.mp old
    obtain ⟨run, among, confirms, recent⟩ := again upstream edge
    exact recent (all run among confirms)
  · intro notAgain
    constructor
    · intro old
      by_contra confirmed
      refine notAgain ⟨old, fun upstream edge => ?_⟩
      by_contra none
      refine confirmed ⟨upstream, edge, fun run among confirms => ?_⟩
      by_contra recent
      exact none ⟨run, among, confirms, recent⟩
    · rintro ⟨upstream, ⟨edge, stored, up, down⟩, all⟩
      obtain ⟨run, among, same⟩ := traced edge stored
      have confirms : run.Confirms state upstream downstream := ⟨edge, stored, up, down, same.symm⟩
      exact ⟨upstream, run, among, confirms, all run among confirms⟩

end Staleness

def confirmedTwice : List (PipelineStep Nat String) :=
  [.script 0 0 [{ sourceId := "loki", status := .success, payloads := ["logs"] }] true,
    .script 10 864000000000 [{ sourceId := "loki", status := .success, payloads := ["logs"] }] true]

/-- The edge that was confirmed just now is reported because of its older run. -/
theorem confirmed_edge_reported
    : StaleReported (fun _ => "") [] ((lineageMachine id).run {} confirmedTwice) 864000000000
        "ops.normalized_evidence"
      ∧ ¬ Unconfirmed ((lineageMachine id).run {} confirmedTwice) 864000000000
        "ops.normalized_evidence" := by
  have stored : (lineageMachine id).run {} confirmedTwice =
      { runs := [⟨0, "loki", .success, 1, 0⟩, ⟨10, "loki", .success, 1, 864000000000⟩]
        edges := [⟨"logs", "ops.normalized_evidence", "normalize_asset_schema", (0, "loki")⟩,
          ⟨"logs", "ops.normalized_evidence", "normalize_asset_schema", (10, "loki")⟩] } := rfl
  rw [stored]
  constructor
  · rw [staleReported_iff]
    refine ⟨"logs", ⟨0, "loki", .success, 1, 0⟩, by simp, ⟨_, mem_cons_self, rfl, rfl, rfl⟩, ?_⟩
    unfold CollectionRun.Old
    decide
  · rintro ⟨upstream, ⟨edge, mem, rfl, _⟩, all⟩
    have recent : ¬ (CollectionRun.mk 10 "loki" .success 1 864000000000).Old 864000000000 := by
      unfold CollectionRun.Old
      decide
    refine recent (all _ (by simp) ⟨_, mem_cons_of_mem _ mem_cons_self, ?_, rfl, rfl⟩)
    simp only [mem_cons, not_mem_nil, or_false] at mem
    rcases mem with rfl | rfl <;> rfl

end K8sClue.Catalog
