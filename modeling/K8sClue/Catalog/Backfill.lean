import K8sClue.Catalog.Archives
import Mathlib.Tactic.Linarith

/-! The checks of a past date.
The source coverage and the freshness check are asked again for dates in the past. The freshness
query cuts its observations at the instant it is asked for, so facts of later days do not show.
The source coverage query has a lower bound for its window only: runs of later days are counted,
and the findings stay the same exactly if no source crosses one of the query's thresholds.
-/

namespace K8sClue.Catalog

open Library List

structure DataSource where
  (sourceId name : String)
  enabled : Bool
  deriving DecidableEq

structure DataAsset where
  (assetId qualifiedName assetType : String)
  freshnessSlaSeconds : Int
  deriving DecidableEq

/-- The columns of `catalog_observed_rows` and `catalog_normalized_evidence` that the checks read;
times are in microseconds.
-/
structure Observation where
  assetId : String
  observedAt : Int
  deriving DecidableEq

/-- The tables that the two checks read; a logical date is a number of days. -/
structure CatalogTables where
  sources : List DataSource
  assets : List DataAsset
  runs : List (CollectionRun Int)
  (observedRows normalizedEvidence : List Observation)
  sources_unique : Keyed.Unique DataSource.sourceId sources

structure WindowCounts where
  (runs healthy truncated failed : Nat)
  deriving DecidableEq

/-- The runs of a source from seven days before the date on. There is no upper bound. -/
def inWindow (date : Int) (sourceId : String) (run : CollectionRun Int) : Bool :=
  run.sourceId = sourceId && date - 7 ≤ run.logicalDate

/-- The counts of `windowed`; a source without runs has its one row of `NULL`s counted nowhere. -/
def windowCounts (runs : List (CollectionRun Int)) (date : Int) (sourceId : String)
    : WindowCounts :=
  let window := runs.filter (inWindow date sourceId)
  { runs := window.length
    healthy := window.countP (·.status.healthy)
    truncated := window.countP (·.status = .truncated)
    failed := window.countP (·.status = .failed) }

inductive CoverageFinding where
  | enabledButSilent
  | disabledButRunning
  | neverHealthy
  | chronicallyTruncated
  | degraded
  deriving DecidableEq

variable (enabled : Bool)

def coverageFinding (counts : WindowCounts) : Option CoverageFinding :=
  if enabled && counts.runs = 0 then some .enabledButSilent
  else if !enabled && counts.runs > 0 then some .disabledButRunning
  else if counts.runs > 0 && counts.healthy = 0 then some .neverHealthy
  else if counts.runs > 0 && (counts.truncated : ℚ) / counts.runs > 0.5 then
    some .chronicallyTruncated
  else if counts.runs > 0 && (counts.healthy : ℚ) / counts.runs < 0.8 then some .degraded
  else none

def coverageSelected (counts : WindowCounts) : Bool :=
  (enabled && counts.runs = 0)
  || (!enabled && counts.runs > 0)
  || (counts.runs > 0 && (counts.healthy : ℚ) / counts.runs < 0.8)
  || (counts.runs > 0 && (counts.truncated : ℚ) / counts.runs > 0.5)

structure CoverageRow where
  (sourceId name : String)
  counts : WindowCounts
  lastRunDate : Option Int
  finding : Option CoverageFinding
  deriving DecidableEq

variable (tables : CatalogTables)

/-- `source_coverage.sql`. -/
def sourceCoverage (date : Int) : List CoverageRow :=
  tables.sources.filterMap fun source =>
    let counts := windowCounts tables.runs date source.sourceId
    if coverageSelected source.enabled counts then
      some {
        sourceId := source.sourceId
        name := source.name
        counts
        lastRunDate :=
          ((tables.runs.filter (·.sourceId = source.sourceId)).map (·.logicalDate)).max?
        finding := coverageFinding source.enabled counts }
    else none

inductive FreshnessFinding where
  | neverObserved
  | stale
  deriving DecidableEq

structure FreshnessRow where
  (assetId qualifiedName : String)
  freshnessSlaSeconds : Int
  (lastObservedAt stalenessSeconds : Option Int)
  finding : FreshnessFinding
  deriving DecidableEq

variable (instant : Int)

def lastObservedAt (assetId : String) : Option Int :=
  let seen :=
    tables.observedRows.filter (·.observedAt ≤ instant)
      ++ tables.normalizedEvidence.filter (·.observedAt ≤ instant)
  ((seen.filter (·.assetId = assetId)).map (·.observedAt)).max?

def wholeSeconds (duration : Int) : Int := (duration + 500000) / 1000000

/-- `freshness.sql`. -/
def freshness : List FreshnessRow :=
  tables.assets.filterMap fun asset =>
    match lastObservedAt tables instant asset.assetId with
    | none =>
      some {
        assetId := asset.assetId
        qualifiedName := asset.qualifiedName
        freshnessSlaSeconds := asset.freshnessSlaSeconds
        lastObservedAt := none
        stalenessSeconds := none
        finding := .neverObserved }
    | some last =>
      if instant - last > asset.freshnessSlaSeconds * 1000000 then
        some {
          assetId := asset.assetId
          qualifiedName := asset.qualifiedName
          freshnessSlaSeconds := asset.freshnessSlaSeconds
          lastObservedAt := some last
          stalenessSeconds := some (wholeSeconds (instant - last))
          finding := .stale }
      else none

/-- Facts of days after a date and of times after an instant. -/
structure LaterFacts (date instant : Int) where
  runs : List (CollectionRun Int)
  (observedRows normalizedEvidence : List Observation)
  runs_later : ∀ run ∈ runs, date < run.logicalDate
  rows_later : ∀ row ∈ observedRows, instant < row.observedAt
  evidence_later : ∀ row ∈ normalizedEvidence, instant < row.observedAt

def CatalogTables.add {date instant : Int} (tables : CatalogTables)
    (later : LaterFacts date instant)
    : CatalogTables :=
  { tables with
    runs := tables.runs ++ later.runs
    observedRows := tables.observedRows ++ later.observedRows
    normalizedEvidence := tables.normalizedEvidence ++ later.normalizedEvidence }

def coverageFindings (date : Int) : Set (String × Option CoverageFinding) :=
  {pair | pair ∈ (sourceCoverage tables date).map fun row => (row.sourceId, row.finding)}

def freshnessFindings : Set (String × FreshnessFinding × Option Int) :=
  {triple | triple ∈ (freshness tables instant).map fun row =>
    (row.assetId, row.finding, row.stalenessSeconds)}

structure SameSide (known later : WindowCounts) : Prop where
  running : known.runs = 0 → later.runs = 0
  healthy : enabled = true → known.runs ≠ 0 → known.healthy = 0 → later.healthy = 0
  truncated : enabled = true
    → known.healthy ≠ 0
    → (known.runs < 2 * known.truncated
        ↔ known.runs + later.runs < 2 * (known.truncated + later.truncated))
  degraded : enabled = true
    → known.healthy ≠ 0
    → 2 * known.truncated ≤ known.runs
    → (5 * known.healthy < 4 * known.runs
        ↔ 5 * (known.healthy + later.healthy) < 4 * (known.runs + later.runs))

section Stability

variable {tables : CatalogTables} {date instant : Int} {later : LaterFacts date instant}

/-- Nothing that is observed after an instant is read for it. -/
theorem lastObservedAt_add (assetId : String)
    : lastObservedAt (tables.add later) instant assetId
      = lastObservedAt tables instant assetId := by
  have none_of (rows : List Observation) (after : ∀ row ∈ rows, instant < row.observedAt)
      : rows.filter (·.observedAt ≤ instant) = [] := by
    rw [filter_eq_nil_iff]
    intro row mem within
    exact absurd (of_decide_eq_true within) (not_le.mpr (after row mem))
  simp only [lastObservedAt, CatalogTables.add, filter_append,
    none_of _ later.rows_later, none_of _ later.evidence_later, append_nil]

/-- The runs of later days are all counted. -/
theorem windowCounts_add (sourceId : String)
    : windowCounts (tables.add later).runs date sourceId
      = { runs := (windowCounts tables.runs date sourceId).runs
            + (windowCounts later.runs date sourceId).runs
          healthy := (windowCounts tables.runs date sourceId).healthy
            + (windowCounts later.runs date sourceId).healthy
          truncated := (windowCounts tables.runs date sourceId).truncated
            + (windowCounts later.runs date sourceId).truncated
          failed := (windowCounts tables.runs date sourceId).failed
            + (windowCounts later.runs date sourceId).failed } := by
  simp only [windowCounts, CatalogTables.add, filter_append, length_append,
    countP_append]

def coverageReport (enabled : Bool) (counts : WindowCounts) : Option (Option CoverageFinding) :=
  if coverageSelected enabled counts then some (coverageFinding enabled counts) else none

theorem mem_coverageFindings {sourceId : String} {finding : Option CoverageFinding}
    : (sourceId, finding) ∈ coverageFindings tables date
      ↔ ∃ source ∈ tables.sources, source.sourceId = sourceId
        ∧ coverageReport source.enabled (windowCounts tables.runs date sourceId)
          = some finding := by
  simp only [coverageFindings, sourceCoverage, mem_map, mem_filterMap, coverageReport]
  constructor
  · rintro ⟨row, ⟨source, mem, found⟩, same⟩
    split at found <;> cases found
    rename_i selected
    obtain ⟨rfl, rfl⟩ := Prod.mk.inj same
    exact ⟨source, mem, rfl, if_pos selected⟩
  · rintro ⟨source, mem, rfl, found⟩
    split at found
    next selected =>
      exact ⟨_, ⟨source, mem, if_pos selected⟩, by rw [Option.some.inj found]⟩
    · cases found

/-- The findings are the same exactly if the query says the same of each source. -/
theorem coverageFindings_add_iff
    : coverageFindings (tables.add later) date = coverageFindings tables date
      ↔ ∀ source ∈ tables.sources,
          coverageReport source.enabled (windowCounts (tables.add later).runs date source.sourceId)
            = coverageReport source.enabled (windowCounts tables.runs date source.sourceId) := by
  constructor
  · intro same source mem
    ext finding
    have pairs : (source.sourceId, finding) ∈ coverageFindings (tables.add later) date
        ↔ (source.sourceId, finding) ∈ coverageFindings tables date := by rw [same]
    rw [mem_coverageFindings, mem_coverageFindings] at pairs
    have only {report : DataSource → Prop}
        : (∃ other ∈ tables.sources, other.sourceId = source.sourceId ∧ report other)
          ↔ report source := by
      constructor
      · rintro ⟨other, inside, named, holds⟩
        rwa [tables.sources_unique.eq_of_key inside mem named] at holds
      · exact fun holds => ⟨source, mem, rfl, holds⟩
    exact (only.symm.trans pairs).trans only
  · intro same
    ext ⟨sourceId, finding⟩
    rw [mem_coverageFindings, mem_coverageFindings]
    constructor
    · rintro ⟨source, mem, rfl, found⟩
      exact ⟨source, mem, rfl, same source mem ▸ found⟩
    · rintro ⟨source, mem, rfl, found⟩
      exact ⟨source, mem, rfl, (same source mem).trans found⟩

/-- The query's decisions in whole numbers. -/
theorem coverageReport_eq (enabled : Bool) (counts : WindowCounts)
    : coverageReport enabled counts
      = if counts.runs = 0 then (if enabled then some (some .enabledButSilent) else none)
        else if !enabled then some (some .disabledButRunning)
        else if counts.healthy = 0 then some (some .neverHealthy)
        else if counts.runs < 2 * counts.truncated then some (some .chronicallyTruncated)
        else if 5 * counts.healthy < 4 * counts.runs then some (some .degraded)
        else none := by
  by_cases silent : counts.runs = 0
  · cases enabled <;> simp [coverageReport, coverageSelected, coverageFinding, silent]
  · have positive : 0 < counts.runs := Nat.pos_of_ne_zero silent
    have half : (counts.truncated : ℚ) / counts.runs > 0.5
        ↔ counts.runs < 2 * counts.truncated := by
      rw [gt_iff_lt, lt_div_iff₀ (by exact_mod_cast positive)]
      rw [← @Nat.cast_lt ℚ]
      push_cast
      constructor <;> intro less <;> linarith
    have most : (counts.healthy : ℚ) / counts.runs < 0.8
        ↔ 5 * counts.healthy < 4 * counts.runs := by
      rw [div_lt_iff₀ (by exact_mod_cast positive)]
      rw [← @Nat.cast_lt ℚ]
      push_cast
      constructor <;> intro less <;> linarith
    simp only [coverageReport, coverageSelected, coverageFinding, half, most, silent, positive]
    cases enabled with
    | false => simp
    | true =>
      by_cases ill : counts.healthy = 0
      · simp [ill, positive]
      · by_cases cut : counts.runs < 2 * counts.truncated
        · simp [ill, cut]
        · by_cases low : 5 * counts.healthy < 4 * counts.runs
          · simp [ill, cut, low]
          · simp [ill, cut, low]

/-- Witness: the thresholds are decided one after the other, as the query does. -/
theorem coverageReport_same_iff {enabled : Bool} {known added sum : WindowCounts}
    (knownHealthy : known.healthy ≤ known.runs) (runs : sum.runs = known.runs + added.runs)
    (healthy : sum.healthy = known.healthy + added.healthy)
    (truncated : sum.truncated = known.truncated + added.truncated)
    : coverageReport enabled sum = coverageReport enabled known
      ↔ SameSide enabled known added := by
  rw [coverageReport_eq, coverageReport_eq, truncated]
  constructor
  · intro same
    refine ⟨?_, ?_, ?_, ?_⟩ <;> grind
  · rintro ⟨running, healthySide, truncatedSide, degradedSide⟩
    grind

/-- The answers for a past date stay the same under facts of later days exactly if every source
stays on its side of the thresholds of the coverage query. The freshness answers always do.
-/
theorem backfill_stable_iff (tables : CatalogTables) (date instant : Int)
    (later : LaterFacts date instant)
    : (coverageFindings (tables.add later) date = coverageFindings tables date
        ∧ freshnessFindings (tables.add later) instant = freshnessFindings tables instant)
      ↔ ∀ source ∈ tables.sources,
          SameSide source.enabled (windowCounts tables.runs date source.sourceId)
            (windowCounts later.runs date source.sourceId) := by
  have fresh : freshnessFindings (tables.add later) instant = freshnessFindings tables instant := by
    simp only [freshnessFindings, freshness, lastObservedAt_add]
    rfl
  rw [and_iff_left fresh, coverageFindings_add_iff]
  refine forall₂_congr fun source _ => ?_
  rw [windowCounts_add]
  exact coverageReport_same_iff countP_le_length rfl rfl rfl

end Stability

def silentSource : CatalogTables where
  sources := [⟨"loki", "Loki", true⟩]
  assets := []
  runs := []
  observedRows := []
  normalizedEvidence := []
  sources_unique := nodup_singleton _

def nextDayRun : LaterFacts 10 864000000000 where
  runs := [⟨11, "loki", .success, 1, 0⟩]
  observedRows := []
  normalizedEvidence := []
  runs_later := by decide
  rows_later := by decide
  evidence_later := by decide

/-- A run of the next day makes the silent source of the day before disappear. -/
theorem later_run_hides_silence
    : ("loki", some .enabledButSilent) ∈ coverageFindings silentSource 10
      ∧ ("loki", some .enabledButSilent) ∉ coverageFindings (silentSource.add nextDayRun) 10 := by
  have before : (sourceCoverage silentSource 10).map (fun row => (row.sourceId, row.finding))
      = [("loki", some .enabledButSilent)] := by decide +kernel
  have after : (sourceCoverage (silentSource.add nextDayRun) 10).map
      (fun row => (row.sourceId, row.finding)) = [] := by decide +kernel
  simp only [coverageFindings, before, after]
  simp

end K8sClue.Catalog
