import K8sClue.Library.SortedBy
import Mathlib.Data.List.Dedup
import Mathlib.Data.String.Basic

/-! Duplicate candidates of the data catalog.
The query first reads the keys of recent rows and then groups all rows of these keys.
-/

namespace K8sClue.Catalog

open Library List

structure NormalizedEvidence where
  (evidenceId runId clusterId sourceId resourceUid : String)
  collectionStatus : Option String
  (observedAt ingestedAt : Int)
  deriving DecidableEq

structure DuplicateKey where
  (clusterId sourceId resourceUid : String)
  observedDay : Int
  deriving DecidableEq

structure DuplicateGroup where
  key : DuplicateKey
  (observationCount runCount : Nat)
  (firstObservedAt lastObservedAt lastIngestedAt : Option Int)
  fromRuns : List String

section Query

/- `DATE_TRUNC('day', ·)` in the time zone of the session. -/
variable (day : Int → Int)

def NormalizedEvidence.duplicateKey (row : NormalizedEvidence) : DuplicateKey where
  clusterId := row.clusterId
  sourceId := row.sourceId
  resourceUid := row.resourceUid
  observedDay := day row.observedAt

variable (rows : List NormalizedEvidence)

def aggregate (key : DuplicateKey) : DuplicateGroup :=
  let members := rows.filter (·.duplicateKey day = key)
  let runs := (members.map (·.runId)).dedup
  { key
    observationCount := members.length
    runCount := runs.length
    firstObservedAt := (members.map (·.observedAt)).min?
    lastObservedAt := (members.map (·.observedAt)).max?
    lastIngestedAt := (members.map (·.ingestedAt)).max?
    fromRuns := runs.insertionSort (· ≤ ·) }

def groups : List DuplicateGroup :=
  (rows.map (·.duplicateKey day)).dedup.map (aggregate day rows)

variable (logicalTs : Int)

def IsRecent (row : NormalizedEvidence) : Prop :=
  logicalTs - 2 * 86400 * 1000000 ≤ row.ingestedAt

instance (row : NormalizedEvidence) : Decidable (IsRecent logicalTs row) :=
  inferInstanceAs (Decidable (_ ≤ _))

/-- The keys of the rows that are recent, each once. -/
def recent : List DuplicateKey :=
  ((rows.filter (IsRecent logicalTs ·)).map (·.duplicateKey day)).dedup

/-- The rows joined with the recent keys. -/
def joinedRows : List NormalizedEvidence :=
  rows.flatMap fun row =>
    ((recent day rows logicalTs).filter (· = row.duplicateKey day)).map fun _ => row

def duplicateCandidates : List DuplicateGroup :=
  ((groups day (joinedRows day rows logicalTs)).filter (1 < ·.runCount)).insertionSort
    fun left right => right.observationCount ≤ left.observationCount

variable {day rows logicalTs}

theorem joinedRows_eq
    : joinedRows day rows logicalTs
      = rows.filter (·.duplicateKey day ∈ recent day rows logicalTs) :=
  flatMap_keys (nodup_dedup _) _ rows

theorem aggregate_joined {key : DuplicateKey} (known : key ∈ recent day rows logicalTs)
    : aggregate day (joinedRows day rows logicalTs) key = aggregate day rows key := by
  have members : (joinedRows day rows logicalTs).filter (·.duplicateKey day = key)
      = rows.filter (·.duplicateKey day = key) := by
    rw [joinedRows_eq, filter_filter]
    refine filter_congr fun row _ => ?_
    by_cases same : row.duplicateKey day = key <;> simp [same, known]
  simp only [aggregate, members]

theorem groups_keys : (groups day rows).map (·.key) = (rows.map (·.duplicateKey day)).dedup := by
  rw [groups, map_map]
  exact map_id _

/-- The candidates are the groups of the whole table that have several runs and a recent row. -/
theorem duplicate_search_complete (day : Int → Int) (rows : List NormalizedEvidence)
    (logicalTs : Int)
    : (duplicateCandidates day rows logicalTs).Perm
        ((groups day rows).filter fun group => 1 < group.runCount
          ∧ ∃ row ∈ rows, row.duplicateKey day = group.key ∧ IsRecent logicalTs row)
      ∧ ((duplicateCandidates day rows logicalTs).map (·.key)).Nodup := by
  have nodup (rows : List NormalizedEvidence) (passes : DuplicateGroup → Bool)
      : (((groups day rows).filter passes).map (·.key)).Nodup :=
    ((groups_keys ▸ nodup_dedup _ : ((groups day rows).map (·.key)).Nodup)).sublist
      (filter_sublist.map _)
  have sorted := perm_insertionSort
    (fun left right : DuplicateGroup => right.observationCount ≤ left.observationCount)
    ((groups day (joinedRows day rows logicalTs)).filter (1 < ·.runCount))
  refine ⟨sorted.trans ?_, (sorted.map _).nodup_iff.mpr (nodup _ _)⟩
  refine (perm_ext_iff_of_nodup (nodup _ _).of_map (nodup _ _).of_map).mpr fun group => ?_
  have known (key : DuplicateKey) : key ∈ recent day rows logicalTs
      ↔ ∃ row ∈ rows, row.duplicateKey day = key ∧ IsRecent logicalTs row := by
    simp only [recent, mem_dedup, mem_map, mem_filter, decide_eq_true_eq]
    exact exists_congr fun row => and_right_comm.trans and_assoc
  simp only [mem_filter, groups, mem_map, mem_dedup, decide_eq_true_eq]
  constructor
  · rintro ⟨⟨_, ⟨row, inside, rfl⟩, rfl⟩, several⟩
    rw [joinedRows_eq, mem_filter, decide_eq_true_eq] at inside
    rw [aggregate_joined inside.2] at several ⊢
    exact ⟨⟨_, ⟨row, inside.1, rfl⟩, rfl⟩, several, (known _).mp inside.2⟩
  · rintro ⟨⟨key, ⟨row, inside, rfl⟩, rfl⟩, several, found⟩
    have joined := (known _).mpr found
    refine ⟨⟨_, ⟨row, ?_, rfl⟩, aggregate_joined joined⟩, several⟩
    rw [joinedRows_eq, mem_filter, decide_eq_true_eq]
    exact ⟨inside, joined⟩

end Query

end K8sClue.Catalog
