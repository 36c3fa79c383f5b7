import K8sClue.Catalog.DailyRuns
import K8sClue.Catalog.DuplicateCandidates
import K8sClue.Catalog.QualityChecks
import Mathlib.Algebra.Ring.Nat
import Mathlib.Data.List.Sort
import Mathlib.Data.Prod.Lex

/-! The pages of the catalog's lists.
A page is cut out of an answer of its own, so the pages fit together only where the order of a query
leaves no choice.
-/

namespace K8sClue.Catalog

open Library List Keyed

section Pages

variable {ρ κ : Type}

structure Page (ρ : Type) where
  data : List ρ
  /-- the offset that `next_cursor` stands for, where the page is `truncated` -/
  nextCursor : Option Nat

def envelope (data : List ρ) (offset total : Nat) : Page ρ where
  data := data
  nextCursor := if offset + data.length < total then some (offset + data.length) else none

/-- A page of the rows that are answered, with the number of rows that is counted beside them. -/
def readPage (answer : List ρ) (total limit : Nat) (cursor : Option Nat) : Page ρ :=
  let offset := cursor.getD 0
  envelope ((answer.drop offset).take limit) offset total

variable (answer : Nat → List ρ) (total limit : Nat → Nat)

/-- All pages from a cursor on, where each call has an answer, a count and a limit of its own. -/
def followPages : Nat → Nat → Option Nat → Option (List ρ)
  | 0, _, _ => none
  | calls + 1, call, cursor =>
    let page := readPage (answer call) (total call) (limit call) cursor
    match page.nextCursor with
    | none => some page.data
    | some next => (followPages calls (call + 1) (some next)).map (page.data ++ ·)

/-- A query with an `ORDER BY` clause: what it may select, and what the rows are ordered by. -/
structure Listing (ρ κ : Type) where
  Selects : List ρ → Prop
  order : ρ → κ

variable [LinearOrder κ] (listing : Listing ρ κ)

/-- The database may answer the rows in this order. -/
def Listing.Permits (answer : List ρ) : Prop :=
  (∃ rows, listing.Selects rows ∧ answer.Perm rows)
  ∧ answer.Pairwise (listing.order · ≤ listing.order ·)

def Listing.Counts (total : Nat) : Prop := ∃ rows, listing.Selects rows ∧ rows.length = total

/-- Following the pages ends, whatever the database answers, and reads every row once. -/
def Listing.Exact : Prop :=
  ∀ answer total limit,
    (∀ call, listing.Permits (answer call) ∧ listing.Counts (total call)
      ∧ 1 ≤ limit call ∧ limit call ≤ 200)
    → ∀ rows, listing.Selects rows
    → ∃ read, (∀ calls, rows.length < calls
        → followPages answer total limit calls 0 none = some read)
      ∧ read.Perm rows

/-- Every statement selects the same rows, and the order tells them apart. -/
structure Listing.Determined : Prop where
  same : ∀ rows others, listing.Selects rows → listing.Selects others → rows.Perm others
  apart : ∀ rows, listing.Selects rows → ∀ row ∈ rows, ∀ other ∈ rows,
      listing.order row = listing.order other → row = other

variable {answer total limit listing}

/-- Where all answers are the same, the pages are its parts. -/
theorem followPages_same {rows : List ρ} (same : ∀ call, answer call = rows)
    (counted : ∀ call, total call = rows.length)
    (positive : ∀ call, 1 ≤ limit call) {calls call offset : Nat} {cursor : Option Nat}
    (start : cursor.getD 0 = offset) (enough : rows.length - offset < calls)
    : followPages answer total limit calls call cursor = some (rows.drop offset) := by
  induction calls generalizing call offset cursor with
  | zero => omega
  | succ calls ih =>
    have step := positive call
    have cut : ((rows.drop offset).take (limit call)).length
        = min (limit call) (rows.length - offset) := by
      rw [length_take, length_drop]
    simp only [followPages, readPage, envelope, start, same, counted, cut]
    by_cases more : offset + min (limit call) (rows.length - offset) < rows.length
    · have whole : min (limit call) (rows.length - offset) = limit call := by omega
      rw [whole] at more
      have rest : followPages answer total limit calls (call + 1) (some (offset + limit call))
          = some (rows.drop (offset + limit call)) := ih rfl (by omega)
      simp only [whole, if_pos more, rest]
      rw [Option.map_some, ← drop_drop, take_append_drop]
    · simp only [if_neg more]
      rw [take_of_length_le (by rw [length_drop]; omega)]

/-- Pages of one row each take the row of each place from the answer of its call. -/
theorem followPages_single {rows : List ρ} (each : ∀ call, (answer call)[call]? = rows[call]?)
    (counted : ∀ call, total call = rows.length) {calls call : Nat} {cursor : Option Nat}
    (start : cursor.getD 0 = call) (enough : rows.length - call < calls)
    : followPages answer total (fun _ => 1) calls call cursor = some (rows.drop call) := by
  induction calls generalizing call cursor with
  | zero => omega
  | succ calls ih =>
    have cut : ((answer call).drop call).take 1 = (rows.drop call).take 1 := by
      rw [take_one, take_one, head?_drop, head?_drop, each]
    simp only [followPages, readPage, envelope, start, counted, cut, length_take, length_drop]
    by_cases more : call + min 1 (rows.length - call) < rows.length
    · have whole : min 1 (rows.length - call) = 1 := by omega
      rw [whole] at more
      have rest : followPages answer total (fun _ => 1) calls (call + 1) (some (call + 1))
          = some (rows.drop (call + 1)) := ih rfl (by omega)
      simp only [whole, if_pos more, rest]
      rw [Option.map_some, ← drop_drop, take_append_drop]
    · simp only [if_neg more]
      rw [take_of_length_le (by rw [length_drop]; omega)]

theorem Listing.Determined.exact (determined : listing.Determined) : listing.Exact := by
  intro answer total limit permitted rows selected
  have sorted (call : Nat) : (answer call).Perm rows := by
    obtain ⟨⟨others, selects, perm⟩, _⟩ := (permitted call).1
    exact perm.trans (determined.same _ _ selects selected)
  have same (call : Nat) : answer call = answer 0 := by
    refine ((sorted call).trans (sorted 0).symm).eq_of_pairwise
      (fun row other mem mem' below above => ?_) (permitted call).1.2 (permitted 0).1.2
    exact determined.apart rows selected row ((sorted call).mem_iff.mp mem) other
      ((sorted 0).mem_iff.mp mem') (le_antisymm below above)
  have counted (call : Nat) : total call = (answer 0).length := by
    obtain ⟨others, selects, count⟩ := (permitted call).2.1
    rw [← count, (determined.same _ _ selects selected).length_eq, (sorted 0).length_eq]
  refine ⟨answer 0, fun calls enough => ?_, sorted 0⟩
  rw [← (sorted 0).length_eq] at enough
  exact followPages_same same counted (fun call => (permitted call).2.2.1) rfl enough

/-- Some permitted answer has two rows of one key beside each other, in either order. -/
theorem Listing.exists_adjacent {rows : List ρ} {first second : ρ} (selected : listing.Selects rows)
    (mem : first ∈ rows) (mem' : second ∈ rows)
    (tied : listing.order first = listing.order second) (different : first ≠ second)
    : ∃ low high, rows.Perm (low ++ first :: second :: high)
        ∧ listing.Permits (low ++ first :: second :: high)
        ∧ listing.Permits (low ++ second :: first :: high) := by
  classical
  let key := listing.order first
  let rest := (rows.erase first).erase second
  let sort := insertionSort fun row other : ρ => listing.order row ≤ listing.order other
  let low := sort (rest.filter (listing.order · < key))
  let high := sort (rest.filter fun row => !decide (listing.order row < key))
  have parts : (low ++ high).Perm rest := by
    refine ((perm_insertionSort _ _).append (perm_insertionSort _ _)).trans ?_
    exact filter_append_perm (fun row => decide (listing.order row < key)) rest
  have all : rows.Perm (low ++ first :: second :: high) := by
    have inRest : second ∈ rows.erase first := (mem_erase_of_ne different.symm).mpr mem'
    calc rows.Perm (first :: second :: rest) :=
          (perm_cons_erase mem).trans ((perm_cons_erase inRest).cons _)
      _ ~ first :: second :: (low ++ high) := (parts.symm.cons _).cons _
      _ ~ low ++ first :: second :: high := by
        refine Perm.trans ?_ perm_middle.symm
        exact (perm_middle.symm).cons _
  have below : ∀ row ∈ low, listing.order row < key := fun row inside => by
    simpa using (mem_filter.mp ((perm_insertionSort _ _).mem_iff.mp inside)).2
  have above : ∀ row ∈ high, key ≤ listing.order row := fun row inside => by
    simpa using (mem_filter.mp ((perm_insertionSort _ _).mem_iff.mp inside)).2
  have ordered {one two : ρ} (keys : listing.order one = key ∧ listing.order two = key)
      : (low ++ one :: two :: high).Pairwise (listing.order · ≤ listing.order ·) := by
    refine pairwise_append.mpr ⟨pairwise_insertionSort _ _, ?_, ?_⟩
    · simp only [pairwise_cons, forall_mem_cons, keys.1, keys.2]
      exact ⟨⟨le_rfl, above⟩, above, pairwise_insertionSort _ _⟩
    · intro row inside other among
      simp only [mem_cons] at among
      refine (below row inside).le.trans ?_
      rcases among with rfl | rfl | among
      · exact keys.1.ge
      · exact keys.2.ge
      · exact above other among
  refine ⟨low, high, all, ⟨⟨rows, selected, all.symm⟩, ordered ⟨rfl, tied.symm⟩⟩,
    ⟨rows, selected, ?_⟩, ordered ⟨tied.symm, rfl⟩⟩
  exact ((Perm.swap first second high).append_left low).trans all.symm

theorem Listing.exists_permits {rows : List ρ} (selected : listing.Selects rows)
    : ∃ answer, listing.Permits answer ∧ answer.Perm rows :=
  ⟨rows.insertionSort (listing.order · ≤ listing.order ·),
    ⟨⟨rows, selected, perm_insertionSort _ _⟩, pairwise_insertionSort _ _⟩, perm_insertionSort _ _⟩

/-- Pages are exact only where every statement has to answer the same.
Witness: two rows of one key may be swapped after the first of them was read, and so it is read
again in the place of the other.
-/
theorem Listing.Exact.determined (exact_ : listing.Exact) : listing.Determined where
  same := by
    intro rows others selected selects
    obtain ⟨answer, permitted, perm⟩ := listing.exists_permits selected
    have follows (calls : Nat) (enough : rows.length < calls) : followPages (fun _ => answer)
        (fun _ => rows.length) (fun _ => 1) calls 0 none = some answer :=
      followPages_same (fun _ => rfl) (fun _ => perm.length_eq.symm) (fun _ => le_rfl) rfl
        (by rw [perm.length_eq]; exact enough)
    obtain ⟨read, ends, all⟩ := exact_ (fun _ => answer) (fun _ => rows.length) (fun _ => 1)
      (fun _ => ⟨permitted, ⟨rows, selected, rfl⟩, le_rfl, by decide⟩) others selects
    have enough := ends (rows.length + others.length + 1) (by omega)
    rw [follows _ (by omega)] at enough
    exact perm.symm.trans (Option.some.inj enough ▸ all)
  apart := by
    intro rows selected first mem second mem' tied
    by_contra different
    obtain ⟨low, high, all, one, two⟩ :=
      listing.exists_adjacent selected mem mem' tied different
    let answer (call : Nat) :=
      if call ≤ low.length then low ++ first :: second :: high
      else low ++ second :: first :: high
    have each (call : Nat)
        : (answer call)[call]? = (low ++ first :: first :: high)[call]? := by
      rcases lt_trichotomy call low.length with before | rfl | after
      · simp [answer, before.le, getElem?_append_left before]
      · simp [answer]
      · obtain ⟨place, rfl⟩ := Nat.exists_eq_add_of_lt after
        simp only [answer, if_neg (by omega : ¬ low.length + place + 1 ≤ low.length),
          getElem?_append_right (by omega : low.length ≤ low.length + place + 1)]
        rw [show low.length + place + 1 - low.length = place + 1 by omega]
        cases place <;> rfl
    have length : rows.length = (low ++ first :: first :: high).length := by
      rw [all.length_eq]
      simp
    obtain ⟨read, ends, perm⟩ := exact_ answer (fun _ => rows.length) (fun _ => 1)
      (fun call => ⟨by
        dsimp only [answer]
        split
        · exact one
        · exact two, ⟨rows, selected, rfl⟩, le_rfl, by decide⟩) rows selected
    have twice : followPages answer (fun _ => rows.length) (fun _ => 1) (rows.length + 1) 0 none
        = some ((low ++ first :: first :: high).drop 0) :=
      followPages_single each (fun _ => length) rfl (by omega)
    rw [ends _ (Nat.lt_succ_self _), drop_zero] at twice
    have repeated := (Option.some.inj twice ▸ perm).trans all
    rw [perm_append_left_iff, perm_cons] at repeated
    have single : ([first] ++ high).Perm ([second] ++ high) := repeated
    rw [perm_append_right_iff, singleton_perm_singleton] at single
    exact different single

theorem Listing.exact_iff : listing.Exact ↔ listing.Determined :=
  ⟨Listing.Exact.determined, Listing.Determined.exact⟩

end Pages

structure SourceRow where
  (sourceId name sourceType owner : String)
  enabled : Bool
  collectionIntervalSeconds : Int

structure AssetRow where
  (assetId qualifiedName assetType sourceId owner classification : String)
  (currentSchemaVersion freshnessSlaSeconds : Int)

structure DagRunRow where
  dagRunId : String
  logicalDate : Int
  status : DagStatus
  startedAt : Int
  finishedAt : Option Int

/-- What `list_runs` reads of a row of `catalog_collection_runs`. -/
structure SourceRun where
  dagRunId : String
  status : CollectionStatus
  attempt : Nat

structure RunSummary where
  run : DagRunRow
  (sourceCount healthy unhealthy : Nat)
  attempts : Option Nat

structure ListedTables where
  sources : List SourceRow := []
  assets : List AssetRow := []
  evidence : List NormalizedEvidence := []
  results : List QualityResult := []
  dagRuns : List DagRunRow := []
  sourceRuns : List SourceRun := []
  sourceIds : Unique SourceRow.sourceId sources
  qualifiedNames : Unique AssetRow.qualifiedName assets

def Severity.text : Severity → String
  | .error => "error"
  | .warning => "warning"

namespace ListedTables

variable (tables : ListedTables)

def listSources : Listing SourceRow String := ⟨(· = tables.sources), (·.sourceId)⟩

/-- The assets, where `ilike name q` is `name ILIKE '%' || q || '%'`. -/
def searchAssets (ilike : String → String → Bool) (q source : Option String)
    : Listing AssetRow String where
  Selects rows := rows = tables.assets.filter fun asset =>
    q.all (ilike asset.qualifiedName) && source.all (asset.sourceId = ·)
  order := (·.qualifiedName)

/-- `latest_state.sql`: the latest row of each resource and whether it is incomplete. -/
def latestState (clusterId : String) (logicalTs : Int) : List (NormalizedEvidence × Bool) :=
  (distinctOn (fun row => (row.clusterId, row.sourceId, row.resourceUid))
    (fun row => toLex (OrderDual.toDual row.observedAt, OrderDual.toDual row.evidenceId))
    (tables.evidence.filter fun row => row.clusterId = clusterId
      ∧ logicalTs - 7 * 86400 * 1000000 ≤ row.observedAt)).map
      fun row => (row, row.collectionStatus ≠ some "SUCCESS")

/-- The states at one of the times of the calls, in no order. -/
def listResourceState (clusterId : String) (times : Int → Prop)
    : Listing (NormalizedEvidence × Bool) Unit where
  Selects rows := ∃ logicalTs, times logicalTs ∧ rows = tables.latestState clusterId logicalTs
  order _ := ()

/-- A run that the subquery for the latest one may pick: another one of its date that started at the
same time is no later.
-/
def IsLatest (run : DagRunRow) : Prop :=
  run ∈ tables.dagRuns ∧ ∀ other ∈ tables.dagRuns, other.logicalDate < run.logicalDate
    ∨ other.logicalDate = run.logicalDate ∧ other.startedAt ≤ run.startedAt

def failedResults (severity : Option Severity) (dagRunId : String) : List QualityResult :=
  tables.results.filter fun result => result.status = .failed
    ∧ severity.all (result.severity = ·) ∧ result.dagRunId = dagRunId

/-- The failed results of a latest run; without any run the subquery gives `NULL`. -/
def listQualityIssues (severity : Option Severity) : Listing QualityResult (String ×ₗ ℤᵒᵈ) where
  Selects rows := (∃ run, tables.IsLatest run ∧ rows = tables.failedResults severity run.dagRunId)
    ∨ tables.dagRuns = [] ∧ rows = []
  order result := toLex (result.severity.text, .toDual result.checkedAt)

def summary (run : DagRunRow) : RunSummary :=
  let collected := tables.sourceRuns.filter (·.dagRunId = run.dagRunId)
  { run
    sourceCount := collected.length
    healthy := collected.countP (·.status.healthy)
    unhealthy := collected.countP (!·.status.healthy)
    attempts := if collected.isEmpty then none else some (collected.map (·.attempt)).sum }

def listRuns (logicalDate : Option Int) : Listing RunSummary ℤᵒᵈ where
  Selects rows := rows
    = (tables.dagRuns.filter fun run => logicalDate.all (run.logicalDate = ·)).map tables.summary
  order summary := .toDual summary.run.logicalDate

/-- A list whose statements always select the same rows, in an order that tells them apart. -/
theorem determined_of_rows {ρ κ : Type} {rows : List ρ} {order : ρ → κ}
    (apart : ∀ row ∈ rows, ∀ other ∈ rows, order row = order other → row = other)
    : (⟨(· = rows), order⟩ : Listing ρ κ).Determined where
  same := by
    rintro _ _ rfl rfl
    exact Perm.refl _
  apart := by
    rintro _ rfl
    exact apart

def lateIssue (assetId : String) : QualityResult :=
  failedResult id "d" 0 .freshness (fun _ _ _ => none) [("asset_id", ⟨assetId, true⟩)]

def podState (resourceUid : String) : NormalizedEvidence where
  evidenceId := resourceUid
  runId := "r"
  clusterId := "c"
  sourceId := "kubernetes"
  resourceUid := resourceUid
  collectionStatus := none
  observedAt := 0
  ingestedAt := 0

def tiedTables : ListedTables where
  evidence := [podState "a", podState "b"]
  results := [lateIssue "a", lateIssue "b"]
  dagRuns := [⟨"d", 0, .success, 0, none⟩]
  sources := []
  sourceIds := nodup_nil
  assets := []
  qualifiedNames := nodup_nil

end ListedTables

end K8sClue.Catalog
