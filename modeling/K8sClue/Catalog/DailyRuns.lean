import K8sClue.Catalog.ArchiveRuns
import Mathlib.Data.List.Induction

/-! The daily run of the data catalog.
The tasks of the DAG: one extract for each source with its retries, then the load, then the status
of the run. The status is computed from the collection runs that are stored for the date, whoever
stored them. An attempt that fails before its transaction commits stores nothing.
-/

namespace K8sClue.Catalog

open Library List Function

inductive Source where
  | kubernetes
  | prometheus
  | loki
  | tempo
  deriving DecidableEq

def Source.id : Source → String
  | .kubernetes => "kubernetes"
  | .prometheus => "prometheus"
  | .loki => "loki"
  | .tempo => "tempo"

theorem Source.id_injective : Injective Source.id := by
  intro first second same
  cases first <;> cases second <;> first | rfl | exact absurd same (by decide)

inductive DagStatus where
  | success
  | partialRun
  | failed
  | incomplete
  deriving DecidableEq

section Model

variable {δ π : Type} [LinearOrder δ]

structure DagRun (δ : Type) where
  logicalDate : δ
  status : DagStatus
  startedAt : Int
  finishedAt : Option Int
  deriving DecidableEq

structure DailyState (δ π : Type) where
  catalog : CatalogState δ π := {}
  dagRuns : List (DagRun δ) := []

def openDagRun (dagRuns : List (DagRun δ)) (logicalDate : δ) (startedAt : Int) : List (DagRun δ) :=
  Keyed.put DagRun.logicalDate (fun known new =>
      { known with status := .incomplete, startedAt := new.startedAt, finishedAt := none })
    dagRuns { logicalDate, status := .incomplete, startedAt, finishedAt := none }

structure ExtractAttempt (δ π : Type) where
  source : Source
  today : δ
  fetched : List π := []
  /-- the source is one of `fail_sources` -/
  fails : Bool := false
  time : Int
  /-- the attempt raises before its transaction commits, having written so many files -/
  raisesAfter : Option Nat := none

def ExtractAttempt.collection (attempt : ExtractAttempt δ π) (logicalDate : δ)
    : Collection δ π where
  logicalDate := logicalDate
  today := attempt.today
  sources := [attempt.source.id]
  fetched _ := attempt.fetched
  failSources := if attempt.fails then [attempt.source.id] else []
  time := attempt.time
  failsAfter := attempt.raisesAfter

structure AttemptEnd (δ : Type) where
  logicalDate : δ
  source : Source
  status : Option CollectionStatus
  deriving DecidableEq

variable (digest : List π → String)

def ExtractAttempt.status (attempt : ExtractAttempt δ π) (state : DailyState δ π) (logicalDate : δ)
    : CollectionStatus :=
  (extractSource digest state.catalog.archive.files attempt.source.id logicalDate attempt.today
    attempt.fetched (attempt.collection logicalDate).failSources).status

def extractMachine (logicalDate : δ)
    : Machine (DailyState δ π) (ExtractAttempt δ π) (AttemptEnd δ) where
  step state attempt :=
    let catalog := collect digest state.catalog (attempt.collection logicalDate)
    match attempt.raisesAfter with
    | some _ => ({ state with catalog }, [⟨logicalDate, attempt.source, none⟩])
    | none =>
      ({ catalog, dagRuns := openDagRun state.dagRuns logicalDate attempt.time },
        [⟨logicalDate, attempt.source, some (attempt.status digest state logicalDate)⟩])

structure LoadAttempt where
  time : Int
  /-- one of its other statements fails -/
  raises : Bool := false

/-- `archive_and_load` commits if the outcomes are read and one of them is healthy. What it writes
to the other tables is not read for the status.
-/
def LoadAttempt.commits (attempt : LoadAttempt) (state : DailyState δ π) (logicalDate : δ) : Bool :=
  !attempt.raises
    && (loadArchivedOutcomes state.catalog logicalDate).any fun outcomes =>
        outcomes.any ExtractOutcome.ok

def loadMachine (logicalDate : δ) : Machine (DailyState δ π) LoadAttempt Bool where
  step state attempt :=
    if attempt.commits state logicalDate then
      ({ state with dagRuns := openDagRun state.dagRuns logicalDate attempt.time }, [true])
    else
      (state, [false])

def resolveStatus (statuses : List CollectionStatus) (downstreamComplete : Bool) : DagStatus :=
  if statuses.isEmpty then .failed
  else if statuses.all (· = .failed) then .failed
  else if !downstreamComplete then .incomplete
  else if statuses.any (!·.healthy) then .partialRun
  else .success

def resolveDagRunStatus (state : DailyState δ π) (logicalDate : δ) (downstreamComplete : Bool)
    (finishedAt : Int)
    : DailyState δ π :=
  let statuses := (state.catalog.runs.filter (·.logicalDate = logicalDate)).map CollectionRun.status
  let status := resolveStatus statuses downstreamComplete
  { state with
    dagRuns := state.dagRuns.map fun row =>
      if row.logicalDate = logicalDate then { row with status, finishedAt := some finishedAt }
      else row }

/-- `resolve_status`: without the result of the load it opens the run itself. -/
def resolveTask (state : DailyState δ π) (logicalDate : δ) (loaded : Bool) (time : Int)
    : DailyState δ π :=
  let opened :=
    if loaded then state
    else { state with dagRuns := openDagRun state.dagRuns logicalDate time }
  resolveDagRunStatus opened logicalDate loaded time

structure DagExecution (δ π : Type) where
  logicalDate : δ
  extracts : List (ExtractAttempt δ π)
  loads : List LoadAttempt
  resolvedAt : Int

structure DagReport (δ : Type) where
  attempts : List (AttemptEnd δ)
  loaded : Bool

variable (execution : DagExecution δ π)

def DagExecution.extracted (state : DailyState δ π) : DailyState δ π :=
  (extractMachine digest execution.logicalDate).run state execution.extracts

def DagExecution.report (state : DailyState δ π) : DagReport δ where
  attempts := (extractMachine digest execution.logicalDate).trace state execution.extracts
  loaded :=
    ((loadMachine execution.logicalDate).trace (execution.extracted digest state)
      execution.loads).getLast?.getD false

/-- Executions of the DAG, one after the other (`max_active_runs=1`). -/
def dailyMachine : Machine (DailyState δ π) (DagExecution δ π) (DagReport δ) where
  step state execution :=
    let loaded := (loadMachine execution.logicalDate).run (execution.extracted digest state)
      execution.loads
    let report := execution.report digest state
    (resolveTask loaded execution.logicalDate report.loaded execution.resolvedAt, [report])

def DailyState.status (state : DailyState δ π) (logicalDate : δ) : Option DagStatus :=
  (Keyed.find DagRun.logicalDate state.dagRuns logicalDate).map DagRun.status

end Model

section Reports

variable {δ : Type} [DecidableEq δ] (report : DagReport δ)

def DagReport.final (source : Source) : Option (Option CollectionStatus) :=
  ((report.attempts.filter (·.source = source)).getLast?).map AttemptEnd.status

def DagReport.Ends (source : Source) (status : CollectionStatus) : Prop :=
  report.final source = some (some status)

structure DagReport.ReallyRead : Prop where
  healthy : ∀ source, ∃ status, report.Ends source status ∧ status.healthy = true
  loaded : report.loaded = true

variable (log : List (AttemptEnd δ))

def lastCommitted (logicalDate : δ) (source : Source) : Option CollectionStatus :=
  (log.filterMap fun attempt =>
    if attempt.logicalDate = logicalDate ∧ attempt.source = source then attempt.status
    else none).getLast?

/-- If the load commits while no unhealthy status was committed last, then no source has been left
with a final attempt that committed nothing.
-/
def NothingSkipped (logicalDate : δ) (report : DagReport δ) : Prop :=
  report.loaded = true
  → (∀ source status, lastCommitted log logicalDate source = some status
      → status.healthy = true)
  → ∀ source, ∃ status, report.Ends source status

theorem lastCommitted_concat (attempt : AttemptEnd δ) (logicalDate : δ) (source : Source)
    : lastCommitted (log ++ [attempt]) logicalDate source
      = if attempt.logicalDate = logicalDate ∧ attempt.source = source then
          attempt.status.or (lastCommitted log logicalDate source)
        else lastCommitted log logicalDate source := by
  unfold lastCommitted
  by_cases same : attempt.logicalDate = logicalDate ∧ attempt.source = source
  · cases status : attempt.status <;> simp [same, status]
  · simp [same]

/-- A status that the final attempt commits is the last one that is committed.
Witness: induction from the end of the execution's attempts.
-/
theorem lastCommitted_of_ends {past : List (AttemptEnd δ)} {logicalDate : δ}
    {report : DagReport δ} {source : Source} {status : CollectionStatus}
    (dated : ∀ attempt ∈ report.attempts, attempt.logicalDate = logicalDate)
    (ends : report.Ends source status)
    : lastCommitted (past ++ report.attempts) logicalDate source = some status := by
  obtain ⟨attempts, loaded⟩ := report
  unfold DagReport.Ends DagReport.final at ends
  induction attempts using List.reverseRecOn with
  | nil => simp at ends
  | append_singleton earlier last ih =>
    rw [← append_assoc, lastCommitted_concat, dated last (by simp)]
    rw [filter_append] at ends
    by_cases same : last.source = source
    · rw [if_pos ⟨rfl, same⟩]
      simp only [same, decide_true, filter_cons_of_pos, filter_nil,
        getLast?_append, getLast?_singleton, Option.some_or, Option.map_some,
        Option.some.injEq] at ends
      rw [ends, Option.some_or]
    · rw [if_neg (fun both => same both.2)]
      refine ih (fun attempt mem => dated attempt (mem_append_left _ mem)) ?_
      simpa [same] using ends

end Reports

end K8sClue.Catalog
