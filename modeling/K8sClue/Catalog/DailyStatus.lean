import K8sClue.Catalog.DailyRuns

/-! The status of the daily runs.
The collection runs that are stored for a date are those that were committed last for each source,
in whichever execution. So a run of the DAG is recorded as successful exactly if its load commits
and none of them is unhealthy, also when a source could not be read at all.
-/

namespace K8sClue.Catalog

open Library List Keyed

section Status

variable {δ π : Type} [LinearOrder δ] {digest : List π → String} {state : DailyState δ π}
  {log : List (AttemptEnd δ)}

structure RunsTold (catalog : CatalogState δ π) (log : List (AttemptEnd δ)) : Prop where
  unique : Unique CollectionRun.runId catalog.runs
  statuses : ∀ logicalDate source,
      (Keyed.find CollectionRun.runId catalog.runs (logicalDate, source.id)).map
          CollectionRun.status
        = lastCommitted log logicalDate source
  sources : ∀ run ∈ catalog.runs, ∃ source : Source, run.sourceId = source.id

def ExtractAttempt.row (digest : List π → String) (attempt : ExtractAttempt δ π)
    (state : DailyState δ π) (logicalDate : δ)
    : CollectionRun δ where
  logicalDate := logicalDate
  sourceId := attempt.source.id
  status := attempt.status digest state logicalDate
  attempt := 1
  finishedAt := attempt.time

/-- One attempt of an extract task.
Witness: an attempt that commits writes the one row of its date and source.
-/
theorem RunsTold.extract (told : RunsTold state.catalog log) (logicalDate : δ)
    (attempt : ExtractAttempt δ π)
    : RunsTold ((extractMachine digest logicalDate).step state attempt).1.catalog
        (log ++ ((extractMachine digest logicalDate).step state attempt).2) := by
  unfold extractMachine
  dsimp only
  cases raises : attempt.raisesAfter with
  | some count =>
    have same : (collect digest state.catalog (attempt.collection logicalDate)).runs
        = state.catalog.runs := by
      simp only [collect, ExtractAttempt.collection, raises]
    refine ⟨same ▸ told.unique, fun date source => ?_, same ▸ told.sources⟩
    rw [lastCommitted_concat, same, told.statuses]
    split
    · exact (Option.none_or).symm
    · rfl
  | none =>
    have same : (collect digest state.catalog (attempt.collection logicalDate)).runs
        = Keyed.put CollectionRun.runId (fun old new =>
              { old with
                status := new.status, attempt := old.attempt + 1, finishedAt := new.finishedAt })
            state.catalog.runs (attempt.row digest state logicalDate) := by
      simp only [collect, ExtractAttempt.collection, raises, upsertCollectionRuns,
        Collection.outcomes, map_cons, map_nil, Keyed.putAll, foldl_cons,
        foldl_nil, extractSource_sourceId, ExtractAttempt.row, ExtractAttempt.status]
    refine ⟨?_, fun date source => ?_, ?_⟩
    · rw [same]
      exact told.unique.put keeps_runId
    · have key : (attempt.row digest state logicalDate).runId
          = (logicalDate, attempt.source.id) := rfl
      rw [lastCommitted_concat, same, find_put keeps_runId, key]
      by_cases here : logicalDate = date ∧ attempt.source = source
      · obtain ⟨rfl, rfl⟩ := here
        rw [if_pos rfl, if_pos ⟨rfl, rfl⟩]
        cases Keyed.find CollectionRun.runId state.catalog.runs
          (logicalDate, attempt.source.id) <;> rfl
      · have other : (logicalDate, attempt.source.id) ≠ (date, source.id) := by
          intro equal
          obtain ⟨dates, ids⟩ := Prod.mk.inj equal
          exact here ⟨dates, Source.id_injective ids⟩
        rw [if_neg here, if_neg other]
        exact told.statuses date source
    · rw [same]
      intro run mem
      rcases mem_put_cases mem with before | rfl | ⟨old, before, _, rfl⟩
      · exact told.sources run before
      · exact ⟨attempt.source, rfl⟩
      · exact told.sources old before

theorem RunsTold.extracts (told : RunsTold state.catalog log) (digest : List π → String)
    (logicalDate : δ) (attempts : List (ExtractAttempt δ π))
    : RunsTold ((extractMachine digest logicalDate).run state attempts).catalog
        (log ++ (extractMachine digest logicalDate).trace state attempts) := by
  have keeps : ∀ (state : DailyState δ π) past attempt, RunsTold state.catalog past → True
      → RunsTold ((extractMachine digest logicalDate).step state attempt).1.catalog
          (past ++ ((extractMachine digest logicalDate).step state attempt).2) :=
    fun _ _ attempt told _ => told.extract logicalDate attempt
  exact Machine.run_trace_invariant keeps told (Machine.admits_true _ attempts)

/-- All attempts of an execution are of its date. -/
theorem report_dated (execution : DagExecution δ π)
    : ∀ attempt ∈ (execution.report digest state).attempts,
        attempt.logicalDate = execution.logicalDate := by
  refine @Machine.trace_forall _ _ _ _ (fun _ _ => True) _ _ (fun _ => True) _
    (fun _ _ _ _ => trivial) ?_ trivial (Machine.admits_true _ _)
  intro state attempt _ _ ended mem
  unfold extractMachine at mem
  dsimp only at mem
  split at mem <;> rw [mem_singleton.mp mem]

theorem openDagRun_found (rows : List (DagRun δ)) (logicalDate : δ) (time : Int)
    : (Keyed.find DagRun.logicalDate (openDagRun rows logicalDate time) logicalDate).isSome := by
  rw [find_isSome, ← mem_map]
  have keys : logicalDate ∈ (openDagRun rows logicalDate time).map DagRun.logicalDate
      ↔ logicalDate ∈ rows.map DagRun.logicalDate ∨ logicalDate = logicalDate :=
    mem_keys_put (fun _ _ same => same)
  exact keys.mpr (.inr rfl)

/-- The loads leave the catalog as it is; after one that commits, the run is open. -/
theorem load_run (state : DailyState δ π) (logicalDate : δ) (attempts : List LoadAttempt)
    : ((loadMachine logicalDate).run state attempts).catalog = state.catalog
      ∧ (((loadMachine logicalDate).trace state attempts).getLast? = some true
        → (Keyed.find DagRun.logicalDate ((loadMachine logicalDate).run state attempts).dagRuns
              logicalDate).isSome
          ∧ ∃ outcomes, loadArchivedOutcomes state.catalog logicalDate = some outcomes
            ∧ outcomes.any ExtractOutcome.ok = true) := by
  induction attempts using List.reverseRecOn with
  | nil => exact ⟨rfl, nofun⟩
  | append_singleton earlier last ih =>
    rw [Machine.run_concat, Machine.trace_append]
    generalize (loadMachine logicalDate).run state earlier = middle at ih ⊢
    simp only [Machine.trace_cons, loadMachine]
    split
    next commits =>
      refine ⟨ih.1, fun _ => ⟨openDagRun_found _ _ _, ?_⟩⟩
      · rw [LoadAttempt.commits, Bool.and_eq_true, Option.any_eq_true, ih.1] at commits
        obtain ⟨_, outcomes, loaded, healthy⟩ := commits
        exact ⟨outcomes, loaded, healthy⟩
    · exact ⟨ih.1, by simp⟩

/-- The status task stores its decision. -/
theorem resolveTask_status (logicalDate : δ) (loaded : Bool) (time : Int)
    (opened : loaded = true → (Keyed.find DagRun.logicalDate state.dagRuns logicalDate).isSome)
    : (resolveTask state logicalDate loaded time).status logicalDate
      = some (resolveStatus
          ((state.catalog.runs.filter (·.logicalDate = logicalDate)).map CollectionRun.status)
          loaded) := by
  have stored (rows : List (DagRun δ)) (status : DagStatus)
      (there : (Keyed.find DagRun.logicalDate rows logicalDate).isSome)
      : (Keyed.find DagRun.logicalDate (rows.map fun row =>
            if row.logicalDate = logicalDate then { row with status, finishedAt := some time }
            else row) logicalDate).map DagRun.status = some status := by
    obtain ⟨row, found⟩ := Option.isSome_iff_exists.mp there
    have dated := (mem_of_find found).2
    rw [find_map (fun row => by split <;> rfl), found]
    simp [dated]
  cases loaded with
  | true => exact stored _ _ (opened rfl)
  | false => exact stored _ _ (openDagRun_found _ _ _)

/-- The decision is success if the load is complete, there are statuses, and all are healthy. -/
theorem resolveStatus_success {statuses : List CollectionStatus} {loaded : Bool}
    : resolveStatus statuses loaded = .success
      ↔ loaded = true ∧ statuses ≠ [] ∧ ∀ status ∈ statuses, status.healthy = true := by
  unfold resolveStatus
  cases statuses with
  | nil => simp
  | cons first rest =>
    by_cases all : ∀ status ∈ first :: rest, status.healthy = true
    · have some_ : (first :: rest).all (· = .failed) = false := by
        have healthy := all first mem_cons_self
        cases first <;> first | rfl | cases healthy
      have none_ : (first :: rest).any (!·.healthy) = false := by
        rw [any_eq_false]
        intro status mem
        simp [all status mem]
      rw [some_, none_]
      cases loaded with
      | false => simp
      | true => exact iff_of_true rfl ⟨rfl, cons_ne_nil _ _, all⟩
    · have found : (first :: rest).any (!·.healthy) = true := by
        simp only [not_forall] at all
        obtain ⟨status, mem, ill⟩ := all
        rw [any_eq_true]
        exact ⟨status, mem, by simpa using ill⟩
      rw [found]
      refine iff_of_false ?_ (fun both => all both.2.2)
      cases loaded <;> simp <;> split <;> simp

/-- The runs of a date are those of its sources. -/
theorem RunsTold.runs_iff {catalog : CatalogState δ π} (told : RunsTold catalog log)
    {logicalDate : δ} {status : CollectionStatus}
    : status ∈ (catalog.runs.filter (·.logicalDate = logicalDate)).map CollectionRun.status
      ↔ ∃ source, lastCommitted log logicalDate source = some status := by
  simp only [← told.statuses, mem_map, mem_filter, decide_eq_true_eq,
    Option.map_eq_some_iff, told.unique.find_iff]
  constructor
  · rintro ⟨run, ⟨mem, dated⟩, same⟩
    obtain ⟨source, named⟩ := told.sources run mem
    exact ⟨source, run, ⟨mem, Prod.ext dated named⟩, same⟩
  · rintro ⟨source, run, ⟨mem, key⟩, same⟩
    exact ⟨run, ⟨mem, congrArg Prod.fst key⟩, same⟩

theorem RunsTold.execution (told : RunsTold state.catalog log) (digest : List π → String)
    (execution : DagExecution δ π)
    : RunsTold ((dailyMachine digest).step state execution).1.catalog
        (log ++ (execution.report digest state).attempts) := by
  have extracted := told.extracts digest execution.logicalDate execution.extracts
  have kept : ((dailyMachine digest).step state execution).1.catalog
      = (execution.extracted digest state).catalog := by
    simp only [dailyMachine, resolveTask]
    split <;> exact (load_run _ _ _).1
  rw [kept]
  exact extracted

def attemptsOf (reports : List (DagReport δ)) : List (AttemptEnd δ) :=
  reports.flatMap DagReport.attempts

theorem runsTold_run (digest : List π → String) (history : List (DagExecution δ π))
    : RunsTold ((dailyMachine digest).run {} history).catalog
        (attemptsOf ((dailyMachine digest).trace {} history)) := by
  have keeps : ∀ (state : DailyState δ π) (past : List (DagReport δ)) execution,
      RunsTold state.catalog (attemptsOf past) → True
      → RunsTold ((dailyMachine digest).step state execution).1.catalog
          (attemptsOf (past ++ ((dailyMachine digest).step state execution).2)) := by
    intro state past execution told _
    have next := told.execution digest execution
    simpa [dailyMachine, attemptsOf] using next
  have start : RunsTold ({} : DailyState δ π).catalog (attemptsOf []) :=
    ⟨nodup_nil, fun _ _ => rfl, fun _ mem => absurd mem not_mem_nil⟩
  exact Machine.run_trace_invariant keeps start (Machine.admits_true _ history)

/-- An execution is recorded as successful exactly if its load commits and all statuses that were
committed last for its date are healthy.
Witness: a load that commits has found a healthy run, so the date has runs.
-/
theorem RunsTold.success_iff (told : RunsTold state.catalog log) (execution : DagExecution δ π)
    : ((dailyMachine digest).step state execution).1.status execution.logicalDate = some .success
      ↔ (execution.report digest state).loaded = true
        ∧ ∀ source status,
            lastCommitted (log ++ (execution.report digest state).attempts)
              execution.logicalDate source = some status
            → status.healthy = true := by
  obtain ⟨same, opened⟩ := load_run (execution.extracted digest state)
    execution.logicalDate execution.loads
  have committed : (execution.report digest state).loaded = true
      → ((loadMachine execution.logicalDate).trace (execution.extracted digest state)
          execution.loads).getLast? = some true := by
    intro loaded
    cases last : ((loadMachine execution.logicalDate).trace (execution.extracted digest state)
        execution.loads).getLast? with
    | none => simp [DagExecution.report, last] at loaded
    | some value =>
      simp only [DagExecution.report, last, Option.getD_some] at loaded
      rw [loaded]
  have stored := resolveTask_status execution.logicalDate (execution.report digest state).loaded
    execution.resolvedAt (fun loaded => (opened (committed loaded)).1)
  have extracted := told.extracts digest execution.logicalDate execution.extracts
  rw [same] at stored
  change ((dailyMachine digest).step state execution).1.status execution.logicalDate = _ at stored
  rw [stored, Option.some_inj, resolveStatus_success]
  have runs := @RunsTold.runs_iff _ _ _ _ _ extracted execution.logicalDate
  refine and_congr_right fun loaded => ?_
  constructor
  · rintro ⟨_, healthy⟩ source found last
    exact healthy found (runs.mpr ⟨source, last⟩)
  · intro healthy
    refine ⟨?_, fun found mem => ?_⟩
    · obtain ⟨outcomes, all, some_⟩ := (opened (committed loaded)).2
      obtain ⟨outcome, mem, _⟩ := any_eq_true.mp some_
      obtain ⟨run, inside, _⟩ := forall₂_mem_right (mapM_some.mp all) mem
      obtain ⟨among, dated⟩ := mem_runsOf.mp inside
      refine ne_nil_of_mem (mem_map_of_mem (a := run) ?_)
      exact mem_filter.mpr ⟨among, decide_eq_true dated⟩
    · obtain ⟨source, last⟩ := runs.mp mem
      exact healthy source found last

/-- A run that is recorded as successful has really read all sources, along every history of the
DAG, exactly if no source has been skipped: the statuses of a skipped source are those of earlier
executions, or missing.
-/
theorem success_means_read_iff (digest : List π → String) (history : List (DagExecution δ π))
    (execution : DagExecution δ π)
    : (((dailyMachine digest).run {} (history ++ [execution])).status execution.logicalDate
          = some .success
        → (execution.report digest ((dailyMachine digest).run {} history)).ReallyRead)
      ↔ NothingSkipped (attemptsOf ((dailyMachine digest).trace {} (history ++ [execution])))
          execution.logicalDate
          (execution.report digest ((dailyMachine digest).run {} history)) := by
  have told := runsTold_run digest history
  have log : attemptsOf ((dailyMachine digest).trace {} (history ++ [execution]))
      = attemptsOf ((dailyMachine digest).trace {} history)
        ++ (execution.report digest ((dailyMachine digest).run {} history)).attempts := by
    rw [Machine.trace_append, attemptsOf]
    simp [dailyMachine, attemptsOf]
  rw [Machine.run_concat, told.success_iff, log]
  constructor
  · intro read loaded healthy source
    obtain ⟨status, ends, _⟩ := (read ⟨loaded, healthy⟩).healthy source
    exact ⟨status, ends⟩
  · rintro nothing ⟨loaded, healthy⟩
    refine ⟨fun source => ?_, loaded⟩
    obtain ⟨status, ends⟩ := nothing loaded healthy source
    exact ⟨status, ends,
      healthy source status (lastCommitted_of_ends (report_dated execution) ends)⟩

end Status

def unreadLogs : DagExecution Nat Nat where
  logicalDate := 0
  extracts :=
    [{ source := .kubernetes, today := 0, fetched := [1], time := 1 },
      { source := .prometheus, today := 0, fetched := [2], time := 1 },
      { source := .loki, today := 0, time := 1, raisesAfter := some 0 },
      { source := .tempo, today := 0, fetched := [3], time := 1 },
      { source := .loki, today := 0, time := 2, raisesAfter := some 0 },
      { source := .loki, today := 0, time := 3, raisesAfter := some 0 }]
  loads := [{ time := 4 }]
  resolvedAt := 5

/-- The run is recorded as successful though one source was never read. -/
theorem unread_source_recorded_success
    : ((dailyMachine fun _ => "").run {} [unreadLogs]).status 0 = some .success
      ∧ ¬ (unreadLogs.report (fun _ => "") {}).ReallyRead := by
  refine ⟨by decide +kernel, fun read => ?_⟩
  obtain ⟨status, ends, _⟩ := read.healthy .loki
  have final : (unreadLogs.report (fun _ => "") {}).final .loki = some none := by decide +kernel
  cases ends

end K8sClue.Catalog
