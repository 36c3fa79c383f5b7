import K8sClue.Catalog.Archives

/-! Histories of collections.
A file is written by the first collection of its date and source, while a hash is recorded by
each of them. The two agree along every history in which no collection brings other payloads than
those in the file.
-/

namespace K8sClue.Catalog

open Library List Keyed

section Histories

variable {δ π : Type} [LinearOrder δ] {digest : List π → String}

def Archive.payloads (archive : Archive δ π) (path : δ × String) : Option (List π) :=
  (Keyed.find ArchivedFile.path archive.files path).map ArchivedFile.payloads

def Archive.Consistent (digest : List π → String) (archive : Archive δ π) : Prop :=
  ∀ row ∈ archive.snapshots, row.s3Uri = row.runId
    ∧ ∃ payloads, archive.payloads row.s3Uri = some payloads ∧ row.contentHash = digest payloads

/-- The file of an outcome that is archived does not exist yet, or has the same payloads. -/
def ExtractOutcome.Repeats (archive : Archive δ π) (logicalDate : δ) (outcome : ExtractOutcome δ π)
    : Prop :=
  outcome.archivable = true
  → archive.payloads (logicalDate, outcome.sourceId) = none
    ∨ archive.payloads (logicalDate, outcome.sourceId) = some outcome.payloads

instance [DecidableEq π] (archive : Archive δ π) (logicalDate : δ)
    (outcome : ExtractOutcome δ π)
    : Decidable (outcome.Repeats archive logicalDate) :=
  inferInstanceAs (Decidable (_ → _))

variable {logicalDate : δ}

theorem ExtractOutcome.Repeats.eq {archive : Archive δ π}
    {outcome : ExtractOutcome δ π} (repeats : outcome.Repeats archive logicalDate)
    (may : outcome.archivable = true) {payloads : List π}
    (found : archive.payloads (logicalDate, outcome.sourceId) = some payloads)
    : outcome.payloads = payloads := by
  rcases repeats may with absent | same
  · rw [absent] at found
    cases found
  · rw [same] at found
    exact Option.some.inj found

/-- No source of the collection brings other payloads than those in its file. -/
def RepeatsFiles (digest : List π → String) (state : CatalogState δ π) (collection : Collection δ π)
    : Prop :=
  ∀ outcome ∈ collection.outcomes digest state, outcome.Repeats state.archive collection.logicalDate

instance [DecidableEq π] (digest : List π → String) (state : CatalogState δ π)
    (collection : Collection δ π)
    : Decidable (RepeatsFiles digest state collection) :=
  inferInstanceAs (Decidable (∀ outcome ∈ collection.outcomes digest state,
    outcome.Repeats state.archive collection.logicalDate))

section Outcome

variable {logicalDate : δ} {createdAt : Int} {archive : Archive δ π} {outcome : ExtractOutcome δ π}

/-- The files after an outcome: a file that exists is not written again. -/
theorem payloads_archiveOutcome (path : δ × String)
    : (archiveOutcome digest logicalDate createdAt archive outcome).payloads path
      = if outcome.archivable ∧ (logicalDate, outcome.sourceId) = path then
          some ((archive.payloads path).getD outcome.payloads)
        else
          archive.payloads path := by
  unfold archiveOutcome Archive.payloads
  cases outcome.archivable with
  | false => rfl
  | true =>
    rw [if_pos rfl, find_put fun _ _ same => same]
    by_cases here : (outcome.file logicalDate).path = path
    · rw [if_pos here, if_pos ⟨rfl, here⟩]
      cases Keyed.find ArchivedFile.path archive.files path <;> rfl
    · rw [if_neg here, if_neg fun both => here both.2]

theorem snapshots_archiveOutcome {row : RawSnapshot δ}
    (mem : row ∈ (archiveOutcome digest logicalDate createdAt archive outcome).snapshots)
    : row ∈ archive.snapshots
      ∨ outcome.archivable = true ∧ row = outcome.snapshot digest logicalDate createdAt := by
  unfold archiveOutcome at mem
  split at mem
  next may => exact (mem_put_keeping mem).imp_right fun same => ⟨may, same⟩
  · exact .inl mem

/-- A run whose outcome is archived has a row. -/
theorem run_archiveOutcome (may : outcome.archivable = true)
    : ∃ row ∈ (archiveOutcome digest logicalDate createdAt archive outcome).snapshots,
        row.runId = (logicalDate, outcome.sourceId) := by
  have present : (outcome.snapshot digest logicalDate createdAt).key
      ∈ (archiveOutcome digest logicalDate createdAt archive outcome).snapshots.map
        RawSnapshot.key := by
    rw [archiveOutcome, if_pos may, mem_keys_put fun _ _ same => same]
    exact .inr rfl
  obtain ⟨row, mem, same⟩ := mem_map.mp present
  exact ⟨row, mem, congrArg Prod.fst same⟩

theorem kept_archiveOutcome {path : δ × String} {payloads : List π}
    (found : archive.payloads path = some payloads)
    : (archiveOutcome digest logicalDate createdAt archive outcome).payloads path
      = some payloads := by
  rw [payloads_archiveOutcome, found]
  split <;> rfl

theorem written_archiveOutcome (repeats : outcome.Repeats archive logicalDate)
    (may : outcome.archivable = true)
    : (archiveOutcome digest logicalDate createdAt archive outcome).payloads
        (logicalDate, outcome.sourceId)
      = some outcome.payloads := by
  rw [payloads_archiveOutcome, if_pos ⟨may, rfl⟩]
  cases found : archive.payloads (logicalDate, outcome.sourceId) with
  | none => rfl
  | some payloads => rw [repeats.eq may found]; rfl

theorem consistent_archiveOutcome (repeats : outcome.Repeats archive logicalDate)
    (hashed : outcome.hash digest = digest outcome.payloads)
    (consistent : archive.Consistent digest)
    : (archiveOutcome digest logicalDate createdAt archive outcome).Consistent digest := by
  intro row mem
  rcases snapshots_archiveOutcome mem with before | ⟨may, rfl⟩
  · obtain ⟨same, payloads, found, hash⟩ := consistent row before
    exact ⟨same, payloads, kept_archiveOutcome found, hash⟩
  · exact ⟨rfl, outcome.payloads, written_archiveOutcome repeats may, hashed⟩

end Outcome

structure Archived (digest : List π → String) (logicalDate : δ) (archive next : Archive δ π)
    (outcomes : List (ExtractOutcome δ π))
    : Prop where
  consistent : next.Consistent digest
  kept : ∀ path payloads, archive.payloads path = some payloads → next.payloads path = some payloads
  rows : archive.snapshots ⊆ next.snapshots
  written : ∀ outcome ∈ outcomes, outcome.archivable = true
    → next.payloads (logicalDate, outcome.sourceId) = some outcome.payloads
      ∧ ∃ row ∈ next.snapshots, row.runId = (logicalDate, outcome.sourceId)

variable {outcomes : List (ExtractOutcome δ π)}

/-- Witness: induction over the outcomes; one that comes after another outcome of its source is
that outcome again.
-/
theorem archiveRawSnapshot_archived {createdAt : Int} {archive : Archive δ π}
    (consistent : archive.Consistent digest)
    (repeats : ∀ outcome ∈ outcomes, outcome.Repeats archive logicalDate)
    (hashed : ∀ outcome ∈ outcomes, outcome.hash digest = digest outcome.payloads)
    (same : ∀ first ∈ outcomes, ∀ second ∈ outcomes, first.sourceId = second.sourceId
      → first = second)
    : Archived digest logicalDate archive
        (archiveRawSnapshot digest logicalDate createdAt archive outcomes) outcomes := by
  induction outcomes generalizing archive with
  | nil => exact ⟨consistent, fun _ _ found => found, Subset.refl _, nofun⟩
  | cons first rest ih =>
    have head := mem_cons_self (a := first) (l := rest)
    have tail {outcome : ExtractOutcome δ π} (mem : outcome ∈ rest)
        : outcome ∈ first :: rest := mem_cons_of_mem _ mem
    have agreed : ∀ outcome ∈ rest, outcome.Repeats
        (archiveOutcome digest logicalDate createdAt archive first) logicalDate := by
      intro outcome mem may
      by_cases again : first.sourceId = outcome.sourceId
      · obtain rfl := same first head outcome (tail mem) again
        exact .inr (written_archiveOutcome (repeats first head) may)
      · rw [payloads_archiveOutcome, if_neg]
        · exact repeats outcome (tail mem) may
        · intro both
          exact again (congrArg Prod.snd both.2)
    have later := ih
      (consistent_archiveOutcome (repeats first head) (hashed first head) consistent) agreed
      (fun outcome mem => hashed outcome (tail mem))
      (fun one left two right => same one (tail left) two (tail right))
    refine ⟨later.consistent, ?_, ?_, ?_⟩
    · intro path payloads found
      exact later.kept path payloads (kept_archiveOutcome found)
    · refine Subset.trans ?_ later.rows
      unfold archiveOutcome
      split
      · exact subset_put_keeping
      · exact Subset.refl _
    · intro outcome mem may
      rcases mem_cons.mp mem with rfl | after
      · obtain ⟨row, inside, run⟩ := run_archiveOutcome may
        exact ⟨later.kept _ _ (written_archiveOutcome (repeats outcome head) may), row,
          later.rows inside, run⟩
      · exact later.written outcome after may

section Extracts

variable {files : List (ArchivedFile δ π)} {sourceId : String} {logicalDate today : δ}
  {fetched : List π} {failSources : List String}

theorem extractSource_sourceId
    : (extractSource digest files sourceId logicalDate today fetched failSources).sourceId
      = sourceId := by
  unfold extractSource
  dsimp only
  split
  · rfl
  · split <;> rfl

/-- An outcome has the hash of its payloads, or none yet. -/
theorem extractSource_hash
    : (extractSource digest files sourceId logicalDate today fetched failSources).hash digest
      = digest (extractSource digest files sourceId logicalDate today fetched
          failSources).payloads := by
  unfold extractSource ExtractOutcome.hash
  dsimp only
  split
  · rfl
  · split
    next file _ =>
      by_cases blank : digest file.payloads = "" <;> simp [Option.filter, blank]
    · rfl

/-- A successful extract has payloads, so it is archived. -/
theorem extractSource_success
    (success : (extractSource digest files sourceId logicalDate today fetched failSources).status
      = .success)
    : (extractSource digest files sourceId logicalDate today fetched failSources).archivable
      = true := by
  unfold extractSource ExtractOutcome.archivable ExtractOutcome.ok at *
  dsimp only at *
  split at success
  · cases success
  · split at success
    next file _ => cases empty : file.payloads.isEmpty <;> simp_all [CollectionStatus.healthy]
    · cases empty : fetched.isEmpty <;> simp_all [CollectionStatus.healthy]

end Extracts

variable {state : CatalogState δ π} {collection : Collection δ π}

structure Kept (digest : List π → String) (state : CatalogState δ π) : Prop where
  consistent : state.archive.Consistent digest
  unique : Unique CollectionRun.runId state.runs
  extracts : ∀ extract ∈ state.extracts,
      state.archive.payloads extract.1 = some extract.2
      ∧ (∃ row ∈ state.archive.snapshots, row.runId = extract.1)
      ∧ extract.1 ∈ state.runs.map CollectionRun.runId

theorem Collection.archived (collection : Collection δ π)
    (repeats : RepeatsFiles digest state collection) (kept : Kept digest state)
    (part : outcomes ⊆ collection.outcomes digest state)
    : Archived digest collection.logicalDate state.archive
        (archiveRawSnapshot digest collection.logicalDate collection.time state.archive outcomes)
        outcomes := by
  refine archiveRawSnapshot_archived kept.consistent
    (fun outcome mem => repeats outcome (part mem)) ?_ ?_
  · intro outcome mem
    obtain ⟨sourceId, -, rfl⟩ := mem_map.mp (part mem)
    exact extractSource_hash
  · intro first left second right same
    obtain ⟨one, -, rfl⟩ := mem_map.mp (part left)
    obtain ⟨two, -, rfl⟩ := mem_map.mp (part right)
    rw [extractSource_sourceId, extractSource_sourceId] at same
    rw [same]

omit [LinearOrder δ] in
theorem keeps_runId (old new : CollectionRun δ) (same : old.runId = new.runId)
    : CollectionRun.runId
        { old with status := new.status, attempt := old.attempt + 1, finishedAt := new.finishedAt }
      = new.runId := same

theorem kept_step (kept : Kept digest state) (repeats : RepeatsFiles digest state collection)
    : Kept digest (collect digest state collection) := by
  unfold collect
  cases collection.failsAfter with
  | some count =>
    have archived := collection.archived repeats kept (take_subset count _)
    refine ⟨?_, kept.unique, ?_⟩
    · intro row mem
      obtain ⟨same, payloads, found, hash⟩ := kept.consistent row mem
      exact ⟨same, payloads, archived.kept _ _ found, hash⟩
    · intro extract mem
      obtain ⟨found, row, run⟩ := kept.extracts extract mem
      exact ⟨archived.kept _ _ found, row, run⟩
  | none =>
    have archived := collection.archived repeats kept (Subset.refl _)
    refine ⟨archived.consistent, kept.unique.putAll keeps_runId, ?_⟩
    intro extract mem
    dsimp only at mem ⊢
    rw [upsertCollectionRuns, mem_keys_putAll keeps_runId]
    rcases mem_append.mp mem with before | now
    · obtain ⟨found, ⟨row, inside, run⟩, known⟩ := kept.extracts extract before
      exact ⟨archived.kept _ _ found, ⟨row, archived.rows inside, run⟩, .inl known⟩
    · obtain ⟨outcome, successful, rfl⟩ := mem_map.mp now
      obtain ⟨inside, success⟩ := mem_filter.mp successful
      have may : outcome.archivable = true := by
        obtain ⟨sourceId, -, rfl⟩ := mem_map.mp inside
        exact extractSource_success (of_decide_eq_true success)
      obtain ⟨written, row⟩ := archived.written outcome inside may
      refine ⟨written, row, .inr ?_⟩
      rw [map_map]
      exact mem_map.mpr ⟨outcome, inside, rfl⟩

variable {rows : List (RawSnapshot δ)}

omit [LinearOrder δ] in
theorem newest_mem {row : RawSnapshot δ} (found : newest rows = some row) : row ∈ rows := by
  induction rows generalizing row with
  | nil => cases found
  | cons first rest ih =>
    rw [newest] at found
    cases later : newest rest with
    | none =>
      rw [later] at found
      rw [← Option.some.inj found]
      exact mem_cons_self
    | some other =>
      simp only [later] at found
      split at found
      · rw [← Option.some.inj found]
        exact mem_cons_of_mem _ (ih later)
      · rw [← Option.some.inj found]
        exact mem_cons_self

omit [LinearOrder δ] in
theorem newest_none (none_ : newest rows = none) : rows = [] := by
  cases rows with
  | nil => rfl
  | cons first rest =>
    rw [newest] at none_
    cases later : newest rest with
    | none => rw [later] at none_; cases none_
    | some other =>
      simp only [later] at none_
      split at none_ <;> cases none_

structure Loaded (digest : List π → String) (state : CatalogState δ π) (logicalDate : δ)
    (outcome : ExtractOutcome δ π)
    : Prop where
  hashed : ∀ hash, outcome.contentHash = some hash → digest outcome.payloads = hash
  latest : ∀ payloads, state.latestExtract (logicalDate, outcome.sourceId) = some payloads
    → outcome.payloads = payloads ∧ outcome.contentHash = some (digest payloads)

/-- The latest extract is one of the recorded ones. -/
theorem Kept.latest (kept : Kept digest state) {runId : δ × String} {payloads : List π}
    (found : state.latestExtract runId = some payloads)
    : state.archive.payloads runId = some payloads
      ∧ (∃ row ∈ state.archive.snapshots, row.runId = runId)
      ∧ runId ∈ state.runs.map CollectionRun.runId := by
  obtain ⟨extract, last, rfl⟩ := Option.map_eq_some_iff.mp found
  obtain ⟨mem, same⟩ := mem_filter.mp (mem_of_getLast? last)
  have known : extract.1 = runId := of_decide_eq_true same
  rw [← known]
  exact kept.extracts extract mem

theorem mem_runsOf {run : CollectionRun δ}
    : run ∈ state.runsOf logicalDate ↔ run ∈ state.runs ∧ run.logicalDate = logicalDate := by
  rw [CatalogState.runsOf, (perm_insertionSort _ _).mem_iff, mem_filter,
    decide_eq_true_iff]

/-- The sources of a date's runs are different. -/
theorem Kept.sources_nodup (kept : Kept digest state) (logicalDate : δ)
    : ((state.runsOf logicalDate).map CollectionRun.sourceId).Nodup := by
  refine Nodup.map_on ?_ ?_
  · intro first left second right same
    obtain ⟨one, date⟩ := mem_runsOf.mp left
    obtain ⟨two, other⟩ := mem_runsOf.mp right
    exact kept.unique.eq_of_key one two (Prod.ext (date.trans other.symm) same)
  · refine (perm_insertionSort _ _).nodup_iff.mpr ?_
    exact (Nodup.of_map _ kept.unique).filter _

/-- Witness: all rows of a run name its one file, which has the payloads of every successful
extract of the run.
-/
theorem Kept.loadRun (kept : Kept digest state) (run : CollectionRun δ)
    : ∃ outcome, loadRun state run = some outcome ∧ outcome.sourceId = run.sourceId
        ∧ Loaded digest state run.logicalDate outcome := by
  unfold Catalog.loadRun
  cases chosen : newest (state.archive.snapshots.filter (·.runId = run.runId)) with
  | none =>
    refine ⟨_, rfl, rfl, nofun, ?_⟩
    intro payloads found
    obtain ⟨-, ⟨row, inside, same⟩, -⟩ := kept.latest found
    have listed : row ∈ state.archive.snapshots.filter (·.runId = run.runId) :=
      mem_filter.mpr ⟨inside, decide_eq_true same⟩
    rw [newest_none chosen] at listed
    cases listed
  | some row =>
    obtain ⟨inside, same⟩ := mem_filter.mp (newest_mem chosen)
    have runId : row.runId = run.runId := of_decide_eq_true same
    obtain ⟨uri, payloads, stored, hash⟩ := kept.consistent row inside
    obtain ⟨file, found, rfl⟩ := Option.map_eq_some_iff.mp stored
    refine ⟨{
      sourceId := run.sourceId
      status := run.status
      payloads := file.payloads
      s3Uri := some row.s3Uri
      contentHash := some row.contentHash }, by simp only [found, Option.map_some], rfl, ?_, ?_⟩
    · intro returned equal
      rw [← Option.some.inj equal]
      exact hash.symm
    · intro payloads latest
      have archived := (kept.latest latest).1
      have here : some file.payloads = some payloads := by
        rw [← stored, uri, runId]
        exact archived
      cases here
      exact ⟨rfl, congrArg some hash⟩

/-- Every row has the hash of its file, and the outcomes of a date are loaded with the payloads of
the most recent successful extract of each source, under their hash.
-/
structure SelfConsistent (digest : List π → String) (state : CatalogState δ π) : Prop where
  rows : ∀ row ∈ state.archive.snapshots, ∃ payloads,
      state.archive.payloads row.s3Uri = some payloads ∧ row.contentHash = digest payloads
  loads : ∀ logicalDate, ∃ outcomes, loadArchivedOutcomes state logicalDate = some outcomes
      ∧ (outcomes.map ExtractOutcome.sourceId).Nodup
      ∧ (∀ outcome ∈ outcomes, Loaded digest state logicalDate outcome)
      ∧ ∀ sourceId payloads, state.latestExtract (logicalDate, sourceId) = some payloads
        → ∃ outcome ∈ outcomes, outcome.sourceId = sourceId

theorem Kept.selfConsistent (kept : Kept digest state) : SelfConsistent digest state := by
  refine ⟨fun row mem => (kept.consistent row mem).2, ?_⟩
  intro logicalDate
  obtain ⟨outcomes, loaded⟩ : ∃ outcomes, loadArchivedOutcomes state logicalDate = some outcomes :=
    mapM_total fun run _ => (kept.loadRun run).imp fun _ => And.left
  have each := mapM_some.mp loaded
  have sources : outcomes.map ExtractOutcome.sourceId
      = (state.runsOf logicalDate).map CollectionRun.sourceId := by
    refine forall₂_map_eq each ?_
    intro run outcome found
    obtain ⟨other, same, source, -⟩ := kept.loadRun run
    rw [found] at same
    rw [Option.some.inj same]
    exact source
  refine ⟨outcomes, loaded, sources ▸ kept.sources_nodup logicalDate, ?_, ?_⟩
  · intro outcome mem
    obtain ⟨run, inside, found⟩ := forall₂_mem_right each mem
    obtain ⟨other, same, -, good⟩ := kept.loadRun run
    rw [found] at same
    rw [Option.some.inj same, ← (mem_runsOf.mp inside).2]
    exact good
  · intro sourceId payloads latest
    obtain ⟨run, known, same⟩ := mem_map.mp (kept.latest latest).2.2
    obtain ⟨date, source⟩ := Prod.mk.inj same
    have listed : sourceId ∈ outcomes.map ExtractOutcome.sourceId := by
      rw [sources]
      exact mem_map.mpr ⟨run, mem_runsOf.mpr ⟨known, date⟩, source⟩
    exact mem_map.mp listed

end Histories

def plainDigest : List Nat → String
  | [] => ""
  | payload :: _ => if payload = 0 then "z" else "o"

def plainCollection (today : Nat) (fetched : List Nat) : Collection Nat Nat where
  logicalDate := 0
  today := today
  sources := ["s"]
  fetched _ := fetched
  time := 0

/-- The source answers differently when the date is collected again on that date: the second row
has the hash of payloads that no file has, and the file of the first answer is loaded under it.
-/
def changedAnswer : List (Collection Nat Nat) :=
  [plainCollection 0 [0], { plainCollection 0 [1] with time := 1 }]

end K8sClue.Catalog
