import K8sClue.Catalog.QualityChecks

/-! Repeated executions of the quality checks.
Rows are only ever written over, under the key of run, check, asset and subject. So an execution
leaves of its DAG run what it would leave in an empty table exactly if it writes all keys again
that earlier executions of the DAG run have written.
-/

namespace K8sClue.Catalog

open Library List Keyed

def QualityResult.content (result : QualityResult) : QualityResult :=
  { result with firstSeenDagRunId := "", checkedAt := 0 }

def CheckExecution.keysOf (execution : CheckExecution) (check : Check) : List ResultKey :=
  if (execution.rows check).isEmpty then
    [⟨execution.dagRunId, check, "-", "-"⟩]
  else
    (execution.rows check).map fun row =>
      ⟨execution.dagRunId, check, (row.asset.map Cell.text).getD "-", row.subjectKey⟩

def CheckExecution.keys (execution : CheckExecution) : List ResultKey :=
  Check.all.flatMap execution.keysOf

/-- The second execution is of another DAG run, or writes all keys of the first one again. -/
def CheckExecution.CoveredBy (earlier later : CheckExecution) : Prop :=
  earlier.dagRunId = later.dagRunId → earlier.keys ⊆ later.keys

theorem content_key (result : QualityResult) : result.content.key = result.key := rfl

section Executions

variable (uuid5 : String → String)

/-- If an execution commits, it would also commit alone, and the rows of its DAG run are those it
would have written alone.
-/
def Replaced (stored : List QualityResult) (execution : CheckExecution) : Prop :=
  ∀ next, runChecks uuid5 stored execution = some next →
    ∃ fresh, runChecks uuid5 [] execution = some fresh
      ∧ Agree QualityResult.content (next.filter (·.dagRunId = execution.dagRunId)) fresh

def QualityResult.Proper (result : QualityResult) : Prop :=
  result.resultId = result.key.resultId uuid5 ∧ result.checkType = result.check.type

def CheckExecution.contents (execution : CheckExecution) : List QualityResult :=
  Check.all.flatMap fun check => (execution.results uuid5 [] check).map QualityResult.content

variable {uuid5} {execution : CheckExecution} {stored : List QualityResult}

theorem updated_key (known new : QualityResult) (same : known.key = new.key)
    : (known.updated new).key = new.key := same

theorem updated_shows (known new : QualityResult) (old : known.Proper uuid5)
    (fresh : new.Proper uuid5) (same : known.key = new.key)
    : (known.updated new).Proper uuid5 ∧ (known.updated new).content = new.content := by
  refine ⟨old, ?_⟩
  obtain ⟨oldId, oldType⟩ := old
  obtain ⟨newId, newType⟩ := fresh
  have checks : known.check = new.check := congrArg ResultKey.check same
  have ids : known.resultId = new.resultId := by rw [oldId, newId, same]
  have types : known.checkType = new.checkType := by rw [oldType, newType, checks]
  have runs : known.dagRunId = new.dagRunId := congrArg ResultKey.dagRunId same
  have assets : known.assetId = new.assetId := congrArg ResultKey.assetId same
  have subjects : known.subjectKey = new.subjectKey := congrArg ResultKey.subjectKey same
  simp only [QualityResult.updated, QualityResult.content, checks, ids, types, runs, assets,
    subjects]

variable (check : Check)

theorem results_content
    : (execution.results uuid5 stored check).map QualityResult.content
      = (execution.results uuid5 [] check).map QualityResult.content := by
  unfold CheckExecution.results
  dsimp only
  split
  · rfl
  · simp only [map_map]
    rfl

theorem results_keys
    : (execution.results uuid5 stored check).map QualityResult.key = execution.keysOf check := by
  unfold CheckExecution.results CheckExecution.keysOf
  dsimp only
  split
  · rfl
  · rw [map_map]
    rfl

theorem results_proper : ∀ result ∈ execution.results uuid5 stored check, result.Proper uuid5 := by
  intro result mem
  unfold CheckExecution.results at mem
  dsimp only at mem
  split at mem
  · rw [mem_singleton.mp mem]
    exact ⟨rfl, rfl⟩
  · obtain ⟨row, _, rfl⟩ := mem_map.mp mem
    exact ⟨rfl, rfl⟩

/-- The checks write one batch of rows; only the runs first seen in depend on the table.
Witness: induction over the checks; each of them continues with the table of those before it.
-/
theorem runChecks_eq_writeAll (uuid5 : String → String) (stored : List QualityResult)
    (execution : CheckExecution)
    : ∃ news, runChecks uuid5 stored execution
        = Keyed.writeAll QualityResult.key QualityResult.resultId QualityResult.updated stored news
      ∧ news.map QualityResult.content = execution.contents uuid5 := by
  unfold runChecks CheckExecution.contents
  induction Check.all generalizing stored with
  | nil => exact ⟨[], rfl, rfl⟩
  | cons check rest ih =>
    have first : execution.runCheck uuid5 stored check
        = Keyed.writeAll QualityResult.key QualityResult.resultId QualityResult.updated stored
            (execution.results uuid5 stored check) := rfl
    rw [foldlM_cons, flatMap_cons]
    cases written : execution.runCheck uuid5 stored check with
    | none =>
      obtain ⟨later, _, contents⟩ := ih stored
      refine ⟨execution.results uuid5 stored check ++ later, ?_, ?_⟩
      · rw [writeAll_append, ← first, written]
        rfl
      · rw [map_append, contents, results_content]
    | some middle =>
      obtain ⟨later, writes, contents⟩ := ih middle
      refine ⟨execution.results uuid5 stored check ++ later, ?_, ?_⟩
      · rw [writeAll_append, ← first, written]
        exact writes
      · rw [map_append, contents, results_content]

theorem contents_keys : (execution.contents uuid5).map QualityResult.key = execution.keys := by
  rw [CheckExecution.contents, map_flatMap]
  refine flatMap_congr fun check _ => ?_
  rw [← @results_keys uuid5 execution [] check, map_map]
  rfl

theorem contents_proper : ∀ result ∈ execution.contents uuid5, result.Proper uuid5 := by
  intro result mem
  obtain ⟨check, _, inside⟩ := mem_flatMap.mp mem
  obtain ⟨written, among, rfl⟩ := mem_map.mp inside
  exact results_proper check written among

/-- All keys of an execution are of its DAG run. -/
theorem dagRunId_of_mem_keys {key : ResultKey} (mem : key ∈ execution.keys)
    : key.dagRunId = execution.dagRunId := by
  obtain ⟨check, _, inside⟩ := mem_flatMap.mp mem
  unfold CheckExecution.keysOf at inside
  split at inside
  · rw [mem_singleton.mp inside]
  · obtain ⟨row, _, rfl⟩ := mem_map.mp inside
    rfl

structure Sound (uuid5 : String → String) (stored : List QualityResult) : Prop where
  unique : Unique QualityResult.key stored
  proper : ∀ result ∈ stored, result.Proper uuid5
  apart : Apart QualityResult.key (ResultKey.resultId uuid5) stored

theorem Sound.nil : Sound uuid5 [] where
  unique := nodup_nil
  proper _ mem := absurd mem not_mem_nil
  apart _ mem := absurd mem not_mem_nil

section Batch

variable {news : List QualityResult}
  (contents : news.map QualityResult.content = execution.contents uuid5)
include contents

theorem batch_keys : news.map QualityResult.key = execution.keys := by
  rw [← @contents_keys uuid5 execution, ← contents, map_map]
  rfl

theorem batch_proper : ∀ result ∈ news, result.Proper uuid5 := by
  intro result mem
  have inside : result.content ∈ execution.contents uuid5 :=
    contents ▸ mem_map_of_mem mem
  exact contents_proper result.content inside

theorem batch_shown (wanted : ResultKey)
    : (Keyed.find QualityResult.key news.reverse wanted).map QualityResult.content
      = Keyed.find QualityResult.key (execution.contents uuid5).reverse wanted := by
  rw [← contents, ← map_reverse, find_map content_key]

/-- The batch succeeds exactly if the result ids of all keys differ. -/
theorem batch_isSome_iff (sound : Sound uuid5 stored)
    : (Keyed.writeAll QualityResult.key QualityResult.resultId QualityResult.updated stored
          news).isSome
      ↔ Apart QualityResult.key (ResultKey.resultId uuid5) (news ++ stored) :=
  writeAll_isSome_iff updated_key (fun _ _ _ => rfl)
    (fun result mem => (sound.proper result mem).1) sound.apart
    (fun result mem => (batch_proper contents result mem).1)

end Batch

variable {next : List QualityResult} {past : List CheckExecution}

variable (sound : Sound uuid5 stored) (done : runChecks uuid5 stored execution = some next)
include sound done

/-- What is stored under a key after an execution: what the execution wrote last, or what was
there before.
-/
theorem find_runChecks (wanted : ResultKey)
    : (Keyed.find QualityResult.key next wanted).map QualityResult.content
      = (Keyed.find QualityResult.key (execution.contents uuid5).reverse wanted).or
          ((Keyed.find QualityResult.key stored wanted).map QualityResult.content) := by
  obtain ⟨news, writes, contents⟩ := runChecks_eq_writeAll uuid5 stored execution
  rw [writes] at done
  rw [← putAll_of_writeAll done,
    view_putAll updated_key updated_shows sound.proper (batch_proper contents),
    batch_shown contents]

/-- An execution that commits keeps the table sound, adds its keys, and would commit alone. -/
theorem runChecks_commits
    : Sound uuid5 next
      ∧ (∀ key, key ∈ next.map QualityResult.key
          ↔ key ∈ stored.map QualityResult.key ∨ key ∈ execution.keys)
      ∧ (runChecks uuid5 [] execution).isSome := by
  obtain ⟨news, writes, contents⟩ := runChecks_eq_writeAll uuid5 stored execution
  obtain ⟨alone, writesAlone, contentsAlone⟩ := runChecks_eq_writeAll uuid5 [] execution
  rw [writes] at done
  have all := (batch_isSome_iff contents sound).mp (Option.isSome_iff_exists.mpr ⟨next, done⟩)
  have put_eq := putAll_of_writeAll done
  have keys : ∀ key, key ∈ next.map QualityResult.key
      ↔ key ∈ stored.map QualityResult.key ∨ key ∈ execution.keys := by
    intro key
    rw [← put_eq, mem_keys_putAll updated_key, batch_keys contents]
  refine ⟨⟨?_, ?_, ?_⟩, keys, ?_⟩
  · rw [← put_eq]
    exact sound.unique.putAll updated_key
  · rw [← put_eq]
    exact proper_putAll updated_shows sound.proper (batch_proper contents)
  · refine all.subset fun key mem => ?_
    rw [map_append, mem_append, batch_keys contents]
    exact ((keys key).mp mem).symm
  · rw [writesAlone, batch_isSome_iff contentsAlone Sound.nil]
    refine all.subset fun key mem => ?_
    rw [append_nil, batch_keys contentsAlone, ← batch_keys contents] at mem
    rw [map_append]
    exact mem_append_left _ mem

/-- The rows of the DAG run are replaced exactly if no key of them is left out.
Witness: under each key of the DAG run both tables show what the execution wrote last; only where
it wrote nothing can an older row show.
-/
theorem replaced_iff
    : Replaced uuid5 stored execution
      ↔ ∀ key ∈ stored.map QualityResult.key, key.dagRunId = execution.dagRunId
        → key ∈ execution.keys := by
  obtain ⟨soundNext, _, commits⟩ := runChecks_commits sound done
  obtain ⟨fresh, alone⟩ := Option.isSome_iff_exists.mp commits
  have soundFresh := (runChecks_commits Sound.nil alone).1
  have agree : Replaced uuid5 stored execution
      ↔ Agree QualityResult.content
          (next.filter (·.dagRunId = execution.dagRunId)) fresh := by
    constructor
    · intro replaced
      obtain ⟨other, same, result⟩ := replaced next done
      rw [alone] at same
      rwa [Option.some.inj same]
    · intro result other same
      rw [done] at same
      exact ⟨fresh, alone, Option.some.inj same ▸ result⟩
  rw [agree, agree_iff content_key (soundNext.unique.filter _) soundFresh.unique]
  have written : ∀ key, (Keyed.find QualityResult.key (execution.contents uuid5).reverse key).isSome
      ↔ key ∈ execution.keys := by
    intro key
    rw [find_isSome, ← @contents_keys uuid5 execution, mem_map]
    simp only [mem_reverse]
  have kept : ∀ key : ResultKey, key.dagRunId = execution.dagRunId →
      Keyed.find QualityResult.key (next.filter (·.dagRunId = execution.dagRunId)) key
        = Keyed.find QualityResult.key next key := by
    intro key own
    rw [soundNext.unique.find_filter]
    cases found : Keyed.find QualityResult.key next key with
    | none => rfl
    | some result =>
      have here : result.dagRunId = execution.dagRunId := by
        rw [← own, ← (mem_of_find found).2]
        rfl
      simp [here]
  constructor
  · intro same key mem own
    by_contra left
    have shows := same key
    rw [kept key own, find_runChecks sound done, find_runChecks Sound.nil alone,
      Option.not_isSome_iff_eq_none.mp (mt (written key).mp left)] at shows
    obtain ⟨result, inside, rfl⟩ := mem_map.mp mem
    rw [sound.unique.find_eq inside] at shows
    cases shows
  · intro covers key
    by_cases own : key.dagRunId = execution.dagRunId
    · rw [kept key own, find_runChecks sound done, find_runChecks Sound.nil alone]
      cases shown : Keyed.find QualityResult.key (execution.contents uuid5).reverse key with
      | some result => rfl
      | none =>
        have absent : Keyed.find QualityResult.key stored key = none := by
          rw [find_eq_none]
          intro result mem same
          have again := (written key).mpr (covers key (same ▸ mem_map_of_mem mem) own)
          rw [shown] at again
          cases again
        rw [absent]
        rfl
    · have outside : Keyed.find QualityResult.key
          (next.filter (·.dagRunId = execution.dagRunId)) key = none := by
        rw [find_eq_none]
        intro result mem same
        refine own ?_
        rw [← same]
        exact of_decide_eq_true (mem_filter.mp mem).2
      have unwritten : Keyed.find QualityResult.key (execution.contents uuid5).reverse key
          = none := by
        rw [← Option.not_isSome_iff_eq_none, written]
        exact fun mem => own (dagRunId_of_mem_keys mem)
      rw [outside, find_runChecks Sound.nil alone, unwritten]
      rfl

omit sound done

structure ChecksHold (uuid5 : String → String) (stored : List QualityResult)
    (past : List CheckExecution) : Prop where
  sound : Sound uuid5 stored
  keys : ∀ key, key ∈ stored.map QualityResult.key ↔ ∃ earlier ∈ past, key ∈ earlier.keys

theorem ChecksHold.step (holds : ChecksHold uuid5 stored past) (execution : CheckExecution)
    : ChecksHold uuid5 ((checksMachine uuid5).step stored execution).1
        (past ++ ((checksMachine uuid5).step stored execution).2) := by
  rw [checksMachine]
  dsimp only
  cases done : runChecks uuid5 stored execution with
  | none => simpa using holds
  | some next =>
    obtain ⟨sound, added, _⟩ := runChecks_commits holds.sound done
    refine ⟨sound, fun key => ?_⟩
    rw [added, holds.keys]
    simp [or_and_right, exists_or]

theorem ChecksHold.run (executions : List CheckExecution)
    : ChecksHold uuid5 ((checksMachine uuid5).run [] executions)
        ((checksMachine uuid5).trace [] executions) := by
  have start : ChecksHold uuid5 [] [] := ⟨Sound.nil, by simp⟩
  exact Machine.trace_invariant (fun execution holds => holds.step execution) start executions

theorem ChecksHold.replaced_iff (holds : ChecksHold uuid5 stored past)
    : Replaced uuid5 stored execution
      ↔ ∀ earlier ∈ past, ∀ later ∈ ((checksMachine uuid5).step stored execution).2,
          earlier.CoveredBy later := by
  rw [checksMachine]
  dsimp only
  cases done : runChecks uuid5 stored execution with
  | none => simp [Replaced, done]
  | some next =>
    rw [Catalog.replaced_iff holds.sound done]
    simp only [holds.keys, mem_singleton, forall_eq]
    constructor
    · intro covers earlier mem same key inside
      exact covers key ⟨earlier, mem, inside⟩ ((dagRunId_of_mem_keys inside).trans same)
    · rintro covers key ⟨earlier, mem, inside⟩ own
      exact covers earlier mem ((dagRunId_of_mem_keys inside).symm.trans own) inside

/-- Every execution of the checks replaces the rows of its DAG run exactly if no execution leaves
out a key that an earlier one of the same DAG run has written.
Witness: induction from the end of the history; the last execution is compared with all those
that committed before it.
-/
theorem results_replaced_iff (uuid5 : String → String) (executions : List CheckExecution)
    : (checksMachine uuid5).Admits (Replaced uuid5) [] executions
      ↔ ((checksMachine uuid5).trace [] executions).Pairwise CheckExecution.CoveredBy := by
  induction executions using List.reverseRecOn with
  | nil => simp [Machine.Admits]
  | append_singleton earlier last ih =>
    have holds := @ChecksHold.run uuid5 earlier
    have told : (checksMachine uuid5).trace ((checksMachine uuid5).run [] earlier) [last]
        = ((checksMachine uuid5).step ((checksMachine uuid5).run [] earlier) last).2 := by simp
    rw [Machine.admits_append, ih, Machine.trace_append, pairwise_append, told]
    have single : (checksMachine uuid5).Admits (Replaced uuid5)
        ((checksMachine uuid5).run [] earlier) [last]
        ↔ Replaced uuid5 ((checksMachine uuid5).run [] earlier) last := by simp [Machine.Admits]
    have one : ((checksMachine uuid5).step ((checksMachine uuid5).run [] earlier) last).2.Pairwise
        CheckExecution.CoveredBy := by
      rw [checksMachine]
      dsimp only
      split <;> simp
    rw [single, holds.replaced_iff]
    simp only [one, true_and]

def lateAsset : CheckExecution where
  dagRunId := "d"
  checkedAt := 1
  answer
    | .freshness => [[("asset_id", ⟨"a", true⟩), ("finding", ⟨"STALE", true⟩)]]
    | _ => []

def nothingFound : CheckExecution where
  dagRunId := "d"
  checkedAt := 2

/-- After a violation is repaired, the checks of the same run leave the freshness check both failed
and passed, while alone they leave it passed.
-/
theorem repaired_violation_stays
    : (((checksMachine id).run [] [lateAsset, nothingFound]).filter (·.check = .freshness)).map
          QualityResult.status = [.failed, .passed]
      ∧ ((runChecks id [] nothingFound).map fun fresh =>
          (fresh.filter (·.check = .freshness)).map QualityResult.status) = some [.passed]
      ∧ ¬ (checksMachine id).Admits (Replaced id) [] [lateAsset, nothingFound] := by
  refine ⟨by decide +kernel, by decide +kernel, ?_⟩
  rintro ⟨_, replaced, _⟩
  have commits : (runChecks id ((checksMachine id).step [] lateAsset).1 nothingFound).isSome := by
    decide +kernel
  have counted : (runChecks id ((checksMachine id).step [] lateAsset).1 nothingFound).map
      (fun next => (next.filter (·.dagRunId = "d")).length) = some 9 := by decide +kernel
  have countedAlone : (runChecks id [] nothingFound).map List.length = some 8 := by decide +kernel
  obtain ⟨next, done⟩ := Option.isSome_iff_exists.mp commits
  obtain ⟨fresh, alone, same⟩ := replaced next done
  have lengths := same.length_eq
  rw [done] at counted
  rw [alone] at countedAlone
  rw [length_map, length_map, Option.some.inj countedAlone] at lengths
  exact absurd (lengths.symm.trans (Option.some.inj counted)) (by decide)

end Executions

/-- Over any executions, failed ones included, the table holds one result for each key that a
committed execution has written, under a result id of its own.
-/
theorem quality_results_accumulate (uuid5 : String → String) (executions : List CheckExecution)
    : let stored := (checksMachine uuid5).run [] executions
      (stored.map QualityResult.key).Nodup ∧ (stored.map QualityResult.resultId).Nodup
      ∧ ∀ key, key ∈ stored.map QualityResult.key
        ↔ ∃ execution ∈ (checksMachine uuid5).trace [] executions, key ∈ execution.keys := by
  obtain ⟨⟨unique, proper, apart⟩, keys⟩ := @ChecksHold.run uuid5 executions
  refine ⟨unique, ?_, keys⟩
  rw [map_congr_left fun result mem => (proper result mem).1]
  simpa [Function.comp_def] using unique.map_on apart

end K8sClue.Catalog
