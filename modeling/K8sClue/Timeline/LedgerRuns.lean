import K8sClue.Library.Locking
import K8sClue.Timeline.Ledger

/-! The ledger of all workspaces under concurrent transactions.
The cursor row of a workspace is locked by the first append of a transaction and released when
it ends, so the committed appends of one workspace form one serial history.
-/

namespace K8sClue.Timeline

open Python Library List

inductive LedgerOperation where
  | append (batch : List TimelineEvent)
  | advanceRetention (retainedFromSequence : Nat)

inductive LedgerAnswer where
  | appended (results : Option (List LedgerAppend))
  | retained (retainedFromSequence : Nat)

variable (zone : Int → Int)

def ledgerCall (table : LedgerTable) : LedgerOperation → LedgerTable × LedgerAnswer
  | .append batch =>
    let (next, results) := appendTimelineEvents zone table batch
    (next, .appended results)
  | .advanceRetention retainedFromSequence =>
    let (next, retained) := advanceTimelineRetention table retainedFromSequence
    (next, .retained retained)

/-- What the callers do; transactions are numbered. -/
inductive LedgerAction where
  | append (transaction : Nat) (batch : List TimelineEvent)
  | advanceRetention (transaction : Nat) (workspaceId : String) (retainedFromSequence : Nat)
  | commit (transaction : Nat)
  | abort (transaction : Nat)

/-- The one workspace of a batch; an empty batch has none and a mixed one is refused. -/
def batchWorkspace (batch : List TimelineEvent) : Option String :=
  match fromKeys (batch.map (·.scope.workspaceId)) with
  | [workspaceId] => some workspaceId
  | _ => none

/-- The action on the cursor rows; a call that is refused or has nothing to do takes no lock. -/
def lockAction : LedgerAction → Option (LockAction Nat String LedgerOperation)
  | .append transaction batch =>
    (batchWorkspace batch).map (fun workspaceId => .call transaction workspaceId (.append batch))
  | .advanceRetention transaction workspaceId retainedFromSequence =>
    if workspaceId = "" ∨ retainedFromSequence < 1 then
      none
    else
      some (.call transaction workspaceId (.advanceRetention retainedFromSequence))
  | .commit transaction => some (.commit transaction)
  | .abort transaction => some (.abort transaction)

def emptyLedger : String → LedgerTable := fun _ => {}

variable (actions : List LedgerAction) (workspaceId : String)

def committedTable : LedgerTable :=
  ((Locking.machine (ledgerCall zone)).run (Locking.initial emptyLedger)
    (actions.filterMap lockAction)).committed workspaceId

/-- The calls of the committed transactions on a workspace, in the order of the commits. -/
def committedCalls : List (Call Nat String LedgerOperation LedgerAnswer) :=
  Locking.callsAt workspaceId
    ((Locking.machine (ledgerCall zone)).trace (Locking.initial emptyLedger)
      (actions.filterMap lockAction))

def calledBatch (call : Call Nat String LedgerOperation LedgerAnswer) : List TimelineEvent :=
  match call.operation with
  | .append batch => batch
  | .advanceRetention _ => []

def calledResults (call : Call Nat String LedgerOperation LedgerAnswer) : List LedgerAppend :=
  match call.answer with
  | .appended (some results) => results
  | _ => []

/-- What the committed table and the committed calls of a workspace say of each other. -/
structure LedgerHistory (table : LedgerTable)
    (calls : List (Call Nat String LedgerOperation LedgerAnswer))
    : Prop where
  sound : table.Sound
  workspace : ∀ row ∈ table.rows, row.workspaceId = workspaceId
  keys : ∀ key, key ∈ table.sourceKeys ↔ key ∈ (calls.flatMap calledBatch).map (·.sourceKey)
  answers : Answers table.rows [] (calls.flatMap calledBatch) (calls.flatMap calledResults)

theorem ledgerHistory_empty : LedgerHistory workspaceId {} [] where
  sound := sound_empty
  workspace := by simp
  keys := by simp [LedgerTable.sourceKeys]
  answers := ⟨rfl, by simp, trivial⟩

def OwnWorkspace : LedgerOperation → Prop
  | .append batch => ∀ event ∈ batch, event.scope.workspaceId = workspaceId
  | .advanceRetention _ => True

variable {batch : List TimelineEvent} {workspaceId : String} {table : LedgerTable}
  {calls : List (Call Nat String LedgerOperation LedgerAnswer)}

theorem batchWorkspace_own (one : batchWorkspace batch = some workspaceId)
    : OwnWorkspace workspaceId (.append batch) := by
  unfold batchWorkspace at one
  split at one
  next single keys =>
    intro event mem
    have known : event.scope.workspaceId ∈ fromKeys (batch.map (·.scope.workspaceId)) :=
      mem_fromKeys.mpr (mem_map_of_mem mem)
    rw [keys, mem_singleton] at known
    rw [known, Option.some.inj one]
  · simp at one

theorem lockAction_own
    : ∀ action ∈ actions.filterMap lockAction, Locking.GoodAction OwnWorkspace action := by
  intro action mem
  obtain ⟨taken, _, locked⟩ := mem_filterMap.mp mem
  cases taken with
  | append transaction batch =>
    obtain ⟨workspaceId, one, rfl⟩ := Option.map_eq_some_iff.mp locked
    exact batchWorkspace_own one
  | advanceRetention transaction workspaceId retainedFromSequence =>
    simp only [lockAction] at locked
    split at locked <;> cases locked
    trivial
  | commit transaction =>
    cases locked
    trivial
  | abort transaction =>
    cases locked
    trivial

theorem LedgerHistory.append (history : LedgerHistory workspaceId table calls) (zone : Int → Int)
    (own : OwnWorkspace workspaceId (.append batch))
    {call : Call Nat String LedgerOperation LedgerAnswer} (called : call.operation = .append batch)
    (answered : call.answer = .appended (appendTimelineEvents zone table batch).2)
    : LedgerHistory workspaceId (appendTimelineEvents zone table batch).1 (calls ++ [call]) := by
  obtain ⟨results, told, positions, stored, reported⟩ := append_answers zone table batch
  have batch_eq : calledBatch call = batch := by rw [calledBatch, called]
  have results_eq : calledResults call = results := by rw [calledResults, answered, told]
  obtain ⟨inserted, rows, _, _, values⟩ := append_rows zone table batch
  refine ⟨history.sound.append zone batch, ?_, ?_, ?_⟩
  · intro row mem
    rw [rows] at mem
    rcases mem_append.mp mem with before | now
    · exact history.workspace row before
    · obtain ⟨event, inside, written⟩ := values row now
      rw [written]
      exact own event inside
  · intro key
    rw [append_sourceKeys, history.keys]
    simp [batch_eq]
  · simp only [flatMap_append, flatMap_cons, flatMap_nil, append_nil,
      batch_eq, results_eq]
    refine ⟨?_, ?_, ?_⟩
    · rw [map_append, map_append, history.answers.positions, positions]
    · intro item mem
      rcases mem_append.mp mem with before | now
      · obtain ⟨row, inside, same⟩ := history.answers.stored item before
        exact ⟨row, rows ▸ mem_append_left _ inside, same⟩
      · exact stored item now
    · refine history.answers.reported.append (reported.congr ?_)
      intro key
      rw [history.keys, ← history.answers.positions]
      simp

theorem LedgerHistory.advance (history : LedgerHistory workspaceId table calls)
    {retainedFromSequence retained : Nat} {call : Call Nat String LedgerOperation LedgerAnswer}
    (called : call.operation = .advanceRetention retainedFromSequence)
    (answered : call.answer = .retained retained)
    : LedgerHistory workspaceId (advanceTimelineRetention table retainedFromSequence).1
        (calls ++ [call]) := by
  have batch_eq : calledBatch call = [] := by rw [calledBatch, called]
  have results_eq : calledResults call = [] := by rw [calledResults, answered]
  refine ⟨history.sound.advance retainedFromSequence, history.workspace, ?_, ?_⟩
  · intro key
    simpa [batch_eq] using history.keys key
  · simpa [batch_eq, results_eq] using history.answers

/-- Every call of the workspace keeps the history.
Witness: by the operation, an append or a move of the retention boundary.
-/
theorem LedgerHistory.call (history : LedgerHistory workspaceId table calls) (zone : Int → Int)
    {call : Call Nat String LedgerOperation LedgerAnswer}
    (own : OwnWorkspace workspaceId call.operation)
    (answered : (ledgerCall zone table call.operation).2 = call.answer)
    : LedgerHistory workspaceId (ledgerCall zone table call.operation).1 (calls ++ [call]) := by
  cases called : call.operation with
  | append batch =>
    rw [called] at own answered
    exact history.append zone own called answered.symm
  | advanceRetention retainedFromSequence =>
    rw [called] at answered
    exact history.advance called answered.symm

variable (workspaceId : String)

/-- Under every interleaving, what is committed of a workspace tells its committed calls. -/
theorem committed_history
    : LedgerHistory workspaceId (committedTable zone actions workspaceId)
        (committedCalls zone actions workspaceId) := by
  have replay := (Locking.run_serial (ledgerCall zone) emptyLedger
    (actions.filterMap lockAction)).replays workspaceId
  have good := Locking.trace_good (ledgerCall zone) emptyLedger (lockAction_own actions)
  refine replay.invariant ?_ (ledgerHistory_empty workspaceId)
  intro table past call mem history answered
  obtain ⟨inside, at_workspace⟩ := mem_filter.mp mem
  have own := good call inside
  rw [of_decide_eq_true at_workspace] at own
  exact history.call zone own answered

/-- No committed row is ever changed or removed. -/
theorem committed_rows_grow {taken actions : List LedgerAction}
    (earlier : taken <+: actions) (workspaceId : String)
    : (committedTable zone taken workspaceId).rows
      <+: (committedTable zone actions workspaceId).rows := by
  obtain ⟨rest, rfl⟩ := earlier
  have replay := Locking.run_replays_on (ledgerCall zone) emptyLedger
    (taken.filterMap lockAction) (rest.filterMap lockAction) workspaceId
  rw [← filterMap_append] at replay
  refine replay.related (R := fun before after => before.rows <+: after.rows)
    (fun _ => prefix_refl _) IsPrefix.trans ?_
  intro table operation
  cases operation with
  | append batch =>
    obtain ⟨inserted, rows, _⟩ := append_rows zone table batch
    exact ⟨inserted, rows.symm⟩
  | advanceRetention retainedFromSequence => exact prefix_refl _

def returnedResults : List LedgerAppend :=
  (committedCalls zone actions workspaceId).flatMap calledResults

def appendedEvents : List TimelineEvent :=
  (committedCalls zone actions workspaceId).flatMap calledBatch

/-- What holds of the committed ledger of a workspace after the given actions. -/
structure LedgerInvariant
    : Prop where
  sequences : (committedTable zone actions workspaceId).rows.map (·.sequence)
    = List.range' 1 (committedTable zone actions workspaceId).cursorState.lastSequence
  keysOnce : (committedTable zone actions workspaceId).sourceKeys.Nodup
  unchanged : ∀ taken, taken <+: actions
    → (committedTable zone taken workspaceId).rows
      <+: (committedTable zone actions workspaceId).rows
  idempotent : ∀ batch : List TimelineEvent,
      (∀ event ∈ batch, event.sourceKey ∈ (committedTable zone actions workspaceId).sourceKeys)
      → appendTimelineEvents zone (committedTable zone actions workspaceId) batch
        = (committedTable zone actions workspaceId,
            batch.mapM (storedAppend (committedTable zone actions workspaceId)))
  positions : (returnedResults zone actions workspaceId).map (·.event.sourceKey)
    = (appendedEvents zone actions workspaceId).map (·.sourceKey)
  told : ∀ item ∈ returnedResults zone actions workspaceId,
      ∃ row ∈ (committedTable zone actions workspaceId).rows,
        item.event = eventFromRow row ∧ item.sequence = row.sequence
  insertedOnce : ∀ key ∈ (committedTable zone actions workspaceId).sourceKeys,
      (returnedResults zone actions workspaceId).countP
        (fun item => item.inserted && item.event.sourceKey = key) = 1
  insertedFirst : ∀ before item after,
      returnedResults zone actions workspaceId = before ++ item :: after
      → (item.inserted = true
        ↔ ∀ earlier ∈ before, earlier.event.sourceKey ≠ item.event.sourceKey)

/-- The ledger invariant holds of every workspace after every interleaving of transactions.
Witness: the committed history, which every committed call keeps.
-/
theorem timeline_ledger_invariant : LedgerInvariant zone actions workspaceId := by
  have history := committed_history zone actions workspaceId
  refine {
    sequences := history.sound.sequences
    keysOnce := history.sound.unique
    unchanged := fun _ earlier => committed_rows_grow zone earlier workspaceId
    idempotent := fun batch stored => history.sound.append_again zone batch stored
    positions := history.answers.positions
    told := history.answers.stored
    insertedOnce := ?_
    insertedFirst := ?_ }
  · intro key stored
    rw [history.keys, ← history.answers.positions] at stored
    rw [returnedResults, history.answers.reported.count key, if_pos ⟨by simp, stored⟩]
  · intro before item after split
    have reported := history.answers.reported
    change FirstReported [] (returnedResults zone actions workspaceId) at reported
    rw [split] at reported
    rw [reported.inserted_iff]
    simp

end K8sClue.Timeline
