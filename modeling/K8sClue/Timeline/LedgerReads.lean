import K8sClue.Timeline.Predicate
import Mathlib.Data.List.Sort

/-! Reads of the ledger: the newest rows of a snapshot, or a replay in sequence order. -/

namespace K8sClue.Timeline

open Python Library List

structure TimelineLedgerRecord where
  sequence : Nat
  event : TimelineEvent

def recordFromRow (row : LedgerRow) : TimelineLedgerRecord :=
  { sequence := row.sequence, event := eventFromRow row }

structure TimelineLedgerSnapshot where
  records : List TimelineLedgerRecord
  (highWaterSequence retainedFromSequence : Nat)
  truncated : Bool := false

def TimelineLedgerSnapshot.events (snapshot : TimelineLedgerSnapshot) : List TimelineEvent :=
  snapshot.records.map (·.event)

/-- What the database and the predicate's texts are read with. -/
structure LedgerReader where
  render : PyValue → String
  lower : String → String
  calendar : Calendar

variable (reader : LedgerReader) (table : LedgerTable)

variable (readScope : TimelineLedgerReadScope) (afterSequence throughSequence : Nat)

variable (predicate : TimelineEvidencePredicate)

/-- The rows in a range of sequences for which the statement's condition is true. -/
def selectedRows (phase : TimelinePhase) : List LedgerRow :=
  table.rows.filter fun row =>
    row.workspaceId = readScope.workspaceId
    ∧ afterSequence < row.sequence
    ∧ row.sequence ≤ throughSequence
    ∧ timelineEvidenceSqlPredicate reader.render reader.lower reader.calendar predicate phase row
      = some true

/-- `_read_records`: up to `limit` rows, the oldest first in replay order and the newest first
otherwise, returned in the order of their sequences.
-/
def readRecords (phase : TimelinePhase) (limit : Nat) (replayOrder : Bool)
    : List TimelineLedgerRecord :=
  let selected := selectedRows reader table readScope afterSequence throughSequence predicate phase
  if replayOrder then
    ((selected.insertionSort (·.sequence ≤ ·.sequence)).take limit).map recordFromRow
  else
    (((selected.insertionSort (fun left right => right.sequence ≤ left.sequence)).take limit).map
      recordFromRow).reverse

/-- The rest of `snapshot_timeline_events` once the cursor is read: it reads one row more than it
returns.
-/
def snapshotRows (cursor : LedgerCursor) (limit : Nat) : TimelineLedgerSnapshot :=
  let records := readRecords reader table readScope (cursor.retainedFromSequence - 1)
    cursor.lastSequence predicate .snapshot (limit + 1) false
  let truncated := records.length > limit
  {
    -- The overflow row is the oldest one.
    records := if truncated then records.tail else records
    highWaterSequence := cursor.lastSequence
    retainedFromSequence := cursor.retainedFromSequence
    truncated := truncated }

def snapshotTimelineEvents (limit : Nat := 1000) : TimelineLedgerSnapshot :=
  snapshotRows reader table readScope predicate table.cursorState limit

/-- A snapshot that is not truncated holds every selected row. -/
theorem snapshot_events_perm {reader : LedgerReader} {table : LedgerTable}
    {readScope : TimelineLedgerReadScope} {predicate : TimelineEvidencePredicate} {limit : Nat}
    (whole : (snapshotTimelineEvents reader table readScope predicate limit).truncated = false)
    : (snapshotTimelineEvents reader table readScope predicate limit).events.Perm
        ((selectedRows reader table readScope (table.cursorState.retainedFromSequence - 1)
          table.cursorState.lastSequence predicate .snapshot).map eventFromRow) := by
  have bounded : ¬ (readRecords reader table readScope
      (table.cursorState.retainedFromSequence - 1) table.cursorState.lastSequence predicate
      .snapshot (limit + 1) false).length > limit := by
    simpa [snapshotTimelineEvents, snapshotRows] using whole
  simp only [TimelineLedgerSnapshot.events, snapshotTimelineEvents, snapshotRows]
  rw [if_neg bounded]
  simp only [readRecords, Bool.false_eq_true, if_false, length_reverse, length_map,
    length_take, length_insertionSort] at bounded ⊢
  rw [take_of_length_le (by rw [length_insertionSort]; omega), map_reverse,
    map_map]
  exact (reverse_perm _).trans ((perm_insertionSort _ _).map _)

end K8sClue.Timeline
