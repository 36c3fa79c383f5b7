import K8sClue.Library.Windows
import K8sClue.Timeline.LedgerReads
import K8sClue.Timeline.LedgerRuns

/-! A reader that takes a snapshot of a workspace's ledger and follows it by replay.
The cursor and the rows are read by separate statements, each of which sees what is committed by
then; appends and moves of the retention boundary go on in between.
-/

namespace K8sClue.Timeline

open Python Library

def maxTimelineEvents : Nat := 10000

def validLimit (limit : Nat) : Bool := 1 ≤ limit && limit ≤ maxTimelineEvents

inductive TimelineReplayStatus where
  | available
  | resyncRequired
  deriving DecidableEq

inductive TimelineResyncReason where
  | retentionBoundary
  deriving DecidableEq

structure TimelineReplayResult where
  status : TimelineReplayStatus
  records : List TimelineLedgerRecord
  (highWaterSequence retainedFromSequence : Nat)
  reason : Option TimelineResyncReason := none

/-- What a reader asks for, and how the database and its texts are read. -/
structure TimelineSubscription where
  zone : Int → Int
  reader : LedgerReader
  readScope : TimelineLedgerReadScope
  predicate : TimelineEvidencePredicate

namespace TimelineSubscription

variable (sub : TimelineSubscription)

def table (actions : List LedgerAction) : LedgerTable :=
  committedTable sub.zone actions sub.readScope.workspaceId

/-- The answer of `replay_timeline_events` behind the retention boundary. -/
def resyncResult (cursor : LedgerCursor) : TimelineReplayResult where
  status := .resyncRequired
  records := []
  highWaterSequence := cursor.lastSequence
  retainedFromSequence := cursor.retainedFromSequence
  reason := some .retentionBoundary

/-- The rest of `replay_timeline_events` once the cursor is read, at the time that the database's
clock shows by then.
-/
def replayRows (after limit : Nat) (cursor : LedgerCursor) (now : Int) (table : LedgerTable)
    : TimelineReplayResult where
  status := .available
  records := readRecords sub.reader table sub.readScope after
    cursor.lastSequence sub.predicate (.stream now) limit true
  highWaterSequence := cursor.lastSequence
  retainedFromSequence := cursor.retainedFromSequence

end TimelineSubscription

/-- Where a reader continues: after the last record of a full reply, else at the high water. -/
def TimelineReplayResult.position (reply : TimelineReplayResult) (limit : Nat) : Nat :=
  if reply.records.length = limit then
    (reply.records.getLast?.map (·.sequence)).getD reply.highWaterSequence
  else
    reply.highWaterSequence

/-- Where the reader stands; `after` is the sequence up to which it has read. -/
inductive ReaderStage where
  | idle
  | snapshotting (limit : Nat) (cursor : LedgerCursor)
  | following (after : Nat)
  | replaying (after limit : Nat) (cursor : LedgerCursor)
  | stopped (after : Nat)

/-- What the writers have done, and the reader with the limit and the result of its snapshot. Of its
replays it is kept up to which sequence each one has read, and at what time.
-/
structure StreamState where
  written : List LedgerAction := []
  stage : ReaderStage := .idle
  snapshot : Option (Nat × TimelineLedgerSnapshot) := none
  reads : List (Nat × Int) := []

inductive StreamAction where
  | write (action : LedgerAction)
  /-- the first statement of `snapshot_timeline_events` -/
  | snapshot (limit : Nat)
  /-- the first statement of `replay_timeline_events` -/
  | replay (limit : Nat)
  /-- the second statement of the call that is going on, at the time of the database's clock -/
  | rows (now : Int)

variable (sub : TimelineSubscription) (state : StreamState)

/-- A call with an invalid limit raises. -/
def snapshotStep (limit : Nat) : StreamState :=
  match state.stage with
  | .idle =>
    if validLimit limit then
      { state with
        stage := .snapshotting limit (sub.table state.written).cursorState }
    else
      state
  | _ => state

def replayStep (limit : Nat) : StreamState × List TimelineReplayResult :=
  match state.stage with
  | .following after =>
    let cursor := (sub.table state.written).cursorState
    if !validLimit limit then
      (state, [])
    else if after < cursor.retainedFromSequence - 1 then
      ({ state with stage := .stopped after }, [TimelineSubscription.resyncResult cursor])
    else
      ({ state with stage := .replaying after limit cursor }, [])
  | _ => (state, [])

def rowsStep (now : Int) : StreamState × List TimelineReplayResult :=
  let table := sub.table state.written
  match state.stage with
  | .snapshotting limit cursor =>
    let snapshot := snapshotRows sub.reader table sub.readScope sub.predicate cursor limit
    ({ state with
        stage := .following snapshot.highWaterSequence
        snapshot := some (limit, snapshot) }, [])
  | .replaying after limit cursor =>
    let reply := sub.replayRows after limit cursor now table
    ({ state with
        stage := .following (reply.position limit)
        reads := state.reads ++ [(reply.position limit, now)] }, [reply])
  | _ => (state, [])

def streamStep : StreamAction → StreamState × List TimelineReplayResult
  | .write action => ({ state with written := state.written ++ [action] }, [])
  | .snapshot limit => (snapshotStep sub state limit, [])
  | .replay limit => replayStep sub state limit
  | .rows now => rowsStep sub state now

/-- One reader among the writers; the effects are the replies to its replays. -/
def streamMachine : Machine StreamState StreamAction TimelineReplayResult where
  step := streamStep sub

variable (sub : TimelineSubscription) (state : StreamState) in
inductive StreamMoves : StreamState × List TimelineReplayResult → Prop where
  | waits : StreamMoves (state, [])
  | writes (action : LedgerAction)
      : StreamMoves ({ state with written := state.written ++ [action] }, [])
  | snapshots {limit : Nat} (idle : state.stage = .idle)
      : StreamMoves ({ state with
              stage := .snapshotting limit (sub.table state.written).cursorState }, [])
  | begins {limit : Nat} {cursor : LedgerCursor}
      (stage : state.stage = .snapshotting limit cursor)
      : StreamMoves ({ state with
              stage := .following cursor.lastSequence
              snapshot := some (limit, snapshotRows sub.reader (sub.table state.written)
                sub.readScope sub.predicate cursor limit) },
            [])
  | stops {after : Nat} (stage : state.stage = .following after)
      : StreamMoves ({ state with stage := .stopped after },
            [TimelineSubscription.resyncResult (sub.table state.written).cursorState])
  | asks {after limit : Nat} (stage : state.stage = .following after)
      (valid : validLimit limit = true)
      : StreamMoves ({ state with
              stage := .replaying after limit (sub.table state.written).cursorState },
            [])
  | replies {after limit position : Nat} {cursor : LedgerCursor} {now : Int}
      (stage : state.stage = .replaying after limit cursor)
      (reached : (sub.replayRows after limit cursor now (sub.table state.written)).position limit
        = position)
      : StreamMoves ({ state with
              stage := .following position
              reads := state.reads ++ [(position, now)] },
            [sub.replayRows after limit cursor now (sub.table state.written)])

theorem streamStep_moves (sub : TimelineSubscription) (state : StreamState)
    (action : StreamAction)
    : StreamMoves sub state ((streamMachine sub).step state action) := by
  cases action with
  | write action => exact .writes action
  | snapshot limit =>
    change StreamMoves sub state (snapshotStep sub state limit, [])
    unfold snapshotStep
    split
    next idle =>
      split
      · exact .snapshots idle
      · exact .waits
    · exact .waits
  | replay limit =>
    change StreamMoves sub state (replayStep sub state limit)
    unfold replayStep
    split
    next after stage =>
      cases valid : validLimit limit with
      | false => exact .waits
      | true =>
        simp only [Bool.not_true, Bool.false_eq_true, if_false]
        split
        · exact .stops stage
        · exact .asks stage valid
    · exact .waits
  | rows now =>
    change StreamMoves sub state (rowsStep sub state now)
    unfold rowsStep
    split
    next limit cursor stage => exact .begins stage
    next after limit cursor stage => exact .replies stage rfl
    · exact .waits

end K8sClue.Timeline
