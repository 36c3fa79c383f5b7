import K8sClue.Timeline.PredicateAgreement
import K8sClue.Timeline.Replay

/-! Snapshot plus replay tells every event once.
The cursor of a workspace never counts a row that is not committed, and later rows get later
sequences; so the part of the ledger up to a cursor that was read once stays as it was.
-/

namespace K8sClue.Timeline

open Python Library List

variable (sub : TimelineSubscription)

def TimelineSubscription.selects (phase : TimelinePhase) (row : LedgerRow) : Bool :=
  row.workspaceId = sub.readScope.workspaceId
  ∧ timelineEvidenceSqlPredicate sub.reader.render sub.reader.lower
      sub.reader.calendar sub.predicate phase row
    = some true

def TimelineSubscription.matching (phase : TimelinePhase) (table : LedgerTable) : List LedgerRow :=
  table.rows.filter (sub.selects phase)

/-- The time at which the first of the replays that come up to a sequence was read. -/
def clockAt (reads : List (Nat × Int)) (sequence : Nat) : Option Int :=
  (reads.find? (sequence ≤ ·.1)).map Prod.snd

/-- The events that match the stream predicate at the time at which their sequence was read. -/
def TimelineSubscription.streamed (reads : List (Nat × Int)) (table : LedgerTable)
    : List LedgerRow :=
  table.rows.filter fun row =>
    (clockAt reads row.sequence).any fun now => sub.selects (.stream now) row

section Rows

variable {sub : TimelineSubscription} {phase : TimelinePhase}
  {table later : LedgerTable} {after through limit : Nat}

theorem selectedRows_eq
    : selectedRows sub.reader table sub.readScope after through
        sub.predicate phase
      = window (·.sequence) after through (sub.matching phase table) := by
  unfold selectedRows window TimelineSubscription.matching TimelineSubscription.selects
  rw [filter_filter]
  refine filter_congr fun row _ => ?_
  rw [← Bool.decide_and, decide_eq_decide]
  tauto

variable (sound : table.Sound)
include sound

theorem LedgerTable.Sound.matching : Increasing (·.sequence) (sub.matching phase table) :=
  Increasing.filter sound.ordered _

/-- Records in replay order are the first ones of the window. -/
theorem readRecords_replay
    : readRecords sub.reader table sub.readScope after through
        sub.predicate phase limit true
      = ((window (·.sequence) after through (sub.matching phase table)).take limit).map
          recordFromRow := by
  have sorted : (window (·.sequence) after through (sub.matching phase table)).Pairwise
      (fun left right : LedgerRow => left.sequence ≤ right.sequence) :=
    (sound.matching.window after through).imp le_of_lt
  simp only [readRecords, if_true]
  rw [selectedRows_eq, sorted.insertionSort_eq]

/-- Records of a snapshot are the last ones of the window. -/
theorem readRecords_newest
    : readRecords sub.reader table sub.readScope after through
        sub.predicate phase limit false
      = ((window (·.sequence) after through (sub.matching phase table)).rtake limit).map
          recordFromRow := by
  have sorted : Increasing (·.sequence)
      (window (·.sequence) after through (sub.matching phase table)) :=
    sound.matching.window after through
  simp only [readRecords, Bool.false_eq_true, if_false]
  rw [selectedRows_eq, sorted.insertionSort_newest, ← map_reverse,
    rtake_eq_reverse_take_reverse]

/-- A row that is committed later has a later sequence than the cursor had. -/
theorem later_sequences (soundLater : later.Sound) {added : List LedgerRow}
    (grown : later.rows = table.rows ++ added)
    : ∀ row ∈ added, table.cursorState.lastSequence < row.sequence := by
  have count : later.cursorState.lastSequence
      = table.cursorState.lastSequence + added.length := by
    rw [← soundLater.length_rows, ← sound.length_rows, grown, length_append]
  have sequences := soundLater.sequences
  rw [grown, map_append, sound.sequences, count, ← range'_append_1] at sequences
  have numbered := append_cancel_left sequences
  intro row mem
  have inside : row.sequence ∈ List.range' (1 + table.cursorState.lastSequence) added.length :=
    numbered ▸ mem_map_of_mem mem
  have := (mem_range'_1.mp inside).1
  omega

theorem lastSequence_le (soundLater : later.Sound) (grown : table.rows <+: later.rows)
    : table.cursorState.lastSequence ≤ later.cursorState.lastSequence := by
  rw [← sound.length_rows, ← soundLater.length_rows]
  exact grown.length_le

/-- What was committed up to a cursor stays the same. -/
theorem rows_grown (soundLater : later.Sound) (keep : LedgerRow → Bool)
    (grown : table.rows <+: later.rows) (upTo : through ≤ table.cursorState.lastSequence)
    : window (·.sequence) after through (later.rows.filter keep)
      = window (·.sequence) after through (table.rows.filter keep) := by
  obtain ⟨added, rows⟩ := grown
  rw [← rows, filter_append]
  refine window_grown fun row mem => ?_
  exact lt_of_le_of_lt upTo
    (later_sequences sound soundLater rows.symm row (mem_of_mem_filter mem))

omit sound

end Rows

/-- The matching events in the range of a snapshot. -/
def TimelineSubscription.retained
    (snapshot : TimelineLedgerSnapshot) (table : LedgerTable)
    : List LedgerRow :=
  (sub.matching .snapshot table).filter fun row =>
    snapshot.retainedFromSequence ≤ row.sequence ∧ row.sequence ≤ snapshot.highWaterSequence

variable (table : LedgerTable)

/-- The snapshot lists the newest events of its range, and says whether there are more. -/
structure SnapshotExact (limit : Nat)
    (snapshot : TimelineLedgerSnapshot)
    : Prop where
  newest : snapshot.records
    = ((sub.retained snapshot table).rtake limit).map recordFromRow
  count : snapshot.records.length = min limit (sub.retained snapshot table).length
  truncated : snapshot.truncated = true ↔ limit < (sub.retained snapshot table).length

/-- The replies list the matching events after a snapshot and up to a sequence. -/
structure FollowedTo
    (snapshot : TimelineLedgerSnapshot) (after : Nat) (reads : List (Nat × Int))
    (replies : List TimelineReplayResult)
    : Prop where
  start : snapshot.highWaterSequence ≤ after
  upTo : after ≤ table.cursorState.lastSequence
  before : ∀ read ∈ reads, read.1 ≤ after
  covered : ∀ sequence, snapshot.highWaterSequence < sequence → sequence ≤ after
    → ∃ read ∈ reads, sequence ≤ read.1
  delivered : replies.flatMap (·.records)
    = (window (·.sequence) snapshot.highWaterSequence after (sub.streamed reads table)).map
        recordFromRow

section Told

variable {sub : TimelineSubscription} {table later : LedgerTable}
  {snapshot : TimelineLedgerSnapshot} {limit after : Nat} {cursor : LedgerCursor}
  {reads : List (Nat × Int)} {replies : List TimelineReplayResult}

theorem clockAt_append_left {sequence : Nat} (others : List (Nat × Int))
    (covered : ∃ read ∈ reads, sequence ≤ read.1)
    : clockAt (reads ++ others) sequence = clockAt reads sequence := by
  have found : (reads.find? (sequence ≤ ·.1)).isSome := by simpa using covered
  rw [clockAt, find?_append, Option.or_of_isSome found, clockAt]

theorem clockAt_append_right {sequence position : Nat} {now : Int}
    (before : ∀ read ∈ reads, read.1 < sequence) (upTo : sequence ≤ position)
    : clockAt (reads ++ [(position, now)]) sequence = some now := by
  have none_ : reads.find? (sequence ≤ ·.1) = none := by simpa using before
  simp [clockAt, find?_append, none_, upTo]

/-- Sequences start at one, so the boundary may be given from either side. -/
theorem retained_eq (sound : table.Sound)
    : sub.retained snapshot table
      = window (·.sequence) (snapshot.retainedFromSequence - 1) snapshot.highWaterSequence
          (sub.matching .snapshot table) := by
  refine filter_congr fun row mem => ?_
  have inside : row.sequence ∈ List.range' 1 table.cursorState.lastSequence := by
    rw [← sound.sequences]
    exact mem_map_of_mem (mem_of_mem_filter mem)
  have positive := (mem_range'_1.mp inside).1
  rw [decide_eq_decide]
  dsimp only
  omega

/-- Dropping the oldest of one record too many leaves the newest. -/
theorem rtake_succ_tail {α : Type} {items : List α} {size : Nat} (more : size < items.length)
    : (items.rtake (size + 1)).tail = items.rtake size := by
  rw [List.rtake, tail_drop]
  congr 1
  omega

theorem snapshotRows_exact (sound : table.Sound) (cursor : LedgerCursor) (limit : Nat)
    : SnapshotExact sub table limit
        (snapshotRows sub.reader table sub.readScope sub.predicate cursor limit) := by
  let rows := window (·.sequence) (cursor.retainedFromSequence - 1) cursor.lastSequence
    (sub.matching .snapshot table)
  have read : readRecords sub.reader table sub.readScope
        (cursor.retainedFromSequence - 1) cursor.lastSequence sub.predicate .snapshot
        (limit + 1) false
      = (rows.rtake (limit + 1)).map recordFromRow := readRecords_newest sound
  have overflow : (rows.rtake (limit + 1)).length > limit ↔ limit < rows.length := by
    rw [List.rtake, length_drop]
    omega
  have range : sub.retained
      (snapshotRows sub.reader table sub.readScope sub.predicate cursor limit) table
      = rows := retained_eq sound
  have newest
      : (snapshotRows sub.reader table sub.readScope sub.predicate cursor limit).records
        = (rows.rtake limit).map recordFromRow := by
    dsimp only [snapshotRows]
    rw [read, length_map]
    by_cases more : limit < rows.length
    · rw [if_pos (overflow.mpr more), ← map_tail, rtake_succ_tail more]
    · rw [if_neg (mt overflow.mp more)]
      have whole {size : Nat} (enough : rows.length ≤ size) : rows.rtake size = rows := by
        rw [List.rtake, Nat.sub_eq_zero_of_le enough, drop_zero]
      rw [whole (by omega), whole (by omega)]
  refine ⟨range.symm ▸ newest, ?_, ?_⟩
  · rw [newest, range, length_map, List.rtake, length_drop]
    omega
  · rw [range]
    dsimp only [snapshotRows]
    rw [read, length_map, decide_eq_true_iff]
    exact overflow

/-- What a snapshot lists stays exact while the ledger grows. -/
theorem SnapshotExact.grown (known : SnapshotExact sub table limit snapshot)
    (sound : table.Sound) (soundLater : later.Sound) (rows : table.rows <+: later.rows)
    (upTo : snapshot.highWaterSequence ≤ table.cursorState.lastSequence)
    : SnapshotExact sub later limit snapshot := by
  have same : sub.retained snapshot later = sub.retained snapshot table := by
    rw [retained_eq soundLater, retained_eq sound]
    exact rows_grown sound soundLater _ rows upTo
  exact ⟨same.symm ▸ known.newest, same.symm ▸ known.count, same.symm ▸ known.truncated⟩

variable (followed : FollowedTo sub table snapshot after reads replies) (sound : table.Sound)
include followed sound

theorem FollowedTo.grown (soundLater : later.Sound) (rows : table.rows <+: later.rows)
    : FollowedTo sub later snapshot after reads replies where
  start := followed.start
  upTo := followed.upTo.trans (lastSequence_le sound soundLater rows)
  before := followed.before
  covered := followed.covered
  delivered := by
    rw [followed.delivered, TimelineSubscription.streamed, TimelineSubscription.streamed,
      rows_grown sound soundLater _ rows followed.upTo]

/-- What was read before is decided by the earlier clocks, the rest by the last one. -/
theorem FollowedTo.streamed_concat {position : Nat} (now : Int) (ahead : after ≤ position)
    : window (·.sequence) snapshot.highWaterSequence position
        (sub.streamed (reads ++ [(position, now)]) table)
      = window (·.sequence) snapshot.highWaterSequence after (sub.streamed reads table)
        ++ window (·.sequence) after position (sub.matching (.stream now) table) := by
  have increasing : Increasing (·.sequence) (sub.streamed (reads ++ [(position, now)]) table) :=
    Increasing.filter sound.ordered _
  rw [← increasing.window_append followed.start ahead]
  congr 1
  · refine window_filter_congr fun row later upTo => ?_
    rw [clockAt_append_left _ (followed.covered row.sequence later upTo)]
  · refine window_filter_congr fun row later upTo => ?_
    rw [clockAt_append_right (fun read mem => lt_of_le_of_lt (followed.before read mem) later)
      upTo, Option.any_some]

/-- A page that was asked for after the last reply continues it. -/
theorem FollowedTo.extend {position : Nat} {reply : TimelineReplayResult} {now : Int}
    (ahead : after ≤ position) (upTo : position ≤ table.cursorState.lastSequence)
    (page : reply.records
      = (window (·.sequence) after position (sub.matching (.stream now) table)).map
          recordFromRow)
    : FollowedTo sub table snapshot position (reads ++ [(position, now)]) (replies ++ [reply]) where
  start := followed.start.trans ahead
  upTo := upTo
  before := by
    intro read mem
    rcases mem_append.mp mem with earlier | last
    · exact (followed.before read earlier).trans ahead
    · rw [mem_singleton.mp last]
  covered := fun _ _ upTo => ⟨(position, now), by simp, upTo⟩
  delivered := by
    rw [flatMap_append, flatMap_singleton, followed.delivered, page, ← map_append,
      followed.streamed_concat sound now ahead]

/-- The reply to a replay extends what was told up to the position the reader goes on from. -/
theorem FollowedTo.replay {now : Int} {position : Nat} (valid : 1 ≤ limit)
    (ahead : after ≤ cursor.lastSequence)
    (upTo : cursor.lastSequence ≤ table.cursorState.lastSequence)
    (reached : (sub.replayRows after limit cursor now table).position limit = position)
    : FollowedTo sub table snapshot position (reads ++ [(position, now)])
        (replies ++ [sub.replayRows after limit cursor now table]) := by
  let rows := window (·.sequence) after cursor.lastSequence (sub.matching (.stream now) table)
  have read : (sub.replayRows after limit cursor now table).records
      = (rows.take limit).map recordFromRow := readRecords_replay sound
  rw [TimelineReplayResult.position, read, length_map] at reached
  by_cases full : (rows.take limit).length = limit
  · rw [if_pos full] at reached
    have nonempty : rows.take limit ≠ [] := by
      intro empty
      rw [empty] at full
      exact absurd full (Nat.ne_of_lt valid)
    obtain ⟨last, ends⟩ := Option.ne_none_iff_exists'.mp (mt getLast?_eq_none_iff.mp nonempty)
    have inside : last ∈ rows := mem_of_mem_take (mem_of_getLast? ends)
    obtain ⟨_, later, bound⟩ := mem_window.mp inside
    rw [getLast?_map, ends] at reached
    obtain rfl : last.sequence = position := reached
    refine followed.extend sound (le_of_lt later) (bound.trans upTo) ?_
    rw [read, sound.matching.take_window ends]
  · rw [if_neg full] at reached
    obtain rfl : cursor.lastSequence = position := reached
    refine followed.extend sound ahead upTo ?_
    have short : rows.length ≤ limit := by
      rw [length_take] at full
      omega
    rw [read, take_of_length_le short]

end Told

variable (held : Option (Nat × TimelineLedgerSnapshot)) (reads : List (Nat × Int))

/-- The reader has its snapshot and has been told everything up to a sequence. -/
structure Following (after : Nat)
    (replies : List TimelineReplayResult)
    : Prop where
  told : ∃ limit snapshot, held = some (limit, snapshot)
      ∧ SnapshotExact sub table limit snapshot
      ∧ FollowedTo sub table snapshot after reads replies

/-- What holds of a reader at each of its stages. -/
def StageHolds (replies : List TimelineReplayResult) : ReaderStage → Prop
  | .idle => held = none ∧ reads = [] ∧ replies = []
  | .snapshotting _ cursor =>
    held = none ∧ reads = [] ∧ replies = []
    ∧ cursor.lastSequence ≤ table.cursorState.lastSequence
  | .following after => Following sub table held reads after replies
  | .replaying after limit cursor =>
    Following sub table held reads after replies ∧ 1 ≤ limit
    ∧ after ≤ cursor.lastSequence ∧ cursor.lastSequence ≤ table.cursorState.lastSequence
  | .stopped after => Following sub table held reads after replies

/-- What holds after every run, given the replies so far. -/
def StreamHolds (state : StreamState) (replies : List TimelineReplayResult) : Prop :=
  StageHolds sub (sub.table state.written) state.snapshot state.reads replies state.stage

section Runs

variable {sub : TimelineSubscription} {state : StreamState} {after : Nat}
  {table later : LedgerTable} {held : Option (Nat × TimelineLedgerSnapshot)}
  {reads : List (Nat × Int)} {replies : List TimelineReplayResult} {stage : ReaderStage}

theorem table_sound (sub : TimelineSubscription) (written : List LedgerAction)
    : (sub.table written).Sound :=
  (committed_history sub.zone written sub.readScope.workspaceId).sound

/-- Writers do not change what the reader has been told. -/
theorem Following.grown (following : Following sub table held reads after replies)
    (sound : table.Sound) (soundLater : later.Sound) (rows : table.rows <+: later.rows)
    : Following sub later held reads after replies := by
  obtain ⟨limit, snapshot, found, known, followed⟩ := following.told
  exact ⟨limit, snapshot, found,
    known.grown sound soundLater rows (followed.start.trans followed.upTo),
    followed.grown sound soundLater rows⟩

theorem StageHolds.grown (holds : StageHolds sub table held reads replies stage)
    (sound : table.Sound) (soundLater : later.Sound) (rows : table.rows <+: later.rows)
    : StageHolds sub later held reads replies stage := by
  have grows := lastSequence_le sound soundLater rows
  cases stage with
  | idle => exact holds
  | snapshotting limit cursor =>
    exact ⟨holds.1, holds.2.1, holds.2.2.1, holds.2.2.2.trans grows⟩
  | following after => exact Following.grown holds sound soundLater rows
  | replaying after limit cursor =>
    obtain ⟨following, valid, ahead, upTo⟩ := holds
    exact ⟨following.grown sound soundLater rows, valid, ahead, upTo.trans grows⟩
  | stopped after => exact Following.grown holds sound soundLater rows

/-- The step: one statement of the reader, or one action of a writer. -/
theorem StreamHolds.step (holds : StreamHolds sub state replies) (action : StreamAction)
    : StreamHolds sub ((streamMachine sub).step state action).1
        (replies ++ ((streamMachine sub).step state action).2) := by
  have sound := table_sound sub state.written
  have moves := streamStep_moves sub state action
  generalize (streamMachine sub).step state action = next at moves ⊢
  unfold StreamHolds at holds
  cases moves with
  | waits => exact (append_nil replies).symm ▸ holds
  | writes action =>
    exact (append_nil replies).symm
      ▸ holds.grown sound (table_sound sub _)
          (committed_rows_grow sub.zone (prefix_append _ _) _)
  | snapshots idle =>
    rw [idle] at holds
    exact ⟨holds.1, holds.2.1, (append_nil replies).trans holds.2.2, le_rfl⟩
  | @begins limit cursor stage =>
    rw [stage] at holds
    obtain ⟨_, none_, rfl, upTo⟩ := holds
    refine ⟨limit, _, rfl, snapshotRows_exact sound cursor limit, le_rfl, upTo, ?_, ?_, ?_⟩
    · simp [none_]
    · exact fun sequence later upTo => absurd upTo (Nat.not_le_of_lt later)
    · exact (congrArg (List.map recordFromRow) (window_self cursor.lastSequence)).symm
  | stops stage =>
    rw [stage] at holds
    obtain ⟨limit, snapshot, found, known, followed⟩ := holds.told
    refine ⟨limit, snapshot, found, known, { followed with delivered := ?_ }⟩
    rw [flatMap_append, followed.delivered]
    exact append_nil _
  | asks stage valid =>
    rw [stage] at holds
    obtain ⟨limit, snapshot, found, known, followed⟩ := holds.told
    rw [append_nil]
    refine ⟨⟨limit, snapshot, found, known, followed⟩, ?_, followed.upTo, le_rfl⟩
    exact of_decide_eq_true (Bool.and_eq_true_iff.mp valid).1
  | replies stage reached =>
    rw [stage] at holds
    obtain ⟨following, valid, ahead, upTo⟩ := holds
    obtain ⟨limit, snapshot, found, known, followed⟩ := following.told
    exact ⟨limit, snapshot, found, known, followed.replay sound valid ahead upTo reached⟩

theorem streamHolds_run (sub : TimelineSubscription) (actions : List StreamAction)
    : StreamHolds sub ((streamMachine sub).run {} actions)
        ((streamMachine sub).trace {} actions) :=
  Machine.trace_invariant (fun action holds => holds.step action) ⟨rfl, rfl, rfl⟩ actions

end Runs

def ReaderStage.after : ReaderStage → Option Nat
  | .idle => none
  | .snapshotting .. => none
  | .following after => some after
  | .replaying after _ _ => some after
  | .stopped after => some after

/-- A reader has no snapshot yet, or it has read up to some sequence. -/
theorem StageHolds.following {sub : TimelineSubscription} {table : LedgerTable}
    {held : Option (Nat × TimelineLedgerSnapshot)} {reads : List (Nat × Int)}
    {replies : List TimelineReplayResult} {stage : ReaderStage}
    (holds : StageHolds sub table held reads replies stage)
    : (held = none ∧ replies = [])
      ∨ ∃ after, stage.after = some after ∧ Following sub table held reads after replies := by
  cases stage with
  | idle => exact .inl ⟨holds.1, holds.2.2⟩
  | snapshotting limit cursor => exact .inl ⟨holds.1, holds.2.2.1⟩
  | following after => exact .inr ⟨after, rfl, holds⟩
  | replaying after limit cursor => exact .inr ⟨after, rfl, holds.1⟩
  | stopped after => exact .inr ⟨after, rfl, holds⟩

/-- The snapshot lists the newest events of its range; the replies together list, in the order of
their sequences, the events after the snapshot up to where the reader stands that match when their
sequence is read, and every sequence up to there is read.
-/
structure ExactlyOnce
    (state : StreamState) (replies : List TimelineReplayResult)
    : Prop where
  snapshot : ∀ limit snapshot, state.snapshot = some (limit, snapshot)
    → SnapshotExact sub table limit snapshot
  replayed : ∀ limit snapshot after, state.snapshot = some (limit, snapshot)
    → state.stage.after = some after
    → replies.flatMap (·.records)
      = ((sub.streamed state.reads table).filter fun row =>
          snapshot.highWaterSequence < row.sequence ∧ row.sequence ≤ after).map recordFromRow
  timed : ∀ limit snapshot after, state.snapshot = some (limit, snapshot)
    → state.stage.after = some after
    → ∀ sequence, snapshot.highWaterSequence < sequence → sequence ≤ after
    → (clockAt state.reads sequence).isSome
  increasing : (replies.flatMap (·.records)).Pairwise fun earlier later =>
      earlier.sequence < later.sequence
  before : state.snapshot = none → replies = []

/-- Snapshot plus replay tells every event once that matches at the time its sequence is read,
whatever the writers do in between.
-/
theorem snapshot_replay_exactly_once
    (actions : List StreamAction)
    : let state := (streamMachine sub).run {} actions
      ExactlyOnce sub (sub.table state.written) state
        ((streamMachine sub).trace {} actions) := by
  intro state
  have sound := table_sound sub state.written
  have holds := streamHolds_run sub actions
  rcases holds.following with ⟨missing, silent⟩ | ⟨position, read, following⟩
  · rw [silent]
    have none_held {held : Nat × TimelineLedgerSnapshot} : state.snapshot ≠ some held := by
      intro found
      exact nomatch missing.symm.trans found
    exact {
      snapshot := fun limit snapshot found => absurd found none_held
      replayed := fun limit snapshot after found => absurd found none_held
      timed := fun limit snapshot after found => absurd found none_held
      increasing := Pairwise.nil
      before := fun _ => rfl }
  · obtain ⟨size, told, held, known, followed⟩ := following.told
    have only {limit : Nat} {snapshot : TimelineLedgerSnapshot}
        (found : state.snapshot = some (limit, snapshot)) : limit = size ∧ snapshot = told :=
      Prod.mk.inj (Option.some.inj (found.symm.trans held))
    exact {
      snapshot := by
        intro limit snapshot found
        obtain ⟨rfl, rfl⟩ := only found
        exact known
      replayed := by
        intro limit snapshot after found reached
        obtain ⟨rfl, rfl⟩ := only found
        obtain rfl := Option.some.inj (read.symm.trans reached)
        exact followed.delivered
      timed := by
        intro limit snapshot after found reached sequence later upTo
        obtain ⟨rfl, rfl⟩ := only found
        obtain rfl := Option.some.inj (read.symm.trans reached)
        simpa [clockAt] using followed.covered sequence later upTo
      increasing := by
        rw [followed.delivered, pairwise_map]
        exact (Increasing.filter sound.ordered _).window _ _
      before := fun missing => nomatch missing.symm.trans held }

/-- A live reader of the inventory of a cluster. -/
def liveReader : TimelineSubscription where
  zone := id
  reader := ⟨fun _ => "", id, exactCalendar⟩
  readScope := searchApi.readScope
  predicate := {
    readScope := searchApi.readScope
    identity := { window := firstMinute, mode := .live, filters := {} }
    resolved := searchApi.resolved }

/-- An event of second 61 is read past in second one; the next replay is made in second 61. -/
def readTooEarly : List StreamAction :=
  [.snapshot 10, .rows 0,
    .write (.append 0 [scaledEvent "workspace-1" (.aware 61000000) (by decide)]),
    .write (.commit 0), .replay 10, .rows 1000000, .replay 10, .rows 61000000]

/-- An event that is dated in the future when it is read past is not told later. -/
theorem future_event_passed_over
    : let state := (streamMachine liveReader).run {} readTooEarly
      state.snapshot.map (·.2.highWaterSequence) = some 0
      ∧ state.stage.after = some 1
      ∧ (((streamMachine liveReader).trace {} readTooEarly).flatMap (·.records)).length = 0
      ∧ (liveReader.matching (.stream 61000000) (liveReader.table state.written)).map (·.sequence)
        = [1] := by
  decide +kernel

end K8sClue.Timeline
