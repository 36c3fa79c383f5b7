import K8sClue.Python.Collections
import K8sClue.Timeline.Contracts

/-! The append-only Timeline ledger of one workspace.
An append allocates one contiguous range of sequences for the events whose source key is new
and answers with the stored row of every event of the batch.
-/

namespace K8sClue.Timeline

open Python List

/-- A row of `timeline_events`. The columns `subject`, `resource` and `owner` hold the JSON of
what is written here.
-/
structure LedgerRow where
  workspaceId : String
  sequence : Nat
  (sourceKey eventId : String)
  source : TimelineSource
  nativeId : String
  activity : TimelineActivity
  clusterId : String
  inNamespace : Option String
  freshness : Freshness
  eventType : TimelineEventType
  severity : TimelineSeverity
  title : String
  subject : TimelineSubject
  (resource owner : Option ResourceRef)
  metadata : List (PyScalar × PyValue)
  occurredAt : Int
  workspace_nonempty : workspaceId ≠ ""
  cluster_nonempty : clusterId ≠ ""

structure LedgerCursor where
  lastSequence : Nat := 0
  retainedFromSequence : Nat := 1
  deriving DecidableEq

/-- What both tables hold of one workspace, the events in the order they were inserted in. -/
structure LedgerTable where
  cursor : Option LedgerCursor := none
  rows : List LedgerRow := []

variable (table : LedgerTable)

def LedgerTable.cursorState : LedgerCursor := table.cursor.getD {}

/-- One event of a batch with the row that holds it. -/
structure LedgerAppend where
  event : TimelineEvent
  sequence : Nat
  inserted : Bool

/-- `_event_namespace`, as the ledger stores it. -/
def storedNamespace (event : TimelineEvent) : Option String :=
  match event.resource, event.subject with
  | some resource, _ => resource.inNamespace
  | none, .inventoryLocator _ _ _ _ inNamespace _ => inNamespace
  | none, _ => none

variable (zone : Int → Int)

/-- A `timestamptz` holds a moment; a datetime without a zone is read in the session's. -/
def storedMoment : Datetime → Int
  | .aware moment => moment
  | .naive wallClock => zone wallClock

def eventValues (event : TimelineEvent) (sequence : Nat) : LedgerRow where
  workspaceId := event.scope.workspaceId
  sequence := sequence
  sourceKey := event.sourceKey
  eventId := event.eventId
  source := event.source
  nativeId := event.nativeId
  activity := event.activity
  clusterId := event.scope.clusterId
  inNamespace := storedNamespace event
  freshness := event.scope.freshness
  eventType := event.eventType
  severity := event.severity
  title := event.title
  subject := event.subject
  resource := event.resource
  owner := event.owner
  metadata := event.metadata
  occurredAt := storedMoment zone event.occurredAt
  workspace_nonempty := event.scope.workspace_nonempty
  cluster_nonempty := event.scope.cluster_nonempty

/-- `_event_from_row`: the scope's namespaces are not stored. -/
def eventFromRow (row : LedgerRow) : TimelineEvent where
  eventId := row.eventId
  source := row.source
  sourceKey := row.sourceKey
  nativeId := row.nativeId
  activity := row.activity
  occurredAt := .aware row.occurredAt
  scope := {
    workspaceId := row.workspaceId
    clusterId := row.clusterId
    freshness := row.freshness
    workspace_nonempty := row.workspace_nonempty
    cluster_nonempty := row.cluster_nonempty }
  subject := row.subject
  resource := row.resource
  eventType := row.eventType
  severity := row.severity
  title := row.title
  owner := row.owner
  metadata := row.metadata

def timelineAppendChunk : Nat := 1000

def rowOf (rows : List LedgerRow) (sourceKey : String) : Option LedgerRow :=
  rows.find? (·.sourceKey = sourceKey)

/-- `first_events[source_key]` for each key of the batch without a stored row. -/
def newEvents (rows : List LedgerRow) (batch : List TimelineEvent) : List TimelineEvent :=
  let sourceKeys := fromKeys (batch.map (·.sourceKey))
  (sourceKeys.filter (fun key => (rowOf rows key).isNone)).filterMap
    fun key => batch.find? (·.sourceKey = key)

def insertedRows (cursor : LedgerCursor) (events : List TimelineEvent) : List LedgerRow :=
  let highWater := cursor.lastSequence + events.length
  let firstSequence := highWater - events.length + 1
  let values := events.mapIdx fun index event => eventValues zone event (firstSequence + index)
  (slices timelineAppendChunk values).flatten

/-- One answer for each event of the batch; a key is reported as inserted once. Without a row
for a key the source raises `KeyError`.
-/
def reportAppends (existing inserted : List LedgerRow)
    : List String → List TimelineEvent → Option (List LedgerAppend)
  | _, [] => some []
  | reported, event :: rest => do
      let row ← (rowOf inserted event.sourceKey).or (rowOf existing event.sourceKey)
      let later ← reportAppends existing inserted (event.sourceKey :: reported) rest
      return {
        event := eventFromRow row
        sequence := row.sequence
        inserted := (rowOf inserted event.sourceKey).isSome && event.sourceKey ∉ reported
      } :: later

/-- `append_timeline_events` on the tables of the batch's workspace. -/
def appendTimelineEvents (table : LedgerTable) (batch : List TimelineEvent)
    : LedgerTable × Option (List LedgerAppend) :=
  if batch = [] then
    (table, some [])
  else
    let cursor := table.cursorState
    let events := newEvents table.rows batch
    let inserted := insertedRows zone cursor events
    ({
        cursor := some { cursor with lastSequence := cursor.lastSequence + events.length }
        rows := table.rows ++ inserted },
      reportAppends table.rows inserted [] batch)

/-- `advance_timeline_retention`: the boundary never moves back, and no event is rewritten. -/
def advanceTimelineRetention (retainedFromSequence : Nat) : LedgerTable × Nat :=
  let cursor := table.cursor.getD { retainedFromSequence := retainedFromSequence }
  let retained := max cursor.retainedFromSequence retainedFromSequence
  ({ table with cursor := some { cursor with retainedFromSequence := retained } }, retained)

def LedgerTable.sourceKeys : List String :=
  table.rows.map (·.sourceKey)

variable {key : String} {rows : List LedgerRow} {seen : List String}

theorem rowOf_isSome : (rowOf rows key).isSome ↔ key ∈ rows.map (·.sourceKey) := by
  simp [rowOf]

theorem rowOf_some {row : LedgerRow} (found : rowOf rows key = some row)
    : row ∈ rows ∧ row.sourceKey = key :=
  ⟨mem_of_find?_eq_some found, by simpa using find?_some found⟩

/-- The new events are the first ones of the keys that are not stored, one for each. -/
theorem newEvents_keys (rows : List LedgerRow) (batch : List TimelineEvent)
    : (newEvents rows batch).map (·.sourceKey)
      = (fromKeys (batch.map (·.sourceKey))).filter (fun key => (rowOf rows key).isNone) := by
  have found : ∀ keys : List String, (∀ key ∈ keys, key ∈ batch.map (·.sourceKey))
      → (keys.filterMap fun key => batch.find? (·.sourceKey = key)).map (·.sourceKey)
        = keys := by
    intro keys
    induction keys with
    | nil => simp
    | cons key rest ih =>
      intro present
      obtain ⟨event, mem, same⟩ := mem_map.mp (present key (by simp))
      have some_event : (batch.find? (·.sourceKey = key)).isSome := by
        simpa using ⟨event, mem, same⟩
      obtain ⟨first, picked⟩ := Option.isSome_iff_exists.mp some_event
      have key_eq : first.sourceKey = key := by simpa using find?_some picked
      rw [filterMap_cons, picked]
      simp only [map_cons, key_eq]
      rw [ih (fun other inside => present other (by simp [inside]))]
  refine found _ ?_
  intro key mem
  exact mem_fromKeys.mp (mem_of_mem_filter mem)

section

variable (zone : Int → Int) (cursor : LedgerCursor) (events : List TimelineEvent)

/-- The chunks hold the rows of all new events, with the sequences after the last one. -/
theorem insertedRows_eq
    : insertedRows zone cursor events
      = events.mapIdx
          fun index event => eventValues zone event (cursor.lastSequence + 1 + index) := by
  rw [insertedRows, flatten_slices (by decide)]
  simp only [Nat.add_sub_cancel]

theorem insertedRows_keys
    : (insertedRows zone cursor events).map (·.sourceKey) = events.map (·.sourceKey) := by
  rw [insertedRows_eq]
  exact ext_getElem (by simp) (by simp [eventValues])

theorem insertedRows_sequences
    : (insertedRows zone cursor events).map (·.sequence)
      = List.range' (cursor.lastSequence + 1) events.length := by
  rw [insertedRows_eq]
  exact ext_getElem (by simp) (by simp [eventValues])

end

/-- Exactly the answers whose key has not been seen before are insertions. -/
def FirstReported (seen : List String) : List LedgerAppend → Prop
  | [] => True
  | item :: rest =>
    (item.inserted = true ↔ item.event.sourceKey ∉ seen)
    ∧ FirstReported (item.event.sourceKey :: seen) rest

variable {items : List LedgerAppend}

theorem FirstReported.congr {seen known : List String}
    (same : ∀ key, key ∈ seen ↔ key ∈ known) (reported : FirstReported seen items)
    : FirstReported known items := by
  induction items generalizing seen known with
  | nil => trivial
  | cons item rest ih =>
    refine ⟨reported.1.trans (not_congr (same _)), ih ?_ reported.2⟩
    simp [same]

theorem FirstReported.append {first second : List LedgerAppend} (before : FirstReported seen first)
    (after : FirstReported (seen ++ first.map (·.event.sourceKey)) second)
    : FirstReported seen (first ++ second) := by
  induction first generalizing seen with
  | nil => simpa using after
  | cons item rest ih =>
    refine ⟨before.1, ih before.2 (after.congr ?_)⟩
    simp [or_left_comm]

/-- Among answers to keys, each key that was not seen before is inserted exactly once. -/
theorem FirstReported.count (reported : FirstReported seen items) (key : String)
    : items.countP (fun item => item.inserted && item.event.sourceKey = key)
      = if key ∉ seen ∧ key ∈ items.map (·.event.sourceKey) then 1 else 0 := by
  induction items generalizing seen with
  | nil => simp
  | cons item rest ih =>
    obtain ⟨now, later⟩ := reported
    by_cases known : key ∈ seen <;> by_cases same : item.event.sourceKey = key <;> grind

/-- An answer that is an insertion is the first of its key, and the other way round. -/
theorem FirstReported.inserted_iff {before after : List LedgerAppend} {item : LedgerAppend}
    (reported : FirstReported seen (before ++ item :: after))
    : item.inserted = true
      ↔ item.event.sourceKey ∉ seen
        ∧ ∀ earlier ∈ before, earlier.event.sourceKey ≠ item.event.sourceKey := by
  induction before generalizing seen with
  | nil => simpa using reported.1
  | cons first rest ih =>
    rw [ih reported.2]
    simp only [mem_cons, not_or, forall_eq_or_imp]
    constructor
    · rintro ⟨⟨differs, fresh⟩, others⟩
      exact ⟨fresh, Ne.symm differs, others⟩
    · rintro ⟨fresh, differs, others⟩
      exact ⟨⟨Ne.symm differs, fresh⟩, others⟩

/-- The answers to a batch: one for each position, each telling a stored row, and insertions
exactly for the keys that were neither stored nor answered before.
-/
structure Answers (rows : List LedgerRow) (seen : List String) (batch : List TimelineEvent)
    (results : List LedgerAppend)
    : Prop where
  positions : results.map (·.event.sourceKey) = batch.map (·.sourceKey)
  stored : ∀ item ∈ results, ∃ row ∈ rows,
      item.event = eventFromRow row ∧ item.sequence = row.sequence
  reported : FirstReported seen results

/-- Every key of the batch is stored before or inserted now, so each event is answered. -/
theorem reportAppends_answers {existing inserted : List LedgerRow}
    (apart : ∀ key ∈ inserted.map (·.sourceKey), key ∉ existing.map (·.sourceKey))
    {batch : List TimelineEvent} {reported : List String}
    (covered : ∀ event ∈ batch, event.sourceKey ∈ inserted.map (·.sourceKey)
      ∨ event.sourceKey ∈ existing.map (·.sourceKey))
    : ∃ results, reportAppends existing inserted reported batch = some results
        ∧ Answers (existing ++ inserted) (existing.map (·.sourceKey) ++ reported) batch
            results := by
  induction batch generalizing reported with
  | nil => exact ⟨[], rfl, rfl, by simp, trivial⟩
  | cons event rest ih =>
    have split := covered event (by simp)
    obtain ⟨later, answered, positions, stored, first⟩ :=
      @ih (event.sourceKey :: reported) (fun other mem => covered other (by simp [mem]))
    obtain ⟨row, found⟩ : ∃ row,
        (rowOf inserted event.sourceKey).or (rowOf existing event.sourceKey) = some row := by
      rw [← Option.isSome_iff_exists, Option.isSome_or, Bool.or_eq_true, rowOf_isSome, rowOf_isSome]
      exact split
    have told : row ∈ existing ++ inserted ∧ row.sourceKey = event.sourceKey := by
      rcases Option.or_eq_some_iff.mp found with now | ⟨_, before⟩
      · exact ⟨mem_append_right _ (rowOf_some now).1, (rowOf_some now).2⟩
      · exact ⟨mem_append_left _ (rowOf_some before).1, (rowOf_some before).2⟩
    have isNew : event.sourceKey ∈ inserted.map (·.sourceKey)
        ↔ event.sourceKey ∉ existing.map (·.sourceKey) :=
      ⟨apart _, split.resolve_right⟩
    let answer : LedgerAppend := {
      event := eventFromRow row
      sequence := row.sequence
      inserted := (rowOf inserted event.sourceKey).isSome && event.sourceKey ∉ reported }
    have results : reportAppends existing inserted reported (event :: rest)
        = some (answer :: later) := by
      rw [reportAppends, found]
      simp [answered, answer]
    refine ⟨answer :: later, results, ?_, ?_, ?_, ?_⟩
    · simp [answer, positions, eventFromRow, told.2]
    · intro item mem
      rcases mem_cons.mp mem with rfl | inside
      · exact ⟨row, told.1, rfl, rfl⟩
      · exact stored item inside
    · simp only [answer, Bool.and_eq_true, rowOf_isSome, isNew, decide_eq_true_eq,
        eventFromRow, told.2, mem_append, not_or]
    · refine first.congr ?_
      simp [answer, eventFromRow, told.2, or_left_comm]

/-- The stored sequences are those up to the cursor's, and each source key occurs once. -/
structure LedgerTable.Sound : Prop where
  sequences : table.rows.map (·.sequence) = List.range' 1 table.cursorState.lastSequence
  unique : table.sourceKeys.Nodup

theorem sound_empty : LedgerTable.Sound {} := ⟨rfl, nodup_nil⟩

/-- The cursor counts the stored rows, which is what the diagnostics take it for. -/
theorem LedgerTable.Sound.length_rows {table : LedgerTable} (sound : table.Sound)
    : table.rows.length = table.cursorState.lastSequence := by
  simpa using congrArg List.length sound.sequences

/-- The rows stand in the order of their sequences. -/
theorem LedgerTable.Sound.ordered {table : LedgerTable} (sound : table.Sound)
    : table.rows.Pairwise (fun earlier later => earlier.sequence < later.sequence) := by
  have increasing : (table.rows.map (·.sequence)).Pairwise (· < ·) := by
    rw [sound.sequences]
    exact pairwise_lt_range'
  exact pairwise_map.mp increasing

theorem newEvents_apart {batch : List TimelineEvent}
    (mem : key ∈ (newEvents rows batch).map (·.sourceKey))
    : key ∉ rows.map (·.sourceKey) := by
  rw [newEvents_keys, mem_filter] at mem
  rw [← rowOf_isSome]
  simpa using mem.2

theorem mem_of_newEvents {batch : List TimelineEvent} {event : TimelineEvent}
    (mem : event ∈ newEvents rows batch)
    : event ∈ batch := by
  obtain ⟨key, _, found⟩ := mem_filterMap.mp mem
  exact mem_of_find?_eq_some found

variable (zone : Int → Int) (table : LedgerTable) (batch : List TimelineEvent)

/-- The rows after an append: those before, then the new ones. -/
theorem append_rows
    : ∃ inserted, (appendTimelineEvents zone table batch).1.rows = table.rows ++ inserted
        ∧ inserted.map (·.sourceKey) = (newEvents table.rows batch).map (·.sourceKey)
        ∧ inserted.map (·.sequence)
          = List.range' (table.cursorState.lastSequence + 1) (newEvents table.rows batch).length
        ∧ ∀ row ∈ inserted, ∃ event ∈ batch, row = eventValues zone event row.sequence := by
  unfold appendTimelineEvents
  by_cases empty : batch = []
  · subst empty
    exact ⟨[], by simp, rfl, rfl, by simp⟩
  · rw [if_neg empty]
    refine ⟨_, rfl, insertedRows_keys .., insertedRows_sequences .., ?_⟩
    intro row mem
    rw [insertedRows_eq, mem_mapIdx] at mem
    obtain ⟨index, bound, rfl⟩ := mem
    exact ⟨_, mem_of_newEvents (getElem_mem bound), rfl⟩

theorem append_lastSequence
    : (appendTimelineEvents zone table batch).1.cursorState.lastSequence
      = table.cursorState.lastSequence + (newEvents table.rows batch).length := by
  unfold appendTimelineEvents
  by_cases empty : batch = []
  · subst empty
    rfl
  · rw [if_neg empty]
    rfl

theorem append_sourceKeys (key : String)
    : key ∈ (appendTimelineEvents zone table batch).1.sourceKeys
      ↔ key ∈ table.sourceKeys ∨ key ∈ batch.map (·.sourceKey) := by
  obtain ⟨inserted, rows, keys, _⟩ := append_rows zone table batch
  have stored : (rowOf table.rows key).isNone ↔ key ∉ table.sourceKeys := by
    rw [LedgerTable.sourceKeys, ← rowOf_isSome]
    simp
  rw [LedgerTable.sourceKeys, rows, map_append, keys, newEvents_keys, mem_append,
    mem_filter, mem_fromKeys]
  tauto

/-- Every event of a batch is answered with its stored row. -/
theorem append_answers
    : ∃ results, (appendTimelineEvents zone table batch).2 = some results
        ∧ Answers (appendTimelineEvents zone table batch).1.rows table.sourceKeys batch
            results := by
  unfold appendTimelineEvents
  by_cases empty : batch = []
  · subst empty
    exact ⟨[], rfl, rfl, by simp, trivial⟩
  · rw [if_neg empty]
    have keys := insertedRows_keys zone table.cursorState (newEvents table.rows batch)
    have apart : ∀ key ∈ (insertedRows zone table.cursorState
        (newEvents table.rows batch)).map (·.sourceKey), key ∉ table.sourceKeys := by
      intro key mem
      exact newEvents_apart (keys ▸ mem)
    have covered : ∀ event ∈ batch, event.sourceKey ∈ (insertedRows zone table.cursorState
        (newEvents table.rows batch)).map (·.sourceKey)
        ∨ event.sourceKey ∈ table.sourceKeys := by
      intro event mem
      have present : event.sourceKey ∈ batch.map (·.sourceKey) := mem_map_of_mem mem
      rw [keys, newEvents_keys, mem_filter, LedgerTable.sourceKeys, ← rowOf_isSome]
      cases rowOf table.rows event.sourceKey <;> simp [present]
    obtain ⟨results, answered, answers⟩ := @reportAppends_answers _ _ apart _ [] covered
    exact ⟨results, answered, by simpa [LedgerTable.sourceKeys] using answers⟩

variable {table}

theorem LedgerTable.Sound.append (sound : table.Sound)
    : (appendTimelineEvents zone table batch).1.Sound := by
  obtain ⟨inserted, rows, keys, sequences, _⟩ := append_rows zone table batch
  constructor
  · rw [rows, append_lastSequence, map_append, sound.sequences, sequences, Nat.add_comm _ 1,
      range'_append_1]
  · rw [LedgerTable.sourceKeys, rows, map_append, keys]
    refine sound.unique.append ?_ ?_
    · rw [newEvents_keys]
      exact (nodup_fromKeys _).filter _
    · intro key stored new
      exact newEvents_apart new stored

def storedAppend (table : LedgerTable) (event : TimelineEvent) : Option LedgerAppend :=
  (rowOf table.rows event.sourceKey).map fun row =>
    { event := eventFromRow row, sequence := row.sequence, inserted := false }

theorem reportAppends_stored (rows : List LedgerRow) (reported : List String)
    : reportAppends rows [] reported batch = batch.mapM (storedAppend { rows }) := by
  induction batch generalizing reported with
  | nil => rfl
  | cons event rest ih =>
    have none_inserted : rowOf [] event.sourceKey = none := rfl
    rw [reportAppends, mapM_cons, ih, none_inserted]
    unfold storedAppend
    cases rowOf rows event.sourceKey <;> simp

/-- Appending stored events again changes nothing and tells their stored sequences. -/
theorem LedgerTable.Sound.append_again (sound : table.Sound)
    (stored : ∀ event ∈ batch, event.sourceKey ∈ table.sourceKeys)
    : appendTimelineEvents zone table batch = (table, batch.mapM (storedAppend table)) := by
  unfold appendTimelineEvents
  by_cases empty : batch = []
  · subst empty
    rfl
  · have none_new : newEvents table.rows batch = [] := by
      rw [← map_eq_nil_iff, newEvents_keys, filter_eq_nil_iff]
      intro key mem
      obtain ⟨event, inside, rfl⟩ := mem_map.mp (mem_fromKeys.mp mem)
      have found := rowOf_isSome.mpr (stored event inside)
      simp [Option.isSome_iff_ne_none.mp found]
    have positive : table.cursor ≠ none := by
      intro missing
      obtain ⟨event, inside⟩ := exists_mem_of_ne_nil batch empty
      have length := sound.length_rows
      simp only [LedgerTable.cursorState, missing] at length
      have held := stored event inside
      simp [LedgerTable.sourceKeys, length_eq_zero_iff.mp length] at held
    obtain ⟨cursor, held⟩ := Option.ne_none_iff_exists'.mp positive
    rw [if_neg empty]
    simp only [none_new, insertedRows_eq, mapIdx_nil, length_nil, append_nil,
      reportAppends_stored, LedgerTable.cursorState, held, Option.getD_some, Nat.add_zero]
    rw [← held]
    rfl

@[simp] theorem advance_rows (retainedFromSequence : Nat)
    : (advanceTimelineRetention table retainedFromSequence).1.rows = table.rows := rfl

@[simp] theorem advance_sourceKeys (retainedFromSequence : Nat)
    : (advanceTimelineRetention table retainedFromSequence).1.sourceKeys = table.sourceKeys :=
  rfl

theorem LedgerTable.Sound.advance (sound : table.Sound) (retainedFromSequence : Nat)
    : (advanceTimelineRetention table retainedFromSequence).1.Sound := by
  refine ⟨?_, sound.unique⟩
  have kept : (advanceTimelineRetention table retainedFromSequence).1.cursorState.lastSequence
      = table.cursorState.lastSequence := by
    cases held : table.cursor <;>
      simp [advanceTimelineRetention, LedgerTable.cursorState, held]
  rw [kept]
  exact sound.sequences

end K8sClue.Timeline
