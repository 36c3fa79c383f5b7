import K8sClue.Evidence.Windows
import K8sClue.Library.Separated

/-! What commits leave in the tables of the evidence windows.
A commit writes nothing, opens a key, or rotates the window of a key. Each value that a call has
made live then stands in one row, under its key or under its history key, and the other tables
list the calls that made one live.
-/

namespace K8sClue.Evidence

open Python Events Timeline Library List Keyed

variable (env : WindowPlatform)

theorem contains_historyKey (evidenceKey : String) (ids : String × String)
    : contains (historyKey env evidenceKey ids) historySegment = true := by
  rw [contains_iff, historyKey, String.toList_append, String.toList_append]
  exact ⟨_, _, rfl⟩

/-- No key of a call is a history key. -/
theorem ne_historyKey {env : WindowPlatform} {evidenceKey other : String}
    {ids : String × String} (plain : contains evidenceKey historySegment = false)
    : evidenceKey ≠ historyKey env other ids := by
  rintro rfl
  rw [contains_historyKey] at plain
  cases plain

/-- A history key tells the key and the value it was made for.
Witness: the digest has no colon, so it stands behind the last one; the ids have no NUL.
-/
theorem historyKey_inj {env : WindowPlatform} {left right : String}
    {leftIds rightIds : String × String}
    (same : historyKey env left leftIds = historyKey env right rightIds)
    (storableLeft : storableText leftIds.1 = true) (storableRight : storableText rightIds.1 = true)
    : left = right ∧ leftIds = rightIds := by
  have lists : (left ++ ":history").toList
        ++ ':' :: (env.digest (leftIds.1 ++ String.singleton nul ++ leftIds.2)).toList
      = (right ++ ":history").toList
        ++ ':' :: (env.digest (rightIds.1 ++ String.singleton nul ++ rightIds.2)).toList := by
    simpa [historyKey, historySegment] using congrArg String.toList same
  obtain ⟨keys, digests⟩ := separated_last lists (env.digest_plain _) (env.digest_plain _)
  have raws := env.digest_injective (String.toList_inj.mp digests)
  have parts : leftIds.1.toList ++ nul :: leftIds.2.toList
      = rightIds.1.toList ++ nul :: rightIds.2.toList := by
    simpa using congrArg String.toList raws
  obtain ⟨events, correlations⟩ :=
    separated_first parts (by simpa [storableText] using storableLeft)
      (by simpa [storableText] using storableRight)
  refine ⟨?_, Prod.ext (String.toList_inj.mp events) (String.toList_inj.mp correlations)⟩
  rw [String.toList_append, String.toList_append] at keys
  exact String.toList_inj.mp (append_cancel_right keys)

def WindowEvent.success : WindowEvent → Option EvidenceCall
  | .looked _ => none
  | .returned call result => if result.duplicate then none else some call

def successes (log : List WindowEvent) : List EvidenceCall := log.filterMap (·.success)

theorem successes_concat (log : List WindowEvent) (entry : WindowEvent)
    : successes (log ++ [entry]) = successes log ++ entry.success.toList := by
  cases found : entry.success <;> simp [successes, found]

structure HeldFor (call : EvidenceCall) (row : WindowRow)
    : Prop where
  values : row.toWindowValues = call.row.toWindowValues
  key : row.evidenceKey = call.evidenceKey
    ∨ row.evidenceKey = historyKey env call.evidenceKey call.row.ids

/-- A value that was live is found under its history key. -/
theorem HeldFor.archived {env : WindowPlatform} {call : EvidenceCall} {row : WindowRow}
    (held : HeldFor env call row) (plain : contains row.evidenceKey historySegment = false)
    : HeldFor env call (row.archived env) := by
  have ids : row.ids = call.row.ids := congrArg WindowValues.ids held.values
  have own := held.key.resolve_right (ne_historyKey plain)
  refine ⟨held.values, .inr ?_⟩
  rw [← ids, ← own]
  rfl

structure RowsHold (windows : List WindowRow)
    (calls : List EvidenceCall)
    : Prop where
  unique : Unique (·.evidenceKey) windows
  uniqueEvents : Unique (fun row : WindowRow => row.eventId) windows
  storable : ∀ row ∈ windows, storableText row.eventId = true
  kept : ∀ call ∈ calls, ∃ row ∈ windows, HeldFor env call row
  live : ∀ call ∈ calls, ∃ row ∈ windows, row.evidenceKey = call.evidenceKey
  sourced : ∀ row ∈ windows, ∃ call ∈ calls, HeldFor env call row
  plain : ∀ call ∈ calls, contains call.evidenceKey historySegment = false

structure TablesHold (tables : EvidenceTables)
    (calls : List EvidenceCall)
    : Prop where
  rows : RowsHold env tables.windows calls
  events : tables.events = calls.map (·.trustedEnvelope)
  outbox : tables.outbox = calls.map fun call => { envelope := call.trustedEnvelope }
  facts : tables.facts = calls.flatMap (·.facts)
  snapshots : tables.snapshots = calls.filterMap (·.snapshot)

def EvidenceCall.written (call : EvidenceCall) (rows : List WindowRow)
    (replaced : Option WindowRow)
    : WindowWrites where
  inserted := rows
  replaced := replaced
  events := [call.trustedEnvelope]
  outbox := [{ envelope := call.trustedEnvelope }]
  clearsJobs := call.expected.isNone
  facts := call.facts
  snapshots := call.snapshot.toList

variable (env : WindowPlatform) (windows : List WindowRow) (call : EvidenceCall) in
inductive CommitMoves : CallResult → WindowWrites → Prop where
  | duplicate {result : CallResult} (duplicate : result.duplicate = true)
      : CommitMoves result {}
  | opened (storable : call.row.storable = true)
      (free : ∀ row ∈ windows, row.evidenceKey ≠ call.evidenceKey)
      : CommitMoves call.newResult (call.written [call.row] none)
  | rotated {current : WindowRow} (storable : call.row.storable = true)
      (found : current ∈ windows) (sameKey : current.evidenceKey = call.evidenceKey)
      (expected : call.expected = some current.ids)
      : CommitMoves call.newResult
          (call.written [current.archived env] (some call.row))

namespace RowsHold

variable {env : WindowPlatform} {windows : List WindowRow} {calls : List EvidenceCall}
  {call : EvidenceCall} {current : WindowRow}

variable (holds : RowsHold env windows calls)
include holds

/-- A row under a key without a history segment is the row of a call. -/
theorem eq_row {row : WindowRow}
    (mem : row ∈ windows) (plain : contains row.evidenceKey historySegment = false)
    : ∃ source ∈ calls, row = source.row := by
  obtain ⟨source, known, held⟩ := holds.sourced row mem
  refine ⟨source, known, ?_⟩
  have sameKey : row.evidenceKey = source.row.evidenceKey := by
    rcases held.key with same | history
    · exact same
    · exact absurd history (ne_historyKey plain)
  have values := held.values
  cases row
  simp_all [EvidenceCall.row]

/-- The history key of a live row is not taken.
Witness: a row under it would hold the event of the live row, whose key is none.
-/
theorem history_free (found : current ∈ windows)
    (plain : contains current.evidenceKey historySegment = false)
    : ∀ row ∈ windows, row.evidenceKey ≠ historyKey env current.evidenceKey current.ids := by
  intro row mem same
  obtain ⟨source, known, held⟩ := holds.sourced row mem
  rcases held.key with own | history
  · exact ne_historyKey (holds.plain source known) (own.symm.trans same)
  · have event : row.eventId = source.row.eventId := congrArg (·.eventId) held.values
    have ids := (historyKey_inj (history.symm.trans same)
      (show storableText source.row.eventId = true from event ▸ holds.storable row mem)
      (holds.storable current found)).2
    have sameRow := holds.uniqueEvents.eq_of_key mem found (event.trans (congrArg Prod.fst ids))
    exact ne_historyKey plain (sameRow ▸ same)

theorem event_fresh
    (fresh : call.eventId ∉ calls.map (·.eventId))
    : ∀ row ∈ windows, row.eventId ≠ call.eventId := by
  intro row mem same
  obtain ⟨source, known, held⟩ := holds.sourced row mem
  have event : row.eventId = source.eventId := congrArg (·.eventId) held.values
  exact fresh (mem_map.mpr ⟨source, known, event.symm.trans same⟩)

omit holds in
theorem storable_eventId {row : WindowRow} (storable : row.storable = true)
    : storableText row.eventId = true := by
  simp only [WindowRow.storable, all_cons, Bool.and_eq_true] at storable
  exact storable.1.2.2.2.2.2.1

/-- A call opens a key that is free. -/
theorem opened (storable : call.row.storable = true)
    (free : ∀ row ∈ windows, row.evidenceKey ≠ call.evidenceKey)
    (fresh : call.eventId ∉ calls.map (·.eventId))
    (plain : contains call.evidenceKey historySegment = false)
    : RowsHold env (windows ++ [call.row]) (calls ++ [call]) where
  unique := holds.unique.concat free
  uniqueEvents := holds.uniqueEvents.concat (holds.event_fresh fresh)
  storable := forall_mem_append.mpr
    ⟨holds.storable, forall_mem_singleton.mpr (storable_eventId storable)⟩
  kept := forall_mem_append.mpr
    ⟨fun source old => (holds.kept source old).imp fun _ => And.imp_left (mem_append_left _),
      forall_mem_singleton.mpr ⟨call.row, by simp, rfl, .inl rfl⟩⟩
  live := forall_mem_append.mpr
    ⟨fun source old => (holds.live source old).imp fun _ => And.imp_left (mem_append_left _),
      forall_mem_singleton.mpr ⟨call.row, by simp, rfl⟩⟩
  sourced := forall_mem_append.mpr
    ⟨fun row old => (holds.sourced row old).imp fun _ => And.imp_left (mem_append_left _),
      forall_mem_singleton.mpr ⟨call, by simp, rfl, .inl rfl⟩⟩
  plain := forall_mem_append.mpr ⟨holds.plain, forall_mem_singleton.mpr plain⟩

def rotatedWindows (env : WindowPlatform) (windows : List WindowRow) (call : EvidenceCall)
    (current : WindowRow)
    : List WindowRow :=
  (windows.map fun row => if row.evidenceKey = call.evidenceKey then call.row else row)
    ++ [current.archived env]

omit holds in
theorem mem_rotatedWindows (found : current ∈ windows)
    (sameKey : current.evidenceKey = call.evidenceKey) {row : WindowRow}
    : row ∈ rotatedWindows env windows call current
      ↔ (row ∈ windows ∧ row.evidenceKey ≠ call.evidenceKey)
        ∨ row = call.row ∨ row = current.archived env := by
  rw [rotatedWindows, mem_append, mem_singleton, mem_map, ← or_assoc]
  refine or_congr_left ?_
  constructor
  · rintro ⟨old, mem, rfl⟩
    split
    · exact .inr rfl
    next other => exact .inl ⟨mem, other⟩
  · rintro (⟨mem, other⟩ | rfl)
    · exact ⟨row, mem, if_neg other⟩
    · exact ⟨current, found, if_pos sameKey⟩

/-- A call that rotates a live row archives its value. -/
theorem rotated (storable : call.row.storable = true)
    (found : current ∈ windows) (sameKey : current.evidenceKey = call.evidenceKey)
    (fresh : call.eventId ∉ calls.map (·.eventId))
    (plain : contains call.evidenceKey historySegment = false)
    : RowsHold env (rotatedWindows env windows call current) (calls ++ [call]) := by
  have plainCurrent : contains current.evidenceKey historySegment = false := sameKey ▸ plain
  have historyFree := holds.history_free found plainCurrent
  have eventFresh := holds.event_fresh fresh
  have only : ∀ row ∈ windows, row.evidenceKey = call.evidenceKey → row = current :=
    fun row mem same => holds.unique.eq_of_key mem found (same.trans sameKey.symm)
  have written {row : WindowRow} :=
    @mem_rotatedWindows env windows call current found sameKey row
  have unique : Unique (·.evidenceKey) (rotatedWindows env windows call current) := by
    refine (holds.unique.map ?_).concat ?_
    · intro row
      split
      next same => exact same.symm
      · rfl
    · intro row mem
      obtain ⟨old, inside, rfl⟩ := mem_map.mp mem
      split
      · exact ne_historyKey plain
      · exact historyFree old inside
  exact {
    unique := unique
    uniqueEvents := by
      refine Nodup.map_on ?_ (Nodup.of_map _ unique)
      intro first inFirst second inSecond same
      rcases written.mp inFirst with ⟨old, other⟩ | rfl | rfl <;>
        rcases written.mp inSecond with ⟨old', other'⟩ | rfl | rfl
      · exact holds.uniqueEvents.eq_of_key old old' same
      · exact absurd same (eventFresh first old)
      · exact absurd (holds.uniqueEvents.eq_of_key old found same ▸ sameKey) other
      · exact absurd same.symm (eventFresh second old')
      · rfl
      · exact absurd same.symm (eventFresh current found)
      · exact absurd (holds.uniqueEvents.eq_of_key old' found same.symm ▸ sameKey) other'
      · exact absurd same (eventFresh current found)
      · rfl
    storable := by
      intro row mem
      rcases written.mp mem with ⟨old, -⟩ | rfl | rfl
      · exact holds.storable row old
      · exact storable_eventId storable
      · exact holds.storable current found
    kept := by
      refine forall_mem_append.mpr ⟨fun other old => ?_, forall_mem_singleton.mpr
        ⟨call.row, written.mpr (.inr (.inl rfl)), rfl, .inl rfl⟩⟩
      obtain ⟨row, inside, held⟩ := holds.kept other old
      by_cases same : row.evidenceKey = call.evidenceKey
      · -- The value of the row that is replaced goes to its history key.
        obtain rfl := only row inside same
        exact ⟨_, written.mpr (.inr (.inr rfl)), held.archived plainCurrent⟩
      · exact ⟨row, written.mpr (.inl ⟨inside, same⟩), held⟩
    live := by
      refine forall_mem_append.mpr ⟨fun other old => ?_, forall_mem_singleton.mpr
        ⟨call.row, written.mpr (.inr (.inl rfl)), rfl⟩⟩
      obtain ⟨row, inside, sameRow⟩ := holds.live other old
      by_cases same : row.evidenceKey = call.evidenceKey
      · exact ⟨call.row, written.mpr (.inr (.inl rfl)), same.symm.trans sameRow⟩
      · exact ⟨row, written.mpr (.inl ⟨inside, same⟩), sameRow⟩
    sourced := by
      intro row mem
      rcases written.mp mem with ⟨old, -⟩ | rfl | rfl
      · obtain ⟨origin, listed, held⟩ := holds.sourced row old
        exact ⟨origin, mem_append_left _ listed, held⟩
      · exact ⟨call, by simp, rfl, .inl rfl⟩
      · obtain ⟨origin, listed, held⟩ := holds.sourced current found
        exact ⟨origin, mem_append_left _ listed, held.archived plainCurrent⟩
    plain := forall_mem_append.mpr ⟨holds.plain, forall_mem_singleton.mpr plain⟩ }

end RowsHold

namespace TablesHold

variable {env : WindowPlatform} {tables : EvidenceTables} {calls : List EvidenceCall}
  {call : EvidenceCall} {current : WindowRow}

theorem commit_nothing : tables.commit call {} = tables := by
  have same : tables.windows.map (WindowWrites.update {}) = tables.windows := map_id _
  simp_all [EvidenceTables.commit]

theorem windows_opened
    : (tables.commit call (call.written [call.row] none)).windows
      = tables.windows ++ [call.row] := by
  have same : tables.windows.map (call.written [call.row] none).update = tables.windows :=
    map_id _
  rw [EvidenceTables.commit, same]
  rfl

/-- The other tables list one more call. -/
theorem written (holds : TablesHold env tables calls) {inserted : List WindowRow}
    {replaced : Option WindowRow}
    (rows : RowsHold env (tables.commit call (call.written inserted replaced)).windows
      (calls ++ [call]))
    : TablesHold env (tables.commit call (call.written inserted replaced))
        (calls ++ [call]) where
  rows := rows
  events := by simp [EvidenceTables.commit, EvidenceCall.written, holds.events]
  outbox := by simp [EvidenceTables.commit, EvidenceCall.written, holds.outbox]
  facts := by simp [EvidenceTables.commit, EvidenceCall.written, holds.facts]
  snapshots := by
    cases saved : call.snapshot <;>
      simp [EvidenceTables.commit, EvidenceCall.written, holds.snapshots, saved]

/-- Whatever a commit does, the tables list the calls that made a value live. -/
theorem commit {result : CallResult} {writes : WindowWrites}
    (holds : TablesHold env tables calls)
    (moves : CommitMoves env tables.windows call result writes)
    (fresh : call.eventId ∉ calls.map (·.eventId))
    (plain : contains call.evidenceKey historySegment = false)
    : TablesHold env (tables.commit call writes)
        (calls ++ (WindowEvent.returned call result).success.toList) := by
  cases moves with
  | duplicate duplicate =>
    rw [commit_nothing, WindowEvent.success, if_pos duplicate]
    simpa using holds
  | opened storable free =>
    refine holds.written ?_
    rw [windows_opened]
    exact holds.rows.opened storable free fresh plain
  | rotated storable found sameKey expected =>
    refine holds.written ?_
    exact holds.rows.rotated storable found sameKey fresh plain

end TablesHold

end K8sClue.Evidence
