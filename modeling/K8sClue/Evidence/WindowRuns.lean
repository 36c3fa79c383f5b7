import K8sClue.Evidence.Rotations

/-! Evidence windows are recorded once and never lost, in every interleaving of the two
functions.
-/

namespace K8sClue.Evidence

open Python Events Timeline Library List Function Keyed

structure Rotating (env : WindowPlatform) (windows : List WindowRow)
    (locks : WindowLock → Option Nat) (id : Nat) (call : EvidenceCall) (current : WindowRow)
    : Prop where
  found : current ∈ windows
  sameKey : current.evidenceKey = call.evidenceKey
  expected : call.expected = some current.ids
  row : locks (.row call.evidenceKey) = some id
  history : locks (.newWindow (historyKey env call.evidenceKey current.ids)) = some id

variable (env : WindowPlatform) (windows : List WindowRow)
  (locks : WindowLock → Option Nat) (log : List WindowEvent) (id : Nat) (call : EvidenceCall) in
inductive WindowWork : List WindowRow → Option WindowRow → Prop where
  | opening (storable : call.row.storable = true)
      (free : ∀ row ∈ windows, row.evidenceKey ≠ call.evidenceKey)
      (own : locks (.newWindow call.evidenceKey) = some id)
      (early : ∀ ids, ¬ Late log call ids)
      : WindowWork [call.row] none
  | rotating {current : WindowRow} (storable : call.row.storable = true)
      (rotating : Rotating env windows locks id call current)
      (late : Late log call current.ids)
      : WindowWork [current.archived env] (some call.row)

variable (env : WindowPlatform) (windows : List WindowRow)
  (locks : WindowLock → Option Nat) (log : List WindowEvent) (id : Nat) (call : EvidenceCall) in
inductive Progress : WindowStage → WindowWrites → Prop where
  | started (unlooked : log.any (·.lookedBy call.eventId) = false)
      : Progress .started {}
  | locked (unlooked : log.any (·.lookedBy call.eventId) = false)
      : Progress .locked {}
  | missing (early : ∀ ids, ¬ Late log call ids)
      : Progress .missing {}
  | found {current : WindowRow} (found : current ∈ windows)
      (sameKey : current.evidenceKey = call.evidenceKey)
      (row : locks (.row call.evidenceKey) = some id) (late : Late log call current.ids)
      : Progress (.found current) {}
  | conflicted (early : ∀ ids, ¬ Late log call ids)
      : Progress .conflicted {}
  | archived {current : WindowRow} (rotating : Rotating env windows locks id call current)
      (late : Late log call current.ids)
      : Progress .archived
          { inserted := [current.archived env] }
  | inserted {rows : List WindowRow} {replaced : Option WindowRow}
      (work : WindowWork env windows locks log id call rows replaced)
      : Progress .inserted { inserted := rows, replaced }
  | replaced {rows : List WindowRow} {replaced : Option WindowRow}
      (work : WindowWork env windows locks log id call rows replaced)
      : Progress .replaced { inserted := rows, replaced }
  | staged {rows : List WindowRow} {replaced : Option WindowRow}
      (work : WindowWork env windows locks log id call rows replaced)
      : Progress .staged {
          inserted := rows
          replaced
          events := [call.trustedEnvelope]
          outbox := [{ envelope := call.trustedEnvelope }] }
  | duplicate {result : CallResult} (duplicate : result.duplicate = true)
      (past : Past windows log call)
      : Progress (.answered result) {}
  | done {rows : List WindowRow} {replaced : Option WindowRow}
      (work : WindowWork env windows locks log id call rows replaced)
      : Progress (.answered call.newResult)
          (call.written rows replaced)

structure Stays (windows next : List WindowRow) (locks nextLocks : WindowLock → Option Nat)
    (log nextLog : List WindowEvent) (id : Nat) (call : EvidenceCall)
    : Prop where
  kept : ∀ name, locks name = some id → nextLocks name = some id
  free : ∀ key, locks (.newWindow key) = some id
    → (∀ row ∈ windows, row.evidenceKey ≠ key) → ∀ row ∈ next, row.evidenceKey ≠ key
  rows : ∀ row ∈ windows, locks (.row row.evidenceKey) = some id → row ∈ next
  late : ∀ ids, Late nextLog call ids ↔ Late log call ids
  unlooked : nextLog.any (·.lookedBy call.eventId) = log.any (·.lookedBy call.eventId)
  past : Past windows log call → Past next nextLog call

section Stays

variable {env : WindowPlatform} {windows next : List WindowRow}
  {locks nextLocks : WindowLock → Option Nat} {log nextLog : List WindowEvent} {id : Nat}
  {call : EvidenceCall}

theorem Rotating.stays {current : WindowRow}
    (rotating : Rotating env windows locks id call current)
    (stays : Stays windows next locks nextLocks log nextLog id call)
    : Rotating env next nextLocks id call current where
  found := stays.rows current rotating.found (rotating.sameKey ▸ rotating.row)
  sameKey := rotating.sameKey
  expected := rotating.expected
  row := stays.kept _ rotating.row
  history := stays.kept _ rotating.history

theorem WindowWork.stays {rows : List WindowRow} {replaced : Option WindowRow}
    (work : WindowWork env windows locks log id call rows replaced)
    (stays : Stays windows next locks nextLocks log nextLog id call)
    : WindowWork env next nextLocks nextLog id call rows replaced := by
  cases work with
  | opening storable free own early =>
    exact .opening storable (stays.free _ own free) (stays.kept _ own)
      fun ids late => early ids ((stays.late ids).mp late)
  | rotating storable rotating late =>
    exact .rotating storable (rotating.stays stays) ((stays.late _).mpr late)

theorem Progress.stays {stage : WindowStage} {writes : WindowWrites}
    (progress : Progress env windows locks log id call stage writes)
    (stays : Stays windows next locks nextLocks log nextLog id call)
    : Progress env next nextLocks nextLog id call stage writes := by
  cases progress with
  | started unlooked => exact .started (stays.unlooked.trans unlooked)
  | locked unlooked => exact .locked (stays.unlooked.trans unlooked)
  | missing early => exact .missing fun ids late => early ids ((stays.late ids).mp late)
  | found found sameKey row late =>
    exact .found (stays.rows _ found (sameKey ▸ row)) sameKey (stays.kept _ row)
      ((stays.late _).mpr late)
  | conflicted early => exact .conflicted fun ids late => early ids ((stays.late ids).mp late)
  | archived rotating late => exact .archived (rotating.stays stays) ((stays.late _).mpr late)
  | inserted work => exact .inserted (work.stays stays)
  | replaced work => exact .replaced (work.stays stays)
  | staged work => exact .staged (work.stays stays)
  | duplicate duplicate past => exact .duplicate duplicate (stays.past past)
  | done work => exact .done (work.stays stays)

/-- A step that changes neither the windows nor the log. -/
theorem stays_locks (kept : ∀ name, locks name = some id → nextLocks name = some id)
    : Stays windows windows locks nextLocks log log id call where
  kept := kept
  free := fun _ _ free => free
  rows := fun _ mem _ => mem
  late := fun _ => Iff.rfl
  unlooked := rfl
  past := fun past => past

/-- Another call looks for its row. -/
theorem stays_looked {other : EvidenceCall} (apart : other.eventId ≠ call.eventId)
    (kept : ∀ name, locks name = some id → nextLocks name = some id)
    : Stays windows windows locks nextLocks log (log ++ [.looked other]) id call := by
  have unseen : (WindowEvent.looked other).lookedBy call.eventId = false := by
    simp [WindowEvent.lookedBy, apart]
  exact {
    kept := kept
    free := fun _ _ free => free
    rows := fun _ mem _ => mem
    late := fun _ => late_concat unseen
    unlooked := by simp [unseen]
    past := fun past ids expected late => past ids expected ((late_concat unseen).mp late) }

/-- Another call commits: the rows and keys that it writes are its own. -/
theorem stays_committed {other : EvidenceCall} {otherId : Nat} {result : CallResult}
    (apart : otherId ≠ id) (fresh : other.eventId ∉ returnedIds log)
    (plain : contains call.evidenceKey historySegment = false)
    (kept : ∀ name, locks name = some id → nextLocks name = some id)
    (written : ∀ row ∈ next, row ∈ windows
      ∨ (row = other.row ∧ locks (.newWindow other.evidenceKey) = some otherId)
      ∨ (row = other.row ∧ ∃ old ∈ windows, old.evidenceKey = other.evidenceKey)
      ∨ (contains row.evidenceKey historySegment = true
          ∧ locks (.newWindow row.evidenceKey) = some otherId))
    (left : ∀ row ∈ windows, row ∈ next ∨ locks (.row row.evidenceKey) = some otherId)
    : Stays windows next locks nextLocks log (log ++ [.returned other result]) id call := by
  have unseen : (WindowEvent.returned other result).lookedBy call.eventId = false := rfl
  have notBoth {name : WindowLock} (ours : locks name = some id)
      (theirs : locks name = some otherId) : False :=
    apart (Option.some.inj (theirs.symm.trans ours))
  exact {
    kept := kept
    free := by
      intro key own free row mem same
      rcases written row mem with old | ⟨rfl, new⟩ | ⟨rfl, old, inside, sameKey⟩ | ⟨_, new⟩
      · exact free row old same
      · exact notBoth own (same ▸ new)
      · exact free old inside (sameKey.trans same)
      · exact notBoth own (same ▸ new)
    rows := by
      intro row mem own
      rcases left row mem with inside | theirs
      · exact inside
      · exact absurd theirs (notBoth own)
    late := fun _ => late_concat unseen
    unlooked := by simp [unseen]
    past := by
      intro past ids expected late
      have before := (late_concat unseen).mp late
      rintro ⟨row, mem, key, value⟩
      rcases written row mem with old | ⟨rfl, _⟩ | ⟨rfl, _⟩ | ⟨history, _⟩
      · exact past ids expected before ⟨row, old, key, value⟩
      · exact RotationsHold.ids_ne fresh before.madeLive value
      · exact RotationsHold.ids_ne fresh before.madeLive value
      · rw [key, plain] at history
        cases history }

end Stays

-----------------------------------------------------------------------------------------
-- Fresh event ids
-----------------------------------------------------------------------------------------

def WindowState.openCalls (state : WindowState) (id : Nat) : Option EvidenceCall :=
  (state.transactions id).map (·.call)

structure FreshHold (issued : List String) (calls : Nat → Option EvidenceCall)
    (log : List WindowEvent)
    : Prop where
  logged : ∀ entry ∈ log, entry.call.eventId ∈ issued
  known : ∀ id call, calls id = some call → call.eventId ∈ issued
  apart : ∀ id other call second, calls id = some call → calls other = some second
    → call.eventId = second.eventId → id = other
  unreturned : ∀ id call, calls id = some call → call.eventId ∉ returnedIds log
  plain : ∀ id call, calls id = some call → contains call.evidenceKey historySegment = false
  nodup : (returnedIds log).Nodup

namespace FreshHold

variable {issued : List String} {calls : Nat → Option EvidenceCall} {log : List WindowEvent}
  {id : Nat} {call : EvidenceCall}

theorem begun (holds : FreshHold issued calls log) (fresh : call.eventId ∉ issued)
    (plain : contains call.evidenceKey historySegment = false)
    : FreshHold (call.eventId :: issued) (update calls id (some call)) log := by
  have unreturned : call.eventId ∉ returnedIds log := by
    intro mem
    obtain ⟨entry, inside, isReturned⟩ := mem_filterMap.mp mem
    cases entry with
    | looked other => cases isReturned
    | returned other result =>
      exact fresh (Option.some.inj isReturned ▸ holds.logged _ inside)
  exact {
    logged := fun entry mem => mem_cons_of_mem _ (holds.logged entry mem)
    known := by
      intro other second opened
      rcases of_update_some opened with ⟨_, ⟨⟩⟩ | ⟨_, before⟩
      · exact mem_cons_self
      · exact mem_cons_of_mem _ (holds.known other second before)
    apart := by
      intro first other left right openLeft openRight same
      rcases of_update_some openLeft with ⟨rfl, ⟨⟩⟩ | ⟨_, beforeLeft⟩ <;>
        rcases of_update_some openRight with ⟨rfl, ⟨⟩⟩ | ⟨_, beforeRight⟩
      · rfl
      · exact absurd (same ▸ holds.known other right beforeRight) fresh
      · exact absurd (same ▸ holds.known first left beforeLeft) fresh
      · exact holds.apart first other left right beforeLeft beforeRight same
    unreturned := by
      intro other second opened
      rcases of_update_some opened with ⟨_, ⟨⟩⟩ | ⟨_, before⟩
      · exact unreturned
      · exact holds.unreturned other second before
    plain := by
      intro other second opened
      rcases of_update_some opened with ⟨_, ⟨⟩⟩ | ⟨_, before⟩
      · exact plain
      · exact holds.plain other second before
    nodup := holds.nodup }

variable (holds : FreshHold issued calls log)
include holds

theorem ended : FreshHold issued (update calls id none) log where
  __ := holds
  known := fun other second opened => holds.known other second (of_update_none opened).2
  apart := fun first other left right openLeft openRight =>
    holds.apart first other left right (of_update_none openLeft).2 (of_update_none openRight).2
  unreturned := fun other second opened => holds.unreturned other second (of_update_none opened).2
  plain := fun other second opened => holds.plain other second (of_update_none opened).2

theorem logged_concat (opened : calls id = some call)
    {entry : WindowEvent} (isOwn : entry.call = call)
    : ∀ other ∈ log ++ [entry], other.call.eventId ∈ issued := by
  intro other mem
  rcases mem_append.mp mem with old | new
  · exact holds.logged other old
  · rw [mem_singleton.mp new, isOwn]
    exact holds.known id call opened

theorem looked (opened : calls id = some call)
    : FreshHold issued calls (log ++ [.looked call]) := by
  have same : returnedIds (log ++ [.looked call]) = returnedIds log := by
    rw [returnedIds_concat]
    simp [WindowEvent.returnedId]
  exact { holds with
    logged := holds.logged_concat opened rfl
    unreturned := fun other second isOpen => same ▸ holds.unreturned other second isOpen
    nodup := same ▸ holds.nodup }

theorem returned (opened : calls id = some call) (result : CallResult)
    : FreshHold issued (update calls id none) (log ++ [.returned call result]) := by
  have more : returnedIds (log ++ [.returned call result])
      = returnedIds log ++ [call.eventId] := returnedIds_concat _
  exact { holds.ended with
    logged := holds.logged_concat opened rfl
    unreturned := by
      intro other second isOpen
      obtain ⟨different, before⟩ := of_update_none isOpen
      rw [more, mem_append, mem_singleton]
      rintro (old | same)
      · exact holds.unreturned other second before old
      · exact different (holds.apart other id second call before opened same)
    nodup := by
      rw [more, nodup_append]
      refine ⟨holds.nodup, nodup_singleton _, ?_⟩
      intro eventId mem other single same
      rw [mem_singleton.mp single] at same
      exact holds.unreturned id call opened (same ▸ mem) }

omit holds

end FreshHold

-----------------------------------------------------------------------------------------
-- The invariant of a run
-----------------------------------------------------------------------------------------

theorem successes_ids_sublist (log : List WindowEvent)
    : ((successes log).map (·.eventId)).Sublist (returnedIds log) := by
  induction log with
  | nil => exact .slnil
  | cons entry rest ih =>
    cases entry with
    | looked call => exact ih
    | returned call result =>
      have cons : returnedIds (.returned call result :: rest)
          = call.eventId :: returnedIds rest := rfl
      rw [successes, filterMap_cons]
      cases found : (WindowEvent.returned call result).success with
      | none => exact ih.cons _
      | some source =>
        rw [WindowEvent.success, Option.ite_none_left_eq_some] at found
        cases Option.some.inj found.2
        exact ih.cons_cons _

variable (env : WindowPlatform)

structure WindowsHold (state : WindowState)
    (log : List WindowEvent)
    : Prop where
  tables : TablesHold env state.tables (successes log)
  fresh : FreshHold state.issued state.openCalls log
  progress : ∀ id tx, state.transactions id = some tx →
    Progress env state.tables.windows state.locks log id tx.call tx.stage tx.writes
  rotations : RotationsHold state.tables.windows log

theorem lock_kept {state : WindowState} {name : WindowLock} {id : Nat}
    (can : state.canLock name id = true)
    : ∀ other owner, state.locks other = some owner
        → (state.lock name id).locks other = some owner := by
  intro other owner held
  by_cases same : other = name
  · rw [WindowState.canLock, ← same, held] at can
    have isOwner : owner = id := by simpa using can
    simp [WindowState.lock, same, isOwner]
  · simp [WindowState.lock, update_of_ne same, held]

theorem finish_kept {state : WindowState} {name : WindowLock} {id owner : Nat}
    (different : owner ≠ id) (held : state.locks name = some owner)
    : (state.finish id).locks name = some owner := by
  simp [WindowState.finish, held, different]

theorem openCalls_finish (state : WindowState) (id : Nat)
    : (state.finish id).openCalls = update state.openCalls id none := by
  funext other
  by_cases same : other = id
  · simp [WindowState.openCalls, WindowState.finish, same]
  · simp [WindowState.openCalls, WindowState.finish, update_of_ne same]

theorem openCalls_keep (state : WindowState) (id : Nat) (current : WindowTransaction)
    : (state.keep id current).openCalls
      = update state.openCalls id (some current.call) := by
  funext other
  by_cases same : other = id
  · simp [WindowState.openCalls, WindowState.keep, same]
  · simp [WindowState.openCalls, WindowState.keep, update_of_ne same]

namespace WindowsHold

variable {env : WindowPlatform} {state next : WindowState} {log : List WindowEvent}
  {id : Nat} {tx : WindowTransaction}

theorem openCall (opened : state.transactions id = some tx)
    : state.openCalls id = some tx.call := by
  rw [WindowState.openCalls, opened]
  rfl

theorem updated_call (opened : state.transactions id = some tx)
    : update state.openCalls id (some tx.call) = state.openCalls := by
  rw [← openCall opened, update_eq_self]

variable {key : String} {stage : WindowStage} {writes : WindowWrites} {rows : List WindowRow}
  {replaced : Option WindowRow}

theorem window_none
    : state.window key = none ↔ ∀ row ∈ state.tables.windows, row.evidenceKey ≠ key :=
  find_eq_none

/-- A step that is not seen. -/
theorem silent (holds : WindowsHold env next log) : WindowsHold env next (log ++ []) := by
  rw [append_nil]
  exact holds

variable (holds : WindowsHold env state log)
  (opened : state.transactions id = some tx) (unwritten : tx.writes = {})
  {current : WindowRow} (found : current ∈ state.tables.windows)
  (sameKey : current.evidenceKey = tx.call.evidenceKey)
  (row : state.locks (.row tx.call.evidenceKey) = some id) (late : Late log tx.call current.ids)
include holds

variable {locks : WindowLock → Option Nat}

/-- A statement that changes no transaction but its own. -/
theorem keeps {nextLog : List WindowEvent} {issued : List String} {current : WindowTransaction}
    (tables : TablesHold env state.tables (successes nextLog))
    (fresh : FreshHold issued (update state.openCalls id (some current.call)) nextLog)
    (others : ∀ other known, other ≠ id → state.transactions other = some known
      → Stays state.tables.windows state.tables.windows state.locks locks log nextLog other
          known.call)
    (progress : Progress env state.tables.windows locks nextLog id current.call
      current.stage current.writes)
    (rotations : RotationsHold state.tables.windows nextLog)
    : WindowsHold env { state.keep id current with locks, issued } nextLog where
  tables := tables
  fresh := by
    rwa [← openCalls_keep] at fresh
  progress := by
    intro other known isOpen
    rcases of_update_some isOpen with ⟨rfl, ⟨⟩⟩ | ⟨different, before⟩
    · exact progress
    · exact (holds.progress other known before).stays (others other known different before)
  rotations := rotations

theorem begun {call : EvidenceCall} (admitted : state.admits call = true)
    : WindowsHold env
        { state.keep id { call } with issued := call.eventId :: state.issued } log := by
  obtain ⟨fresh, plain⟩ : call.eventId ∉ state.issued
      ∧ contains call.evidenceKey historySegment = false := by
    simpa [WindowState.admits] using admitted
  refine holds.keeps holds.tables (holds.fresh.begun fresh plain) ?_ (.started ?_) holds.rotations
  · intro _ _ _ _
    exact stays_locks fun _ held => held
  · cases looked : log.any (·.lookedBy call.eventId) with
    | false => rfl
    | true =>
      obtain ⟨entry, inside, own⟩ := any_eq_true.mp looked
      cases entry with
      | returned _ _ => cases own
      | looked other =>
        have same : other.eventId = call.eventId := by
          simpa [WindowEvent.lookedBy] using own
        exact absurd (same ▸ holds.fresh.logged _ inside) fresh

theorem finish (id : Nat) : WindowsHold env (state.finish id) log where
  tables := holds.tables
  fresh := by
    rw [openCalls_finish]
    exact holds.fresh.ended
  progress := by
    intro other current isOpen
    obtain ⟨different, before⟩ := of_update_none isOpen
    exact (holds.progress other current before).stays
      (stays_locks fun _ held => finish_kept different held)
  rotations := holds.rotations

include found sameKey in
/-- A row that is not the expected one: what was expected is live no more. -/
theorem past_of_found (other : tx.call.expected ≠ some current.ids)
    : Past state.tables.windows log tx.call := by
  rintro ids expected - ⟨row, mem, key, rfl⟩
  obtain rfl := holds.tables.rows.unique.eq_of_key mem found (key.trans sameKey.symm)
  exact other expected

include opened

/-- A statement that only moves its own transaction and takes locks. -/
theorem moves
    (kept : ∀ name owner, state.locks name = some owner → locks name = some owner)
    (progress : Progress env state.tables.windows locks log id tx.call stage writes)
    : WindowsHold env
        ({ state with locks := locks }.keep id { tx with stage := stage, writes := writes })
        log := by
  refine holds.keeps holds.tables ?_ ?_ progress holds.rotations
  · exact (updated_call opened).symm ▸ holds.fresh
  · intro other _ _ _
    exact stays_locks fun name => kept name other

/-- A statement that needs no lock. -/
theorem moves_on
    (progress : Progress env state.tables.windows state.locks log id tx.call stage writes)
    : WindowsHold env (state.keep id { tx with stage := stage, writes := writes })
        log :=
  holds.moves opened (fun _ _ held => held) progress

/-- A commit, by what it does to the tables and to the rows of the others. -/
theorem committed
    {result : CallResult}
    (moves : CommitMoves env state.tables.windows tx.call result tx.writes)
    (written : ∀ row ∈ (state.tables.commit tx.call tx.writes).windows,
      row ∈ state.tables.windows
      ∨ (row = tx.call.row
        ∧ state.locks (.newWindow tx.call.evidenceKey) = some id)
      ∨ (row = tx.call.row
        ∧ ∃ old ∈ state.tables.windows, old.evidenceKey = tx.call.evidenceKey)
      ∨ (contains row.evidenceKey historySegment = true
        ∧ state.locks (.newWindow row.evidenceKey) = some id))
    (left : ∀ row ∈ state.tables.windows,
      row ∈ (state.tables.commit tx.call tx.writes).windows
      ∨ state.locks (.row row.evidenceKey) = some id)
    (rotations : RotationsHold (state.tables.commit tx.call tx.writes).windows
      (log ++ [.returned tx.call result]))
    : WindowsHold env
        { state.finish id with
          tables := state.tables.commit tx.call tx.writes }
        (log ++ [.returned tx.call result]) := by
  have isOpen := openCall opened
  have unreturned := holds.fresh.unreturned id _ isOpen
  have unknown : tx.call.eventId ∉ (successes log).map (·.eventId) :=
    fun mem => unreturned ((successes_ids_sublist log).subset mem)
  exact {
    tables := by
      rw [successes_concat]
      exact holds.tables.commit moves unknown (holds.fresh.plain id _ isOpen)
    fresh := by
      have calls : ({ state.finish id with
          tables := state.tables.commit tx.call tx.writes }
          : WindowState).openCalls = update state.openCalls id none :=
        openCalls_finish state id
      rw [calls]
      exact holds.fresh.returned isOpen result
    progress := by
      intro other current known
      obtain ⟨different, before⟩ := of_update_none known
      exact (holds.progress other current before).stays (stays_committed different.symm unreturned
          (holds.fresh.plain other _ (openCall before))
          (fun _ held => finish_kept different held) written left)
    rotations := rotations }

theorem commitTransaction
    : WindowsHold env (Evidence.commitTransaction state id tx).1
        (log ++ (Evidence.commitTransaction state id tx).2) := by
  have progress := holds.progress id tx opened
  have isOpen := openCall opened
  have unreturned := holds.fresh.unreturned id _ isOpen
  obtain ⟨call, stage, writes⟩ := tx
  unfold Evidence.commitTransaction
  dsimp only at progress isOpen unreturned ⊢
  cases progress with
  | duplicate duplicate past =>
    refine holds.committed opened (.duplicate duplicate) ?_ ?_ ?_
    · rw [TablesHold.commit_nothing]
      exact fun _ mem => .inl mem
    · rw [TablesHold.commit_nothing]
      exact fun _ mem => .inl mem
    · rw [TablesHold.commit_nothing]
      exact holds.rotations.duplicate duplicate past
  | done work =>
    cases work with
    | opening storable free own early =>
      refine holds.committed opened (.opened storable free) ?_ ?_ ?_
      · rw [TablesHold.windows_opened]
        intro row mem
        rcases mem_append.mp mem with old | new
        · exact .inl old
        · exact .inr (.inl ⟨mem_singleton.mp new, own⟩)
      · rw [TablesHold.windows_opened]
        exact fun _ mem => .inl (mem_append_left _ mem)
      · rw [TablesHold.windows_opened]
        exact holds.rotations.opened unreturned early
    | @rotating current storable rotating late =>
      have written {row : WindowRow} := @RowsHold.mem_rotatedWindows env
        state.tables.windows call current rotating.found rotating.sameKey row
      refine holds.committed opened
        (.rotated storable rotating.found rotating.sameKey rotating.expected) ?_ ?_ ?_
      · intro row mem
        rcases written.mp mem with ⟨old, -⟩ | rfl | rfl
        · exact .inl old
        · exact .inr (.inr (.inl ⟨rfl, current, rotating.found, rotating.sameKey⟩))
        · refine .inr (.inr (.inr ⟨contains_historyKey .., ?_⟩))
          rw [WindowRow.archived, rotating.sameKey]
          exact rotating.history
      · intro row mem
        by_cases same : row.evidenceKey = call.evidenceKey
        · exact .inr (same ▸ rotating.row)
        · exact .inl (written.mpr (.inl ⟨mem, same⟩))
      · exact holds.rotations.rotated unreturned holds.tables.rows.plain
          holds.tables.rows.unique rotating.found rotating.sameKey rotating.expected late
  | _ =>
    rw [append_nil]
    exact holds

/-- The envelope of an open call is in neither table yet. -/
theorem stageEventEnvelope (written : tx.writes = { inserted := rows, replaced })
    (work : WindowWork env state.tables.windows state.locks log id tx.call rows replaced)
    : WindowsHold env (Evidence.stageEventEnvelope state id tx) log := by
  have unknown : tx.call.eventId ∉ (successes log).map (·.eventId) :=
    fun mem => holds.fresh.unreturned id _ (openCall opened)
      ((successes_ids_sublist log).subset mem)
  have newEvent : tx.call.trustedEnvelope.eventId
      ∉ state.tables.events.map (·.eventId) := by
    rw [holds.tables.events, map_map]
    exact unknown
  have newRow : tx.call.trustedEnvelope.eventId
      ∉ state.tables.outbox.map (·.eventId) := by
    rw [holds.tables.outbox, map_map]
    exact unknown
  unfold Evidence.stageEventEnvelope
  dsimp only
  split
  next can =>
    refine holds.moves opened (lock_kept can) ?_
    rw [written]
    exact .staged (work.stays (stays_locks fun name => lock_kept can name id))
  · exact holds

theorem finishCall
    (staged : tx.writes = {
      inserted := rows
      replaced
      events := [tx.call.trustedEnvelope]
      outbox := [{ envelope := tx.call.trustedEnvelope }] })
    (work : WindowWork env state.tables.windows state.locks log id tx.call rows replaced)
    : WindowsHold env (Evidence.finishCall state id tx) log := by
  refine holds.moves_on opened ?_
  rw [staged]
  exact .done work

/-- A rotation looks for its row. -/
theorem looks
    (kept : ∀ name owner, state.locks name = some owner → locks name = some owner)
    (progress : Progress env state.tables.windows locks (log ++ [.looked tx.call])
      id tx.call stage tx.writes)
    : WindowsHold env ({ state with locks := locks }.keep id { tx with stage := stage })
        (log ++ [.looked tx.call]) := by
  have isOpen := openCall opened
  refine holds.keeps ?_ ?_ ?_ progress (holds.rotations.looked (holds.fresh.unreturned id _ isOpen))
  · rw [successes_concat, WindowEvent.success, Option.toList_none, append_nil]
    exact holds.tables
  · exact (updated_call opened).symm ▸ holds.fresh.looked isOpen
  · intro other current different known
    refine stays_looked ?_ fun name => kept name other
    intro same
    exact different (holds.fresh.apart other id _ _ (openCall known) isOpen same.symm)

include unwritten

/-- The insert of the call's own row. -/
theorem insertOwn (early : ∀ ids, ¬ Late log tx.call ids)
    : WindowsHold env (insertWindow state id tx tx.call.row .inserted .conflicted) log := by
  unfold insertWindow
  split
  · exact holds.finish id
  next storable =>
    split
    · exact holds.moves_on opened (unwritten ▸ .conflicted early)
    next absent =>
      split
      next can =>
        refine holds.moves opened (lock_kept can) ?_
        rw [unwritten]
        have missing : state.window tx.call.evidenceKey = none :=
          Option.not_isSome_iff_eq_none.mp absent
        refine .inserted (.opening (by simpa using storable) (window_none.mp missing) ?_ early)
        exact update_self ..
      · exact holds

theorem lockAdvisory
    (unlooked : log.any (·.lookedBy tx.call.eventId) = false)
    : WindowsHold env (Evidence.lockAdvisory env state id tx) log := by
  unfold Evidence.lockAdvisory
  dsimp only
  split
  next can => exact holds.moves opened (lock_kept can) (unwritten ▸ .locked unlooked)
  · exact holds

theorem selectForUpdate
    : WindowsHold env (Evidence.selectForUpdate state id tx).1
        (log ++ (Evidence.selectForUpdate state id tx).2) := by
  have plain := holds.fresh.plain id _ (openCall opened)
  unfold Evidence.selectForUpdate
  split
  next absent =>
    refine holds.looks opened (fun _ _ held => held) (unwritten ▸ .missing ?_)
    intro ids
    refine not_late_of_none ?_
    cases made : log.any (·.madeLive tx.call.evidenceKey ids) with
    | false => rfl
    | true =>
      obtain ⟨source, known, key, -⟩ := success_of_madeLive made
      obtain ⟨row, mem, sameKey⟩ := holds.tables.rows.live source known
      exact absurd (sameKey.trans key) (window_none.mp absent row mem)
  next current present =>
    obtain ⟨found, sameKey⟩ := mem_of_find present
    dsimp only
    split
    next can =>
      refine holds.looks opened (lock_kept can) (unwritten ▸ .found found sameKey ?_ ?_)
      · exact update_self ..
      · refine late_looked _ _ ?_
        obtain ⟨source, known, rfl⟩ := holds.tables.rows.eq_row found (sameKey ▸ plain)
        rw [← sameKey]
        exact madeLive_of_success known
    · rw [append_nil]
      exact holds

theorem selectExisting (early : ∀ ids, ¬ Late log tx.call ids)
    : WindowsHold env (Evidence.selectExisting state id tx) log := by
  have past : Past state.tables.windows log tx.call :=
    fun ids _ late => absurd late (early ids)
  unfold Evidence.selectExisting
  split
  · exact holds.moves_on opened (unwritten ▸ .duplicate rfl past)
  · exact holds.finish id

include found sameKey row late

/-- The insert of the history row finds its key free. -/
theorem insertHistory (expected : tx.call.expected = some current.ids)
    : WindowsHold env
        (insertWindow state id tx (current.archived env) .archived .archived)
        log := by
  have plain := holds.fresh.plain id tx.call (openCall opened)
  have free := holds.tables.rows.history_free found (sameKey ▸ plain)
  unfold insertWindow
  split
  · exact holds.finish id
  · split
    next taken =>
      have missing : state.window (current.archived env).evidenceKey = none :=
        window_none.mpr free
      rw [missing] at taken
      cases taken
    · split
      next can =>
        refine holds.moves opened (lock_kept can) ?_
        rw [unwritten]
        refine .archived ⟨found, sameKey, expected, ?_, ?_⟩ late
        · exact lock_kept can _ _ row
        · rw [← sameKey]
          exact update_self ..
      · exact holds

theorem compareExpected
    : WindowsHold env (Evidence.compareExpected env state id tx current)
        log := by
  unfold Evidence.compareExpected
  split
  next expected => exact holds.insertHistory opened unwritten found sameKey row late expected
  next other =>
    exact holds.moves_on opened
      (unwritten ▸ .duplicate rfl (holds.past_of_found found sameKey other))

omit unwritten found sameKey row

theorem replaceWindow
    (archived : tx.writes = { inserted := [current.archived env] })
    (rotating : Rotating env state.tables.windows state.locks id tx.call current)
    : WindowsHold env (Evidence.replaceWindow state id tx) log := by
  have seen : state.window tx.call.row.evidenceKey = some current := by
    have found := holds.tables.rows.unique.find_eq rotating.found
    rwa [rotating.sameKey] at found
  unfold Evidence.replaceWindow
  dsimp only
  split
  · exact holds.finish id
  next storable =>
    refine holds.moves_on opened ?_
    rw [seen, archived]
    simp only [Option.any_some, rotating.expected, decide_true, if_true]
    exact .replaced (.rotating (by simpa using storable) rotating late)

omit late

theorem advance
    : WindowsHold env (Evidence.advance env state id tx).1
        (log ++ (Evidence.advance env state id tx).2) := by
  have progress := holds.progress id tx opened
  obtain ⟨call, stage, writes⟩ := tx
  dsimp only at progress
  cases progress with
  | started unlooked =>
    have early : ∀ ids, ¬ Late log call ids := by
      intro ids late
      rw [late.looked] at unlooked
      cases unlooked
    cases kind : call.kind with
    | record timelineEvents inventoryPayload =>
      have first : Evidence.advance env state id { call }
          = (insertWindow state id { call } call.row .inserted .conflicted, []) := by
        simp only [Evidence.advance, kind]
      have moved := holds.insertOwn opened rfl early
      rw [first]
      exact silent moved
    | rotate eventId correlationId =>
      have first : Evidence.advance env state id { call }
          = (Evidence.lockAdvisory env state id { call }, []) := by
        simp only [Evidence.advance, kind]
      have moved := holds.lockAdvisory opened rfl unlooked
      rw [first]
      exact silent moved
  | locked unlooked => exact holds.selectForUpdate opened rfl
  | missing early =>
    have moved := holds.insertOwn opened rfl early
    exact silent moved
  | found found sameKey row late =>
    have moved := holds.compareExpected opened rfl found sameKey row late
    exact silent moved
  | conflicted early =>
    have moved := holds.selectExisting opened rfl early
    exact silent moved
  | archived rotating late =>
    have moved := holds.replaceWindow opened late rfl rotating
    exact silent moved
  | inserted work =>
    have moved := holds.stageEventEnvelope opened rfl work
    exact silent moved
  | replaced work =>
    have moved := holds.stageEventEnvelope opened rfl work
    exact silent moved
  | staged work =>
    have moved := holds.finishCall opened rfl work
    exact silent moved
  | duplicate _ _ => exact silent holds
  | done _ => exact silent holds

omit opened

theorem step (action : Nat × WindowAction)
    : WindowsHold env ((windowMachine env).step state action).1
        (log ++ ((windowMachine env).step state action).2) := by
  unfold windowMachine
  dsimp only
  split
  · split
    next admitted => exact silent (holds.begun admitted)
    · exact silent holds
  next opened _ => exact holds.advance opened
  next opened _ => exact holds.commitTransaction opened
  · exact silent (holds.finish _)
  · exact silent holds

end WindowsHold

theorem windowsHold_initial : WindowsHold env {} [] := by
  have closed : ∀ id tx, ({} : WindowState).transactions id ≠ some tx :=
    fun _ _ opened => (Option.some_ne_none _ opened.symm).elim
  have noCall : ∀ id call, ({} : WindowState).openCalls id ≠ some call :=
    fun _ _ opened => (Option.some_ne_none _ opened.symm).elim
  exact {
    tables := {
      rows := ⟨nodup_nil, nodup_nil, nofun, nofun, nofun, nofun, nofun⟩
      events := rfl
      outbox := rfl
      facts := rfl
      snapshots := rfl }
    fresh := {
      logged := nofun
      known := fun id call opened => absurd opened (noCall id call)
      apart := fun id _ call _ opened => absurd opened (noCall id call)
      unreturned := fun id call opened => absurd opened (noCall id call)
      plain := fun id call opened => absurd opened (noCall id call)
      nodup := nodup_nil }
    progress := fun id tx opened => absurd opened (closed id tx)
    rotations := fun _ _ made => absurd made Bool.false_ne_true }

variable (actions : List (Nat × WindowAction))

theorem windowsHold_run
    : WindowsHold env ((windowMachine env).run {} actions)
        ((windowMachine env).trace {} actions) :=
  Machine.trace_invariant (fun action holds => holds.step action) (windowsHold_initial env)
    actions

-----------------------------------------------------------------------------------------
-- Recorded once
-----------------------------------------------------------------------------------------

section Returns

variable {env : WindowPlatform} {state : WindowState} {action : Nat × WindowAction}
  {call : EvidenceCall} {result : CallResult}

theorem advance_not_returned {id : Nat} {tx : WindowTransaction}
    : .returned call result ∉ (advance env state id tx).2 := by
  unfold advance
  split
  · split <;> exact not_mem_nil
  · unfold selectForUpdate
    split
    · simp
    · dsimp only
      split <;> simp
  all_goals exact not_mem_nil

variable {log : List WindowEvent} (holds : WindowsHold env state log)
  (returned : .returned call result ∈ ((windowMachine env).step state action).2)
include holds returned

/-- A call returns by the commit of its transaction. -/
theorem step_returned
    : ∃ writes,
        Progress env state.tables.windows state.locks log action.1 call (.answered result)
          writes
        ∧ ((windowMachine env).step state action).1.tables
          = state.tables.commit call writes := by
  unfold windowMachine at returned ⊢
  dsimp only at returned ⊢
  split at returned
  · split at returned <;> exact absurd returned not_mem_nil
  · exact absurd returned advance_not_returned
  next tx opened asked =>
    unfold commitTransaction at returned ⊢
    split at returned
    next answer answered =>
      obtain ⟨rfl, rfl⟩ := WindowEvent.returned.inj (mem_singleton.mp returned)
      exact ⟨tx.writes, answered ▸ holds.progress _ _ opened, rfl⟩
    · exact absurd returned not_mem_nil
  · exact absurd returned not_mem_nil
  · exact absurd returned not_mem_nil

/-- The value of a call that returns a new one is live then. -/
theorem live_of_returned (new : result.duplicate = false)
    : call.row ∈ ((windowMachine env).step state action).1.tables.windows := by
  obtain ⟨writes, progress, tables⟩ := step_returned holds returned
  rw [tables]
  cases progress with
  | duplicate duplicate => exact nomatch new.symm.trans duplicate
  | done work =>
    cases work with
    | opening => rw [TablesHold.windows_opened]; simp
    | rotating _ rotating _ =>
      exact (RowsHold.mem_rotatedWindows rotating.found rotating.sameKey).mpr (.inr (.inl rfl))

/-- A call that returns a duplicate leaves the tables as they were. -/
theorem tables_of_duplicate (duplicate : result.duplicate = true)
    : ((windowMachine env).step state action).1.tables = state.tables := by
  obtain ⟨writes, progress, tables⟩ := step_returned holds returned
  rw [tables]
  cases progress with
  | duplicate => exact TablesHold.commit_nothing
  | done => cases duplicate

end Returns

def StoredOnce (windows : List WindowRow) (row : WindowRow) : Prop :=
  ∃ stored ∈ windows,
    stored.toWindowValues = row.toWindowValues
    ∧ (stored.evidenceKey = row.evidenceKey
      ∨ stored.evidenceKey = historyKey env row.evidenceKey row.ids)
    ∧ ∀ other ∈ windows, other.eventId = row.eventId → other = stored

theorem RowsHold.storedOnce {env : WindowPlatform} {windows : List WindowRow}
    {calls : List EvidenceCall} (holds : RowsHold env windows calls) {call : EvidenceCall}
    (mem : call ∈ calls)
    : StoredOnce env windows call.row := by
  obtain ⟨stored, inside, held⟩ := holds.kept call mem
  have event : stored.eventId = call.row.eventId := congrArg (·.eventId) held.values
  exact ⟨stored, inside, held.values, held.key, fun other known same =>
    holds.uniqueEvents.eq_of_key known inside (same.trans event.symm)⟩

structure RecordedOnce
    : Prop where
  uniqueKeys : Unique (·.evidenceKey) ((windowMachine env).run {} actions).tables.windows
  stored : ∀ later, ∀ row ∈ ((windowMachine env).run {} actions).tables.windows,
    contains row.evidenceKey historySegment = false
    → StoredOnce env ((windowMachine env).run {} (actions ++ later)).tables.windows row
  live : ∀ action call result,
    .returned call result
      ∈ ((windowMachine env).step ((windowMachine env).run {} actions) action).2
    → result.duplicate = false
    → call.row ∈ ((windowMachine env).step
        ((windowMachine env).run {} actions) action).1.tables.windows
  sourced : ∀ row ∈ ((windowMachine env).run {} actions).tables.windows,
    contains row.evidenceKey historySegment = false
    → ∃ call ∈ successes ((windowMachine env).trace {} actions), row = call.row
  staged : ((windowMachine env).run {} actions).tables.outbox
    = (successes ((windowMachine env).trace {} actions)).map
        fun call => { envelope := call.trustedEnvelope }
  stagedOnce : (((windowMachine env).run {} actions).tables.outbox.map (·.eventId)).Nodup
  repeated : ∀ action call result,
    .returned call result
      ∈ ((windowMachine env).step ((windowMachine env).run {} actions) action).2
    → result.duplicate = true
    → ((windowMachine env).step ((windowMachine env).run {} actions) action).1.tables
      = ((windowMachine env).run {} actions).tables
  facts : ((windowMachine env).run {} actions).tables.facts
    = (successes ((windowMachine env).trace {} actions)).flatMap (·.facts)
  snapshots : ((windowMachine env).run {} actions).tables.snapshots
    = (successes ((windowMachine env).trace {} actions)).filterMap (·.snapshot)
  rotations : ∀ evidenceKey ids,
    contenders evidenceKey ids ((windowMachine env).trace {} actions) ≠ []
    → (contenders evidenceKey ids ((windowMachine env).trace {} actions)).countP
        (!·.duplicate) = 1

/-- Evidence windows are recorded once and never lost: whatever is or was live is stored in one
row, each call that returns a new value has staged one envelope, a duplicate writes nothing, and
of the rotations that contend for a value one replaces it.
-/
theorem evidence_recorded_once : RecordedOnce env actions := by
  have holds := windowsHold_run env actions
  exact {
    uniqueKeys := holds.tables.rows.unique
    stored := by
      intro later row mem plain
      obtain ⟨call, known, rfl⟩ := holds.tables.rows.eq_row mem plain
      refine (windowsHold_run env (actions ++ later)).tables.rows.storedOnce ?_
      rw [Machine.trace_append, successes, filterMap_append]
      exact mem_append_left _ known
    live := fun _ _ _ returned new => live_of_returned holds returned new
    sourced := fun _ mem plain => holds.tables.rows.eq_row mem plain
    staged := holds.tables.outbox
    stagedOnce := by
      rw [holds.tables.outbox, map_map]
      exact holds.fresh.nodup.sublist (successes_ids_sublist _)
    repeated := fun _ _ _ returned duplicate => tables_of_duplicate holds returned duplicate
    facts := holds.tables.facts
    snapshots := holds.tables.snapshots
    rotations := by
      intro evidenceKey ids some
      have made : ((windowMachine env).trace {} actions).any
          (·.madeLive evidenceKey ids) = true := by
        by_contra missing
        refine some ?_
        rw [contenders, behind_eq_nil (by simpa using missing)]
        rfl
      obtain ⟨whileLive, afterwards⟩ := holds.rotations evidenceKey ids made
      exact afterwards fun live => some (whileLive live) }

end K8sClue.Evidence
