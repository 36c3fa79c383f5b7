import K8sClue.Evidence.WindowTables
import K8sClue.Library.Behind

/-! Rotations that contend for one live value.
A rotation contends for a value if it expects it and has looked for its row after the value was
made live. The log of a run tells which of the contenders has replaced the value.
-/

namespace K8sClue.Evidence

open Python Events Timeline Library List

namespace WindowEvent

def call : WindowEvent → EvidenceCall
  | .looked call => call
  | .returned call _ => call

def madeLive (evidenceKey : String) (ids : String × String) : WindowEvent → Bool
  | .looked _ => false
  | .returned call result =>
    !result.duplicate && call.evidenceKey = evidenceKey && call.row.ids = ids

def lookedBy (eventId : String) : WindowEvent → Bool
  | .looked call => call.eventId = eventId
  | .returned .. => false

def returnedId : WindowEvent → Option String
  | .looked _ => none
  | .returned call _ => some call.eventId

end WindowEvent

def returnedIds (log : List WindowEvent) : List String := log.filterMap (·.returnedId)

def EvidenceCall.rotates (call : EvidenceCall) (evidenceKey : String) (ids : String × String)
    : Bool :=
  call.evidenceKey = evidenceKey && call.expected = some ids

def contendersIn (evidenceKey : String) (ids : String × String) (part : List WindowEvent)
    : List CallResult :=
  part.filterMap fun entry =>
    match entry with
    | .looked _ => none
    | .returned call result =>
      if call.rotates evidenceKey ids && part.any (·.lookedBy call.eventId) then
        some result
      else
        none

def contenders (evidenceKey : String) (ids : String × String) (log : List WindowEvent)
    : List CallResult :=
  contendersIn evidenceKey ids (behind (·.madeLive evidenceKey ids) log)

def Late (log : List WindowEvent) (call : EvidenceCall) (ids : String × String) : Prop :=
  (behind (·.madeLive call.evidenceKey ids) log).any (·.lookedBy call.eventId) = true

instance (log : List WindowEvent) (call : EvidenceCall) (ids : String × String)
    : Decidable (Late log call ids) :=
  inferInstanceAs (Decidable (_ = true))

variable (windows : List WindowRow)

def LiveAt (evidenceKey : String) (ids : String × String) : Prop :=
  ∃ row ∈ windows, row.evidenceKey = evidenceKey ∧ row.ids = ids

section Log

variable {log part : List WindowEvent} {call : EvidenceCall} {result : CallResult}
  {evidenceKey : String} {ids : String × String}

theorem returnedIds_concat (entry : WindowEvent)
    : returnedIds (log ++ [entry]) = returnedIds log ++ entry.returnedId.toList := by
  cases found : entry.returnedId <;> simp [returnedIds, found]

/-- A value that was made live has the event of a call that has returned. -/
theorem mem_returnedIds_of_madeLive
    (made : log.any (·.madeLive evidenceKey ids) = true)
    : ids.1 ∈ returnedIds log := by
  obtain ⟨entry, mem, isMade⟩ := any_eq_true.mp made
  refine mem_filterMap.mpr ⟨entry, mem, ?_⟩
  cases entry with
  | looked call => cases isMade
  | returned call result =>
    simp only [WindowEvent.madeLive, Bool.and_eq_true, decide_eq_true_eq] at isMade
    exact congrArg some (congrArg Prod.fst isMade.2)

theorem madeLive_of_success (mem : call ∈ successes log)
    : log.any (·.madeLive call.evidenceKey call.row.ids) = true := by
  obtain ⟨entry, inside, success⟩ := mem_filterMap.mp mem
  refine any_eq_true.mpr ⟨entry, inside, ?_⟩
  cases entry with
  | looked call => cases success
  | returned other result =>
    rw [WindowEvent.success, Option.ite_none_left_eq_some] at success
    obtain ⟨new, same⟩ := success
    cases Option.some.inj same
    simp [WindowEvent.madeLive, new]

theorem success_of_madeLive (made : log.any (·.madeLive evidenceKey ids) = true)
    : ∃ call ∈ successes log, call.evidenceKey = evidenceKey ∧ call.row.ids = ids := by
  obtain ⟨entry, mem, isMade⟩ := any_eq_true.mp made
  cases entry with
  | looked call => cases isMade
  | returned call result =>
    simp only [WindowEvent.madeLive, Bool.and_eq_true, decide_eq_true_eq,
      Bool.not_eq_true'] at isMade
    obtain ⟨⟨new, key⟩, value⟩ := isMade
    exact ⟨call, mem_filterMap.mpr ⟨_, mem, by simp [WindowEvent.success, new]⟩, key, value⟩

/-- A late call has looked, for a value that was made live. -/
theorem Late.madeLive (late : Late log call ids)
    : log.any (·.madeLive call.evidenceKey ids) = true := by
  obtain ⟨entry, mem, -⟩ := any_eq_true.mp late
  exact any_of_mem_behind mem

theorem Late.looked (late : Late log call ids) : log.any (·.lookedBy call.eventId) = true := by
  obtain ⟨entry, mem, looked⟩ := any_eq_true.mp late
  exact any_eq_true.mpr ⟨entry, behind_sublist.subset mem, looked⟩

/-- Only its own look makes a call late. -/
theorem late_concat {entry : WindowEvent} (other : entry.lookedBy call.eventId = false)
    : Late (log ++ [entry]) call ids ↔ Late log call ids := by
  unfold Late
  cases made : log.any (·.madeLive call.evidenceKey ids) with
  | false => rw [behind_concat_of_none made, behind_eq_nil made]
  | true => simp [behind_concat_of_any made, other]

/-- A call that looks now is late for the values that were made live. -/
theorem late_looked (call : EvidenceCall) (ids : String × String)
    : log.any (·.madeLive call.evidenceKey ids) = true → Late (log ++ [.looked call]) call ids := by
  intro made
  rw [Late, behind_concat_of_any made]
  simp [WindowEvent.lookedBy]

theorem not_late_of_none (missing : log.any (·.madeLive call.evidenceKey ids) = false)
    : ¬ Late (log ++ [.looked call]) call ids := by
  rw [Late, behind_concat_of_none missing]
  simp

/-- A result comes to the contenders if its call contends. -/
theorem contendersIn_returned
    : contendersIn evidenceKey ids (part ++ [.returned call result])
      = contendersIn evidenceKey ids part
        ++ if call.rotates evidenceKey ids && part.any (·.lookedBy call.eventId) then [result]
          else [] := by
  have same : ∀ eventId, (part ++ [WindowEvent.returned call result]).any (·.lookedBy eventId)
      = part.any (·.lookedBy eventId) := by
    simp [WindowEvent.lookedBy]
  rw [contendersIn, contendersIn]
  simp only [same]
  split <;> simp_all

/-- The look of a call that has not returned changes no contender. -/
theorem contendersIn_looked (unreturned : call.eventId ∉ returnedIds part)
    : contendersIn evidenceKey ids (part ++ [.looked call])
      = contendersIn evidenceKey ids part := by
  rw [contendersIn, filterMap_append]
  simp only [filterMap_cons, filterMap_nil, append_nil]
  refine filterMap_congr fun entry mem => ?_
  cases entry with
  | looked other => rfl
  | returned other result =>
    have apart : call.eventId ≠ other.eventId := by
      intro same
      exact unreturned (mem_filterMap.mpr ⟨_, mem, congrArg some same.symm⟩)
    simp [WindowEvent.lookedBy, apart]

theorem contenders_returned (made : log.any (·.madeLive evidenceKey ids) = true)
    : contenders evidenceKey ids (log ++ [.returned call result])
      = contenders evidenceKey ids log
        ++ if call.rotates evidenceKey ids = true ∧ Late log call ids then [result] else [] := by
  rw [contenders, behind_concat_of_any made, contendersIn_returned, contenders]
  unfold Late
  by_cases rotates : call.rotates evidenceKey ids = true
  · have key : call.evidenceKey = evidenceKey := by
      simp only [EvidenceCall.rotates, Bool.and_eq_true, decide_eq_true_eq] at rotates
      exact rotates.1
    simp [key]
  · simp [rotates]

end Log

def RotationsHold (log : List WindowEvent) : Prop :=
  ∀ evidenceKey ids, log.any (·.madeLive evidenceKey ids) = true →
    (LiveAt windows evidenceKey ids → contenders evidenceKey ids log = [])
    ∧ (¬ LiveAt windows evidenceKey ids →
        (contenders evidenceKey ids log).countP (!·.duplicate) = 1)

def Past (log : List WindowEvent) (call : EvidenceCall) : Prop :=
  ∀ ids, call.expected = some ids → Late log call ids → ¬ LiveAt windows call.evidenceKey ids

namespace RotationsHold

variable {windows next : List WindowRow} {log : List WindowEvent} {call : EvidenceCall}

theorem looked (holds : RotationsHold windows log) (unreturned : call.eventId ∉ returnedIds log)
    : RotationsHold windows (log ++ [.looked call]) := by
  intro evidenceKey ids made
  have before : log.any (·.madeLive evidenceKey ids) = true := by
    simpa [WindowEvent.madeLive] using made
  have unseen : call.eventId
      ∉ returnedIds (behind (·.madeLive evidenceKey ids) log) :=
    fun mem => unreturned ((behind_sublist.filterMap _).subset mem)
  have same : contenders evidenceKey ids (log ++ [.looked call])
      = contenders evidenceKey ids log := by
    rw [contenders, behind_concat_of_any before, contendersIn_looked unseen, contenders]
  rw [same]
  exact holds evidenceKey ids before

theorem rotates_iff {evidenceKey : String} {ids : String × String}
    : call.rotates evidenceKey ids = true
      ↔ call.evidenceKey = evidenceKey ∧ call.expected = some ids := by
  simp [EvidenceCall.rotates]

/-- A call that returns a duplicate is no contender for a value that is still live. -/
theorem duplicate {result : CallResult} (holds : RotationsHold windows log)
    (duplicate : result.duplicate = true) (past : Past windows log call)
    : RotationsHold windows (log ++ [.returned call result]) := by
  intro evidenceKey ids made
  have before : log.any (·.madeLive evidenceKey ids) = true := by
    simpa [WindowEvent.madeLive, duplicate] using made
  obtain ⟨whileLive, afterwards⟩ := holds evidenceKey ids before
  rw [contenders_returned before]
  constructor
  · intro live
    rw [whileLive live, nil_append, if_neg]
    rintro ⟨rotates, late⟩
    obtain ⟨rfl, expected⟩ := rotates_iff.mp rotates
    exact past ids expected late live
  · intro notLive
    rw [countP_append, afterwards notLive]
    split <;> simp [duplicate]

/-- A call that makes its value live: the contention for the other values is as said, and there
is none yet for its own.
-/
theorem succeeded (nowLive : call.row ∈ next)
    (others : ∀ evidenceKey ids, log.any (·.madeLive evidenceKey ids) = true →
      (LiveAt next evidenceKey ids
        → contenders evidenceKey ids (log ++ [.returned call call.newResult]) = [])
      ∧ (¬ LiveAt next evidenceKey ids
        → (contenders evidenceKey ids (log ++ [.returned call call.newResult])).countP
            (!·.duplicate) = 1))
    : RotationsHold next (log ++ [.returned call call.newResult]) := by
  intro evidenceKey ids made
  cases before : log.any (·.madeLive evidenceKey ids) with
  | true => exact others evidenceKey ids before
  | false =>
    rw [any_append, before] at made
    have own : call.evidenceKey = evidenceKey ∧ call.row.ids = ids := by
      simpa [WindowEvent.madeLive, EvidenceCall.newResult] using made
    refine ⟨fun _ => ?_, fun notLive => absurd ⟨call.row, nowLive, own.1, own.2⟩ notLive⟩
    rw [contenders, behind_concat_of_none before]
    rfl

/-- A value that was made live is not the one that a new call makes live. -/
theorem ids_ne (fresh : call.eventId ∉ returnedIds log) {evidenceKey : String}
    {ids : String × String} (made : log.any (·.madeLive evidenceKey ids) = true)
    : call.row.ids ≠ ids := by
  intro same
  have event : call.eventId = ids.1 := congrArg Prod.fst same
  exact fresh (event ▸ mem_returnedIds_of_madeLive made)

theorem opened (holds : RotationsHold windows log) (fresh : call.eventId ∉ returnedIds log)
    (early : ∀ ids, ¬ Late log call ids)
    : RotationsHold (windows ++ [call.row]) (log ++ [.returned call call.newResult]) := by
  refine succeeded (by simp) ?_
  intro evidenceKey ids before
  have same : LiveAt (windows ++ [call.row]) evidenceKey ids ↔ LiveAt windows evidenceKey ids := by
    constructor
    · rintro ⟨row, mem, key, value⟩
      rcases mem_append.mp mem with old | new
      · exact ⟨row, old, key, value⟩
      · rw [mem_singleton.mp new] at value
        exact absurd value (ids_ne fresh before)
    · rintro ⟨row, mem, found⟩
      exact ⟨row, mem_append_left _ mem, found⟩
  rw [contenders_returned before, if_neg (fun late => early ids late.2), append_nil, same]
  exact holds evidenceKey ids before

theorem rotated {env : WindowPlatform} {current : WindowRow}
    (holds : RotationsHold windows log) (fresh : call.eventId ∉ returnedIds log)
    (plain : ∀ source ∈ successes log, contains source.evidenceKey historySegment = false)
    (unique : Keyed.Unique (·.evidenceKey) windows) (found : current ∈ windows)
    (sameKey : current.evidenceKey = call.evidenceKey)
    (expected : call.expected = some current.ids) (late : Late log call current.ids)
    : RotationsHold (RowsHold.rotatedWindows env windows call current)
        (log ++ [.returned call call.newResult]) := by
  have mem {row : WindowRow} :=
    @RowsHold.mem_rotatedWindows env windows call current found sameKey row
  refine succeeded (mem.mpr (.inr (.inl rfl))) ?_
  intro evidenceKey ids before
  have notArchived : evidenceKey ≠ (current.archived env).evidenceKey := by
    obtain ⟨source, known, rfl, -⟩ := success_of_madeLive before
    exact ne_historyKey (plain source known)
  have liveBefore : LiveAt (RowsHold.rotatedWindows env windows call current) evidenceKey ids
      ↔ LiveAt windows evidenceKey ids ∧ evidenceKey ≠ call.evidenceKey := by
    constructor
    · rintro ⟨row, inside, rfl, value⟩
      rcases mem.mp inside with ⟨old, other⟩ | rfl | rfl
      · exact ⟨⟨row, old, rfl, value⟩, other⟩
      · exact absurd value (ids_ne fresh before)
      · exact absurd rfl notArchived
    · rintro ⟨⟨row, old, rfl, value⟩, other⟩
      exact ⟨row, mem.mpr (.inl ⟨old, other⟩), rfl, value⟩
  obtain ⟨whileLive, afterwards⟩ := holds evidenceKey ids before
  rw [contenders_returned before, liveBefore]
  by_cases contends : call.rotates evidenceKey ids = true ∧ Late log call ids
  · -- The call replaces the value, which was live and had no contender that has returned.
    obtain ⟨rfl, expects⟩ := rotates_iff.mp contends.1
    obtain rfl := Option.some.inj (expects.symm.trans expected)
    rw [if_pos contends, whileLive ⟨current, found, sameKey, rfl⟩]
    exact ⟨fun live => absurd rfl live.2, fun _ => rfl⟩
  · rw [if_neg contends, append_nil]
    refine ⟨fun live => whileLive live.1, fun notLive => afterwards fun live => ?_⟩
    by_cases key : evidenceKey = call.evidenceKey
    · obtain ⟨row, inside, rowKey, rfl⟩ := live
      obtain rfl := unique.eq_of_key inside found (rowKey.trans (key.trans sameKey.symm))
      exact contends ⟨rotates_iff.mpr ⟨key.symm, expected⟩, late⟩
    · exact notLive ⟨live, key⟩

end RotationsHold

end K8sClue.Evidence
