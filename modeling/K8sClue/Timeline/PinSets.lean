import K8sClue.Library.Locking
import Mathlib.Data.List.Nodup
import Mathlib.Data.List.Range
import Mathlib.Data.Set.Basic

/-! The pin sets of all users, under concurrent transactions.
Every call creates and locks the revision row of its set, and the row stays locked until the
transaction of the call ends. What the call compares, changes and counts it does on that row's set.
-/

namespace K8sClue.Timeline

open Library List

variable {σ : Type}

structure PinOwner where
  (workspaceId userId : String)
  deriving DecidableEq

/-- A row of `timeline_pins`, without the columns of its owner. -/
structure TimelinePinRow (σ : Type) where
  (pinId subjectKey : String)
  subject : σ

/-- A user's pins in one workspace; a set that was never changed has the revision zero. -/
structure PinSet (σ : Type) where
  revision : Nat := 0
  pins : List (TimelinePinRow σ) := []

inductive PinMutation where
  | added
  | unchanged
  | deleted
  | absent

inductive PinAnswer (σ : Type) where
  | mutation (action : PinMutation) (pinSet : PinSet σ)
  /-- `TimelinePinRevisionConflict` -/
  | conflict (revision : Nat)
  | integrityError

inductive PinCall (σ : Type) where
  /-- `put_timeline_pin`, with the `uuid4` that it draws -/
  | put (expectedRevision : Int) (subject : σ) (pinId : String)
  | delete (expectedRevision : Int) (pinId : String)

def PinCall.expectedRevision : PinCall σ → Int
  | .put expectedRevision _ _ => expectedRevision
  | .delete expectedRevision _ => expectedRevision

/-- `_increment_timeline_pin_revision` behind a change of the rows. -/
def PinSet.changed (pinSet : PinSet σ) (action : PinMutation) (pins : List (TimelinePinRow σ))
    : PinSet σ × PinAnswer σ :=
  ({ revision := pinSet.revision + 1, pins },
    .mutation action { revision := pinSet.revision + 1, pins })

variable (subjectKey : σ → String)

/-- What a call does once its revision is the current one. -/
def PinCall.accepted (pinSet : PinSet σ) : PinCall σ → PinSet σ × PinAnswer σ
  | .put _ subject pinId =>
    if pinSet.pins.any (·.subjectKey = subjectKey subject) then
      (pinSet, .mutation .unchanged pinSet)
    else if pinSet.pins.any (·.pinId = pinId) then
      (pinSet, .integrityError)
    else
      pinSet.changed .added (pinSet.pins ++ [{ pinId, subjectKey := subjectKey subject, subject }])
  | .delete _ pinId =>
    if pinSet.pins.any (·.pinId = pinId) then
      pinSet.changed .deleted (pinSet.pins.filter (·.pinId ≠ pinId))
    else
      (pinSet, .mutation .absent pinSet)

def pinCall (pinSet : PinSet σ) (call : PinCall σ) : PinSet σ × PinAnswer σ :=
  if pinSet.revision ≠ call.expectedRevision then
    (pinSet, .conflict pinSet.revision)
  else
    call.accepted subjectKey pinSet

inductive PinAction (σ : Type) where
  | call (transaction : Nat) (owner : PinOwner) (call : PinCall σ)
  | commit (transaction : Nat)
  | abort (transaction : Nat)

/-- The action on the revision rows; a negative revision is refused before the lock. -/
def PinAction.locks : PinAction σ → Option (LockAction Nat PinOwner (PinCall σ))
  | .call transaction owner asked =>
    if asked.expectedRevision < 0 then none else some (.call transaction owner asked)
  | .commit transaction => some (.commit transaction)
  | .abort transaction => some (.abort transaction)

variable (actions : List (PinAction σ))

def pinState : LockState Nat PinOwner (PinSet σ) (PinCall σ) (PinAnswer σ) :=
  (Locking.machine (pinCall subjectKey)).run (Locking.initial fun _ => {})
    (actions.filterMap PinAction.locks)

/-- The calls of the committed transactions on a set, in the order of the commits. -/
def committedPinCalls (owner : PinOwner) : List (Call Nat PinOwner (PinCall σ) (PinAnswer σ)) :=
  Locking.callsAt owner ((Locking.machine (pinCall subjectKey)).trace (Locking.initial fun _ => {})
      (actions.filterMap PinAction.locks))

/-- The revision that a call was given for its change. -/
def PinAnswer.given : PinAnswer σ → Option Nat
  | .mutation .added pinSet => some pinSet.revision
  | .mutation .deleted pinSet => some pinSet.revision
  | _ => none

/-- The calls that changed the set, with the revisions they were given. -/
def pinChanges (calls : List (Call Nat PinOwner (PinCall σ) (PinAnswer σ)))
    : List (PinCall σ × Nat) :=
  calls.filterMap fun call => call.answer.given.map (call.operation, ·)

/-- What a successful call is for: it adds a pin unless its subject is pinned, or removes the pin of
an id, and leaves all other pins.
-/
def PinCall.applied (pins : Set (TimelinePinRow σ)) : PinCall σ → Set (TimelinePinRow σ)
  | .put _ subject pinId =>
    {pin | pin ∈ pins ∨ (∀ other ∈ pins, other.subjectKey ≠ subjectKey subject)
        ∧ pin = { pinId, subjectKey := subjectKey subject, subject }}
  | .delete _ pinId => {pin | pin ∈ pins ∧ pin.pinId ≠ pinId}

/-- The pins that successful calls leave when they are applied one after the other. -/
def appliedPins (calls : List (PinCall σ)) : Set (TimelinePinRow σ) :=
  calls.foldl (PinCall.applied subjectKey) ∅

structure PinHistory (pinSet : PinSet σ)
    (calls : List (Call Nat PinOwner (PinCall σ) (PinAnswer σ)))
    : Prop where
  numbered : (pinChanges calls).map Prod.snd = List.range' 1 pinSet.revision
  applied : {pin | pin ∈ pinSet.pins} = appliedPins subjectKey ((pinChanges calls).map Prod.fst)
  once : (pinSet.pins.map (·.subjectKey)).Nodup

variable {subjectKey : σ → String} {pinSet : PinSet σ} {call : PinCall σ}

/-- A call changes nothing and is given no revision, or it is applied and given the next one. -/
theorem pinCall_cases
    : (pinCall subjectKey pinSet call).1 = pinSet
        ∧ (pinCall subjectKey pinSet call).2.given = none
      ∨ {pin | pin ∈ (pinCall subjectKey pinSet call).1.pins}
          = call.applied subjectKey {pin | pin ∈ pinSet.pins}
        ∧ ((pinSet.pins.map (·.subjectKey)).Nodup
          → ((pinCall subjectKey pinSet call).1.pins.map (·.subjectKey)).Nodup)
        ∧ (pinCall subjectKey pinSet call).1.revision = pinSet.revision + 1
        ∧ (pinCall subjectKey pinSet call).2.given = some (pinSet.revision + 1) := by
  unfold pinCall
  split
  · exact .inl ⟨rfl, rfl⟩
  cases call with
  | put revision subject pinId =>
    unfold PinCall.accepted
    dsimp only
    split
    · exact .inl ⟨rfl, rfl⟩
    next absent =>
      have others : ∀ pin ∈ pinSet.pins, pin.subjectKey ≠ subjectKey subject := by
        simpa using absent
      split
      · exact .inl ⟨rfl, rfl⟩
      · refine .inr ⟨?_, fun once => ?_, rfl, rfl⟩
        · ext pin
          simp only [PinSet.changed, PinCall.applied, mem_append, mem_singleton,
            Set.mem_ofPred_eq]
          exact or_congr_right (and_iff_right others).symm
        · have new : subjectKey subject ∉ pinSet.pins.map (·.subjectKey) := by
            simpa using others
          simpa [PinSet.changed] using Nodup.concat new once
  | delete revision pinId =>
    unfold PinCall.accepted
    dsimp only
    split
    · refine .inr ⟨?_, fun once => once.sublist (filter_sublist.map _), rfl, rfl⟩
      ext pin
      simp [PinSet.changed, PinCall.applied]
    · exact .inl ⟨rfl, rfl⟩

theorem PinHistory.answered {calls : List (Call Nat PinOwner (PinCall σ) (PinAnswer σ))}
    {last : Call Nat PinOwner (PinCall σ) (PinAnswer σ)}
    (history : PinHistory subjectKey pinSet calls)
    (answered : (pinCall subjectKey pinSet last.operation).2 = last.answer)
    : PinHistory subjectKey (pinCall subjectKey pinSet last.operation).1 (calls ++ [last]) := by
  have changes : pinChanges (calls ++ [last])
      = pinChanges calls ++ (last.answer.given.map (last.operation, ·)).toList := by
    cases given : last.answer.given <;> simp [pinChanges, given]
  rw [← answered] at changes
  rcases pinCall_cases with ⟨same, silent⟩ | ⟨applied, once, revision, given⟩
  · rw [silent, Option.map_none, Option.toList_none, append_nil] at changes
    rw [same]
    exact ⟨changes ▸ history.numbered, changes ▸ history.applied, history.once⟩
  · rw [given, Option.map_some] at changes
    constructor
    · rw [changes, map_append, history.numbered, revision, range'_concat]
      simp [Nat.add_comm]
    · rw [changes, map_append, appliedPins, foldl_append, applied, history.applied]
      rfl
    · exact once history.once

end K8sClue.Timeline
