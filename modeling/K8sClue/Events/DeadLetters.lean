import K8sClue.Events.Store
import K8sClue.Library.Locking

/-! Dead letters that are sent again.
A request stages a new event and marks the letter in one transaction, and marking asks the row once
more whether it is open.
-/

namespace K8sClue.Events

open Library List

/-- A row of `event_dead_letters`, which is open until an event has replayed it. -/
structure DeadLetter where
  letter : DeadLetterRow
  replayEventId : Option String := none

inductive DeadLetterCall where
  | record (letter : DeadLetterRow)
  /-- `replay_dead_letter`, and of the event it makes the id, the time, the workspace and the
  correlation that stands in for an empty one -/
  | replay (eventId createdAt correlation : String) (workspaceId : Option String)

/-- The row after the call, and the event that is staged. -/
def deadLetterCall (row : Option DeadLetter)
    : DeadLetterCall → Option DeadLetter × Option EventEnvelope
  | .record letter => (row.or (some { letter }), none)
  | .replay eventId createdAt correlation workspaceId =>
    match row with
    | some { letter, replayEventId := none } =>
      (some { letter, replayEventId := some eventId },
        some {
          eventId, createdAt, workspaceId
          subject := letter.originalSubject
          source := "api-gateway"
          correlationId := if letter.correlationId = "" then correlation else letter.correlationId
          causationId := some letter.originalEventId
          payload := letter.payload })
    -- The request ends with an error, by which its transaction is rolled back.
    | _ => (row, none)

/-- The letter is open and no event is staged for it, or it is marked with the one that is. -/
def ReplayedOnce (row : Option DeadLetter) (staged : List EventEnvelope) : Prop :=
  staged.map (·.eventId) = (row.bind (·.replayEventId)).toList
  ∧ ∀ event ∈ staged, ∃ held ∈ row, event.subject = held.letter.originalSubject
    ∧ event.payload = held.letter.payload ∧ event.causationId = some held.letter.originalEventId

theorem ReplayedOnce.call {row : Option DeadLetter} {staged : List EventEnvelope}
    (call : DeadLetterCall) (once : ReplayedOnce row staged)
    : ReplayedOnce (deadLetterCall row call).1 (staged ++ (deadLetterCall row call).2.toList) := by
  rcases row with _ | ⟨letter, _ | earlier⟩
  · obtain rfl : staged = [] := by simpa using once.1
    cases call <;> simp [ReplayedOnce, deadLetterCall]
  -- Only an open letter is replayed, and nothing has been staged for it.
  · obtain rfl : staged = [] := by simpa using once.1
    cases call <;> simp [ReplayedOnce, deadLetterCall]
  · cases call <;> simpa [deadLetterCall] using once

/-- Under every interleaving of requests, a letter is replayed at most once, and it is marked
exactly if its event is staged.
-/
theorem dead_letters_replayed_once (actions : List (LockAction Nat Nat DeadLetterCall)) (id : Nat)
    : let machine := Locking.machine deadLetterCall
      let start := Locking.initial fun _ => none
      ReplayedOnce ((machine.run start actions).committed id)
        ((Locking.callsAt id (machine.trace start actions)).filterMap (·.answer)) := by
  have empty : ReplayedOnce none [] := ⟨rfl, by simp⟩
  exact Locking.yields_invariant ReplayedOnce.call (fun _ => none) id empty actions

end K8sClue.Events
