import K8sClue.Events.Relay
import Mathlib.Algebra.Ring.Int.Defs

/-! Runs of many relays on one outbox.
No relay looks at the leases of others when it marks rows. That a marked row was accepted by the
broker rests on what each relay carries: envelopes of rows, which never change, and ids that the
broker has accepted.
-/

namespace K8sClue.Events

open Python Library List Function Keyed

section Runs

variable {columns : OutboxColumns} {state : OutboxState} {accepted : List EventEnvelope}

def OutboxStore.envelopes (store : OutboxStore) : List EventEnvelope :=
  store.outbox.map OutboxRow.envelope

/-- The ids of the rows are those of their envelopes. -/
theorem unique_envelopes (store : OutboxStore)
    : Unique EventEnvelope.eventId store.envelopes
      ↔ Keyed.Unique OutboxRow.eventId store.outbox := by
  rw [Keyed.Unique, OutboxStore.envelopes, map_map]
  rfl

theorem leaseRows_envelopes (outbox : List OutboxRow) (now : Int) (query : LeaseQuery)
    : (leaseRows outbox now query).map OutboxRow.envelope = outbox.map OutboxRow.envelope := by
  rw [leaseRows, map_map]
  refine map_congr_left fun row _ => ?_
  dsimp only [Function.comp]
  split <;> rfl

theorem markRows_envelopes (outbox : List OutboxRow) (now : Int) (eventIds : List String)
    : (markRows outbox now eventIds).map OutboxRow.envelope = outbox.map OutboxRow.envelope := by
  rw [markRows, map_map]
  refine map_congr_left fun row _ => ?_
  dsimp only [Function.comp]
  split <;> rfl

structure Relayed (columns : OutboxColumns) (state : OutboxState)
    (accepted : List EventEnvelope)
    : Prop where
  stored : ∀ envelope ∈ state.store.envelopes, ∃ event ∈ state.store.staged,
      columns.stored event = some envelope
  unique : Unique EventEnvelope.eventId state.store.envelopes
  leases : ∀ row ∈ state.store.outbox, row.leaseId.isSome → row.leasedUntil.isSome
  pending : ∀ relay run, state.relays relay = some run → ∀ event ∈ run.stage.pending,
      event ∈ state.store.envelopes
  published : ∀ relay run, state.relays relay = some run → ∀ eventId ∈ run.stage.published,
      ∃ event ∈ accepted, event ∈ state.store.envelopes ∧ event.eventId = eventId

theorem relayed_start : Relayed columns {} [] where
  stored _ mem := nomatch mem
  unique := nodup_nil
  leases _ mem := nomatch mem
  pending _ _ runs := nomatch runs
  published _ _ runs := nomatch runs

variable {published : List String} {rest : List EventEnvelope} {outbox : List OutboxRow}
  {query : LeaseQuery}

theorem pending_loop : (RelayStage.loop published rest).pending = rest := by
  cases rest <;> rfl

theorem published_loop : (RelayStage.loop published rest).published = published := by
  cases rest <;> rfl

theorem leaseRows_leases {now : Int}
    (leases : ∀ row ∈ outbox, row.leaseId.isSome → row.leasedUntil.isSome)
    : ∀ row ∈ leaseRows outbox now query, row.leaseId.isSome → row.leasedUntil.isSome := by
  intro row mem leased
  obtain ⟨before, inside, rfl⟩ := mem_map.mp mem
  split at leased
  next chosen => rw [if_pos chosen]; rfl
  next other => rw [if_neg other]; exact leases before inside leased

theorem markRows_leases {now : Int} {eventIds : List String}
    (leases : ∀ row ∈ outbox, row.leaseId.isSome → row.leasedUntil.isSome)
    : ∀ row ∈ markRows outbox now eventIds, row.leaseId.isSome → row.leasedUntil.isSome := by
  intro row mem leased
  obtain ⟨before, inside, rfl⟩ := mem_map.mp mem
  split at leased
  · cases leased
  next other => rw [if_neg other]; exact leases before inside leased

theorem arranged_envelopes {now : Int} {order : List String} {event : EventEnvelope}
    (mem : event ∈ arranged (claimableOutbox outbox now query) order)
    : event ∈ outbox.map OutboxRow.envelope := by
  obtain ⟨eventId, -, found⟩ := mem_filterMap.mp mem
  obtain ⟨row, at_, rfl⟩ := Option.map_eq_some_iff.mp found
  have chosen := mem_of_mem_take (mem_of_find at_).1
  exact mem_map_of_mem (mem_filter.mp chosen).1

section Moves

variable {now : Int} {store : OutboxStore} {run : RelayRun} {step : RelayStep}

/-- A relay's step leaves the envelopes and does not spoil the leases. -/
theorem RelayMoves.tables (moves : RelayMoves now store run step)
    : step.store.envelopes = store.envelopes ∧ step.store.staged = store.staged
      ∧ ((∀ row ∈ store.outbox, row.leaseId.isSome → row.leasedUntil.isSome)
        → ∀ row ∈ step.store.outbox, row.leaseId.isSome → row.leasedUntil.isSome) := by
  cases moves
  case deadLettered => exact ⟨markRows_envelopes _ _ _, rfl, markRows_leases⟩
  case marked => exact ⟨markRows_envelopes _ _ _, rfl, markRows_leases⟩
  all_goals exact ⟨rfl, rfl, id⟩

/-- A relay reads nothing new in its loop, and counts as published what the broker just accepted.
-/
theorem RelayMoves.carries (moves : RelayMoves now store run step) {stage : RelayStage}
    (reached : step.stage = some stage)
    : stage.pending ⊆ run.stage.pending
      ∧ ∀ eventId ∈ stage.published, eventId ∈ run.stage.published
        ∨ ∃ event ∈ step.accepted, event ∈ run.stage.pending ∧ event.eventId = eventId := by
  cases moves with
  | published event rest sent at_ =>
    cases reached
    rw [at_, pending_loop, published_loop]
    refine ⟨subset_cons_self _ _, ?_⟩
    intro eventId mem
    rcases mem_append.mp mem with before | now
    · exact .inl before
    · exact .inr ⟨event, mem_cons_self, mem_cons_self, (mem_singleton.mp now).symm⟩
  | raised event rest sent more next at_ fits =>
    cases reached
    rw [at_]
    rcases fits with ⟨error, rfl⟩ | rfl
    · exact ⟨Subset.refl _, fun _ => .inl⟩
    · exact ⟨nil_subset _, fun _ => .inl⟩
  | deadLettered event error rest sent next at_ fits =>
    cases reached
    rw [at_]
    rcases fits with rfl | rfl
    · rw [pending_loop, published_loop]
      exact ⟨subset_cons_self _ _, fun _ => .inl⟩
    · exact ⟨nil_subset _, fun _ => .inl⟩
  | unmarked event error rest sent at_ =>
    cases reached
    rw [at_]
    exact ⟨nil_subset _, fun _ => .inl⟩
  | marked sent at_ => cases reached
  | ended => cases reached

end Moves

variable {outbox : List OutboxRow} {row : OutboxRow}

theorem Relayed.staged (relayed : Relayed columns state accepted) {events : List EventEnvelope}
    (staged : stageEvents columns state.store.outbox events = some outbox)
    : Relayed columns
        { state with
          store := { state.store with outbox, staged := state.store.staged ++ events } }
        accepted := by
  have unique := stageEvents_unique staged ((unique_envelopes _).mp relayed.unique)
  obtain ⟨added, rfl, stored, -⟩ := stageEvents_some staged
  have kept {envelope : EventEnvelope} (inside : envelope ∈ state.store.envelopes)
      : envelope ∈ (state.store.outbox ++ added).map OutboxRow.envelope := by
    rw [map_append]
    exact mem_append_left _ inside
  refine ⟨?_, ?_, ?_, ?_, ?_⟩
  · intro envelope mem
    obtain ⟨row, inside, rfl⟩ := mem_map.mp mem
    rcases mem_append.mp inside with before | new
    · obtain ⟨event, given, same⟩ := relayed.stored _ (mem_map_of_mem before)
      exact ⟨event, mem_append_left _ given, same⟩
    · obtain ⟨event, given, envelope, same, rfl⟩ := stored row new
      exact ⟨event, mem_append_right _ given, same⟩
  · exact (unique_envelopes _).mpr unique
  · intro row mem
    rcases mem_append.mp mem with before | new
    · exact relayed.leases row before
    · obtain ⟨event, given, envelope, same, rfl⟩ := stored row new
      exact nofun
  · intro relay run runs event mem
    exact kept (relayed.pending relay run runs event mem)
  · intro relay run runs eventId mem
    obtain ⟨event, before, inside, same⟩ := relayed.published relay run runs eventId mem
    exact ⟨event, before, kept inside, same⟩

theorem Relayed.leased (relayed : Relayed columns state accepted) (relay : Nat)
    (query : LeaseQuery) (order : List String)
    : Relayed columns
        { state with
          store := { state.store with outbox := leaseRows state.store.outbox state.now query }
          relays := update state.relays relay (some
              { source := query.source
                stage := .loop []
                  (arranged (claimableOutbox state.store.outbox state.now query) order) }) }
        accepted := by
  have same : OutboxStore.envelopes
      { state.store with outbox := leaseRows state.store.outbox state.now query }
      = state.store.envelopes := leaseRows_envelopes _ _ _
  refine ⟨?_, ?_, leaseRows_leases relayed.leases, ?_, ?_⟩
  · rw [same]
    exact relayed.stored
  · rw [same]
    exact relayed.unique
  · intro other run runs event mem
    rw [same]
    rcases of_update_some runs with ⟨_, ⟨⟩⟩ | ⟨_, before⟩
    · rw [pending_loop] at mem
      exact arranged_envelopes mem
    · exact relayed.pending other run before event mem
  · intro other run runs eventId mem
    rw [same]
    rcases of_update_some runs with ⟨_, ⟨⟩⟩ | ⟨_, before⟩
    · rw [published_loop] at mem
      cases mem
    · exact relayed.published other run before eventId mem

theorem Relayed.acted (relayed : Relayed columns state accepted) {relay : Nat} {run : RelayRun}
    {step : RelayStep} (runs : state.relays relay = some run)
    (moves : RelayMoves state.now state.store run step)
    : Relayed columns
        { state with
          store := step.store
          relays := update state.relays relay
            (step.stage.map fun stage => { run with stage }) }
        (accepted ++ step.accepted) := by
  obtain ⟨same, history, leases⟩ := moves.tables
  refine ⟨?_, ?_, leases relayed.leases, ?_, ?_⟩
  · rw [same, history]
    exact relayed.stored
  · rw [same]
    exact relayed.unique
  · intro other next reached event mem
    rw [same]
    rcases of_update_some reached with ⟨_, moved⟩ | ⟨_, before⟩
    · obtain ⟨stage, at_, rfl⟩ := Option.map_eq_some_iff.mp moved
      exact relayed.pending relay run runs event ((moves.carries at_).1 mem)
    · exact relayed.pending other next before event mem
  · intro other next reached eventId mem
    rw [same]
    have earlier {holder : Nat} {before : RelayRun} (held : state.relays holder = some before)
        (counted : eventId ∈ before.stage.published)
        : ∃ event ∈ accepted ++ step.accepted,
            event ∈ state.store.envelopes ∧ event.eventId = eventId := by
      obtain ⟨event, past, inside, equal⟩ := relayed.published holder before held eventId counted
      exact ⟨event, mem_append_left _ past, inside, equal⟩
    rcases of_update_some reached with ⟨_, moved⟩ | ⟨_, before⟩
    · obtain ⟨stage, at_, rfl⟩ := Option.map_eq_some_iff.mp moved
      rcases (moves.carries at_).2 eventId mem with counted | ⟨event, now, carried, equal⟩
      · exact earlier runs counted
      · exact ⟨event, mem_append_right _ now,
          relayed.pending relay run runs event carried, equal⟩
    · exact earlier before mem

theorem relayed_step (state : OutboxState) (accepted : List EventEnvelope)
    (action : OutboxAction) (relayed : Relayed columns state accepted)
    : Relayed columns ((outboxMachine columns).step state action).1
        (accepted ++ ((outboxMachine columns).step state action).2) := by
  have moves := outboxStep_moves columns state action
  generalize (outboxMachine columns).step state action = next at moves
  cases moves with
  | idle =>
    rw [append_nil]
    exact relayed
  | ticked seconds =>
    rw [append_nil]
    exact ⟨relayed.stored, relayed.unique, relayed.leases, relayed.pending, relayed.published⟩
  | staged events outbox staged =>
    rw [append_nil]
    exact relayed.staged staged
  | leased relay query order =>
    rw [append_nil]
    exact relayed.leased relay query order
  | acted relay run action step runs moves => exact relayed.acted runs moves

/-- A row that is sent after a marking was sent before, or is one of the marked ones. -/
theorem sent_markRows {now : Int} {eventIds : List String}
    (mem : row ∈ markRows outbox now eventIds) (sent : row.sentAt ≠ none)
    : ∃ before ∈ outbox, before.envelope = row.envelope
        ∧ (before.sentAt ≠ none ∨ row.eventId ∈ eventIds) := by
  obtain ⟨before, inside, rfl⟩ := mem_map.mp mem
  split at sent
  next marked =>
    rw [if_pos marked]
    exact ⟨before, inside, rfl, .inr (contains_iff_mem.mp marked)⟩
  next unmarked =>
    rw [if_neg unmarked]
    exact ⟨before, inside, rfl, .inl sent⟩

/-- A row became sent in a step only if the broker had accepted its envelope, or if the step added
a dead letter of its event.
-/
theorem sent_step (relayed : Relayed columns state accepted) (action : OutboxAction)
    (mem : row ∈ ((outboxMachine columns).step state action).1.store.outbox)
    (sent : row.sentAt ≠ none)
    : (∃ before ∈ state.store.outbox, before.eventId = row.eventId ∧ before.sentAt ≠ none)
      ∨ row.envelope ∈ accepted
      ∨ ∃ letter, ((outboxMachine columns).step state action).1.store.deadLetters
            = state.store.deadLetters ++ [letter]
          ∧ letter.originalEventId = row.eventId := by
  have moves := outboxStep_moves columns state action
  generalize (outboxMachine columns).step state action = next at moves mem
  cases moves with
  | idle => exact .inl ⟨row, mem, rfl, sent⟩
  | ticked => exact .inl ⟨row, mem, rfl, sent⟩
  | staged events outbox staged =>
    obtain ⟨added, rfl, stored, -⟩ := stageEvents_some staged
    rcases mem_append.mp mem with before | new
    · exact .inl ⟨row, before, rfl, sent⟩
    · obtain ⟨event, given, envelope, same, rfl⟩ := stored row new
      exact absurd rfl sent
  | leased relay query order =>
    obtain ⟨before, inside, rfl⟩ := mem_map.mp mem
    refine .inl ⟨before, inside, ?_⟩
    split at sent
    next chosen =>
      rw [if_pos chosen]
      exact ⟨rfl, sent⟩
    next other =>
      rw [if_neg other]
      exact ⟨rfl, sent⟩
  | acted relay run action step runs moves =>
    cases moves
    case deadLettered event error rest published stage at_ fits =>
        obtain ⟨before, inside, same, cause⟩ := sent_markRows mem sent
        rcases cause with already | marked
        · exact .inl ⟨before, inside, congrArg EventEnvelope.eventId same, already⟩
        · exact .inr (.inr ⟨_, rfl, (mem_singleton.mp marked).symm⟩)
    case marked published at_ =>
        obtain ⟨before, inside, same, cause⟩ := sent_markRows mem sent
        rcases cause with already | marked
        · exact .inl ⟨before, inside, congrArg EventEnvelope.eventId same, already⟩
        · obtain ⟨event, past, carried, equal⟩ :=
            relayed.published relay run runs row.eventId (by rw [at_]; exact marked)
          have here : row.envelope ∈ state.store.envelopes := same ▸ mem_map_of_mem inside
          have known : event = row.envelope := relayed.unique.eq_of_key carried here equal
          exact .inr (.inl (known ▸ past))
    all_goals exact .inl ⟨row, mem, rfl, sent⟩

/-- Envelopes stay in the outbox. -/
theorem envelopes_step (columns : OutboxColumns) (state : OutboxState) (action : OutboxAction)
    : state.store.envelopes <+: ((outboxMachine columns).step state action).1.store.envelopes := by
  have moves := outboxStep_moves columns state action
  generalize (outboxMachine columns).step state action = next at moves
  cases moves with
  | idle => exact prefix_rfl
  | ticked => exact prefix_rfl
  | staged events outbox staged =>
    obtain ⟨added, rfl, -, -⟩ := stageEvents_some staged
    rw [OutboxStore.envelopes, OutboxStore.envelopes, map_append]
    exact prefix_append _ _
  | leased relay query order =>
    rw [OutboxStore.envelopes, OutboxStore.envelopes, leaseRows_envelopes]
  | acted relay run action step runs moves => rw [moves.tables.1]

theorem envelopes_run (columns : OutboxColumns) (state : OutboxState) (actions : List OutboxAction)
    : state.store.envelopes <+: ((outboxMachine columns).run state actions).store.envelopes := by
  induction actions generalizing state with
  | nil => exact prefix_rfl
  | cons action rest ih => exact (envelopes_step columns state action).trans (ih _)

/-- Staging leaves the rows that are there as they are, whatever their events. -/
theorem outbox_stage (columns : OutboxColumns) (state : OutboxState) (events : List EventEnvelope)
    : state.store.outbox
      <+: ((outboxMachine columns).step state (.stage events)).1.store.outbox := by
  have moves := outboxStep_moves columns state (.stage events)
  generalize (outboxMachine columns).step state (.stage events) = next at moves
  cases moves with
  | idle => exact prefix_rfl
  | staged _ outbox staged =>
    obtain ⟨added, rfl, -, -⟩ := stageEvents_some staged
    exact prefix_append _ _

def OutboxRow.LeaseOver (row : OutboxRow) (now : Int) : Prop :=
  ∀ expiry, row.leasedUntil = some expiry → expiry < now

/-- An unsent row whose lease is over is leased by the next call that may see it, unless the
batch is filled by rows before it.
-/
theorem Relayed.claimable (relayed : Relayed columns state accepted)
    (mem : row ∈ state.store.outbox) (unsent : row.sentAt = none) {now : Int}
    (ended : row.LeaseOver now) {query : LeaseQuery}
    (source : query.source.all (row.envelope.source = ·) = true)
    (unlocked : row.eventId ∉ query.locked)
    : row ∈ claimableOutbox state.store.outbox now query
      ∨ (claimableOutbox state.store.outbox now query).length = query.limit := by
  have available : row.available now = true := by
    cases leased : row.leaseId with
    | none => simp [OutboxRow.available, leased]
    | some lease =>
      obtain ⟨expiry, until_⟩ := Option.isSome_iff_exists.mp
        (relayed.leases row mem (by rw [leased]; rfl))
      simp [OutboxRow.available, until_, ended expiry until_]
  have chosen : row ∈ state.store.outbox.filter fun other =>
      query.filters now other && !query.locked.contains other.eventId := by
    refine mem_filter.mpr ⟨mem, ?_⟩
    simp [LeaseQuery.filters, unsent, available, source, unlocked]
  unfold claimableOutbox
  rcases Nat.le_total (state.store.outbox.filter fun other =>
      query.filters now other && !query.locked.contains other.eventId).length query.limit
    with few | many
  · rw [take_of_length_le few]
    exact .inl chosen
  · exact .inr (length_take_of_le many)

/-- What any number of relays leaves of the outbox, along every run.
The envelope of a row is the staged one with the payload as its `jsonb` column gives it back.
-/
structure OutboxKept (columns : OutboxColumns) (actions : List OutboxAction) : Prop where
  sent : ∀ earlier action, earlier ++ [action] <+: actions
    → ∀ row ∈ ((outboxMachine columns).run {} (earlier ++ [action])).store.outbox, row.sentAt ≠ none
    → (∃ before ∈ ((outboxMachine columns).run {} earlier).store.outbox,
        before.eventId = row.eventId ∧ before.sentAt ≠ none)
      ∨ row.envelope ∈ (outboxMachine columns).trace {} earlier
      ∨ ∃ letter,
        ((outboxMachine columns).run {} (earlier ++ [action])).store.deadLetters
          = ((outboxMachine columns).run {} earlier).store.deadLetters ++ [letter]
        ∧ letter.originalEventId = row.eventId
  stored : ∀ row ∈ ((outboxMachine columns).run {} actions).store.outbox,
      ∃ event ∈ ((outboxMachine columns).run {} actions).store.staged, ∃ payload,
        columns.jsonb event.payload = some payload ∧ row.envelope = { event with payload }
  unchanged : ∀ earlier, earlier <+: actions
    → ∀ row ∈ ((outboxMachine columns).run {} earlier).store.outbox,
      ∀ later ∈ ((outboxMachine columns).run {} actions).store.outbox,
        later.eventId = row.eventId → later.envelope = row.envelope
  present : ∀ earlier, earlier <+: actions
    → ∀ row ∈ ((outboxMachine columns).run {} earlier).store.outbox,
      ∃ later ∈ ((outboxMachine columns).run {} actions).store.outbox, later.eventId = row.eventId
  restaged : ∀ earlier events, earlier ++ [.stage events] <+: actions
    → ((outboxMachine columns).run {} earlier).store.outbox
      <+: ((outboxMachine columns).run {} (earlier ++ [.stage events])).store.outbox
  claimable : ∀ row ∈ ((outboxMachine columns).run {} actions).store.outbox, row.sentAt = none
    → ∀ now query, row.LeaseOver now → query.source.all (row.envelope.source = ·) = true
    → row.eventId ∉ query.locked
    → row ∈ claimableOutbox ((outboxMachine columns).run {} actions).store.outbox now query
      ∨ (claimableOutbox ((outboxMachine columns).run {} actions).store.outbox now
          query).length = query.limit

theorem outbox_loses_nothing (columns : OutboxColumns) (actions : List OutboxAction)
    : OutboxKept columns actions := by
  have relayed (taken : List OutboxAction) : Relayed columns ((outboxMachine columns).run {} taken)
        ((outboxMachine columns).trace {} taken) :=
    Machine.trace_invariant (fun action before => relayed_step _ _ action before) relayed_start
      taken
  have kept {earlier : List OutboxAction} (before : earlier <+: actions) {row : OutboxRow}
      (mem : row ∈ ((outboxMachine columns).run {} earlier).store.outbox)
      : row.envelope ∈ ((outboxMachine columns).run {} actions).store.envelopes := by
    obtain ⟨later, rfl⟩ := before
    rw [Machine.run_append]
    exact (envelopes_run columns _ later).subset (mem_map_of_mem mem)
  refine ⟨?_, ?_, ?_, ?_, ?_, ?_⟩
  · intro earlier action _ row mem sent
    rw [Machine.run_concat] at mem ⊢
    exact sent_step (relayed earlier) action mem sent
  · intro row mem
    obtain ⟨event, given, stored⟩ := (relayed actions).stored _ (mem_map_of_mem mem)
    exact ⟨event, given, OutboxColumns.stored_some stored⟩
  · intro earlier before row mem later inside same
    exact (relayed actions).unique.eq_of_key (mem_map_of_mem inside) (kept before mem) same
  · intro earlier before row mem
    obtain ⟨later, inside, same⟩ := mem_map.mp (kept before mem)
    exact ⟨later, inside, congrArg EventEnvelope.eventId same⟩
  · intro earlier events _
    rw [Machine.run_concat]
    exact outbox_stage columns _ events
  · intro row mem unsent now query ended source unlocked
    exact (relayed actions).claimable mem unsent ended source unlocked

end Runs

/-- The float `1e23`, which Python writes as `1e+23`. -/
def largeFloat : Rat := 99999999999999991611392

/-- A value as it is read back, with the numerals that `jsonb` shows for the floats that Python
writes with an exponent.
-/
def readNumber (numerals : List (Rat × Int)) : PyValue → PyValue
  | .scalar (.float (.finite value)) =>
    .scalar (((numerals.lookup value).map .int).getD (.float (.finite value)))
  | other => other

def numberColumns (numerals : List (Rat × Int)) : OutboxColumns where
  jsonb payload := some (payload.map fun entry => (entry.1, readNumber numerals entry.2))
  texts _ := true
  integers _ := true

def numberEvent : EventEnvelope where
  eventId := "e"
  subject := "s"
  source := "a"
  correlationId := "c"
  createdAt := "t"
  payload := [(.str "n", .scalar (.float (.finite largeFloat)))]

def numberRun : List OutboxAction :=
  [.stage [numberEvent],
    .lease 0 { leaseId := "l", leasedUntil := 60, source := none, limit := 1 } ["e"],
    .act 0 (.publish .accepted), .act 0 (.finish .committed)]

/-- The one numeral shown is a one with 23 zeros. -/
def largeColumns : OutboxColumns := numberColumns [(largeFloat, 10 ^ 23)]

/-- The row is marked as sent without a dead letter, and the broker has not accepted the staged
envelope: the number that it accepted is not the staged one, for Python either.
-/
theorem outbox_number_changed
    : ((outboxMachine largeColumns).run {} numberRun).store.outbox.map OutboxRow.sentAt
        = [some 0]
      ∧ ((outboxMachine largeColumns).run {} numberRun).store.deadLetters = []
      ∧ numberEvent ∉ (outboxMachine largeColumns).trace {} numberRun
      ∧ PyScalar.eq (.float (.finite largeFloat)) (.int (10 ^ 23)) = false := by
  refine ⟨rfl, rfl, ?_, by decide +kernel⟩
  intro mem
  have payload := mem_map_of_mem (f := EventEnvelope.payload) mem
  change _ ∈ [[(PyScalar.str "n", PyValue.scalar (.int (10 ^ 23)))]] at payload
  simp [numberEvent] at payload

end K8sClue.Events
