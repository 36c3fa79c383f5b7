import K8sClue.Library.Runs
import K8sClue.Python.Text

/-! Alertmanager notifications and the alerts that they leave.
A handler reads the evidence window of its notification, opens or reopens an incident where none
is going on, and then stores the alerts one by one. Each of these steps is atomic, and nothing is
locked between them.
-/

namespace K8sClue.Rca

open Python Library List Function

inductive AlertStatus where
  | firing
  | resolved
  deriving DecidableEq

/-- An alert of a notification; `δ` are the columns that each notification writes, and `μ` those
that follow the status.
-/
structure Alert (δ μ : Type) where
  (eventId status : String)
  described : δ
  measured : μ
  seriesIdentity : Option String := none

/-- A row of `alert_events`; `η` is what operators have done with the alert. -/
structure AlertRow (δ μ η : Type) where
  status : AlertStatus
  described : δ
  measured : μ
  (seriesIdentity incidentId : Option String)
  handled : Option η := none

inductive HandlerStage (δ μ : Type) where
  | started
  | found (ids : String × String)
  /-- before `record_evidence_event_once`, or `rotate_alertmanager_evidence_window` -/
  | writing (expected : Option (String × String))
  | persisting (incidentId : Option String) (alerts : List (Alert δ μ))

/-- A running `alertmanager_webhook`, with the event id and correlation id of its envelope. -/
structure Handler (δ μ : Type) where
  evidenceKey : String
  alerts : List (Alert δ μ)
  ids : String × String
  stage : HandlerStage δ μ

inductive AlertEntry where
  | created (correlationId : String)
  | upserted (eventId : String) (before : Option AlertStatus) (given after : AlertStatus)
      (incidentId : Option String)

structure WebhookState (δ μ η : Type) where
  windows : String → Option (String × String) := fun _ => none
  rows : String → Option (AlertRow δ μ η) := fun _ => none
  handlers : Nat → Option (Handler δ μ) := fun _ => none
  log : List AlertEntry := []

inductive WebhookAction (δ μ : Type) where
  | begin (alerts : List (Alert δ μ)) (ids : String × String)
  /-- the next statement; `reopen` is what the disposition of the incident says then -/
  | advance (reopen : Bool)

section Webhook

variable {δ μ η : Type} (lower : String → String) (evidenceKey : List (Alert δ μ) → String)

/-- The status that `build_alertmanager_alert_event` reads. -/
def Alert.stored (alert : Alert δ μ) : AlertStatus :=
  if lower (strip alert.status) = "resolved" then .resolved else .firing

def AlertRow.incidentChanged (row : AlertRow δ μ η) (incidentId : Option String) : Bool :=
  incidentId.isSome && row.incidentId.isSome && incidentId ≠ row.incidentId

def AlertRow.resolvedIsTerminal (row : AlertRow δ μ η) (status : AlertStatus)
    (incidentId : Option String)
    : Bool :=
  row.status = .resolved && status ≠ .resolved && !row.incidentChanged incidentId

def upsertExternalAlertEvent (known : Option (AlertRow δ μ η)) (alert : Alert δ μ)
    (status : AlertStatus) (incidentId : Option String)
    : AlertRow δ μ η :=
  match known with
  | none => { alert with status, incidentId }
  | some row => {
      status := if row.resolvedIsTerminal status incidentId then row.status else status
      described := alert.described
      measured :=
        if row.resolvedIsTerminal status incidentId then row.measured else alert.measured
      seriesIdentity := alert.seriesIdentity <|> row.seriesIdentity
      incidentId := incidentId <|> row.incidentId
      handled := if row.incidentChanged incidentId then none else row.handled }

namespace WebhookState

variable (state : WebhookState δ μ η) (id : Nat) (handler : Handler δ μ)

def keep (stage : HandlerStage δ μ) : WebhookState δ μ η :=
  { state with handlers := update state.handlers id (some { handler with stage }) }

def create : WebhookState δ μ η :=
  { state.keep id handler (.persisting (some handler.ids.2) handler.alerts) with
    windows := update state.windows handler.evidenceKey (some handler.ids)
    log := state.log ++ [.created handler.ids.2] }

def upsert (incidentId : Option String) (alert : Alert δ μ) (rest : List (Alert δ μ))
    : WebhookState δ μ η :=
  let known := state.rows alert.eventId
  let given := alert.stored lower
  let row := upsertExternalAlertEvent known alert given incidentId
  { state.keep id handler (.persisting incidentId rest) with
    rows := update state.rows alert.eventId (some row)
    log := state.log
      ++ [.upserted alert.eventId (known.map (·.status)) given row.status incidentId] }

/-- The next statement of `alertmanager_webhook`. -/
def advance (reopen : Bool) : WebhookState δ μ η :=
  match handler.stage with
  | .started =>
    match state.windows handler.evidenceKey with
    | none => state.keep id handler (.writing none)
    | some ids => state.keep id handler (.found ids)
  | .found ids =>
    if reopen then state.keep id handler (.writing (some ids))
    else state.keep id handler (.persisting (some ids.2) handler.alerts)
  | .writing expected =>
    match state.windows handler.evidenceKey with
    | none => state.create id handler
    | some ids =>
      if expected = some ids then state.create id handler
      else state.keep id handler (.persisting (some ids.2) handler.alerts)
  | .persisting incidentId (alert :: rest) =>
    state.upsert lower id handler incidentId alert rest
  | .persisting _ [] => { state with handlers := update state.handlers id none }

end WebhookState

/-- A notification without firing alerts is stored without an incident. -/
def webhookMachine : Machine (WebhookState δ μ η) (Nat × WebhookAction δ μ) Unit where
  step state action :=
    match state.handlers action.1, action.2 with
    | none, .begin alerts ids =>
      let stage := if alerts.any fun alert => lower (strip alert.status) = "firing" then .started
        else .persisting none alerts
      (state.keep action.1 ⟨evidenceKey alerts, alerts, ids, stage⟩ stage, [])
    | some handler, .advance reopen => (state.advance lower action.1 handler reopen, [])
    | _, _ => (state, [])

/-- The upsert brings the alert as resolved; one that the terminal rule refuses does not. -/
def AlertEntry.resolves (eventId : String) : AlertEntry → Bool
  | .upserted other _ .resolved _ _ => other = eventId
  | _ => false

/-- The incident is first created after all upserts that have stored the alert as resolved. -/
def createdAfterResolved (eventId correlationId : String) : List AlertEntry → Bool
  | [] => false
  | .created other :: later =>
    if other = correlationId then !later.any (·.resolves eventId)
    else createdAfterResolved eventId correlationId later
  | .upserted .. :: later => createdAfterResolved eventId correlationId later

/-- A resolved alert fires again only by an upsert with such an incident. -/
def AlertEntry.Revives (log : List AlertEntry) : AlertEntry → Prop
  | .upserted eventId before _ after incidentId =>
    before = some .resolved → after = .firing
    → ∃ correlationId, incidentId = some correlationId
        ∧ createdAfterResolved eventId correlationId log = true
  | .created _ => True

def RevivedByNew (log : List AlertEntry) : Prop :=
  ∀ earlier entry later, log = earlier ++ entry :: later → entry.Revives earlier

/-- The incident id that a handler has read or obtained. -/
def Handler.incidentId (handler : Handler δ μ) : Option String :=
  match handler.stage with
  | .found ids => some ids.2
  | .persisting incidentId _ => incidentId
  | _ => none

/-- The alerts that a handler has still to store. -/
def Handler.pending (handler : Handler δ μ) : List (Alert δ μ) :=
  match handler.stage with
  | .persisting _ alerts => alerts
  | _ => handler.alerts

def FiresIn (eventId : String) (alerts : List (Alert δ μ)) : Prop :=
  ∃ alert ∈ alerts, alert.eventId = eventId ∧ alert.stored lower = .firing

/-- The incidents that a notification may bring to an alert: a handler that has still to store
the alert as firing holds the id, or a window that such a notification reads.
-/
inductive Circulates (state : WebhookState δ μ η) (eventId : String) : String → Prop
  | held {id : Nat} {handler : Handler δ μ} {correlationId : String}
      (running : state.handlers id = some handler)
      (holds : handler.incidentId = some correlationId)
      (fires : FiresIn lower eventId handler.pending)
    : Circulates state eventId correlationId
  | live {alerts : List (Alert δ μ)} {ids : String × String}
      (window : state.windows (evidenceKey alerts) = some ids)
      (fires : FiresIn lower eventId alerts)
    : Circulates state eventId ids.2

/-- No alert is stored as resolved under one incident while another one circulates for it, and new
incidents have new ids.
-/
def Orderly (state : WebhookState δ μ η) (action : Nat × WebhookAction δ μ) : Prop :=
  match state.handlers action.1, action.2 with
  | some handler, .advance _ =>
    match handler.stage with
    | .writing _ => .created handler.ids.2 ∉ state.log
    | .persisting incidentId (alert :: _) =>
      alert.stored lower = .resolved
      → ∀ correlationId, Circulates lower evidenceKey state alert.eventId correlationId
      → (incidentId <|> (state.rows alert.eventId).bind (·.incidentId)) = some correlationId
    | _ => True
  | _, _ => True

/-- What circulates for a resolved alert is the incident that it was resolved under, or newer. -/
structure Ordered (state : WebhookState δ μ η) : Prop where
  keyed : ∀ id handler,
    state.handlers id = some handler → handler.evidenceKey = evidenceKey handler.alerts
  revived : RevivedByNew state.log
  newer : ∀ eventId row, state.rows eventId = some row → row.status = .resolved
    → ∃ settled, (row.incidentId = settled ∨ settled = none)
        ∧ ∀ correlationId, Circulates lower evidenceKey state eventId correlationId
          → settled = some correlationId
            ∨ createdAfterResolved eventId correlationId state.log = true

variable {log : List AlertEntry} {row : AlertRow δ μ η} {incidentId : Option String}
  {alert : Alert δ μ} {rest : List (Alert δ μ)} {entry : AlertEntry}
  {eventId correlationId : String}

theorem RevivedByNew.concat (revived : RevivedByNew log) (last : entry.Revives log)
    : RevivedByNew (log ++ [entry]) := by
  intro earlier other later same
  induction later using List.reverseRecOn with
  | nil =>
    obtain ⟨rfl, single⟩ := append_inj' same rfl
    exact singleton_inj.mp single ▸ last
  | append_singleton later final _ =>
    rw [← cons_append, ← append_assoc] at same
    exact revived earlier other later (append_inj' same rfl).1

theorem createdAfterResolved_created (fresh : .created correlationId ∉ log)
    : createdAfterResolved eventId correlationId (log ++ [.created correlationId]) = true := by
  induction log with
  | nil => simp [createdAfterResolved]
  | cons entry log ih =>
    have later := ih fun known => fresh (mem_cons_of_mem _ known)
    cases entry with
    | created other =>
      have differs : other ≠ correlationId := fun same => fresh (same ▸ mem_cons_self)
      simp only [cons_append, createdAfterResolved, if_neg differs, later]
    | upserted => exact later

/-- An incident stays newer until the alert is stored as resolved again. -/
theorem createdAfterResolved_concat (quiet : entry.resolves eventId = false)
    (created : createdAfterResolved eventId correlationId log = true)
    : createdAfterResolved eventId correlationId (log ++ [entry]) = true := by
  induction log with
  | nil => cases created
  | cons first log ih =>
    cases first with
    | created other =>
      unfold createdAfterResolved at created
      simp only [cons_append, createdAfterResolved]
      split_ifs at created ⊢ with same
      · rw [any_append, any_cons, quiet]
        simpa using created
      · exact ih created
    | upserted => exact ih created

variable {state : WebhookState δ μ η} {lower evidenceKey} {id : Nat} {handler : Handler δ μ}
  {stage : HandlerStage δ μ}

theorem incidentChanged_iff
    : row.incidentChanged incidentId = true
      ↔ ∃ correlationId stored, incidentId = some correlationId ∧ row.incidentId = some stored
        ∧ correlationId ≠ stored := by
  unfold AlertRow.incidentChanged
  cases incidentId <;> cases row.incidentId <;> simp

/-- A resolved alert fires again exactly by a firing one under another incident. -/
theorem status_upsert_firing (resolved : row.status = .resolved) {status : AlertStatus}
    : (upsertExternalAlertEvent (some row) alert status incidentId).status = .firing
      ↔ status = .firing ∧ row.incidentChanged incidentId = true := by
  simp only [upsertExternalAlertEvent, AlertRow.resolvedIsTerminal, resolved]
  cases status <;> cases row.incidentChanged incidentId <;> simp

theorem incidentId_upsert {known : Option (AlertRow δ μ η)} {status : AlertStatus}
    : (upsertExternalAlertEvent known alert status incidentId).incidentId
      = (incidentId <|> known.bind (·.incidentId)) := by
  cases known with
  | none => cases incidentId <;> rfl
  | some row => rfl

/-- A handler that moves on brings nothing new where what it then brings circulated before. -/
theorem Circulates.of_update {next : WebhookState δ μ η} {given : Option (Handler δ μ)}
    (circulates : Circulates lower evidenceKey next eventId correlationId)
    (handlers : next.handlers = update state.handlers id given)
    (windows : next.windows = state.windows)
    (brings : ∀ other held, given = some other → other.incidentId = some held
      → FiresIn lower eventId other.pending → Circulates lower evidenceKey state eventId held)
    : Circulates lower evidenceKey state eventId correlationId := by
  cases circulates with
  | held running holds fires =>
    rw [handlers] at running
    rcases of_update_some running with ⟨_, moved⟩ | ⟨_, known⟩
    · exact brings _ _ moved holds fires
    · exact .held known holds fires
  | live window fires => exact .live (windows ▸ window) fires

/-- The new incident apart, creating one brings nothing new. -/
theorem Circulates.of_create
    (circulates : Circulates lower evidenceKey (state.create id handler) eventId correlationId)
    : Circulates lower evidenceKey state eventId correlationId
      ∨ correlationId = handler.ids.2 := by
  cases circulates with
  | held running holds fires =>
    rcases of_update_some running with ⟨_, same⟩ | ⟨_, known⟩
    · cases same
      exact .inr (Option.some.inj holds).symm
    · exact .inl (.held known holds fires)
  | live window fires =>
    rcases of_update_some window with ⟨_, same⟩ | ⟨_, known⟩
    · exact .inr (congrArg Prod.snd (Option.some.inj same)).symm
    · exact .inl (.live known fires)

theorem Circulates.of_upsert (opened : state.handlers id = some handler)
    (atStage : handler.stage = .persisting incidentId (alert :: rest))
    (circulates : Circulates lower evidenceKey
      (state.upsert lower id handler incidentId alert rest) eventId correlationId)
    : Circulates lower evidenceKey state eventId correlationId := by
  refine circulates.of_update rfl rfl fun _ held moved holds ⟨other, isIn, fires⟩ => ?_
  cases moved
  have before : handler.incidentId = some held := by
    unfold Handler.incidentId
    rw [atStage]
    exact holds
  refine .held opened before ⟨other, ?_, fires⟩
  unfold Handler.pending
  rw [atStage]
  exact mem_cons_of_mem _ isIn

namespace Ordered

variable (ordered : Ordered lower evidenceKey state)

include ordered

theorem keyed_update {given : Option (Handler δ μ)}
    (keyed : ∀ other, given = some other → other.evidenceKey = evidenceKey other.alerts)
    (known : Nat) (other : Handler δ μ)
    (running : update state.handlers id given known = some other)
    : other.evidenceKey = evidenceKey other.alerts := by
  rcases of_update_some running with ⟨_, same⟩ | ⟨_, before⟩
  · exact keyed other same
  · exact ordered.keyed known other before

/-- The state of a handler changes, and nothing else. -/
theorem keep (keyed : handler.evidenceKey = evidenceKey handler.alerts)
    (brings : ∀ eventId held, { handler with stage }.incidentId = some held
      → FiresIn lower eventId { handler with stage }.pending
      → Circulates lower evidenceKey state eventId held)
    : Ordered lower evidenceKey (state.keep id handler stage) where
  keyed := ordered.keyed_update fun other same => by
    cases same
    exact keyed
  revived := ordered.revived
  newer eventId row known resolved := by
    obtain ⟨settled, stored, newer⟩ := ordered.newer eventId row known resolved
    refine ⟨settled, stored, fun correlationId circulates => ?_⟩
    refine newer correlationId (circulates.of_update rfl rfl fun _ held moved => ?_)
    cases moved
    exact brings eventId held

/-- A handler takes over the incident of the window that it finds. -/
theorem take {ids : String × String} (keyed : handler.evidenceKey = evidenceKey handler.alerts)
    (window : state.windows handler.evidenceKey = some ids)
    (holds : { handler with stage }.incidentId = some ids.2)
    (pending : { handler with stage }.pending = handler.alerts)
    : Ordered lower evidenceKey (state.keep id handler stage) := by
  refine ordered.keep keyed fun eventId held same fires => ?_
  rw [pending] at fires
  cases holds.symm.trans same
  rw [keyed] at window
  exact .live window fires

theorem create (keyed : handler.evidenceKey = evidenceKey handler.alerts)
    (fresh : .created handler.ids.2 ∉ state.log)
    : Ordered lower evidenceKey (state.create id handler) where
  keyed := ordered.keyed_update fun other same => by
    cases same
    exact keyed
  revived := ordered.revived.concat trivial
  newer eventId row known resolved := by
    obtain ⟨settled, stored, newer⟩ := ordered.newer eventId row known resolved
    refine ⟨settled, stored, fun correlationId circulates => ?_⟩
    rcases circulates.of_create with before | rfl
    · exact (newer correlationId before).imp_right (createdAfterResolved_concat rfl)
    · exact .inr (createdAfterResolved_created fresh)

/-- A resolved alert is revived by a newer incident only. -/
theorem revives (opened : state.handlers id = some handler)
    (atStage : handler.stage = .persisting incidentId (alert :: rest))
    : (AlertEntry.upserted alert.eventId ((state.rows alert.eventId).map (·.status))
        (alert.stored lower) (upsertExternalAlertEvent (state.rows alert.eventId) alert
          (alert.stored lower) incidentId).status incidentId).Revives state.log := by
  intro before after
  obtain ⟨row, found, resolved⟩ := Option.map_eq_some_iff.mp before
  rw [found] at after
  obtain ⟨fires, changed⟩ := (status_upsert_firing resolved).mp after
  obtain ⟨correlationId, stored, rfl, held, differs⟩ := incidentChanged_iff.mp changed
  obtain ⟨settled, under, newer⟩ := ordered.newer alert.eventId row found resolved
  have circulates : Circulates lower evidenceKey state alert.eventId correlationId := by
    refine .held opened ?_ ⟨alert, ?_, rfl, fires⟩
    · rw [Handler.incidentId, atStage]
    · rw [Handler.pending, atStage]
      exact mem_cons_self
  refine ⟨correlationId, rfl, (newer correlationId circulates).resolve_left ?_⟩
  -- the alert was resolved under the incident that it has now, or under none
  rintro rfl
  rcases under with same | none
  · exact differs (Option.some.inj (same.symm.trans held))
  · cases none

/-- The row of the alert itself: resolved anew, or still resolved under what it had. -/
theorem newer_stored
    (resolves : alert.stored lower = .resolved
      → ∀ correlationId, Circulates lower evidenceKey state alert.eventId correlationId
      → (incidentId <|> (state.rows alert.eventId).bind (·.incidentId)) = some correlationId)
    (resolved : (upsertExternalAlertEvent (state.rows alert.eventId) alert (alert.stored lower)
      incidentId).status = .resolved)
    : ∃ settled, ((upsertExternalAlertEvent (state.rows alert.eventId) alert (alert.stored lower)
          incidentId).incidentId = settled ∨ settled = none)
        ∧ ∀ correlationId, Circulates lower evidenceKey state alert.eventId correlationId
          → settled = some correlationId
            ∨ alert.stored lower = .firing
              ∧ createdAfterResolved alert.eventId correlationId state.log = true := by
  rw [incidentId_upsert]
  cases given : alert.stored lower with
  | resolved =>
    exact ⟨_, .inl rfl, fun correlationId circulates => .inl (resolves given _ circulates)⟩
  | firing =>
    -- a refused upsert; it may only give an incident to a row that has none
    rw [given] at resolved
    cases found : state.rows alert.eventId with
    | none =>
      rw [found] at resolved
      cases resolved
    | some row =>
      rw [found] at resolved
      have terminal : row.resolvedIsTerminal .firing incidentId = true := by
        by_contra goes
        simp [upsertExternalAlertEvent, goes] at resolved
      simp only [AlertRow.resolvedIsTerminal, Bool.and_eq_true, decide_eq_true_eq,
        Bool.not_eq_true'] at terminal
      obtain ⟨⟨wasResolved, _⟩, unchanged⟩ := terminal
      obtain ⟨settled, stored, newer⟩ := ordered.newer alert.eventId row found wasResolved
      refine ⟨settled, ?_, fun correlationId circulates =>
        (newer correlationId circulates).imp_right fun created => ⟨rfl, created⟩⟩
      rcases stored with rfl | unsettled
      · cases incidentId with
        | none => exact .inl rfl
        | some correlationId =>
          cases held : row.incidentId with
          | none => exact .inr rfl
          | some stored =>
            refine .inl (congrArg some (Classical.not_not.mp fun differs => ?_))
            have changed := incidentChanged_iff.mpr ⟨correlationId, stored, rfl, held, differs⟩
            cases changed.symm.trans unchanged
      · exact .inr unsettled

theorem upsert (opened : state.handlers id = some handler)
    (atStage : handler.stage = .persisting incidentId (alert :: rest))
    (resolves : alert.stored lower = .resolved
      → ∀ correlationId, Circulates lower evidenceKey state alert.eventId correlationId
      → (incidentId <|> (state.rows alert.eventId).bind (·.incidentId)) = some correlationId)
    : Ordered lower evidenceKey (state.upsert lower id handler incidentId alert rest) where
  keyed := ordered.keyed_update fun other same => by
    cases same
    exact ordered.keyed id handler opened
  revived := ordered.revived.concat (ordered.revives opened atStage)
  newer eventId row known resolved := by
    rcases of_update_some known with ⟨rfl, same⟩ | ⟨differs, before⟩
    · cases same
      obtain ⟨settled, stored, newer⟩ := ordered.newer_stored resolves resolved
      refine ⟨settled, stored, fun correlationId circulates => ?_⟩
      refine (newer correlationId (circulates.of_upsert opened atStage)).imp_right ?_
      rintro ⟨fires, created⟩
      refine createdAfterResolved_concat ?_ created
      rw [fires]
      rfl
    · obtain ⟨settled, stored, newer⟩ := ordered.newer eventId row before resolved
      refine ⟨settled, stored, fun correlationId circulates => ?_⟩
      refine (newer correlationId (circulates.of_upsert opened atStage)).imp_right
        (createdAfterResolved_concat ?_)
      cases alert.stored lower with
      | firing => rfl
      | resolved => exact decide_eq_false differs.symm

/-- Each orderly step keeps the order. -/
theorem step (action : Nat × WebhookAction δ μ) (orderly : Orderly lower evidenceKey state action)
    : Ordered lower evidenceKey ((webhookMachine lower evidenceKey).step state action).1 := by
  unfold webhookMachine
  dsimp only
  split
  next alerts ids _ _ =>
    refine ordered.keep rfl fun eventId held holds => ?_
    dsimp only [Handler.incidentId] at holds
    split_ifs at holds
  next handler reopen opened advances =>
    have keyed := ordered.keyed action.1 handler opened
    rw [Orderly, opened, advances] at orderly
    dsimp only at orderly
    unfold WebhookState.advance
    split
    next atStage =>
      split
      · exact ordered.keep keyed nofun
      next ids window => exact ordered.take keyed window rfl rfl
    next ids atStage =>
      split
      · exact ordered.keep keyed nofun
      · refine ordered.keep keyed fun eventId held holds fires => ?_
        refine .held opened ?_ ?_
        · rw [Handler.incidentId, atStage]
          exact holds
        · rw [Handler.pending, atStage]
          exact fires
    next expected atStage =>
      rw [atStage] at orderly
      split
      · exact ordered.create keyed orderly
      next ids window =>
        split
        · exact ordered.create keyed orderly
        · exact ordered.take keyed window rfl rfl
    next incidentId alert rest atStage =>
      rw [atStage] at orderly
      exact ordered.upsert opened atStage orderly
    next =>
      exact {
        keyed := ordered.keyed_update nofun
        revived := ordered.revived
        newer := fun eventId row known resolved => by
          obtain ⟨settled, stored, newer⟩ := ordered.newer eventId row known resolved
          exact ⟨settled, stored, fun _ circulates =>
            newer _ (circulates.of_update rfl rfl nofun)⟩ }
  next => exact ordered

end Ordered

/-- A resolved alert is revived only by later incidents, in every run of orderly steps.
Witness: the invariant that what circulates for a resolved alert is newer, or the incident that
the terminal rule refuses.
-/
theorem revived_by_new {actions : List (Nat × WebhookAction δ μ)}
    (orderly : (webhookMachine lower evidenceKey).Admits (Orderly lower evidenceKey)
      ({} : WebhookState δ μ η) actions)
    : RevivedByNew
        ((webhookMachine lower evidenceKey).run ({} : WebhookState δ μ η) actions).log := by
  have start : Ordered lower evidenceKey ({} : WebhookState δ μ η) := {
    keyed := fun _ _ running => by cases running
    revived := fun _ _ _ same => by cases (nil_eq_append_iff.mp same).2
    newer := fun _ _ known => by cases known }
  exact (Machine.run_invariant (fun _ action ordered => ordered.step action) start orderly).revived

end Webhook

def oneAlert (status : String) : List (Alert Unit Unit) := [⟨"e", status, (), (), none⟩]

/-- The second handler reads the incident `c1` and is delayed until the third one has stored the
alert as resolved; the fourth one finds the incident closed and opens `c2`.
-/
def refusedNotification : List (Nat × WebhookAction Unit Unit) :=
  [(1, .begin (oneAlert "firing") ("1", "c1")), (1, .advance false), (1, .advance false),
    (1, .advance false), (2, .begin (oneAlert "firing") ("2", "-")), (2, .advance false),
    (2, .advance false), (3, .begin (oneAlert "resolved") ("3", "-")), (3, .advance false),
    (2, .advance false), (4, .begin (oneAlert "firing") ("4", "c2")), (4, .advance false),
    (4, .advance true), (4, .advance false), (4, .advance false)]

theorem revived_by_new_refused
    : ((webhookMachine id fun _ => "k").run ({} : WebhookState Unit Unit Unit)
          refusedNotification).log
        = [.created "c1", .upserted "e" none .firing .firing (some "c1"),
          .upserted "e" (some .firing) .resolved .resolved none,
          .upserted "e" (some .resolved) .firing .resolved (some "c1"), .created "c2",
          .upserted "e" (some .resolved) .firing .firing (some "c2")]
      ∧ RevivedByNew ((webhookMachine id fun _ => "k").run ({} : WebhookState Unit Unit Unit)
          refusedNotification).log := by
  refine ⟨rfl, revived_by_new ⟨trivial, trivial, nofun, nofun, trivial, trivial, trivial, trivial,
    ?_, nofun, trivial, trivial, trivial, ?_, nofun, trivial⟩⟩
  · -- only `c1` circulates when the alert is stored as resolved
    intro _ correlationId circulates
    cases circulates with
    | held running holds fires =>
      rename_i id _
      obtain _ | _ | _ | _ | id := id
      all_goals cases running
      all_goals cases holds
      all_goals rfl
    | live window fires =>
      cases window
      rfl
  · have new : AlertEntry.created "c2" ∉ [.created "c1",
        .upserted "e" none .firing .firing (some "c1"),
        .upserted "e" (some .firing) .resolved .resolved none,
        .upserted "e" (some .resolved) .firing .resolved (some "c1")] := by simp
    exact new

/-- The second handler reads the incident `c1`, and then is delayed: the incident is closed, the
third handler opens `c2`, and the fourth one stores the alert as resolved.
-/
def delayedNotification : List (Nat × WebhookAction Unit Unit) :=
  [(1, .begin (oneAlert "firing") ("1", "c1")), (1, .advance false), (1, .advance false),
    (1, .advance false), (2, .begin (oneAlert "firing") ("2", "-")), (2, .advance false),
    (2, .advance false), (3, .begin (oneAlert "firing") ("3", "c2")), (3, .advance false),
    (3, .advance true), (3, .advance false), (3, .advance false),
    (4, .begin (oneAlert "resolved") ("4", "-")), (4, .advance false), (2, .advance false)]

theorem resolved_alert_revived
    : ¬ RevivedByNew ((webhookMachine id fun _ => "k").run ({} : WebhookState Unit Unit Unit)
        delayedNotification).log := by
  intro revived
  obtain ⟨_, same, created⟩ := revived
    [.created "c1", .upserted "e" none .firing .firing (some "c1"), .created "c2",
      .upserted "e" (some .firing) .firing .firing (some "c2"),
      .upserted "e" (some .firing) .resolved .resolved none]
    (.upserted "e" (some .resolved) .firing .firing (some "c1")) [] rfl rfl rfl
  cases same
  cases created

end K8sClue.Rca
