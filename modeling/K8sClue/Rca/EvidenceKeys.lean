import K8sClue.Inventory.PlainPlatform
import K8sClue.Library.Separated

/-! Keys of evidence windows.
The key alone identifies a window, so it has to tell the tenants and the producers apart. Its
parts stand behind each other with colons between them, and none of them is escaped.
-/

namespace K8sClue.Rca

open Python Library List Function

structure Tenant where
  (workspaceId clusterId : String)
  deriving DecidableEq

/-- What a key of the tenant starts with. -/
def Tenant.scope (tenant : Tenant) : String :=
  tenant.workspaceId ++ ":" ++ tenant.clusterId ++ ":"

/-- JSON texts, and the first hexadecimal digits of SHA-256, taken as injective. -/
structure KeyPlatform where
  dumps : PyDict → String
  digest : String → String
  digest_plain : ∀ raw, ':' ∉ (digest raw).toList
  digest_injective : Injective digest

structure AgentEvidenceRequest where
  correlationId : Option String := none
  agentId : Option String := none
  sourceId : Option String := none
  windowStart : Option String := none
  evidenceKey : Option String := none
  workflowRunId : Option String := none
  releaseContext : PyDict := []
  collectionStatus : PyDict := []
  kubernetes : PyDict := []
  metrics : PyDict := []
  logs : List PyDict := []
  traces : PyDict := []
  metadata : PyDict := []

structure AlertmanagerAlert where
  status : String := "firing"
  startsAt : String := ""
  fingerprint : String := ""
  deriving DecidableEq

structure AlertmanagerWebhookRequest where
  groupKey : String := ""
  alerts : List AlertmanagerAlert := []
  deriving DecidableEq

def orText (first : Option String) (second : String) : String :=
  match first with
  | some text => if text = "" then second else text
  | none => second

variable (payload : AgentEvidenceRequest)

/-- A text that is not missing and not empty. -/
def AgentEvidenceRequest.ownKey : Option String :=
  payload.evidenceKey.filter (· ≠ "")

def scopedEvidenceKey (identity : Tenant) (payload : AgentEvidenceRequest) : Option String :=
  payload.ownKey.map (identity.scope ++ ·)

def optionalText (value : Option String) : PyValue :=
  match value with
  | some text => .scalar (.str text)
  | none => .scalar .none

/-- `payload.model_dump(exclude={"correlation_id"})`, under the identity and without a key. -/
def AgentEvidenceRequest.dump (identity : Tenant) : PyDict := [
  (.str "cluster_id", .scalar (.str identity.clusterId)),
  (.str "workspace_id", .scalar (.str identity.workspaceId)),
  (.str "agent_id", optionalText payload.agentId),
  (.str "source_id", optionalText payload.sourceId),
  (.str "window_start", optionalText payload.windowStart),
  (.str "evidence_key", .scalar .none),
  (.str "workflow_run_id", optionalText payload.workflowRunId),
  (.str "release_context", .dict payload.releaseContext),
  (.str "collection_status", .dict payload.collectionStatus),
  (.str "kubernetes", .dict payload.kubernetes),
  (.str "metrics", .dict payload.metrics),
  (.str "logs", .list (payload.logs.map .dict)),
  (.str "traces", .dict payload.traces),
  (.str "metadata", .dict payload.metadata)
]

def defaultEvidenceSourceId : String := "cluster-snapshot"

def AgentEvidenceRequest.source : String :=
  orText payload.sourceId defaultEvidenceSourceId

def AgentEvidenceRequest.window : String :=
  orText payload.windowStart (orText payload.correlationId "adhoc")

variable (env : KeyPlatform)

def agentEvidenceKey (identity : Tenant) (payload : AgentEvidenceRequest) : String :=
  match scopedEvidenceKey identity payload with
  | some key => key
  | none =>
    identity.workspaceId ++ ":" ++ identity.clusterId ++ ":" ++ payload.source ++ ":"
      ++ payload.window ++ ":" ++ env.digest (env.dumps (payload.dump identity))

/-- The digest of `alertmanager_evidence_key`. -/
def alertmanagerDigest (payload : AlertmanagerWebhookRequest) : String :=
  let firing := payload.alerts.filter (·.status = "firing")
  let named := firing.map fun alert => alert.fingerprint ++ "@" ++ alert.startsAt
  env.digest ("|".intercalate (payload.groupKey :: named.insertionSort (· ≤ ·)))

def alertmanagerEvidenceKey (tenant : Tenant) (payload : AlertmanagerWebhookRequest) : String :=
  tenant.workspaceId ++ ":" ++ tenant.clusterId ++ ":alertmanager:"
    ++ alertmanagerDigest env payload

def rcaEnrichedEvidenceKeySegment : String := "rca-enriched"

def rcaEnrichedEvidenceKey (tenant : Tenant) (correlationId : String) : String :=
  ":".intercalate
    [tenant.workspaceId, tenant.clusterId, rcaEnrichedEvidenceKeySegment, correlationId]

inductive EvidenceProducer where
  | agent
  | alertmanager
  | rcaEnriched
  deriving DecidableEq

inductive KeyCall where
  | agent (identity : Tenant) (payload : AgentEvidenceRequest)
  | alertmanager (tenant : Tenant) (payload : AlertmanagerWebhookRequest)
  | rcaEnriched (tenant : Tenant) (correlationId : String)

namespace KeyCall

def tenant : KeyCall → Tenant
  | .agent identity _ => identity
  | .alertmanager tenant _ => tenant
  | .rcaEnriched tenant _ => tenant

def producer : KeyCall → EvidenceProducer
  | .agent .. => .agent
  | .alertmanager .. => .alertmanager
  | .rcaEnriched .. => .rcaEnriched

def key (env : KeyPlatform) : KeyCall → String
  | .agent identity payload => agentEvidenceKey env identity payload
  | .alertmanager tenant payload => alertmanagerEvidenceKey env tenant payload
  | .rcaEnriched tenant correlationId => rcaEnrichedEvidenceKey tenant correlationId

end KeyCall

/-- The part of an agent's key behind the scope. -/
def AgentEvidenceRequest.tail (payload : AgentEvidenceRequest) (env : KeyPlatform)
    (identity : Tenant)
    : String :=
  match payload.ownKey with
  | some key => key
  | none =>
    payload.source ++ ":" ++ payload.window ++ ":"
      ++ env.digest (env.dumps (payload.dump identity))

def KeyCall.tail : KeyCall → String
  | .agent identity payload => payload.tail env identity
  | .alertmanager _ payload => "alertmanager:" ++ alertmanagerDigest env payload
  | .rcaEnriched _ correlationId => "rca-enriched:" ++ correlationId

/-- Every key is the scope of its tenant and a tail. -/
theorem KeyCall.key_eq (call : KeyCall)
    : call.key env = call.tenant.scope ++ call.tail env := by
  cases call with
  | agent identity payload =>
    simp only [key, agentEvidenceKey, scopedEvidenceKey, tail, AgentEvidenceRequest.tail, tenant]
    cases payload.ownKey with
    | some own => rfl
    | none => simp [Tenant.scope, String.append_assoc]
  | alertmanager tenant payload =>
    apply String.toList_inj.mp
    simp [key, alertmanagerEvidenceKey, tail, KeyCall.tenant, Tenant.scope]
  | rcaEnriched tenant correlationId =>
    apply String.toList_inj.mp
    simp [key, rcaEnrichedEvidenceKey, tail, KeyCall.tenant, Tenant.scope,
      rcaEnrichedEvidenceKeySegment]

variable {env : KeyPlatform} {first second : KeyCall} {left right : Tenant}

theorem key_eq_iff (sameTenant : first.tenant = second.tenant)
    : first.key env = second.key env ↔ first.tail env = second.tail env := by
  rw [KeyCall.key_eq, KeyCall.key_eq, sameTenant, ← String.toList_inj, ← String.toList_inj]
  simp

/-- The scope of one tenant starts the scope of another. -/
def Tenant.ScopeStarts (left right : Tenant) : Prop := left.scope.toList <+: right.scope.toList

/-- The same key only stands behind two scopes if one of them starts the other. -/
theorem scopeStarts_of_key_eq (same : first.key env = second.key env)
    : first.tenant.ScopeStarts second.tenant ∨ second.tenant.ScopeStarts first.tenant := by
  have lists := congrArg String.toList same
  rw [KeyCall.key_eq, KeyCall.key_eq, String.toList_append, String.toList_append] at lists
  have ofFirst : first.tenant.scope.toList
      <+: first.tenant.scope.toList ++ (first.tail env).toList := prefix_append _ _
  rw [lists] at ofFirst
  exact prefix_or_prefix_of_prefix ofFirst (prefix_append _ _)

def keyedRequest (key : String) : AgentEvidenceRequest where
  evidenceKey := some key

theorem agentEvidenceKey_keyed (env : KeyPlatform) (identity : Tenant) {key : String}
    (named : key ≠ "")
    : agentEvidenceKey env identity (keyedRequest key) = identity.scope ++ key := by
  have own : (keyedRequest key).ownKey = some key := Option.filter_eq_some_iff.mpr
    ⟨rfl, by simpa using named⟩
  simp [agentEvidenceKey, scopedEvidenceKey, own]

/-- Where the scope of one tenant starts that of another, their agents can give the same key. -/
theorem exists_key_eq (starts : left.ScopeStarts right) (env : KeyPlatform)
    : ∃ first second : KeyCall,
        first.tenant = left ∧ second.tenant = right
        ∧ first.key env = second.key env := by
  obtain ⟨rest, extended⟩ := starts
  refine ⟨.agent left (keyedRequest (String.ofList (rest ++ ['k']))),
    .agent right (keyedRequest "k"), rfl, rfl, ?_⟩
  have named : String.ofList (rest ++ ['k']) ≠ "" := by
    intro empty
    simpa using congrArg String.toList empty
  rw [KeyCall.key, KeyCall.key, agentEvidenceKey_keyed env left named,
    agentEvidenceKey_keyed env right (by decide), ← String.toList_inj]
  simp [← extended]

variable (payload : AgentEvidenceRequest)

/-- The request of an agent stays off the keys of the other producers: a key of its own starts
no enriched key and is none of an alert; without one its source does not lead to an enriched
key.
-/
def AgentEvidenceRequest.KeepsOff (env : KeyPlatform) : Prop :=
  match payload.ownKey with
  | some key =>
    ¬ "rca-enriched:".toList <+: key.toList
    ∧ ∀ alerts, key ≠ "alertmanager:" ++ alertmanagerDigest env alerts
  | none => ¬ "rca-enriched:".toList <+: (payload.source ++ ":").toList

theorem tail_ne_alertmanager {payload : AgentEvidenceRequest} (unnamed : payload.ownKey = none)
    (env : KeyPlatform) (identity : Tenant) (alerts : AlertmanagerWebhookRequest)
    : payload.tail env identity ≠ "alertmanager:" ++ alertmanagerDigest env alerts := by
  intro same
  have colons := congrArg (fun text => text.toList.count ':') same
  have plain : (alertmanagerDigest env alerts).toList.count ':' = 0 :=
    count_eq_zero.mpr (env.digest_plain _)
  simp [AgentEvidenceRequest.tail, unnamed] at colons
  omega

theorem starts_enriched_iff (source rest : List Char)
    : "rca-enriched:".toList <+: source ++ ':' :: rest
      ↔ "rca-enriched:".toList <+: source ++ [':'] := by
  have shorter : source ++ [':'] <+: source ++ ':' :: rest := ⟨rest, by simp⟩
  constructor
  · intro starts
    rcases prefix_or_prefix_of_prefix starts shorter with inside | ⟨behind, equal⟩
    · exact inside
    · -- The only colon of the segment is its last character.
      have split : source ++ ':' :: behind = "rca-enriched".toList ++ ':' :: [] := by
        simpa using equal
      have colons := congrArg (List.count ':') split
      have none : ("rca-enriched".toList ++ ':' :: []).count ':' = 1 := by decide
      rw [count_append, count_cons_self] at colons
      obtain ⟨whole, -⟩ := separated_before split (by
        rw [show "rca-enriched".toList.count ':' = 0 by decide]
        omega)
      rw [whole]
      exact prefix_refl _
  · exact fun starts => starts.trans shorter

/-- A tail leads to an enriched key exactly if it starts with the segment. -/
theorem exists_enriched_iff (tail : String)
    : (∃ correlationId, tail = "rca-enriched:" ++ correlationId)
      ↔ "rca-enriched:".toList <+: tail.toList := by
  constructor
  · rintro ⟨correlationId, rfl⟩
    rw [String.toList_append]
    exact prefix_append _ _
  · rintro ⟨rest, same⟩
    have behind : (String.ofList rest).toList = rest := String.toList_ofList
    refine ⟨String.ofList rest, String.toList_inj.mp ?_⟩
    rw [String.toList_append, behind, same]

theorem keepsOff_iff (env : KeyPlatform) (identity : Tenant)
    : payload.KeepsOff env
      ↔ (∀ correlationId, payload.tail env identity ≠ "rca-enriched:" ++ correlationId)
        ∧ ∀ alerts, payload.tail env identity
            ≠ "alertmanager:" ++ alertmanagerDigest env alerts := by
  have enriched := not_congr (exists_enriched_iff (payload.tail env identity))
  rw [not_exists] at enriched
  rw [enriched]
  cases own : payload.ownKey with
  | some key => simp [AgentEvidenceRequest.KeepsOff, AgentEvidenceRequest.tail, own]
  | none =>
    have never := tail_ne_alertmanager own env identity
    have reads : (payload.tail env identity).toList
        = payload.source.toList ++ ':' :: (payload.window ++ ":"
          ++ env.digest (env.dumps (payload.dump identity))).toList := by
      simp [AgentEvidenceRequest.tail, own]
    rw [reads, starts_enriched_iff, and_iff_left never, AgentEvidenceRequest.KeepsOff, own]
    simp

/-- The keys of two tenants are apart exactly if neither scope starts the other; within a tenant
the keys of an agent's request are apart from those of the other producers exactly if the
request keeps off them, and those of the other two always are.
-/
theorem evidence_keys_separated_iff (env : KeyPlatform)
    : (∀ left right : Tenant,
        (∀ first second : KeyCall, first.tenant = left → second.tenant = right →
          first.key env ≠ second.key env)
        ↔ ¬ left.ScopeStarts right ∧ ¬ right.ScopeStarts left)
      ∧ (∀ (tenant : Tenant) (payload : AgentEvidenceRequest),
          (∀ other : KeyCall, other.tenant = tenant → other.producer ≠ .agent →
            agentEvidenceKey env tenant payload ≠ other.key env)
          ↔ payload.KeepsOff env)
      ∧ ∀ (tenant : Tenant) (alerts : AlertmanagerWebhookRequest) (correlationId : String),
          alertmanagerEvidenceKey env tenant alerts
          ≠ rcaEnrichedEvidenceKey tenant correlationId := by
  refine ⟨?_, ?_, ?_⟩
  · intro left right
    constructor
    · intro apart
      constructor
      · intro starts
        obtain ⟨first, second, ofLeft, ofRight, same⟩ := exists_key_eq starts env
        exact apart first second ofLeft ofRight same
      · intro starts
        obtain ⟨first, second, ofRight, ofLeft, same⟩ := exists_key_eq starts env
        exact apart second first ofLeft ofRight same.symm
    · rintro ⟨notLeft, notRight⟩ first second rfl rfl same
      rcases scopeStarts_of_key_eq same with starts | starts
      · exact notLeft starts
      · exact notRight starts
  · intro tenant payload
    rw [keepsOff_iff payload env tenant]
    constructor
    · intro apart
      constructor
      · intro correlationId same
        exact apart (.rcaEnriched tenant correlationId) rfl nofun ((@key_eq_iff env
          (.agent tenant payload) (.rcaEnriched tenant correlationId) rfl).mpr same)
      · intro alerts same
        exact apart (.alertmanager tenant alerts) rfl nofun ((@key_eq_iff env
          (.agent tenant payload) (.alertmanager tenant alerts) rfl).mpr same)
    · rintro ⟨notEnriched, notAlert⟩ other rfl notAgent same
      have tails := (@key_eq_iff env (.agent other.tenant payload) other rfl).mp same
      cases other with
      | agent identity req => exact notAgent rfl
      | alertmanager tenant alerts => exact notAlert alerts tails
      | rcaEnriched tenant correlationId => exact notEnriched correlationId tails
  · intro tenant alerts correlationId same
    have tails := (@key_eq_iff env (.alertmanager tenant alerts)
      (.rcaEnriched tenant correlationId) rfl).mp same
    simpa [KeyCall.tail] using congrArg (fun text => text.toList.head?) tails

/-- A platform whose digests are digits. -/
def digitPlatform : KeyPlatform where
  dumps := fun _ => ""
  digest := fun raw => String.ofList (Inventory.Plain.text.write raw)
  digest_plain := by
    intro raw mem
    rw [String.toList_ofList] at mem
    exact absurd (Inventory.Plain.text.digits raw ':' mem) (by decide)
  digest_injective := by
    intro first second same
    exact Inventory.Plain.text.injective (String.ofList_inj.mp same)

/-- Two tenants share a key, and so do two producers of one tenant. -/
theorem delimiter_breaks_separation
    : (KeyCall.agent ⟨"a:b", "c"⟩ (keyedRequest "k")).key digitPlatform
        = (KeyCall.agent ⟨"a", "b:c"⟩ (keyedRequest "k")).key digitPlatform
      ∧ (⟨"a:b", "c"⟩ : Tenant) ≠ ⟨"a", "b:c"⟩
      ∧ (KeyCall.agent ⟨"a", "b"⟩ (keyedRequest "rca-enriched:k")).key digitPlatform
        = (KeyCall.rcaEnriched ⟨"a", "b"⟩ "k").key digitPlatform :=
  ⟨rfl, by decide, rfl⟩

/-- What `alertmanager_webhook` takes for firing; `lower` is `str.lower`. -/
def AlertmanagerAlert.opens (lower : String → String) (alert : AlertmanagerAlert) : Bool :=
  lower (strip alert.status) = "firing"

structure AlertmanagerEvidenceBody where
  tenant : Tenant
  groupKey : String
  alerts : List AlertmanagerAlert
  windowStart : Option String
  evidenceKey : String

def buildAlertmanagerEvidenceBody (tenant : Tenant) (payload : AlertmanagerWebhookRequest)
    (evidenceKey : String)
    : AlertmanagerEvidenceBody :=
  let alerts := payload.alerts.filter (·.status = "firing")
  let windowStart := ((alerts.map (·.startsAt)).filter (· ≠ "")).min?
  { payload with tenant, alerts, windowStart, evidenceKey }

namespace AlertmanagerWebhookRequest

variable (payload : AlertmanagerWebhookRequest) (env : KeyPlatform)
  (lower : String → String) (tenant : Tenant)

/-- The evidence that `alertmanager_webhook` records, unless the window of the key goes on. -/
def recorded : Option AlertmanagerEvidenceBody :=
  if payload.alerts.any (·.opens lower) then
    some (buildAlertmanagerEvidenceBody tenant payload
      (alertmanagerEvidenceKey env tenant payload))
  else
    none

/-- What the webhook takes for firing is spelled as the evidence spells it. -/
def Spelled : Prop := ∀ alert ∈ payload.alerts, alert.opens lower → alert.status = "firing"

/-- The fingerprints and times of the alerts that the webhook takes for firing. -/
def firing : List (String × String) :=
  (payload.alerts.filter (·.opens lower)).map fun alert => (alert.fingerprint, alert.startsAt)

variable {payload env lower tenant} {body : AlertmanagerEvidenceBody}

theorem alerts_eq_iff (keeps : lower "firing" = "firing")
    : payload.alerts.filter (·.status = "firing") = payload.alerts.filter (·.opens lower)
      ↔ payload.Spelled lower := by
  have opens : ∀ alert : AlertmanagerAlert, alert.status = "firing" → alert.opens lower := by
    intro alert same
    rw [AlertmanagerAlert.opens, same, show strip "firing" = "firing" by decide, keeps]
    rfl
  constructor
  · intro same alert mem opened
    have kept := mem_filter.mpr ⟨mem, opened⟩
    rw [← same] at kept
    exact of_decide_eq_true (mem_filter.mp kept).2
  · intro spelled
    refine filter_congr fun alert mem => ?_
    rw [Bool.eq_iff_iff, decide_eq_true_eq]
    exact ⟨opens alert, spelled alert mem⟩

theorem recorded_some (recorded : payload.recorded env lower tenant = some body)
    : payload.firing lower ≠ []
      ∧ body = buildAlertmanagerEvidenceBody tenant payload
          (alertmanagerEvidenceKey env tenant payload) := by
  obtain ⟨opened, made⟩ := Option.ite_none_right_eq_some.mp recorded
  obtain ⟨alert, mem, opens⟩ := any_eq_true.mp opened
  exact ⟨ne_nil_of_mem (mem_map_of_mem (mem_filter.mpr ⟨mem, opens⟩)),
    (Option.some.inj made).symm⟩

def written (alert : String × String) : String := alert.1 ++ "@" ++ alert.2

/-- Fingerprints and times without the separators of the key. -/
def PlainParts (listed : List (String × String)) : Prop :=
  ∀ alert ∈ listed, ∀ part ∈ [alert.1, alert.2], '@' ∉ part.toList ∧ '|' ∉ part.toList

/-- The text of a key can be read back: it is split at the bars, and each part at its sign. -/
theorem written_perm {listed : List (String × String)} (plain : PlainParts listed)
    (nonempty : listed ≠ []) (groupKey : String)
    : (((("|".intercalate (groupKey :: (listed.map written).insertionSort (· ≤ ·))).toList.drop
        (groupKey.toList.length + 1)).splitOn '|').map (List.splitOn '@')).Perm
      (listed.map fun alert => [alert.1.toList, alert.2.toList]) := by
  have texts : ∀ alert : String × String,
      (written alert).toList = ['@'].intercalate [alert.1.toList, alert.2.toList] := by
    intro alert
    simp [written]
  have sorted := perm_insertionSort (· ≤ ·) (listed.map written)
  have unbarred : ∀ text ∈ ((listed.map written).insertionSort (· ≤ ·)).map String.toList,
      '|' ∉ text := by
    simp only [mem_map, sorted.mem_iff]
    rintro _ ⟨_, ⟨alert, mem, rfl⟩, rfl⟩
    have parts := plain alert mem
    simp_all [written]
  generalize (listed.map written).insertionSort (· ≤ ·) = ordered at sorted unbarred ⊢
  cases ordered with
  | nil => simp_all
  | cons text rest =>
    rw [String.toList_intercalate, map_cons, map_cons, intercalate_cons_cons,
      ← map_cons, drop_append_of_le_length (by simp), drop_of_length_le (by simp),
      nil_append]
    rw [show "|".toList = ['|'] from rfl, splitOn_intercalate '|' unbarred (by simp)]
    refine ((sorted.map _).map _).trans (.of_eq ?_)
    rw [map_map, map_map]
    refine map_congr_left fun alert mem => ?_
    have parts := plain alert mem
    simp only [Function.comp, texts]
    exact splitOn_intercalate '@' (by simp_all) (by simp)

section Keys

variable (keeps : lower "firing" = "firing")
include keeps

theorem digest_firing (spelled : payload.Spelled lower)
    : alertmanagerDigest env payload
      = env.digest ("|".intercalate
          (payload.groupKey :: ((payload.firing lower).map written).insertionSort (· ≤ ·))) := by
  rw [alertmanagerDigest, (alerts_eq_iff keeps).mpr spelled, firing, map_map]
  rfl

/-- A recorded body holds what the webhook takes for firing exactly if that is spelled as the
evidence spells it; it is then not empty, and its key tells the fingerprints and times.
-/
theorem recorded_firing_iff (recorded : payload.recorded env lower tenant = some body)
    : (body.alerts = payload.alerts.filter (·.opens lower) ↔ payload.Spelled lower)
      ∧ (payload.Spelled lower → body.alerts ≠ []
        ∧ ∀ (other : AlertmanagerWebhookRequest) (found : AlertmanagerEvidenceBody),
            other.recorded env lower tenant = some found →
            other.Spelled lower → other.groupKey = payload.groupKey →
            PlainParts (other.firing lower) → PlainParts (payload.firing lower) →
            found.evidenceKey = body.evidenceKey →
            (other.firing lower).Perm (payload.firing lower)) := by
  obtain ⟨nonempty, rfl⟩ := recorded_some recorded
  refine ⟨alerts_eq_iff keeps, fun spelled => ⟨?_, ?_⟩⟩
  · intro empty
    rw [buildAlertmanagerEvidenceBody, (alerts_eq_iff keeps).mpr spelled] at empty
    exact nonempty (congrArg (List.map _) empty)
  · intro other found otherRecorded otherSpelled group otherPlain plain sameKey
    obtain ⟨others, rfl⟩ := recorded_some otherRecorded
    have tails := (@key_eq_iff env (.alertmanager tenant other)
      (.alertmanager tenant payload) rfl).mp sameKey
    rw [KeyCall.tail, KeyCall.tail, String.append_right_inj, digest_firing keeps spelled,
      digest_firing keeps otherSpelled] at tails
    have same := written_perm otherPlain others payload.groupKey
    rw [← group, env.digest_injective tails, group] at same
    refine (map_perm_map_iff ?_).mp (same.symm.trans (written_perm plain nonempty _))
    intro first second equal
    simpa [Prod.ext_iff, String.toList_inj] using equal

end Keys

def one (status fingerprint : String) : AlertmanagerWebhookRequest where
  groupKey := "g"
  alerts := [{ status, fingerprint }]

def two (first second : String) : AlertmanagerWebhookRequest where
  groupKey := "g"
  alerts := [{ fingerprint := first }, { fingerprint := second }]

/-- Two notifications of a group have one key, and so the same firing alerts. -/
theorem recorded_firing_two
    : ∃ body found, (two "a" "b").recorded digitPlatform id ⟨"w", "c"⟩ = some body
        ∧ (two "b" "a").recorded digitPlatform id ⟨"w", "c"⟩ = some found
        ∧ body.alerts = (two "a" "b").alerts.filter (·.opens id)
        ∧ found.evidenceKey = body.evidenceKey
        ∧ ((two "b" "a").firing id).Perm ((two "a" "b").firing id) := by
  have spelled (first second : String) : (two first second).Spelled id := by
    intro alert mem _
    rcases mem with _ | ⟨_, _ | ⟨_, ⟨⟩⟩⟩ <;> rfl
  have plain : ∀ fingerprints ∈ [("a", "b"), ("b", "a")],
      PlainParts ((two fingerprints.1 fingerprints.2).firing id) := by
    unfold PlainParts
    decide
  have key : alertmanagerEvidenceKey digitPlatform ⟨"w", "c"⟩ (two "b" "a")
      = alertmanagerEvidenceKey digitPlatform ⟨"w", "c"⟩ (two "a" "b") := by
    have sorted : ["b@", "a@"].insertionSort (· ≤ ·) = ["a@", "b@"].insertionSort (· ≤ ·) := by
      decide
    exact congrArg (fun named => "w:c:alertmanager:" ++ digitPlatform.digest ("|".intercalate
      ("g" :: named))) sorted
  obtain ⟨same, told⟩ := @recorded_firing_iff (two "a" "b") digitPlatform id ⟨"w", "c"⟩ _ rfl
    (Eq.refl _)
  refine ⟨_, _, rfl, rfl, same.mpr (spelled "a" "b"), key, ?_⟩
  exact (told (spelled "a" "b")).2 (two "b" "a") _ rfl (spelled "b" "a") rfl
    (plain ("b", "a") (by simp)) (plain ("a", "b") (by simp)) key

/-- Evidence without an alert is recorded, under a key that two alerts share. -/
theorem capitalized_alerts_lost
    : ((one "Firing" "a").recorded digitPlatform insertionRuntime.casefold ⟨"w", "c"⟩).map
        (·.alerts) = some []
      ∧ (one "Firing" "a").firing insertionRuntime.casefold
        ≠ (one "Firing" "b").firing insertionRuntime.casefold
      ∧ alertmanagerEvidenceKey digitPlatform ⟨"w", "c"⟩ (one "Firing" "a")
        = alertmanagerEvidenceKey digitPlatform ⟨"w", "c"⟩ (one "Firing" "b") :=
  ⟨by decide, by decide, rfl⟩

end AlertmanagerWebhookRequest

end K8sClue.Rca
