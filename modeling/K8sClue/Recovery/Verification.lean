import K8sClue.Python.Text

/-! Judging one evidence window against the recovery conditions.
Instants are whole microseconds, which is the resolution of the datetimes the source
compares; the seconds it divides by are therefore exact products here.
-/

namespace K8sClue.Recovery

open Python

/-- A UTC datetime as microseconds since the epoch. -/
abbrev Instant := Int

def microsPerSecond : Int := 1000000

def defaultMinimumSeconds : Nat := 300
def defaultMaximumSeconds : Nat := 600

/-- `int(value)` succeeded and is not negative. -/
def nonnegativeInt (value : Option Int) : Option Nat :=
  match value with
  | some parsed => if 0 ≤ parsed then some parsed.toNat else none
  | none => none

def boundedSeconds (value : Option Int) (default minimum maximum : Nat) : Nat :=
  match nonnegativeInt value with
  | none => default
  | some parsed => max minimum (min parsed maximum)

def verificationDeadline (startedAt : Instant) (maximumSeconds : Int) : Instant :=
  startedAt + maximumSeconds * microsPerSecond

/-- The part of `lifecycle.verification` that stays fixed during one attempt. -/
structure VerificationWindow where
  (startedAt deadlineAt : Option Instant)
  (minimumSeconds evidenceCadenceSeconds : Option Int)
  deriving DecidableEq

/-- The part of `lifecycle.verification` that each decision writes back. -/
structure VerificationState where
  (healthySince lastHealthyObservedAt : Option Instant)
  distinctEvidenceCount : Nat
  lastEvidenceKey : Option String
  deriving DecidableEq

def VerificationState.fresh : VerificationState :=
  {
    healthySince := none
    lastHealthyObservedAt := none
    distinctEvidenceCount := 0
    lastEvidenceKey := none }

/-- One evaluation: the evidence identity and window, the verdict of each named check
(`none` for a check without evidence), and the injected clock.
-/
structure EvidenceCall where
  evidenceKey : String
  windowStart : Option Instant
  checks : List (String × Option Bool)
  now : Instant
  deriving DecidableEq

inductive DecisionStatus where
  | pending
  | completed
  | failed
  deriving DecidableEq

inductive ReasonCode where
  | duplicateEvidenceWindow
  | staleEvidenceWindow
  | verificationRegressed
  | verificationEvidenceMissing
  | verificationWindowExpired
  | stabilizationWindowInProgress
  | recoveryVerified
  deriving DecidableEq

/-- The `reason_code` of a decision. -/
def ReasonCode.code : ReasonCode → String
  | .duplicateEvidenceWindow => "duplicate_evidence_window"
  | .staleEvidenceWindow => "stale_evidence_window"
  | .verificationRegressed => "verification_regressed"
  | .verificationEvidenceMissing => "verification_evidence_missing"
  | .verificationWindowExpired => "verification_window_expired"
  | .stabilizationWindowInProgress => "stabilization_window_in_progress"
  | .recoveryVerified => "recovery_verified"

structure VerificationDecision where
  status : DecisionStatus
  reasonCode : ReasonCode
  reason : String
  state : VerificationState
  deriving DecidableEq

def failedChecks (call : EvidenceCall) : List String :=
  (call.checks.filter (fun check => check.2 == some false)).map Prod.fst

def missingChecks (call : EvidenceCall) : List String :=
  (call.checks.filter (fun check => check.2 == none)).map Prod.fst

variable (window : VerificationWindow)

/-- The window starts before the verification, after the clock, or nowhere at all. -/
def staleWindow (call : EvidenceCall) : Bool :=
  match call.windowStart, window.startedAt with
  | some observed, some started => observed < started || call.now < observed
  | _, _ => true

/-- A healthy window cannot continue the one seen before: it is not newer, or more than
one and a half cadences newer.
-/
def gapBroken (cadence : Nat) (previous : Option Instant) (observed : Instant) : Bool :=
  match previous with
  | none => false
  | some last =>
    observed - last ≤ 0 || 3 * (cadence * microsPerSecond) < 2 * (observed - last)

def minimumDistinct (minimumSeconds cadence : Nat) : Nat :=
  max 2 ((minimumSeconds + cadence - 1) / cadence + 1)

def deadlineReached (call : EvidenceCall) : Bool :=
  match window.deadlineAt with
  | some deadline => deadline ≤ call.now
  | none => false

variable (state : VerificationState)

/-- `evidence_key or previous_key or None`. -/
def rememberedKey (call : EvidenceCall) : Option String :=
  let key := strip call.evidenceKey
  orNone (if key = "" then text state.lastEvidenceKey else key)

/-- Duplicate and stale windows hand the stored chain back unchanged. -/
def keptState : VerificationState :=
  { state with lastEvidenceKey := orNone (text state.lastEvidenceKey) }

/-- A regressed or incomplete window forgets the chain. -/
def resetState (call : EvidenceCall) : VerificationState :=
  {
    healthySince := none
    lastHealthyObservedAt := none
    distinctEvidenceCount := 0
    lastEvidenceKey := rememberedKey state call }

/-- A healthy window extends the stored chain, or starts a new one after a broken gap. -/
def healthyState (call : EvidenceCall) (cadence : Nat) (observed : Instant) : VerificationState :=
  let broken := gapBroken cadence state.lastHealthyObservedAt observed
  {
    healthySince := some (if broken then observed else state.healthySince.getD observed)
    lastHealthyObservedAt := some observed
    distinctEvidenceCount := (if broken then 0 else state.distinctEvidenceCount) + 1
    lastEvidenceKey := rememberedKey state call }

/-- How long the chain of `state` lasts at `observed`, never negative. -/
def stableMicros (observed : Instant) : Int :=
  max 0 (observed - state.healthySince.getD observed)

def unhealthyReason (call : EvidenceCall) : String :=
  if failedChecks call ≠ [] then
    "복구 검증 조건이 충족되지 않았습니다: " ++ ", ".intercalate (failedChecks call)
  else
    "복구 검증 근거가 아직 없습니다: " ++ ", ".intercalate (missingChecks call)

/-- The decision on a window with a failed or missing check. -/
def unhealthyDecision
    (call : EvidenceCall)
    : VerificationDecision :=
  if deadlineReached window call then
    {
      status := .failed
      reasonCode := .verificationWindowExpired
      reason :=
        "최대 검증 시간 안에 정상화 근거를 확보하지 못했습니다. " ++ unhealthyReason call
      state := resetState state call }
  else
    {
      status := .pending
      reasonCode :=
        if failedChecks call ≠ [] then .verificationRegressed
        else .verificationEvidenceMissing
      reason := unhealthyReason call
      state := resetState state call }

/-- The decision on a window whose checks all hold, for a known cadence. -/
def healthyDecision
    (call : EvidenceCall) (cadence : Nat) (observed : Instant)
    : VerificationDecision :=
  let minimumSeconds := boundedSeconds window.minimumSeconds defaultMinimumSeconds
    defaultMinimumSeconds defaultMaximumSeconds
  let next := healthyState state call cadence observed
  let stable := stableMicros next observed
  if stable < minimumSeconds * microsPerSecond
      || next.distinctEvidenceCount < minimumDistinct minimumSeconds cadence then
    if deadlineReached window call then
      {
        status := .failed
        reasonCode := .verificationWindowExpired
        reason := "최대 검증 시간 안에 최소 연속 정상화 시간을 충족하지 못했습니다."
        state := next }
    else
      {
        status := .pending
        reasonCode := .stabilizationWindowInProgress
        reason :=
          "정상화 조건이 " ++ toString (stable / microsPerSecond) ++ "초 유지됐습니다. "
            ++ "최소 " ++ toString minimumSeconds ++ "초 연속 관측 후 완료합니다."
        state := next }
  else
    {
      status := .completed
      reasonCode := .recoveryVerified
      reason :=
        "동일 부하에서 실패율·Deployment replica·Alertmanager 해소 상태가 "
          ++ toString minimumSeconds ++ "초 이상 안정적으로 유지됐습니다."
      state := next }

/-- Judges one evidence window, in the source's order: redelivery of the last judged key,
window outside the verification, failed or missing checks, missing cadence, and only then
the continuity of the healthy chain.
-/
def evaluateRecoveryEvidence
    (call : EvidenceCall)
    : VerificationDecision :=
  let key := strip call.evidenceKey
  if key ≠ "" ∧ key = text state.lastEvidenceKey then
    {
      status := .pending
      reasonCode := .duplicateEvidenceWindow
      reason := "이미 판정한 evidence 창의 재전달은 안정화 시간에 포함하지 않습니다."
      state := keptState state }
  else if staleWindow window call then
    {
      status := .pending
      reasonCode := .staleEvidenceWindow
      reason := "검증 시작 이후의 trusted window_start를 가진 evidence만 사용합니다."
      state := keptState state }
  else if failedChecks call ≠ [] ∨ missingChecks call ≠ [] then
    unhealthyDecision window state call
  else
    match nonnegativeInt window.evidenceCadenceSeconds, call.windowStart with
    | some (cadence + 1), some observed =>
      healthyDecision window state call (cadence + 1) observed
    | _, _ =>
      -- without an approved cadence the source refuses to guess one and fails closed
      {
        status := .pending
        reasonCode := .verificationEvidenceMissing
        reason :=
          "설치 정책의 evidence 수집 주기를 확인할 수 없어 안정화 시간을 계산하지 않습니다."
        state := resetState state call }

end K8sClue.Recovery
