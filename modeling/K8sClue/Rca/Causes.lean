import K8sClue.Library.Keyed
import K8sClue.Library.Selection
import K8sClue.Python.Collections
import K8sClue.Rca.Signals
import Mathlib.Data.List.Sort
import Mathlib.Data.Prod.Lex
import Mathlib.Data.String.Basic
import Mathlib.Tactic.Linarith

/-! The deterministic cause engine: planned candidates, their evaluations, the selected cause. -/

namespace K8sClue.Rca

open Python Library

structure IncidentRecord where
  (incidentId clusterId resourceKind resourceName : String)
  inNamespace : Option String
  (symptom severity : String)
  firstSeenAt : Option String
  summary : String
  category : Option String := none
  workspaceId : String
  secondarySymptoms : List String := []
  deriving DecidableEq

structure EvidenceReference where
  (evidenceRef source name checkId summary : String)
  query : Option String := none
  deriving DecidableEq

def EvidenceItem.reference (item : EvidenceItem) : EvidenceReference where
  evidenceRef := item.evidenceRef
  source := item.source
  name := item.name
  checkId := item.checkId
  summary := item.summary
  query := item.query

structure CauseCandidate where
  (candidateId title description : String)
  (expectedEvidence checks : List String)
  signals : List PyDict := []
  source : String := "rule"

structure CauseRule where
  matchesIncident : IncidentRecord → EvidenceBundle → Bool
  candidates : IncidentRecord → EvidenceBundle → List CauseCandidate

def symptomCauseRule (symptoms : List String) (specs : List CauseCandidate) : CauseRule where
  matchesIncident incident _ := incident.symptom ∈ symptoms
  candidates _ _ := specs

structure RcaRuleMissing where
  (incidentId symptom evidenceRef : String)
  missingEvidence : List String
  (message workspaceId : String)
  deriving DecidableEq

structure CausePlan where
  candidates : List CauseCandidate
  ruleMissing : Option RcaRuleMissing := none

structure CauseEvaluation where
  candidateId : String
  score : ℚ
  (checks supportingEvidence missingEvidence : List String)
  reason : String
  supportingEvidenceRefs : List EvidenceReference := []
  missingEvidenceChecks : List MissingEvidenceCheck := []
  matchedSignalCount : Nat := 0
  requiredSignalCount : Nat := 0
  deriving DecidableEq

structure RcaReportDetail where
  rootCause : String
  confidence : ℚ
  selectedCandidateId : String
  (supportingEvidence missingEvidence : List String)
  reason : String
  missingEvidenceChecks : List MissingEvidenceCheck := []
  supportingEvidenceRefs : List EvidenceReference := []
  deriving DecidableEq

def matchingCauseRuleEvidence : String := "matching_cause_rule"

def noMatchingRuleMessage : String := "정의된 RCA rule 없음"

def unknownEvaluationId : String := "unknown"

variable (py : Runtime)

/-- One step of the loop of `merge_signal_groups`: the first group of an id stays. -/
def mergeSignalGroup (merged : List PyDict) (group : PyDict) : List PyDict :=
  if py.strOf (group.get "id") ∈ merged.map fun known => py.strOf (known.get "id") then
    merged
  else
    merged ++ [group]

def mergeSignalGroups (existing incoming : List PyDict) : List PyDict :=
  incoming.foldl (mergeSignalGroup py) existing

/-- A candidate that another rule gave before. -/
def mergeCandidate (existing candidate : CauseCandidate) : CauseCandidate :=
  { existing with
    expectedEvidence := fromKeys (existing.expectedEvidence ++ candidate.expectedEvidence)
    checks := fromKeys (existing.checks ++ candidate.checks)
    signals := mergeSignalGroups py existing.signals candidate.signals }

def mergeCandidates (candidates : List CauseCandidate) : List CauseCandidate :=
  Keyed.putAll (·.candidateId) (mergeCandidate py) [] candidates

def buildRuleMissing (incident : IncidentRecord) (evidenceRef : String) : RcaRuleMissing where
  incidentId := incident.incidentId
  symptom := incident.symptom
  evidenceRef := evidenceRef
  missingEvidence := [matchingCauseRuleEvidence]
  message := noMatchingRuleMessage
  workspaceId := incident.workspaceId

def planCauses (incident : IncidentRecord) (bundle : EvidenceBundle)
    (evidenceRef : String) (rules : List CauseRule)
    : CausePlan :=
  let active := rules.filter fun rule => rule.matchesIncident incident bundle
  let merged := mergeCandidates py (active.flatMap fun rule => rule.candidates incident bundle)
  if merged.isEmpty then
    { candidates := [], ruleMissing := some (buildRuleMissing incident evidenceRef) }
  else
    { candidates := merged }

/-- A plan without `rule_missing` has candidates. -/
theorem planCauses_candidates_ne_nil {py : Runtime} {incident : IncidentRecord}
    {bundle : EvidenceBundle} {evidenceRef : String} {rules : List CauseRule}
    (planned : (planCauses py incident bundle evidenceRef rules).ruleMissing = none)
    : (planCauses py incident bundle evidenceRef rules).candidates ≠ [] := by
  unfold planCauses at planned ⊢
  dsimp only at planned ⊢
  split at planned
  · cases planned
  next some => rw [if_neg some]; simpa using some

def evidenceKey (source name : String) : String := source ++ ":" ++ name

def evidenceKeys (bundle : EvidenceBundle) : List String :=
  bundle.items.flatMap fun item => [item.source, evidenceKey item.source item.name]

def evidenceRefsForKeys (bundle : EvidenceBundle) (keys : List String) : List EvidenceReference :=
  (bundle.items.filter fun item =>
    item.source ∈ keys ∨ evidenceKey item.source item.name ∈ keys).map (·.reference)

def missingEvidenceReason (source : String) (candidateChecks : List String) : String :=
  if candidateChecks.isEmpty then
    source ++ " evidence query/check must complete before RCA can be finalized."
  else
    source ++ " evidence is required to evaluate checks: " ++ ", ".intercalate candidateChecks

def missingEvidenceChecks (missing candidateChecks : List String) : List MissingEvidenceCheck :=
  missing.map fun source => {
    checkId := "evidence:" ++ source ++ ":required"
    source := source
    status := "missing"
    reason := missingEvidenceReason source candidateChecks }

/-- The check of one group in `missing_signal_checks`. -/
def missingSignalCheck (group : PyDict) : Except CauseError MissingEvidenceCheck :=
  (describeSignalGroup group).map fun description => {
    checkId := signalMissingToken py group
    source := "signals"
    status := "missing"
    reason := "판별 신호 미충족 — 다음 중 하나가 관측되어야 합니다: " ++ description }

def missingSignalChecks (unmatched : List PyDict) : Except CauseError (List MissingEvidenceCheck) :=
  unmatched.mapM (missingSignalCheck py)

def buildEvaluationReason (expected supporting signals matched : Nat) : String :=
  "필요한 근거 " ++ toString expected ++ "개 중 " ++ toString supporting ++ "개가 수집되었습니다."
    ++ if signals = 0 then
        ""
      else
        " 판별 신호 " ++ toString signals ++ "개 중 " ++ toString matched
          ++ "개가 확인되었습니다."

def sortedTexts (texts : List String) : List String := texts.insertionSort (· ≤ ·)

namespace CauseCandidate

variable (candidate : CauseCandidate)

def expected : List String := candidate.expectedEvidence.dedup

def supporting (bundle : EvidenceBundle) : List String :=
  sortedTexts (candidate.expected.filter fun key => key ∈ evidenceKeys bundle)

def missingSources (bundle : EvidenceBundle) : List String :=
  sortedTexts (candidate.expected.filter fun key => key ∉ evidenceKeys bundle)

variable (py : Runtime)

def matchedGroups (signals : BundleSignals) : List PyDict :=
  (splitSignalGroups py candidate.signals signals).1

def unmatchedGroups (signals : BundleSignals) : List PyDict :=
  (splitSignalGroups py candidate.signals signals).2

def score (bundle : EvidenceBundle) (signals : BundleSignals) : ℚ :=
  let denominator := candidate.expected.length + candidate.signals.length
  let met := (candidate.supporting bundle).length
    + (candidate.matchedGroups py signals).length
  if denominator = 0 then 0 else (met : ℚ) / (denominator : ℚ)

def evaluation (bundle : EvidenceBundle)
    (signals : BundleSignals) (signalChecks : List MissingEvidenceCheck)
    : CauseEvaluation :=
  let supporting := candidate.supporting bundle
  let missingSources := candidate.missingSources bundle
  let matched := candidate.matchedGroups py signals
  {
    candidateId := candidate.candidateId
    score := candidate.score py bundle signals
    checks := candidate.checks
    supportingEvidence := supporting
    missingEvidence := missingSources
      ++ (candidate.unmatchedGroups py signals).map (signalMissingToken py)
    reason := buildEvaluationReason candidate.expected.length supporting.length
      candidate.signals.length matched.length
    supportingEvidenceRefs := evidenceRefsForKeys bundle supporting
    missingEvidenceChecks :=
      missingEvidenceChecks missingSources candidate.checks ++ signalChecks
    matchedSignalCount := matched.length
    requiredSignalCount := candidate.signals.length }

/-- The body of the loop of `evaluate_causes`. -/
def evaluate (bundle : EvidenceBundle) (signals : BundleSignals)
    : Except CauseError CauseEvaluation :=
  (missingSignalChecks py (candidate.unmatchedGroups py signals)).map
    (candidate.evaluation py bundle signals)

end CauseCandidate

def unknownEvaluation (ruleMissing : RcaRuleMissing) : CauseEvaluation where
  candidateId := unknownEvaluationId
  score := 0
  checks := [matchingCauseRuleEvidence]
  supportingEvidence := []
  missingEvidence := ruleMissing.missingEvidence
  reason := noMatchingRuleMessage

def evaluateCauses (candidates : List CauseCandidate)
    (bundle : EvidenceBundle) (ruleMissing : Option RcaRuleMissing)
    : Except CauseError (List CauseEvaluation) :=
  match ruleMissing with
  | some missing => .ok [unknownEvaluation missing]
  | none => do
      let signals ← extractBundleSignals py bundle
      candidates.mapM fun candidate => candidate.evaluate py bundle signals

def buildRootCauseReason (selected : CauseEvaluation) : String :=
  if selected.candidateId = unknownEvaluationId then
    noMatchingRuleMessage
  else
    selected.candidateId ++ " 후보가 가장 높은 점수로 평가되었고, 누락 근거 "
      ++ toString selected.missingEvidence.length ++ "개, 충족 근거 "
      ++ toString selected.supportingEvidence.length ++ "개를 기준으로 최종 원인으로 선택했습니다."

variable (evaluation : CauseEvaluation)

def unknownRootCause : RcaReportDetail :=
  let missing := fromKeys (matchingCauseRuleEvidence :: evaluation.missingEvidence)
  {
    rootCause := unknownEvaluationId
    confidence := 0
    selectedCandidateId := unknownEvaluationId
    supportingEvidence := []
    missingEvidence := missing
    reason := noMatchingRuleMessage
    missingEvidenceChecks := missingEvidenceChecks missing []
    supportingEvidenceRefs := evaluation.supportingEvidenceRefs }

variable (evaluations : List CauseEvaluation)

def insufficientEvidenceRootCause : RcaReportDetail :=
  let missing := fromKeys (evaluations.flatMap (·.missingEvidence))
  {
    rootCause := "insufficient_evidence"
    confidence := 0
    selectedCandidateId := "none"
    supportingEvidence := []
    missingEvidence := missing
    reason := "후보는 생성됐지만 매칭된 근거가 없어 최종 원인을 확정하지 않았습니다."
    missingEvidenceChecks := missingEvidenceChecks missing [] }

/-- The report of an analysis without evaluations. -/
def noEvaluationRootCause : RcaReportDetail where
  rootCause := "분석 가능한 원인 후보 없음"
  confidence := 0
  selectedCandidateId := "none"
  supportingEvidence := []
  missingEvidence := []
  reason := "평가된 원인 후보가 없어 최종 원인을 선택할 수 없습니다."

/-- The report of a selected candidate. -/
def selectedRootCause (selected : CauseEvaluation) : RcaReportDetail where
  rootCause := selected.candidateId
  confidence := selected.score
  selectedCandidateId := selected.candidateId
  supportingEvidence := selected.supportingEvidence
  missingEvidence := selected.missingEvidence
  reason := buildRootCauseReason selected
  missingEvidenceChecks := selected.missingEvidenceChecks
  supportingEvidenceRefs := selected.supportingEvidenceRefs

/-- All signals that the candidate requires are matched, and some evidence supports it. -/
def CauseEvaluation.supported : Bool :=
  (evaluation.requiredSignalCount = 0
    ∨ evaluation.matchedSignalCount = evaluation.requiredSignalCount)
  ∧ evaluation.supportingEvidence ≠ []

/-- What `min` compares. -/
def CauseEvaluation.rank : ℚ ×ₗ ℚ ×ₗ ℚ :=
  toLex (-evaluation.score,
    toLex (-(evaluation.matchedSignalCount : ℚ), (evaluation.missingEvidence.length : ℚ)))

def analyzeRootCause : RcaReportDetail :=
  match evaluations with
  | [] => noEvaluationRootCause
  | first :: _ =>
    if first.candidateId = unknownEvaluationId then
      unknownRootCause first
    else
      match (evaluations.filter (·.supported)).argmin (·.rank) with
      | none => insufficientEvidenceRootCause evaluations
      | some selected => selectedRootCause selected

end K8sClue.Rca
