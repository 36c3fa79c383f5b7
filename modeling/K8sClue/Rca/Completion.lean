import K8sClue.Rca.ProvedCauses

/-! The end of an analysis: a root cause is published exactly if it is fully proved. -/

namespace K8sClue.Rca

open Python Library List

structure Evidence where
  clusterId : String
  (kubernetes metrics : PyDict)
  logs : List PyDict
  traces : PyDict
  objectRef : String
  metadata : PyDict := []
  workspaceId : String

structure RcaCandidatesEvaluatedBody where
  candidateCount : Nat
  evidenceRef : String
  candidates : List CauseCandidate
  evaluations : List CauseEvaluation
  workspaceId : String
  evidence : Option Evidence := none
  incident : Option IncidentRecord := none
  evidenceBundle : Option EvidenceBundle := none
  ruleMissing : Option RcaRuleMissing := none

inductive BlockReasonCode where
  | ruleMissing
  | insufficientEvidence
  | noEvaluation
  deriving DecidableEq

structure RcaActionRequiredBody where
  (reason evidenceRef workspaceId : String)

structure RcaAnalysisBlockedBody where
  reasonCode : BlockReasonCode
  (reason evidenceRef : String)
  rcaDetail : RcaReportDetail
  workspaceId : String
  evidence : Evidence
  incident : IncidentRecord
  evidenceBundle : EvidenceBundle
  candidates : List CauseCandidate
  evaluations : List CauseEvaluation
  ruleMissing : Option RcaRuleMissing
  missingEvidence : List String
  diagnostics : PyDict

structure RcaCompletedBody where
  (rootCause action evidenceRef workspaceId : String)
  evidence : Evidence
  incident : IncidentRecord
  evidenceBundle : EvidenceBundle
  candidates : List CauseCandidate
  evaluations : List CauseEvaluation
  rcaDetail : RcaReportDetail
  ruleMissing : Option RcaRuleMissing

inductive AnalysisBody where
  | actionRequired (body : RcaActionRequiredBody)
  | blocked (body : RcaAnalysisBlockedBody)
  | completed (body : RcaCompletedBody)

/-- The defaults and messages of `RootCauseAnalyzer`. -/
structure RootCauseAnalyzer where
  recommendedAction : String := "plan_recovery"
  missingAnalysisContext : String := "RCA analysis context is missing"

def blockReasonCode (evt : RcaCandidatesEvaluatedBody) (detail : RcaReportDetail)
    : Option BlockReasonCode :=
  if evt.ruleMissing.isSome ∨ detail.rootCause = "unknown" then
    some .ruleMissing
  else if detail.rootCause = "insufficient_evidence" then
    some .insufficientEvidence
  else if detail.selectedCandidateId = "none" then
    some .noEvaluation
  else if detail.missingEvidence ≠ [] then
    some .insufficientEvidence
  else
    none

namespace RootCauseAnalyzer

def completeBody (analyzer : RootCauseAnalyzer) (evt : RcaCandidatesEvaluatedBody) : AnalysisBody :=
  match evt.evidence, evt.incident, evt.evidenceBundle with
  | some evidence, some incident, some bundle =>
    let detail := analyzeRootCause evt.evaluations
    match blockReasonCode evt detail with
    | some reasonCode => .blocked {
        reasonCode := reasonCode
        reason := detail.reason
        evidenceRef := evt.evidenceRef
        rcaDetail := detail
        workspaceId := evt.workspaceId
        evidence := evidence
        incident := incident
        evidenceBundle := bundle
        candidates := evt.candidates
        evaluations := evt.evaluations
        ruleMissing := evt.ruleMissing
        missingEvidence := detail.missingEvidence
        diagnostics := [(.str "root_cause", .scalar (.str detail.rootCause))] }
    | none => .completed {
        rootCause := detail.rootCause
        action := analyzer.recommendedAction
        evidenceRef := evt.evidenceRef
        workspaceId := evt.workspaceId
        evidence := evidence
        incident := incident
        evidenceBundle := bundle
        candidates := evt.candidates
        evaluations := evt.evaluations
        rcaDetail := detail
        ruleMissing := evt.ruleMissing }
  | _, _, _ => .actionRequired {
      reason := analyzer.missingAnalysisContext
      evidenceRef := evt.evidenceRef
      workspaceId := evt.workspaceId }

end RootCauseAnalyzer

/-- The body that `plan_body` and `evaluate_body` fill in. -/
def evaluatedBody (plan : CausePlan) (evaluations : List CauseEvaluation)
    (incident : IncidentRecord) (bundle : EvidenceBundle) (evidence : Evidence)
    : RcaCandidatesEvaluatedBody where
  candidateCount := plan.candidates.length
  evidenceRef := evidence.objectRef
  candidates := plan.candidates
  evaluations := evaluations
  workspaceId := evidence.workspaceId
  evidence := some evidence
  incident := some incident
  evidenceBundle := some bundle
  ruleMissing := plan.ruleMissing

/-- The chain from the evidence bundle to the end of the analysis: `plan_causes`,
`evaluate_causes` and `complete_body`.
-/
def RootCauseAnalyzer.analyze (analyzer : RootCauseAnalyzer) (py : Runtime)
    (rules : List CauseRule) (incident : IncidentRecord) (bundle : EvidenceBundle)
    (evidence : Evidence)
    : Except CauseError AnalysisBody := do
  let plan := planCauses py incident bundle evidence.objectRef rules
  let evaluations ← evaluateCauses py plan.candidates bundle plan.ruleMissing
  return analyzer.completeBody (evaluatedBody plan evaluations incident bundle evidence)

/-- The ids that the engine keeps for itself. -/
def reservedIds : List String := ["unknown", "insufficient_evidence", "none"]

/-- What the end of an analysis says about the planned candidates. -/
structure PublishedIfProved (py : Runtime) (bundle : EvidenceBundle)
    (signals : BundleSignals) (candidates : List CauseCandidate) (body : AnalysisBody)
    : Prop where
  completed_iff : (∃ completed, body = .completed completed)
    ↔ ∃ candidate ∈ candidates, candidate.FullyProved py bundle signals
  published : ∀ completed, body = .completed completed →
    ∃ before candidate after,
      candidates = before ++ candidate :: after
      ∧ candidate.FullyProved py bundle signals
      ∧ completed.rootCause = candidate.candidateId
      ∧ completed.rcaDetail.selectedCandidateId = candidate.candidateId
      ∧ completed.rcaDetail.confidence = 1
      ∧ (∀ other ∈ before, other.FullyProved py bundle signals →
          other.signals.length < candidate.signals.length)
      ∧ ∀ other ∈ after, other.FullyProved py bundle signals →
          other.signals.length ≤ candidate.signals.length
  otherwise : (¬ ∃ completed, body = .completed completed) →
    ∃ blocked, body = .blocked blocked
      ∧ (blocked.rcaDetail.selectedCandidateId ∈ candidates.map (·.candidateId) →
          blocked.rcaDetail.missingEvidence ≠ [] ∧ blocked.missingEvidence ≠ [])

section Completion

variable {py : Runtime} {bundle : EvidenceBundle} {signals : BundleSignals}
  {candidates : List CauseCandidate} {evaluations : List CauseEvaluation}

/-- The head of the evaluations of a plan is not the one of a missing rule. -/
theorem analyzeRootCause_planned
    (evaluated : Forall₂ (fun candidate evaluation =>
      CauseEvaluation.Of evaluation candidate py bundle signals) candidates evaluations)
    (planned : candidates ≠ [])
    (named : ∀ candidate ∈ candidates, candidate.candidateId ∉ reservedIds)
    : analyzeRootCause evaluations
      = match (evaluations.filter (·.supported)).argmin (·.rank) with
        | none => insufficientEvidenceRootCause evaluations
        | some selected => selectedRootCause selected := by
  cases evaluated with
  | nil => exact absurd rfl planned
  | @cons candidate evaluation _ _ first rest =>
    obtain ⟨signalChecks, rfl⟩ := first
    have known : candidate.candidateId ≠ unknownEvaluationId := by
      intro same
      exact named candidate mem_cons_self (by rw [same]; decide)
    exact if_neg known

theorem blocked_ne_completed {blocked : RcaAnalysisBlockedBody} {completed : RcaCompletedBody}
    : AnalysisBody.blocked blocked ≠ .completed completed := nofun

section Body

variable {analyzer : RootCauseAnalyzer} {evt : RcaCandidatesEvaluatedBody}

/-- The context that `complete_body` asks for. -/
structure HasContext (evt : RcaCandidatesEvaluatedBody) : Prop where
  evidence : evt.evidence.isSome
  incident : evt.incident.isSome
  evidenceBundle : evt.evidenceBundle.isSome

theorem completeBody_blocked (context : HasContext evt) {reasonCode : BlockReasonCode}
    (blocks : blockReasonCode evt (analyzeRootCause evt.evaluations) = some reasonCode)
    : ∃ blocked, analyzer.completeBody evt = .blocked blocked
        ∧ blocked.rcaDetail = analyzeRootCause evt.evaluations
        ∧ blocked.missingEvidence = (analyzeRootCause evt.evaluations).missingEvidence := by
  obtain ⟨evidence, hasEvidence⟩ := Option.isSome_iff_exists.mp context.evidence
  obtain ⟨incident, hasIncident⟩ := Option.isSome_iff_exists.mp context.incident
  obtain ⟨bundle, hasBundle⟩ := Option.isSome_iff_exists.mp context.evidenceBundle
  simp [RootCauseAnalyzer.completeBody, hasEvidence, hasIncident, hasBundle, blocks]

theorem completeBody_completed (context : HasContext evt)
    (passes : blockReasonCode evt (analyzeRootCause evt.evaluations) = none)
    : ∃ completed, analyzer.completeBody evt = .completed completed
        ∧ completed.rcaDetail = analyzeRootCause evt.evaluations
        ∧ completed.rootCause = (analyzeRootCause evt.evaluations).rootCause := by
  obtain ⟨evidence, hasEvidence⟩ := Option.isSome_iff_exists.mp context.evidence
  obtain ⟨incident, hasIncident⟩ := Option.isSome_iff_exists.mp context.incident
  obtain ⟨bundle, hasBundle⟩ := Option.isSome_iff_exists.mp context.evidenceBundle
  simp [RootCauseAnalyzer.completeBody, hasEvidence, hasIncident, hasBundle, passes]

/-- The report of a planned candidate only blocks for what it misses. -/
theorem blockReasonCode_selected (noneMissing : evt.ruleMissing = none)
    {selected : CauseEvaluation} (named : selected.candidateId ∉ reservedIds)
    : blockReasonCode evt (selectedRootCause selected)
      = if selected.missingEvidence ≠ [] then some .insufficientEvidence else none := by
  simp only [reservedIds, mem_cons, not_or] at named
  obtain ⟨known, sufficient, chosen⟩ := named
  by_cases nothing : selected.missingEvidence = [] <;>
    simp [blockReasonCode, selectedRootCause, noneMissing, known, sufficient, chosen, nothing]

theorem completeBody_publishedIfProved (context : HasContext evt)
    (noneMissing : evt.ruleMissing = none) (planned : evt.candidates ≠ [])
    (evaluated : Forall₂ (fun candidate evaluation =>
      CauseEvaluation.Of evaluation candidate py bundle signals)
      evt.candidates evt.evaluations)
    (named : ∀ candidate ∈ evt.candidates, candidate.candidateId ∉ reservedIds)
    (asked : ∀ candidate ∈ evt.candidates, candidate.expectedEvidence ≠ [])
    : PublishedIfProved py bundle signals evt.candidates (analyzer.completeBody evt) := by
  have detail := analyzeRootCause_planned evaluated planned named
  cases least : (evt.evaluations.filter (·.supported)).argmin (·.rank) with
  | none =>
    rw [least] at detail
    have unproved := not_proved_of_unsupported evaluated asked least
    obtain ⟨blocked, isBlocked, reported, -⟩ := @completeBody_blocked analyzer evt context
      .insufficientEvidence
      (by simp [detail, blockReasonCode, insufficientEvidenceRootCause, noneMissing])
    rw [isBlocked]
    refine ⟨⟨fun ⟨_, same⟩ => absurd same blocked_ne_completed,
      fun proved => absurd proved unproved⟩,
      fun _ same => absurd same blocked_ne_completed, fun _ => ⟨blocked, rfl, ?_⟩⟩
    intro selected
    obtain ⟨candidate, mem, same⟩ := mem_map.mp selected
    rw [reported, detail] at same
    have reserved : (insufficientEvidenceRootCause evt.evaluations).selectedCandidateId
        ∈ reservedIds := by
      simp [insufficientEvidenceRootCause, reservedIds]
    exact absurd (same ▸ reserved) (named candidate mem)
  | some selected =>
    rw [least] at detail
    dsimp only at detail
    obtain ⟨before, candidate, after, split, ⟨signalChecks, rfl⟩, chosen⟩ :=
      selectedFrom_of_argmin evaluated asked least
    have mem : candidate ∈ evt.candidates := by simp [split]
    have code := blockReasonCode_selected noneMissing
      (show (candidate.evaluation py bundle signals signalChecks).candidateId ∉ reservedIds
        from named candidate mem)
    rw [← detail] at code
    by_cases proved : candidate.FullyProved py bundle signals
    · rw [if_neg (not_not.mpr (CauseCandidate.missingEvidence_eq_nil.mpr proved))] at code
      obtain ⟨completed, isCompleted, reported, root⟩ :=
        @completeBody_completed analyzer evt context code
      rw [isCompleted]
      refine ⟨⟨fun _ => ⟨candidate, mem, proved⟩, fun _ => ⟨completed, rfl⟩⟩, ?_,
        fun notCompleted => absurd ⟨completed, rfl⟩ notCompleted⟩
      intro other same
      cases same
      rw [reported, root, detail]
      exact ⟨before, candidate, after, split, proved, rfl, rfl,
        (CauseCandidate.score_eq_one (asked candidate mem)).mpr proved,
        chosen.more_groups proved, chosen.most_groups proved⟩
    · have missing : (candidate.evaluation py bundle signals signalChecks).missingEvidence
          ≠ [] := fun nothing => proved (CauseCandidate.missingEvidence_eq_nil.mp nothing)
      rw [if_pos missing] at code
      obtain ⟨blocked, isBlocked, reported, listed⟩ :=
        @completeBody_blocked analyzer evt context _ code
      rw [isBlocked]
      refine ⟨⟨fun ⟨_, same⟩ => absurd same blocked_ne_completed,
        fun any => absurd (chosen.proved_of_any (split ▸ any)) proved⟩,
        fun _ same => absurd same blocked_ne_completed, fun _ => ⟨blocked, rfl, fun _ => ?_⟩⟩
      rw [reported, listed, detail]
      exact ⟨missing, missing⟩

end Body

/-- The evaluation of a candidate only fails on a group that cannot be described. -/
theorem evaluate_isOk (candidate : CauseCandidate)
    : (candidate.evaluate py bundle signals).isOk = candidate.signals.all walkable := by
  rw [CauseCandidate.evaluate, map_isOk, missingSignalChecks, mapM_isOk,
    CauseCandidate.unmatchedGroups_eq, all_filter]
  refine all_congr rfl fun group => ?_
  rw [missingSignalCheck, map_isOk, describeSignalGroup_isOk]
  cases matched : matchSignalGroup py signals group with
  | false => rfl
  | true => rw [walkable_of_match matched, Bool.or_true]

variable (extracted : extractBundleSignals py bundle = .ok signals)
include extracted

theorem evaluateCauses_eq
    : evaluateCauses py candidates bundle none
      = candidates.mapM fun candidate : CauseCandidate =>
          candidate.evaluate py bundle signals := by
  rw [evaluateCauses, extracted]
  rfl

theorem evaluateCauses_isOk
    : (evaluateCauses py candidates bundle none).isOk
      = candidates.all fun candidate : CauseCandidate => candidate.signals.all walkable := by
  rw [evaluateCauses_eq extracted, mapM_isOk]
  exact all_congr rfl evaluate_isOk

/-- The results of `evaluate_causes` are evaluations of the candidates. -/
theorem evaluated_of_evaluateCauses
    (done : evaluateCauses py candidates bundle none = .ok evaluations)
    : Forall₂ (fun candidate evaluation =>
        CauseEvaluation.Of evaluation candidate py bundle signals) candidates evaluations := by
  rw [evaluateCauses_eq extracted] at done
  refine (mapM_ok.mp done).imp fun candidate evaluation evaluated => ?_
  unfold CauseCandidate.evaluate at evaluated
  cases checks : missingSignalChecks py (candidate.unmatchedGroups py signals) with
  | error wrong => rw [checks] at evaluated; cases evaluated
  | ok signalChecks =>
    rw [checks] at evaluated
    exact ⟨signalChecks, (Except.ok.inj evaluated).symm⟩

omit extracted

end Completion

/-- The analysis of a plan ends, and publishes what is fully proved, exactly if no exit code is
infinite and the matchers of every planned group can be walked through. `int` of an infinite
float and a loop over a number raise exceptions that the engine does not catch.
-/
theorem published_iff_fullyProved (analyzer : RootCauseAnalyzer) (py : Runtime)
    (rules : List CauseRule) (incident : IncidentRecord) (bundle : EvidenceBundle)
    (evidence : Evidence)
    (planned : (planCauses py incident bundle evidence.objectRef rules).ruleMissing = none)
    (named : ∀ candidate ∈ (planCauses py incident bundle evidence.objectRef rules).candidates,
      candidate.candidateId ∉ reservedIds)
    (asked : ∀ candidate ∈ (planCauses py incident bundle evidence.objectRef rules).candidates,
      candidate.expectedEvidence ≠ [])
    : (∃ signals body,
        extractBundleSignals py bundle = .ok signals
        ∧ analyzer.analyze py rules incident bundle evidence = .ok body
        ∧ PublishedIfProved py bundle signals
            (planCauses py incident bundle evidence.objectRef rules).candidates body)
      ↔ bundle.exitCodesFinite = true
        ∧ ∀ candidate ∈ (planCauses py incident bundle evidence.objectRef rules).candidates,
            ∀ group ∈ candidate.signals, walkable group = true := by
  have several := planCauses_candidates_ne_nil planned
  unfold RootCauseAnalyzer.analyze
  generalize planCauses py incident bundle evidence.objectRef rules = plan
    at planned named asked several ⊢
  obtain ⟨candidates, ruleMissing⟩ := plan
  cases planned
  constructor
  · rintro ⟨signals, body, extracted, analyzed, -⟩
    obtain ⟨evaluations, evaluated, -⟩ := bind_ok.mp analyzed
    have finite := isOk_iff.mpr ⟨signals, extracted⟩
    have described := isOk_iff.mpr ⟨evaluations, evaluated⟩
    rw [extractBundleSignals_isOk] at finite
    rw [evaluateCauses_isOk extracted] at described
    exact ⟨finite, by simpa using described⟩
  · rintro ⟨finite, describable⟩
    obtain ⟨signals, extracted⟩ :=
      isOk_iff.mp ((extractBundleSignals_isOk py bundle).trans finite)
    obtain ⟨evaluations, evaluated⟩ : ∃ evaluations,
        evaluateCauses py candidates bundle none = .ok evaluations := by
      rw [← isOk_iff, evaluateCauses_isOk extracted]
      simpa using describable
    refine ⟨signals, _, extracted, bind_ok.mpr ⟨evaluations, evaluated, rfl⟩, ?_⟩
    exact @completeBody_publishedIfProved py bundle signals analyzer
      (evaluatedBody ⟨candidates, none⟩ evaluations incident bundle evidence)
      ⟨rfl, rfl, rfl⟩ rfl several (evaluated_of_evaluateCauses extracted evaluated) named asked

def crashIncident : IncidentRecord where
  incidentId := "i"
  clusterId := "c"
  resourceKind := "Pod"
  resourceName := "p"
  inNamespace := none
  symptom := "s"
  severity := "high"
  firstSeenAt := none
  summary := ""
  workspaceId := "w"

/-- A bundle of one pod whose container ended with the exit code. -/
def crashBundle (exitCode : PyValue) : EvidenceBundle where
  incidentId := "i"
  items := [{
    source := "kubernetes"
    name := "n"
    value := [(.str "pods", .list [.dict [(.str "containers", .list [.dict
      [(.str "exit_code", exitCode)]])]])]
    summary := "" }]
  missingEvidence := []
  complete := true

def crashEvidence : Evidence where
  clusterId := "c"
  kubernetes := []
  metrics := []
  logs := []
  traces := []
  objectRef := "o"
  workspaceId := "w"

/-- A candidate that expects evidence of the cluster, and a group of one fact. -/
def exitCandidate (candidateId fact : String) : CauseCandidate where
  candidateId := candidateId
  title := ""
  description := ""
  expectedEvidence := ["kubernetes"]
  checks := []
  signals := [[(.str "id", .scalar (.str candidateId)),
    (.str "any_of", .list [.dict [(.str "fact", .scalar (.str fact))]])]]

def exitCandidates : List CauseCandidate :=
  [exitCandidate "killed" "reason=OOMKilled", exitCandidate "failed" factExitCodeNonOom]

def exitRule : CauseRule := symptomCauseRule ["s"] exitCandidates

/-- Of the two candidates, the group of the second one is matched. -/
theorem published_iff_fullyProved_exit
    : ∃ signals body,
        extractBundleSignals insertionRuntime (crashBundle (.scalar (.int 1))) = .ok signals
        ∧ RootCauseAnalyzer.analyze {} insertionRuntime [exitRule] crashIncident
            (crashBundle (.scalar (.int 1))) crashEvidence = .ok body
        ∧ PublishedIfProved insertionRuntime (crashBundle (.scalar (.int 1))) signals
            exitCandidates body := by
  refine (published_iff_fullyProved {} insertionRuntime [exitRule] crashIncident
    (crashBundle (.scalar (.int 1))) crashEvidence rfl ?_ ?_).mpr ⟨by decide, ?_⟩
  all_goals
    intro candidate mem
    rcases mem with _ | ⟨_, _ | ⟨_, ⟨⟩⟩⟩ <;> decide

/-- A candidate that only expects evidence of the cluster. -/
def crashCandidate : CauseCandidate where
  candidateId := "crash"
  title := ""
  description := ""
  expectedEvidence := ["kubernetes"]
  checks := []

def crashRule : CauseRule := symptomCauseRule ["s"] [crashCandidate]

/-- An infinite exit code ends the analysis of a fully proved candidate with an exception. -/
theorem infinite_exit_code_not_published
    : (planCauses insertionRuntime crashIncident (crashBundle (.scalar (.float .infinity)))
        crashEvidence.objectRef [crashRule]).ruleMissing = none
      ∧ (planCauses insertionRuntime crashIncident (crashBundle (.scalar (.float .infinity)))
        crashEvidence.objectRef [crashRule]).candidates = [crashCandidate]
      ∧ crashCandidate.candidateId ∉ reservedIds
      ∧ crashCandidate.expectedEvidence ≠ []
      ∧ (∀ signals, crashCandidate.FullyProved insertionRuntime
          (crashBundle (.scalar (.float .infinity))) signals)
      ∧ RootCauseAnalyzer.analyze {} insertionRuntime [crashRule] crashIncident
          (crashBundle (.scalar (.float .infinity))) crashEvidence = .error .overflow := by
  refine ⟨rfl, rfl, by decide, by decide, fun signals => ⟨?_, nofun⟩, rfl⟩
  intro key expected
  cases mem_singleton.mp expected
  decide

end K8sClue.Rca
