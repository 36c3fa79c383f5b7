import K8sClue.Rca.Completion

/-! Candidates that several rules give under one id are merged into their conjunction. -/

namespace K8sClue.Rca

open Python Library List

variable {py : Runtime} {bundle : EvidenceBundle}

/-- The bundle satisfies the candidate: nothing is missing and all signal groups are matched. -/
def CauseCandidate.Satisfied (candidate : CauseCandidate) (py : Runtime)
    (bundle : EvidenceBundle)
    : Prop :=
  ∃ evaluation, evaluateCauses py [candidate] bundle none = .ok [evaluation]
    ∧ evaluation.missingEvidence = []
    ∧ evaluation.matchedSignalCount = evaluation.requiredSignalCount

theorem satisfied_iff {candidate : CauseCandidate}
    : candidate.Satisfied py bundle
      ↔ ∃ signals, extractBundleSignals py bundle = .ok signals
          ∧ candidate.FullyProved py bundle signals := by
  constructor
  · rintro ⟨evaluation, evaluated, nothing, -⟩
    obtain ⟨signals, extracted, -⟩ := bind_ok.mp evaluated
    refine ⟨signals, extracted, ?_⟩
    cases evaluated_of_evaluateCauses extracted evaluated with
    | cons first _ =>
      obtain ⟨signalChecks, rfl⟩ := first
      exact CauseCandidate.missingEvidence_eq_nil.mp nothing
  · rintro ⟨signals, extracted, proved⟩
    have groups : candidate.unmatchedGroups py signals = [] := by
      rw [CauseCandidate.unmatchedGroups_eq, filter_eq_nil_iff]
      simpa using proved.matched
    refine ⟨candidate.evaluation py bundle signals [], ?_,
      CauseCandidate.missingEvidence_eq_nil.mpr proved,
      CauseCandidate.length_matchedGroups_eq.mpr proved.matched⟩
    rw [evaluateCauses_eq extracted, mapM_cons, CauseCandidate.evaluate, groups]
    rfl

/-- What holds of a group as soon as it holds of one with its id holds of all groups exactly if
it holds of the merged ones.
-/
theorem forall_mergeSignalGroups {holds : PyDict → Prop} (existing incoming : List PyDict)
    (carried : ∀ group ∈ incoming, ∀ known,
      py.strOf (known.get "id") = py.strOf (group.get "id") → holds known → holds group)
    : (∀ group ∈ mergeSignalGroups py existing incoming, holds group)
      ↔ (∀ group ∈ existing, holds group) ∧ ∀ group ∈ incoming, holds group := by
  induction incoming generalizing existing with
  | nil => simp [mergeSignalGroups]
  | cons group rest ih =>
    obtain ⟨here, later⟩ := forall_mem_cons.mp carried
    refine (ih _ later).trans ?_
    rw [forall_mem_cons, ← and_assoc]
    refine and_congr_left fun _ => ?_
    unfold mergeSignalGroup
    split
    next known =>
      obtain ⟨first, mem, printed⟩ := mem_map.mp known
      exact (and_iff_left_of_imp fun all => here first printed (all first mem)).symm
    · simp [or_imp, forall_and]

theorem mergeCandidate_id (existing candidate : CauseCandidate)
    (same : existing.candidateId = candidate.candidateId)
    : (mergeCandidate py existing candidate).candidateId = candidate.candidateId := same

variable (candidates : List CauseCandidate)

theorem ids_mergeCandidates
    : (mergeCandidates py candidates).map (·.candidateId)
      = fromKeys (candidates.map (·.candidateId)) := by
  induction candidates using List.reverseRecOn with
  | nil => rfl
  | append_singleton before candidate ih =>
    unfold mergeCandidates Keyed.putAll at ih ⊢
    rw [foldl_concat, Keyed.keys_put mergeCandidate_id, ih, map_append, map_singleton,
      fromKeys_concat]
    simp

theorem once_mergeCandidates
    : Keyed.Unique (·.candidateId) (mergeCandidates py candidates) := by
  rw [Keyed.Unique, ids_mergeCandidates]
  exact nodup_fromKeys _

/-- A merged candidate asks for what the candidates with its id ask for. -/
theorem forall_mergeCandidates {known : String → Prop} {holds : PyDict → Prop}
    {candidates : List CauseCandidate} {result : CauseCandidate}
    (mem : result ∈ mergeCandidates py candidates)
    (carried : ∀ candidate ∈ candidates, candidate.candidateId = result.candidateId
      → ∀ group ∈ candidate.signals, ∀ first,
        py.strOf (first.get "id") = py.strOf (group.get "id") → holds first → holds group)
    : ((∀ key ∈ result.expectedEvidence, known key) ∧ ∀ group ∈ result.signals, holds group)
      ↔ ∀ candidate ∈ candidates, candidate.candidateId = result.candidateId
        → (∀ key ∈ candidate.expectedEvidence, known key)
          ∧ ∀ group ∈ candidate.signals, holds group := by
  have all := @Keyed.forall_putAll _ _ _ [] candidates _ _ result.candidateId
    (@mergeCandidate_id py) (fun candidate => (∀ key ∈ candidate.expectedEvidence, known key)
      ∧ ∀ group ∈ candidate.signals, holds group) (by
    intro candidate inside same existing
    have groups := forall_mergeSignalGroups existing.signals _ (carried candidate inside same)
    simp only [mergeCandidate, mem_fromKeys, forall_mem_append, groups]
    exact and_and_and_comm)
  refine Iff.trans ⟨?_, fun held => held result mem rfl⟩ (all.trans (by simp))
  intro held row inside same
  rwa [Keyed.Unique.eq_of_key (once_mergeCandidates candidates) inside mem same]

/-- What merging makes of the candidates of the rules. -/
structure KeepsConjunction (py : Runtime) (bundle : EvidenceBundle)
    (candidates merged : List CauseCandidate)
    : Prop where
  satisfied : ∀ result ∈ merged, result.Satisfied py bundle
    ↔ ∀ candidate ∈ candidates, candidate.candidateId = result.candidateId
      → candidate.Satisfied py bundle
  /-- in the order of their first occurrence -/
  ordered : merged.map (·.candidateId) = fromKeys (candidates.map (·.candidateId))
  once : (merged.map (·.candidateId)).Nodup

theorem merged_keeps_conjunction (py : Runtime) (bundle : EvidenceBundle)
    (candidates : List CauseCandidate)
    (identified : ∀ candidate ∈ candidates, ∀ group ∈ candidate.signals,
      ∃ id, group.get "id" = .scalar (.str id))
    (agreeing : ∀ candidate ∈ candidates, ∀ other ∈ candidates,
      candidate.candidateId = other.candidateId → ∀ group ∈ candidate.signals,
      ∀ second ∈ other.signals, group.get "id" = second.get "id"
      → group.get "any_of" = second.get "any_of")
    : KeepsConjunction py bundle candidates (mergeCandidates py candidates) := by
  refine ⟨?_, ids_mergeCandidates candidates, once_mergeCandidates candidates⟩
  intro result mem
  -- the groups of the merged candidate stand in the candidates with its id
  let stands (group : PyDict) : Prop := ∃ candidate ∈ candidates,
    candidate.candidateId = result.candidateId ∧ group ∈ candidate.signals
  have inside := ((@forall_mergeCandidates py (fun _ => True) stands _ _ mem
    fun candidate inside same group here _ _ _ => ⟨candidate, inside, same, here⟩).mpr
    fun candidate inside same =>
      ⟨fun _ _ => trivial, fun group here => ⟨candidate, inside, same, here⟩⟩).2
  have asked (signals : BundleSignals) := @forall_mergeCandidates py (· ∈ evidenceKeys bundle)
    (fun group => stands group ∧ matchSignalGroup py signals group = true) _ _ mem (by
    rintro candidate inside same group here first printed
      ⟨⟨other, otherInside, otherSame, there⟩, matched⟩
    refine ⟨⟨candidate, inside, same, here⟩, ?_⟩
    obtain ⟨id, carried⟩ := identified _ inside _ here
    obtain ⟨otherId, otherCarried⟩ := identified _ otherInside _ there
    have sameId : group.get "id" = first.get "id" := by
      rw [carried, otherCarried] at printed ⊢
      exact congrArg (PyValue.scalar ∘ .str) printed.symm
    rw [← matched, matchSignalGroup, matchSignalGroup,
      agreeing _ inside _ otherInside (same.trans otherSame.symm) _ here _ there sameId])
  simp only [satisfied_iff]
  constructor
  · rintro ⟨signals, extracted, proved⟩ candidate here same
    obtain ⟨present, matched⟩ := (asked signals).mp
      ⟨proved.present, fun group own => ⟨inside group own, proved.matched group own⟩⟩
      candidate here same
    exact ⟨signals, extracted, present, fun group own => (matched group own).2⟩
  · intro all
    have known : result.candidateId ∈ candidates.map (·.candidateId) := by
      rw [← mem_fromKeys, ← ids_mergeCandidates]
      exact mem_map_of_mem mem
    obtain ⟨first, here, same⟩ := mem_map.mp known
    obtain ⟨signals, extracted, -⟩ := all first here same
    obtain ⟨present, matched⟩ := (asked signals).mpr (by
      intro candidate here same
      obtain ⟨others, again, proved⟩ := all candidate here same
      cases extracted.symm.trans again
      exact ⟨proved.present, fun group own =>
        ⟨⟨candidate, here, same, own⟩, proved.matched group own⟩⟩)
    exact ⟨signals, extracted, present, fun group own => (matched group own).2⟩

/-- Two rules ask for the same signal and for different evidence. -/
def crashSignals (evidence : String) : CauseCandidate :=
  { crashCandidate with
    expectedEvidence := [evidence]
    signals := [[(.str "id", .scalar (.str "g")), (.str "any_of", .list
      [.dict [(.str "fact", .scalar (.str "exit_code=1"))]])]] }

theorem merged_keeps_conjunction_crash
    : (mergeCandidates insertionRuntime [crashSignals "kubernetes", crashSignals "logs"]).map
        (·.expectedEvidence) = [["kubernetes", "logs"]]
      ∧ KeepsConjunction insertionRuntime (crashBundle (.scalar (.int 1)))
          [crashSignals "kubernetes", crashSignals "logs"]
          (mergeCandidates insertionRuntime [crashSignals "kubernetes", crashSignals "logs"]) :=
  ⟨by decide, merged_keeps_conjunction _ _ _
    (by simpa [crashSignals] using ⟨"g", rfl⟩) (by simp [crashSignals])⟩

end K8sClue.Rca
