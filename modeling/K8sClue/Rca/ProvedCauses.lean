import K8sClue.Rca.Causes

/-! What the evaluation of a candidate says about it: its score is one exactly if the bundle has
all the evidence and all the signals it asks for, and then nothing ranks before it but another
such candidate.
-/

namespace K8sClue.Rca

open Python Library List

variable {py : Runtime} {bundle : EvidenceBundle} {signals : BundleSignals}
  {candidate : CauseCandidate} {signalChecks : List MissingEvidenceCheck}

/-- Every expected evidence key is in the bundle, and every signal group is matched. -/
structure CauseCandidate.FullyProved (candidate : CauseCandidate) (py : Runtime)
    (bundle : EvidenceBundle) (signals : BundleSignals)
    : Prop where
  present : ∀ key ∈ candidate.expectedEvidence, key ∈ evidenceKeys bundle
  matched : ∀ group ∈ candidate.signals, matchSignalGroup py signals group = true

/-- The evaluation is one of the candidate. -/
def CauseEvaluation.Of (evaluation : CauseEvaluation) (candidate : CauseCandidate)
    (py : Runtime) (bundle : EvidenceBundle) (signals : BundleSignals)
    : Prop :=
  ∃ signalChecks, evaluation = candidate.evaluation py bundle signals signalChecks

namespace CauseCandidate

theorem length_supporting_le
    : (candidate.supporting bundle).length ≤ candidate.expected.length := by
  rw [supporting, sortedTexts, length_insertionSort]
  exact length_filter_le _ _

theorem length_supporting_eq
    : (candidate.supporting bundle).length = candidate.expected.length
      ↔ ∀ key ∈ candidate.expectedEvidence, key ∈ evidenceKeys bundle := by
  rw [supporting, sortedTexts, length_insertionSort]
  simp [expected]

theorem matchedGroups_eq
    : candidate.matchedGroups py signals
      = candidate.signals.filter (matchSignalGroup py signals) := by
  rw [matchedGroups, splitSignalGroups, partition_eq_filter_filter]

theorem unmatchedGroups_eq
    : candidate.unmatchedGroups py signals
      = candidate.signals.filter fun group => !matchSignalGroup py signals group := by
  rw [unmatchedGroups, splitSignalGroups, partition_eq_filter_filter]
  rfl

theorem length_matchedGroups_le
    : (candidate.matchedGroups py signals).length ≤ candidate.signals.length := by
  rw [matchedGroups_eq]
  exact length_filter_le _ _

theorem length_matchedGroups_eq
    : (candidate.matchedGroups py signals).length = candidate.signals.length
      ↔ ∀ group ∈ candidate.signals, matchSignalGroup py signals group = true := by
  rw [matchedGroups_eq, length_filter_eq_length_iff]

variable (asked : candidate.expectedEvidence ≠ [])
include asked

theorem expected_ne_nil : 0 < candidate.expected.length := by
  obtain ⟨key, mem⟩ := exists_mem_of_ne_nil _ asked
  exact length_pos_of_mem (mem_dedup.mpr mem)

theorem score_eq
    : candidate.score py bundle signals
      = (((candidate.supporting bundle).length
          + (candidate.matchedGroups py signals).length : ℕ) : ℚ)
        / ((candidate.expected.length + candidate.signals.length : ℕ) : ℚ) := by
  have positive := expected_ne_nil asked
  rw [score, if_neg (by omega)]

theorem score_le_one : candidate.score py bundle signals ≤ 1 := by
  rw [score_eq asked]
  refine div_le_one_of_le₀ ?_ (Nat.cast_nonneg _)
  exact Nat.cast_le.mpr (Nat.add_le_add length_supporting_le length_matchedGroups_le)

/-- Only a fully proved candidate has the score one. -/
theorem score_eq_one
    : candidate.score py bundle signals = 1
      ↔ candidate.FullyProved py bundle signals := by
  have positive := expected_ne_nil asked
  have counted : ((candidate.expected.length + candidate.signals.length : ℕ) : ℚ) ≠ 0 :=
    Nat.cast_ne_zero.mpr (by omega)
  have fewer := @length_supporting_le bundle candidate
  have fewerGroups := @length_matchedGroups_le py signals candidate
  rw [score_eq asked, div_eq_one_iff_eq counted, Nat.cast_inj]
  constructor
  · intro same
    exact ⟨length_supporting_eq.mp (by omega), length_matchedGroups_eq.mp (by omega)⟩
  · intro proved
    rw [length_supporting_eq.mpr proved.present, length_matchedGroups_eq.mpr proved.matched]

omit asked

/-- Nothing is missing exactly from a fully proved candidate. -/
theorem missingEvidence_eq_nil
    : (candidate.evaluation py bundle signals signalChecks).missingEvidence = []
      ↔ candidate.FullyProved py bundle signals := by
  have sources : candidate.missingSources bundle = []
      ↔ ∀ key ∈ candidate.expectedEvidence, key ∈ evidenceKeys bundle := by
    rw [missingSources, sortedTexts, ← length_eq_zero_iff, length_insertionSort,
      length_eq_zero_iff]
    simp [expected]
  have groups : candidate.unmatchedGroups py signals = []
      ↔ ∀ group ∈ candidate.signals, matchSignalGroup py signals group = true := by
    rw [unmatchedGroups_eq]
    simp
  rw [evaluation, append_eq_nil_iff, map_eq_nil_iff, sources, groups]
  exact ⟨fun both => ⟨both.1, both.2⟩, fun proved => ⟨proved.present, proved.matched⟩⟩

/-- A fully proved candidate that expects some evidence is eligible. -/
theorem FullyProved.supported (proved : candidate.FullyProved py bundle signals)
    (asked : candidate.expectedEvidence ≠ [])
    : (candidate.evaluation py bundle signals signalChecks).supported = true := by
  have positive := expected_ne_nil asked
  have all := length_supporting_eq.mpr proved.present
  simp only [CauseEvaluation.supported, decide_eq_true_eq]
  refine ⟨.inr (length_matchedGroups_eq.mpr proved.matched), ?_⟩
  have some : 0 < (candidate.supporting bundle).length := by omega
  exact ne_nil_of_length_pos some

/-- The rank of a fully proved candidate counts its signal groups. -/
theorem FullyProved.rank_eq (proved : candidate.FullyProved py bundle signals)
    (asked : candidate.expectedEvidence ≠ [])
    : (candidate.evaluation py bundle signals signalChecks).rank
      = toLex (-1, toLex (-(candidate.signals.length : ℚ), 0)) := by
  have nothing := (@missingEvidence_eq_nil _ _ _ _ signalChecks).mpr proved
  have whole := (score_eq_one asked).mpr proved
  have groups := length_matchedGroups_eq.mpr proved.matched
  rw [CauseEvaluation.rank, nothing]
  change toLex (-candidate.score py bundle signals,
    toLex (-((candidate.matchedGroups py signals).length : ℚ), 0)) = _
  rw [whole, groups]

variable {other : CauseCandidate} {otherChecks : List MissingEvidenceCheck}

/-- What does not rank behind a fully proved candidate is fully proved. -/
theorem fullyProved_of_rank_le (proved : other.FullyProved py bundle signals)
    (asked : candidate.expectedEvidence ≠ []) (otherAsked : other.expectedEvidence ≠ [])
    (ranked : (candidate.evaluation py bundle signals signalChecks).rank
      ≤ (other.evaluation py bundle signals otherChecks).rank)
    : candidate.FullyProved py bundle signals := by
  rw [proved.rank_eq otherAsked] at ranked
  have scores : -candidate.score py bundle signals ≤ -1 := by
    rcases Prod.Lex.le_iff.mp ranked with lower | ⟨same, _⟩
    · exact lower.le
    · exact same.le
  refine (score_eq_one asked).mp (le_antisymm (score_le_one asked) ?_)
  exact neg_le_neg_iff.mp scores

/-- Among fully proved candidates the one with more signal groups ranks first. -/
theorem FullyProved.rank_le_iff (proved : candidate.FullyProved py bundle signals)
    (otherProved : other.FullyProved py bundle signals)
    (asked : candidate.expectedEvidence ≠ []) (otherAsked : other.expectedEvidence ≠ [])
    : (candidate.evaluation py bundle signals signalChecks).rank
        ≤ (other.evaluation py bundle signals otherChecks).rank
      ↔ other.signals.length ≤ candidate.signals.length := by
  rw [proved.rank_eq asked, otherProved.rank_eq otherAsked]
  simp only [Prod.Lex.toLex_le_toLex', le_refl, true_and]
  simp

end CauseCandidate

section Selection

variable {candidates : List CauseCandidate} {evaluations : List CauseEvaluation}
  (evaluated : Forall₂ (fun candidate evaluation =>
    CauseEvaluation.Of evaluation candidate py bundle signals) candidates evaluations)
  (asked : ∀ candidate ∈ candidates, candidate.expectedEvidence ≠ [])
include evaluated asked

/-- Where every candidate expects evidence, nothing is selected only if nothing is proved. -/
theorem not_proved_of_unsupported
    (unsupported : (evaluations.filter (·.supported)).argmin (·.rank) = none)
    : ¬ ∃ candidate ∈ candidates, candidate.FullyProved py bundle signals := by
  rintro ⟨candidate, mem, proved⟩
  obtain ⟨evaluation, evaluationMember, signalChecks, rfl⟩ := forall₂_mem_left evaluated mem
  have refused := filter_eq_nil_iff.mp (argmin_eq_none.mp unsupported)
  exact refused _ evaluationMember (proved.supported (asked candidate mem))

structure SelectedFrom (py : Runtime) (bundle : EvidenceBundle) (signals : BundleSignals)
    (before after : List CauseCandidate) (candidate : CauseCandidate)
    : Prop where
  proved_of_any : (∃ other ∈ before ++ candidate :: after,
    other.FullyProved py bundle signals) → candidate.FullyProved py bundle signals
  more_groups : candidate.FullyProved py bundle signals → ∀ other ∈ before,
    other.FullyProved py bundle signals → other.signals.length < candidate.signals.length
  most_groups : candidate.FullyProved py bundle signals → ∀ other ∈ after,
    other.FullyProved py bundle signals → other.signals.length ≤ candidate.signals.length

theorem selectedFrom_of_argmin
    {selected : CauseEvaluation}
    (least : (evaluations.filter (·.supported)).argmin (·.rank) = some selected)
    : ∃ before candidate after,
        candidates = before ++ candidate :: after
        ∧ selected.Of candidate py bundle signals
        ∧ SelectedFrom py bundle signals before after candidate := by
  obtain ⟨ahead, behind, rfl, -, above, notBelow⟩ := argmin_filter_split least
  obtain ⟨before, candidate, after, rfl, evaluatedBefore, ⟨signalChecks, rfl⟩, evaluatedAfter⟩ :=
    forall₂_split_right evaluated
  have candidateAsked := asked candidate (by simp)
  -- The evaluation of a proved candidate on either side is supported, so it was compared.
  have compareBefore : ∀ other ∈ before, other.FullyProved py bundle signals →
      ∃ otherChecks,
        (candidate.evaluation py bundle signals signalChecks).rank
        < (other.evaluation py bundle signals otherChecks).rank := by
    intro other mem proved
    obtain ⟨evaluation, inside, otherChecks, rfl⟩ := forall₂_mem_left evaluatedBefore mem
    exact ⟨otherChecks, above _ inside (proved.supported (asked other (by simp [mem])))⟩
  have compareAfter : ∀ other ∈ after, other.FullyProved py bundle signals →
      ∃ otherChecks,
        (candidate.evaluation py bundle signals signalChecks).rank
        ≤ (other.evaluation py bundle signals otherChecks).rank := by
    intro other mem proved
    obtain ⟨evaluation, inside, otherChecks, rfl⟩ := forall₂_mem_left evaluatedAfter mem
    exact ⟨otherChecks, notBelow _ inside (proved.supported (asked other (by simp [mem])))⟩
  refine ⟨before, candidate, after, rfl, ⟨signalChecks, rfl⟩, ?_, ?_, ?_⟩
  · rintro ⟨other, mem, proved⟩
    have otherAsked := asked other mem
    rcases mem_append.mp mem with earlier | later
    · obtain ⟨otherChecks, ranked⟩ := compareBefore other earlier proved
      exact CauseCandidate.fullyProved_of_rank_le proved candidateAsked otherAsked ranked.le
    · rcases mem_cons.mp later with rfl | later
      · exact proved
      · obtain ⟨otherChecks, ranked⟩ := compareAfter other later proved
        exact CauseCandidate.fullyProved_of_rank_le proved candidateAsked otherAsked ranked
  · intro candidateProved other mem proved
    obtain ⟨otherChecks, ranked⟩ := compareBefore other mem proved
    have otherAsked := asked other (by simp [mem])
    by_contra notFewer
    exact absurd ranked (not_lt.mpr
      ((proved.rank_le_iff candidateProved otherAsked candidateAsked).mpr (not_lt.mp notFewer)))
  · intro candidateProved other mem proved
    obtain ⟨otherChecks, ranked⟩ := compareAfter other mem proved
    have otherAsked := asked other (by simp [mem])
    exact (candidateProved.rank_le_iff proved candidateAsked otherAsked).mp ranked

end Selection

end K8sClue.Rca
