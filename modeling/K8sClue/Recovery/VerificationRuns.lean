import K8sClue.Library.Runs
import K8sClue.Recovery.Verification
import Mathlib.Algebra.Order.Floor.Div
import Mathlib.Algebra.Order.Floor.Semifield
import Mathlib.Data.Rat.Floor
import Mathlib.Tactic.Positivity

/-! Whole runs of evidence windows through one verification attempt.
The stored fields are tied to a history: the chain of healthy windows they summarize.
-/

namespace K8sClue.Recovery

open Python Library List

variable (window : VerificationWindow)

/-- The cadence of the attempt in whole seconds, zero when the policy has none. -/
def VerificationWindow.cadence : Nat :=
  (nonnegativeInt window.evidenceCadenceSeconds).getD 0

/-- One verification attempt, fed with evidence calls in their order of arrival. -/
def verificationMachine : Machine VerificationState EvidenceCall VerificationDecision where
  step state call :=
    let decision := evaluateRecoveryEvidence window state call
    (decision.state, [decision])

variable (calls : List EvidenceCall)

def stateAfter : VerificationState :=
  (verificationMachine window).run .fresh calls

/-- The decision on the call at `index`, given all the calls that arrived before it. -/
def decisionAt (index : Nat) : Option VerificationDecision :=
  calls[index]?.map (evaluateRecoveryEvidence window (stateAfter window (calls.take index)))

/-- The source set the window aside without judging its checks. -/
def VerificationDecision.Ignored (decision : VerificationDecision) : Prop :=
  decision.reasonCode = .duplicateEvidenceWindow ∨ decision.reasonCode = .staleEvidenceWindow

instance (decision : VerificationDecision) : Decidable decision.Ignored :=
  inferInstanceAs (Decidable (_ ∨ _))

def EvaluatedAt (index : Nat) : Prop :=
  ∃ decision, decisionAt window calls index = some decision ∧ ¬decision.Ignored

def EvidenceCall.AllTrue (call : EvidenceCall) : Prop :=
  ∀ check ∈ call.checks, check.2 = some true

variable (window : VerificationWindow) (state : VerificationState) (call : EvidenceCall) in
/-- The three ways an evaluation can treat the stored chain, with their guards. -/
inductive EvidenceStep : VerificationDecision → Prop where
  | ignored {decision : VerificationDecision} (ignored : decision.Ignored)
      (pending : decision.status = .pending) (kept : decision.state = keptState state)
    : EvidenceStep decision
  | reset {decision : VerificationDecision} (judged : ¬decision.Ignored)
      (open_ : decision.status ≠ .completed)
      (cleared : decision.state = resetState state call)
    : EvidenceStep decision
  | healthy {started observed : Instant} (beginning : window.startedAt = some started)
      (seen : call.windowStart = some observed)
      (inside : started ≤ observed ∧ observed ≤ call.now) (allTrue : call.AllTrue)
    : EvidenceStep (healthyDecision window state call window.cadence observed)

variable {call : EvidenceCall} {calls : List EvidenceCall} {chain : List (Nat × Instant)}
  {index : Nat} {window : VerificationWindow}

theorem allTrue_of_no_failed_or_missing (noneFailed : failedChecks call = [])
    (noneMissing : missingChecks call = [])
    : call.AllTrue := by
  intro check mem
  rcases verdict : check.2 with _ | holds
  · have : check.1 ∈ missingChecks call :=
      mem_map_of_mem (mem_filter.mpr ⟨mem, by simp [verdict]⟩)
    simp [noneMissing] at this
  · cases holds with
    | true => rfl
    | false =>
      have : check.1 ∈ failedChecks call :=
        mem_map_of_mem (mem_filter.mpr ⟨mem, by simp [verdict]⟩)
      simp [noneFailed] at this

section

variable (window : VerificationWindow) (state : VerificationState) (calls : List EvidenceCall)
  (call : EvidenceCall)

theorem unhealthyDecision_reset
    : ¬(unhealthyDecision window state call).Ignored
      ∧ (unhealthyDecision window state call).status ≠ .completed
      ∧ (unhealthyDecision window state call).state = resetState state call := by
  unfold unhealthyDecision VerificationDecision.Ignored
  split
  · simp
  · split <;> simp

theorem healthyDecision_state (cadence : Nat) (observed : Instant)
    : (healthyDecision window state call cadence observed).state
      = healthyState state call cadence observed := by
  unfold healthyDecision
  dsimp only
  split
  · split <;> rfl
  · rfl

theorem healthyDecision_judged (cadence : Nat) (observed : Instant)
    : ¬(healthyDecision window state call cadence observed).Ignored := by
  unfold healthyDecision VerificationDecision.Ignored
  dsimp only
  split
  · split <;> simp
  · simp

/-- Every evaluation is one of the three steps.
Witness: follow the source's early returns in their order.
-/
theorem evaluate_step
    : EvidenceStep window state call (evaluateRecoveryEvidence window state call) := by
  unfold evaluateRecoveryEvidence
  dsimp only
  split
  · exact .ignored (.inl rfl) rfl rfl
  split
  · exact .ignored (.inr rfl) rfl rfl
  rename_i fresh
  split
  · obtain ⟨judged, open_, cleared⟩ := unhealthyDecision_reset window state call
    exact .reset judged open_ cleared
  rename_i sound
  simp only [not_or, not_not] at sound
  split
  · rename_i cadence observed known seen
    rw [Bool.not_eq_true] at fresh
    cases beginning : window.startedAt with
    | none => simp [staleWindow, beginning] at fresh
    | some started =>
      simp only [staleWindow, seen, beginning, Bool.or_eq_false_iff, decide_eq_false_iff_not,
        not_lt] at fresh
      have cadenceKnown : window.cadence = cadence + 1 := by
        simp [VerificationWindow.cadence, known]
      exact cadenceKnown ▸ .healthy beginning seen fresh
        (allTrue_of_no_failed_or_missing sound.1 sound.2)
  · exact .reset (by simp [VerificationDecision.Ignored]) (by simp) rfl

@[simp] theorem stateAfter_nil : stateAfter window [] = .fresh := rfl

theorem stateAfter_concat
    : stateAfter window (calls ++ [call])
      = (evaluateRecoveryEvidence window (stateAfter window calls) call).state :=
  @Machine.run_concat _ _ _ (verificationMachine window) _ _ _

end

theorem decisionAt_lt {decision : VerificationDecision}
    (found : decisionAt window calls index = some decision)
    : index < calls.length := by
  obtain ⟨call, at_, _⟩ := Option.map_eq_some_iff.mp found
  exact (List.getElem?_eq_some_iff.mp at_).1

theorem evaluatedAt_earlier (earlier : index < calls.length)
    : EvaluatedAt window (calls ++ [call]) index ↔ EvaluatedAt window calls index := by
  unfold EvaluatedAt decisionAt
  rw [getElem?_append_left earlier, take_append_of_le_length (le_of_lt earlier)]

theorem evaluatedAt_last
    : EvaluatedAt window (calls ++ [call]) calls.length
      ↔ ¬(evaluateRecoveryEvidence window (stateAfter window calls) call).Ignored := by
  simp [EvaluatedAt, decisionAt]

-----------------------------------------------------------------------------------------
-- The chain of healthy windows behind the stored fields
-----------------------------------------------------------------------------------------

/-- Calls of the run, each with its window start, that form one continuous healthy
stretch. No judged call after the first link is left out of the chain.
-/
structure HealthyChain (window : VerificationWindow) (calls : List EvidenceCall)
    (chain : List (Nat × Instant))
    : Prop where
  ordered : (chain.map Prod.fst).Pairwise (· < ·)
  healthy : ∀ link ∈ chain,
      ∃ call started,
        calls[link.1]? = some call
        ∧ call.windowStart = some link.2
        ∧ EvaluatedAt window calls link.1
        ∧ call.AllTrue
        ∧ window.startedAt = some started
        ∧ started ≤ link.2
        ∧ link.2 ≤ call.now
  gaps : chain.IsChain (fun earlier later =>
        0 < later.2 - earlier.2
        ∧ 2 * (later.2 - earlier.2) ≤ 3 * (window.cadence * microsPerSecond))
  unbroken : ∀ first ∈ chain.head?,
      ∀ index,
        first.1 ≤ index
        → EvaluatedAt window calls index
        → index ∈ chain.map Prod.fst

/-- The stored fields summarize `chain`: its first and last window and its length. -/
structure ChainTracked (window : VerificationWindow) (calls : List EvidenceCall)
    (state : VerificationState) (chain : List (Nat × Instant))
    : Prop where
  chained : HealthyChain window calls chain
  since : state.healthySince = chain.head?.map Prod.snd
  last : state.lastHealthyObservedAt = chain.getLast?.map Prod.snd
  count : state.distinctEvidenceCount = chain.length

theorem HealthyChain.nil (window : VerificationWindow) (calls : List EvidenceCall)
    : HealthyChain window calls [] where
  ordered := by simp
  healthy := by simp
  gaps := by simp
  unbroken := by simp

variable (chained : HealthyChain window calls chain)
include chained

/-- Links of a chain are calls that have already arrived. -/
theorem HealthyChain.index_lt
    (mem : index ∈ chain.map Prod.fst)
    : index < calls.length := by
  obtain ⟨link, inChain, rfl⟩ := mem_map.mp mem
  obtain ⟨call, started, found, _⟩ := chained.healthy link inChain
  exact (List.getElem?_eq_some_iff.mp found).1

/-- The links of a chain stay links when one more call arrives. -/
theorem HealthyChain.healthy_concat
    (call : EvidenceCall)
    : ∀ link ∈ chain,
        ∃ judged started,
          (calls ++ [call])[link.1]? = some judged
          ∧ judged.windowStart = some link.2
          ∧ EvaluatedAt window (calls ++ [call]) link.1
          ∧ judged.AllTrue
          ∧ window.startedAt = some started
          ∧ started ≤ link.2
          ∧ link.2 ≤ judged.now := by
  intro link mem
  obtain ⟨judged, started, found, rest⟩ := chained.healthy link mem
  have earlier := chained.index_lt (mem_map_of_mem mem)
  refine ⟨judged, started, ?_, rest.1, (evaluatedAt_earlier earlier).mpr rest.2.1, rest.2.2⟩
  rw [getElem?_append_left earlier, found]

/-- A window that is set aside leaves the chain as it is. -/
theorem HealthyChain.ignore
    (ignored : (evaluateRecoveryEvidence window (stateAfter window calls) call).Ignored)
    : HealthyChain window (calls ++ [call]) chain where
  ordered := chained.ordered
  healthy := chained.healthy_concat call
  gaps := chained.gaps
  unbroken := by
    intro first head index after evaluated
    obtain ⟨decision, found, judged⟩ := evaluated
    have bound := decisionAt_lt found
    rw [length_append] at bound
    rcases Nat.lt_succ_iff_lt_or_eq.mp bound with earlier | rfl
    · exact chained.unbroken first head index after
        ((evaluatedAt_earlier earlier).mp ⟨decision, found, judged⟩)
    · exact absurd ignored (evaluatedAt_last.mp ⟨decision, found, judged⟩)

/-- A healthy window that follows the last link closely enough becomes the next link.
Witness: the new index is the newest call, so order, gaps and coverage extend by one.
-/
theorem HealthyChain.extend
    {started observed : Instant}
    (judged : ¬(evaluateRecoveryEvidence window (stateAfter window calls) call).Ignored)
    (beginning : window.startedAt = some started) (seen : call.windowStart = some observed)
    (inside : started ≤ observed ∧ observed ≤ call.now) (allTrue : call.AllTrue)
    (near : ∀ previous ∈ chain.getLast?,
        0 < observed - previous.2
        ∧ 2 * (observed - previous.2) ≤ 3 * (window.cadence * microsPerSecond))
    : HealthyChain window (calls ++ [call]) (chain ++ [(calls.length, observed)]) where
  ordered := by
    rw [map_append, pairwise_append]
    refine ⟨chained.ordered, by simp, ?_⟩
    intro index mem next last
    rw [map_singleton, mem_singleton] at last
    exact last ▸ chained.index_lt mem
  healthy := by
    intro link mem
    rcases mem_append.mp mem with earlier | last
    · exact chained.healthy_concat call link earlier
    · rw [mem_singleton] at last
      subst last
      exact ⟨call, started, by simp, seen, evaluatedAt_last.mpr judged, allTrue, beginning,
        inside.1, inside.2⟩
  gaps := by
    rw [isChain_append]
    refine ⟨chained.gaps, by simp, ?_⟩
    intro previous ending next head
    rw [head?_cons, Option.mem_some_iff] at head
    exact head ▸ near previous ending
  unbroken := by
    intro first head index after evaluated
    obtain ⟨decision, found, seenAt⟩ := evaluated
    have bound := decisionAt_lt found
    rw [length_append] at bound
    rw [map_append, mem_append]
    rcases Nat.lt_succ_iff_lt_or_eq.mp bound with earlier | rfl
    · left
      cases chain with
      | nil =>
        simp only [nil_append, head?_cons, Option.mem_some_iff] at head
        subst head
        exact absurd after (Nat.not_le_of_lt earlier)
      | cons link rest =>
        exact chained.unbroken first (by simpa using head) index after
          ((evaluatedAt_earlier earlier).mp ⟨decision, found, seenAt⟩)
    · exact .inr (by simp)

omit chained

/-- One evaluation carries a tracked chain to a tracked chain.
Witness: a set-aside window keeps it, a reset empties it, and a healthy window is appended
to it, or to the empty chain after a broken gap.
-/
theorem ChainTracked.evaluate
    (tracked : ChainTracked window calls (stateAfter window calls) chain) (call : EvidenceCall)
    : ∃ next, ChainTracked window (calls ++ [call]) (stateAfter window (calls ++ [call])) next := by
  rw [stateAfter_concat]
  have step := evaluate_step window (stateAfter window calls) call
  generalize outcome : evaluateRecoveryEvidence window (stateAfter window calls) call = decision
    at step
  cases step with
  | ignored ignored pending kept =>
    refine ⟨chain, tracked.chained.ignore (outcome ▸ ignored), ?_, ?_, ?_⟩
    · simpa only [kept, keptState] using tracked.since
    · simpa only [kept, keptState] using tracked.last
    · simpa only [kept, keptState] using tracked.count
  | reset judged open_ cleared =>
    exact ⟨[], .nil _ _, by simp [cleared, resetState], by simp [cleared, resetState],
      by simp [cleared, resetState]⟩
  | @healthy started observed beginning seen inside allTrue =>
    have judged : ¬(evaluateRecoveryEvidence window (stateAfter window calls) call).Ignored :=
      outcome ▸ healthyDecision_judged _ _ _ _ _
    rw [healthyDecision_state]
    cases broken
      : gapBroken window.cadence (stateAfter window calls).lastHealthyObservedAt observed
    · refine ⟨chain ++ [(calls.length, observed)],
        tracked.chained.extend judged beginning seen inside allTrue ?_, ?_, ?_, ?_⟩
      · intro previous ending
        simp only [gapBroken, tracked.last, Option.mem_def.mp ending, Option.map_some,
          Bool.or_eq_false_iff, decide_eq_false_iff_not, not_le, not_lt] at broken
        exact broken
      · cases chain <;> simp [healthyState, broken, tracked.since]
      · simp [healthyState]
      · simp [healthyState, broken, tracked.count]
    · refine ⟨[(calls.length, observed)],
        (HealthyChain.nil _ _).extend judged beginning seen inside allTrue (by simp),
        ?_, ?_, ?_⟩
      · simp [healthyState, broken]
      · simp [healthyState]
      · simp [healthyState, broken]

/-- Every run from a fresh verification is summarized by a chain.
Witness: induction over the calls in their order of arrival.
-/
theorem chain_of_run (window : VerificationWindow) (calls : List EvidenceCall)
    : ∃ chain, ChainTracked window calls (stateAfter window calls) chain := by
  induction calls using List.reverseRecOn with
  | nil => exact ⟨[], .nil _ _, rfl, rfl, rfl⟩
  | append_singleton calls call ih =>
    obtain ⟨chain, tracked⟩ := ih
    exact tracked.evaluate call

-----------------------------------------------------------------------------------------
-- Completion needs a long enough chain
-----------------------------------------------------------------------------------------

def VerificationWindow.minimum (window : VerificationWindow) : Nat :=
  boundedSeconds window.minimumSeconds defaultMinimumSeconds defaultMinimumSeconds
    defaultMaximumSeconds

theorem VerificationWindow.minimum_positive (window : VerificationWindow)
    : 0 < (window.minimum : Int) * microsPerSecond := by
  have atLeast : defaultMinimumSeconds ≤ window.minimum := by
    unfold VerificationWindow.minimum boundedSeconds
    split
    · exact le_rfl
    · exact le_max_left _ _
  unfold defaultMinimumSeconds at atLeast
  unfold microsPerSecond
  omega

variable {state : VerificationState} {first : Nat × Instant}

/-- A completed decision is healthy, long enough, and has enough distinct windows. -/
theorem completed_inv (completed : (evaluateRecoveryEvidence window state call).status = .completed)
    : ∃ observed,
        ¬(evaluateRecoveryEvidence window state call).Ignored
        ∧ (evaluateRecoveryEvidence window state call).state
          = healthyState state call window.cadence observed
        ∧ window.minimum * microsPerSecond
          ≤ stableMicros (healthyState state call window.cadence observed) observed
        ∧ minimumDistinct window.minimum window.cadence
          ≤ (healthyState state call window.cadence observed).distinctEvidenceCount := by
  have step := evaluate_step window state call
  generalize evaluateRecoveryEvidence window state call = decision at step completed
  cases step with
  | ignored ignored pending kept => simp [pending] at completed
  | reset judged open_ cleared => exact absurd completed open_
  | @healthy started observed beginning seen inside allTrue =>
    refine ⟨observed, healthyDecision_judged _ _ _ _ _, healthyDecision_state _ _ _ _ _, ?_⟩
    unfold healthyDecision at completed
    dsimp only at completed
    split at completed
    · split at completed <;> simp at completed
    · rename_i enough
      simp only [Bool.or_eq_true, decide_eq_true_eq, not_or, not_lt] at enough
      exact enough

theorem minimumDistinct_eq {minimumSeconds cadence : Nat} (positive : 0 < cadence)
    : minimumDistinct minimumSeconds cadence
      = max 2 (⌈(minimumSeconds : ℚ) / cadence⌉₊ + 1) := by
  unfold minimumDistinct
  congr 2
  -- both sides are the least number of cadences that covers the minimum
  refine eq_of_forall_ge_iff (fun bound => ?_)
  rw [← Nat.ceilDiv_eq_add_pred_div, ceilDiv_le_iff_le_mul positive, Nat.ceil_le,
    div_le_iff₀ (by exact_mod_cast positive), mul_comm]
  exact_mod_cast Iff.rfl

/-- Window starts strictly increase along a chain, by transitivity of its gaps. -/
theorem HealthyChain.windows_increase (chained : HealthyChain window calls chain)
    : (chain.map Prod.snd).Pairwise (· < ·) := by
  apply IsChain.pairwise
  rw [isChain_map]
  exact chained.gaps.imp (fun _ _ near => sub_pos.mp near.1)

/-- A chain that exists when a call is judged ends in that call.
Witness: the judged call is a link by coverage, and no link is newer.
-/
theorem HealthyChain.last_judged (chained : HealthyChain window (calls ++ [call]) chain)
    (judged : EvaluatedAt window (calls ++ [call]) calls.length) {last : Nat × Instant}
    (head : chain.head? = some first) (ending : chain.getLast? = some last)
    : last.1 = calls.length := by
  have newest : ∀ index ∈ chain.map Prod.fst, index ≤ calls.length := by
    intro index mem
    have := chained.index_lt mem
    simp only [length_append, length_singleton] at this
    omega
  have firstLink : first.1 ∈ chain.map Prod.fst := mem_map_of_mem (mem_of_mem_head? head)
  have lastLink : last.1 ∈ chain.map Prod.fst :=
    mem_map_of_mem (mem_of_mem_getLast? ending)
  have covered := chained.unbroken first head _ (newest _ firstLink) judged
  apply le_antisymm (newest _ lastLink)
  obtain ⟨initial, rfl⟩ := getLast?_eq_some_iff.mp ending
  have ordered := chained.ordered
  rw [map_append, pairwise_append] at ordered
  rw [map_append, mem_append] at covered
  rcases covered with earlier | equal
  · exact le_of_lt (ordered.2.2 _ earlier _ (by simp))
  · simp only [map_singleton, mem_singleton] at equal
    exact le_of_eq equal

/-- Recovery completes only on a continuous healthy chain that ends in the completing
call, spans the clamped minimum, and has `max 2 (⌈m/c⌉ + 1)` links or more. Every judged
call between its first and last link is itself a link, hence fully healthy.
Witness: the tracked chain of the run extended by the completing call.
-/
theorem completed_only_after_healthy_chain {window : VerificationWindow}
    (positive : 0 < window.cadence) (calls : List EvidenceCall) (call : EvidenceCall)
    (completed : (evaluateRecoveryEvidence window (stateAfter window calls) call).status
      = .completed)
    : ∃ chain first last,
        HealthyChain window (calls ++ [call]) chain
        ∧ (chain.map Prod.snd).Pairwise (· < ·)
        ∧ max 2 (⌈(window.minimum : ℚ) / window.cadence⌉₊ + 1) ≤ chain.length
        ∧ chain.head? = some first
        ∧ chain.getLast? = some last
        ∧ window.minimum * microsPerSecond ≤ last.2 - first.2
        ∧ last.1 = calls.length := by
  obtain ⟨before, trackedBefore⟩ := chain_of_run window calls
  obtain ⟨observed, judged, final, long, many⟩ := completed_inv completed
  obtain ⟨chain, tracked⟩ := trackedBefore.evaluate call
  rw [stateAfter_concat, final] at tracked
  have links : max 2 (⌈(window.minimum : ℚ) / window.cadence⌉₊ + 1) ≤ chain.length := by
    rw [← minimumDistinct_eq positive, ← tracked.count]
    exact many
  have nonempty : chain ≠ [] := by
    rintro rfl
    simp at links
  obtain ⟨first, head⟩ := Option.ne_none_iff_exists'.mp (mt head?_eq_none_iff.mp nonempty)
  obtain ⟨last, ending⟩ := Option.ne_none_iff_exists'.mp (mt getLast?_eq_none_iff.mp nonempty)
  have since := tracked.since
  have latest : some observed = chain.getLast?.map Prod.snd := tracked.last
  rw [head, Option.map_some] at since
  rw [ending, Option.map_some, Option.some_inj] at latest
  refine ⟨chain, first, last, tracked.chained, tracked.chained.windows_increase, links, head,
    ending, ?_, tracked.chained.last_judged ?_ head ending⟩
  · have lasted : (window.minimum : Int) * microsPerSecond ≤ max 0 (last.2 - first.2) := by
      simpa only [stableMicros, since, Option.getD_some, ← latest] using long
    have positiveMinimum := window.minimum_positive
    omega
  · exact evaluatedAt_last.mpr judged

/-- A ten-minute attempt with the shortest minimum and one window a minute. -/
def minutelyWindow : VerificationWindow :=
  {
    startedAt := some 0
    deadlineAt := some (600 * microsPerSecond)
    minimumSeconds := some 300
    evidenceCadenceSeconds := some 60 }

/-- A delivery at second 400 of the window that starts at `second`. -/
def deliveredWindow (second : Nat) (healthy : Bool) : EvidenceCall :=
  {
    evidenceKey := toString second
    windowStart := some (second * microsPerSecond)
    checks := [("replica_ready", some healthy)]
    now := 400 * microsPerSecond }

/-- Six healthy windows, one minute apart, complete. -/
theorem completed_only_after_healthy_chain_minutely
    : 0 < minutelyWindow.cadence
      ∧ (evaluateRecoveryEvidence minutelyWindow
          (stateAfter minutelyWindow ([0, 60, 120, 180, 240].map (deliveredWindow · true)))
          (deliveredWindow 300 true)).status
        = .completed
      ∧ ∃ chain first last,
          HealthyChain minutelyWindow ([0, 60, 120, 180, 240].map (deliveredWindow · true)
              ++ [deliveredWindow 300 true])
            chain
          ∧ (chain.map Prod.snd).Pairwise (· < ·)
          ∧ max 2 (⌈(minutelyWindow.minimum : ℚ) / minutelyWindow.cadence⌉₊ + 1)
            ≤ chain.length
          ∧ chain.head? = some first
          ∧ chain.getLast? = some last
          ∧ minutelyWindow.minimum * microsPerSecond ≤ last.2 - first.2
          ∧ last.1 = 5 :=
  ⟨by decide, by decide, completed_only_after_healthy_chain (by decide) _ _ (by decide)⟩

-----------------------------------------------------------------------------------------
-- Regressions and the claimed stable period
-----------------------------------------------------------------------------------------

def EvidenceCall.Regressed (call : EvidenceCall) : Prop :=
  ∃ check ∈ call.checks, check.2 = some false

def DuplicateKey (state : VerificationState) (call : EvidenceCall) : Prop :=
  strip call.evidenceKey ≠ "" ∧ strip call.evidenceKey = text state.lastEvidenceKey

/-- The call at `index` arrives as a new evidence window inside the verification. -/
def FreshAt (window : VerificationWindow) (calls : List EvidenceCall) (index : Nat)
    (call : EvidenceCall)
    : Prop :=
  calls[index]? = some call
  ∧ ¬DuplicateKey (stateAfter window (calls.take index)) call
  ∧ staleWindow window call = false

/-- No regressed window that was judged starts inside the stored stable period. -/
def NoHiddenRegression (window : VerificationWindow) (calls : List EvidenceCall) : Prop :=
  ∀ since last,
    (stateAfter window calls).healthySince = some since
    → (stateAfter window calls).lastHealthyObservedAt = some last
    → ∀ (index : Nat) call observed,
        calls[index]? = some call
        → EvaluatedAt window calls index
        → call.Regressed
        → call.windowStart = some observed
        → ¬(since ≤ observed ∧ observed ≤ last)

/-- The regressed window of second 100 arrives first, the older windows after it: the six
healthy windows then complete over a stable period that contains the regression.
-/
theorem late_windows_hide_regression
    : let calls := deliveredWindow 100 false
        :: [0, 60, 120, 180, 240].map (deliveredWindow · true)
      let decision := evaluateRecoveryEvidence minutelyWindow
        (stateAfter minutelyWindow calls) (deliveredWindow 300 true)
      decision.status = .completed
      ∧ decision.state.healthySince = some 0
      ∧ decision.state.lastHealthyObservedAt = some (300 * microsPerSecond)
      ∧ EvaluatedAt minutelyWindow calls 0
      ∧ (deliveredWindow 100 false).Regressed
      ∧ (deliveredWindow 100 false).windowStart = some (100 * microsPerSecond)
      ∧ 0 ≤ 100 * microsPerSecond
      ∧ 100 * microsPerSecond ≤ 300 * microsPerSecond :=
  ⟨by decide, by decide, by decide, ⟨_, rfl, by decide⟩,
    ⟨("replica_ready", some false), by decide, rfl⟩, rfl, by decide, by decide⟩

/-- Each fully healthy window starts after all regressed windows that arrived before it. -/
def HealthyAfterRegressed (window : VerificationWindow) (calls : List EvidenceCall) : Prop :=
  ∀ earlier later regressed healthy regressedStart healthyStart,
    earlier < later
    → FreshAt window calls earlier regressed
    → FreshAt window calls later healthy
    → regressed.Regressed
    → healthy.AllTrue
    → regressed.windowStart = some regressedStart
    → healthy.windowStart = some healthyStart
    → regressedStart < healthyStart

/-- Exactly the redeliveries of the last judged key and the windows outside the verification
are set aside.
-/
theorem evaluate_ignored_iff (window : VerificationWindow) (state : VerificationState)
    (call : EvidenceCall)
    : (evaluateRecoveryEvidence window state call).Ignored
      ↔ DuplicateKey state call ∨ staleWindow window call = true := by
  unfold evaluateRecoveryEvidence
  by_cases duplicate : DuplicateKey state call
  · rw [if_pos (show _ ∧ _ from duplicate)]
    exact iff_of_true (.inl rfl) (.inl duplicate)
  rw [if_neg (show ¬(_ ∧ _) from duplicate)]
  by_cases stale : staleWindow window call = true
  · rw [if_pos stale]
    exact iff_of_true (.inr rfl) (.inr stale)
  refine iff_of_false ?_ (not_or.mpr ⟨duplicate, stale⟩)
  rw [if_neg stale]
  split
  · exact (unhealthyDecision_reset window state call).1
  split
  · exact healthyDecision_judged _ _ _ _ _
  · simp [VerificationDecision.Ignored]

theorem freshAt_of_evaluatedAt (found : calls[index]? = some call)
    (evaluated : EvaluatedAt window calls index)
    : FreshAt window calls index call := by
  obtain ⟨decision, decided, judged⟩ := evaluated
  simp only [decisionAt, found, Option.map_some, Option.some_inj] at decided
  rw [← decided, evaluate_ignored_iff, not_or, Bool.not_eq_true] at judged
  exact ⟨found, judged⟩

/-- The stored period starts at the first link of the chain, and that link is healthy. -/
theorem regressed_before_chain (chained : HealthyChain window calls chain)
    (head : chain.head? = some first) (found : calls[index]? = some call)
    (evaluated : EvaluatedAt window calls index) (regressed : call.Regressed)
    : index < first.1 := by
  by_contra notBefore
  have mem := chained.unbroken first head index (not_lt.mp notBefore) evaluated
  obtain ⟨link, inChain, rfl⟩ := mem_map.mp mem
  obtain ⟨linked, _, at_, _, _, allTrue, _⟩ := chained.healthy link inChain
  obtain rfl : linked = call := Option.some.inj (at_.symm.trans found)
  obtain ⟨check, inChecks, isFalse⟩ := regressed
  simp [allTrue check inChecks] at isFalse

/-- Arrival orders are inherited by every prefix of a run. -/
theorem HealthyAfterRegressed.take (ordered : HealthyAfterRegressed window calls) (count : Nat)
    : HealthyAfterRegressed window (calls.take count) := by
  have lift : ∀ {index call},
      FreshAt window (calls.take count) index call → FreshAt window calls index call := by
    intro index call fresh
    obtain ⟨found, rest⟩ := fresh
    have inside : index < count := by
      by_contra beyond
      simp [beyond] at found
    rw [getElem?_take_of_lt inside] at found
    rw [take_take, min_eq_left (le_of_lt inside)] at rest
    exact ⟨found, rest⟩
  intro earlier later regressed healthy regressedStart healthyStart before first second
  exact ordered earlier later regressed healthy regressedStart healthyStart before
    (lift first) (lift second)

/-- When healthy windows arrive after all older regressions, every state of the run keeps
judged regressions out of its stable period.
Witness: a judged regression precedes the first link of the chain, so it also starts before
the period does.
-/
theorem no_hidden_regression_of_order {window : VerificationWindow}
    {calls : List EvidenceCall} (ordered : HealthyAfterRegressed window calls) (count : Nat)
    : NoHiddenRegression window (calls.take count) := by
  have ordered := ordered.take count
  generalize calls.take count = reached at ordered
  intro since last sinceStored lastStored index call observed found evaluated regressed seen
  obtain ⟨chain, tracked⟩ := chain_of_run window reached
  have stored := tracked.since
  rw [sinceStored] at stored
  obtain ⟨first, head, rfl⟩ := Option.map_eq_some_iff.mp stored.symm
  have before := regressed_before_chain tracked.chained head found evaluated regressed
  obtain ⟨healthy, _, at_, start, judged, allTrue, _⟩ :=
    tracked.chained.healthy first (mem_of_mem_head? head)
  have older : observed < first.2 :=
    ordered index first.1 call healthy observed first.2 before
      (freshAt_of_evaluatedAt found evaluated) (freshAt_of_evaluatedAt at_ judged)
      regressed allTrue seen start
  exact fun period => absurd period.1 (not_le.mpr older)

/-- Evidence delivered in the order of its windows meets the arrival condition. -/
theorem HealthyAfterRegressed.of_increasing
    (increasing : calls.Pairwise (fun earlier later =>
        ∀ first ∈ earlier.windowStart, ∀ second ∈ later.windowStart, first < second))
    : HealthyAfterRegressed window calls := by
  intro earlier later regressed healthy regressedStart healthyStart before first second _ _
    regressedAt healthyAt
  obtain ⟨firstInside, firstAt⟩ := List.getElem?_eq_some_iff.mp first.1
  obtain ⟨secondInside, secondAt⟩ := List.getElem?_eq_some_iff.mp second.1
  have apart := pairwise_iff_getElem.mp increasing earlier later firstInside secondInside
    before
  rw [firstAt, secondAt] at apart
  exact apart regressedStart regressedAt healthyStart healthyAt

/-- A regression at second 30 and six later healthy windows, delivered in order, complete
with the regression outside the stable period.
-/
theorem no_hidden_regression_minutely
    : let calls := deliveredWindow 30 false
        :: [60, 120, 180, 240, 300, 360].map (deliveredWindow · true)
      HealthyAfterRegressed minutelyWindow calls
      ∧ (stateAfter minutelyWindow (calls.take 7)).healthySince = some (60 * microsPerSecond)
      ∧ NoHiddenRegression minutelyWindow (calls.take 7) :=
  ⟨.of_increasing (by decide), by decide,
    no_hidden_regression_of_order (.of_increasing (by decide)) 7⟩

-----------------------------------------------------------------------------------------
-- Redelivered windows
-----------------------------------------------------------------------------------------

theorem strip_text (value : Option String) : strip (text value) = text value := by
  cases value with
  | none => decide
  | some value => exact strip_strip value

theorem text_orNone {value : String} (stripped : strip value = value)
    : text (orNone value) = value := by
  unfold orNone
  split
  · next empty => exact empty.symm
  · exact stripped

theorem text_rememberedKey (state : VerificationState) (call : EvidenceCall)
    : orNone (text (rememberedKey state call)) = rememberedKey state call := by
  refine congrArg orNone (text_orNone ?_)
  split
  · exact strip_text _
  · exact strip_strip _

/-- A judged window leaves its own key behind, unless that is blank. -/
theorem evaluate_lastEvidenceKey (judged : ¬(evaluateRecoveryEvidence window state call).Ignored)
    : (evaluateRecoveryEvidence window state call).state.lastEvidenceKey
      = rememberedKey state call := by
  have step := evaluate_step window state call
  generalize evaluateRecoveryEvidence window state call = decision at step judged
  cases step with
  | ignored ignored => exact absurd ignored judged
  | reset _ _ cleared => rw [cleared, resetState]
  | healthy => rw [healthyDecision_state, healthyState]

theorem evaluate_ignored_state (ignored : (evaluateRecoveryEvidence window state call).Ignored)
    : (evaluateRecoveryEvidence window state call).state = keptState state := by
  have step := evaluate_step window state call
  generalize evaluateRecoveryEvidence window state call = decision at step ignored
  cases step with
  | ignored _ _ kept => exact kept
  | reset judged => exact absurd ignored judged
  | healthy => exact absurd ignored (healthyDecision_judged _ _ _ _ _)

/-- The stored key is as the source normalizes it, so that to keep it is to leave it alone. -/
theorem keptState_stateAfter (window : VerificationWindow) (calls : List EvidenceCall)
    : keptState (stateAfter window calls) = stateAfter window calls := by
  have normal : orNone (text (stateAfter window calls).lastEvidenceKey)
      = (stateAfter window calls).lastEvidenceKey := by
    induction calls using List.reverseRecOn with
    | nil => rfl
    | append_singleton calls call ih =>
      rw [stateAfter_concat]
      by_cases ignored
        : (evaluateRecoveryEvidence window (stateAfter window calls) call).Ignored
      · rw [evaluate_ignored_state ignored, keptState, ih, ih]
      · rw [evaluate_lastEvidenceKey ignored, text_rememberedKey]
  rw [keptState, normal]

/-- A window that was judged before and is delivered again, under a key that is not blank,
leaves the stored fields alone exactly if its key is still the last one judged, or the clock
has been set back behind the start of the window. What its checks say now makes no difference.
-/
theorem redelivery_inert_iff {redelivered : EvidenceCall} (arrived : calls[index]? = some call)
    (evaluated : EvaluatedAt window calls index)
    (sameKey : redelivered.evidenceKey = call.evidenceKey)
    (sameStart : redelivered.windowStart = call.windowStart) (named : strip call.evidenceKey ≠ "")
    : (evaluateRecoveryEvidence window (stateAfter window calls) redelivered).state
        = stateAfter window calls
      ↔ (stateAfter window calls).lastEvidenceKey = some (strip call.evidenceKey)
        ∨ ∃ observed ∈ call.windowStart, redelivered.now < observed := by
  have stale : staleWindow window redelivered = true
      ↔ ∃ observed ∈ call.windowStart, redelivered.now < observed := by
    have before := (freshAt_of_evaluatedAt arrived evaluated).2.2
    simp only [staleWindow] at before ⊢
    cases start : call.windowStart <;> cases began : window.startedAt <;> simp_all
  have last : (stateAfter window calls).lastEvidenceKey = some (strip call.evidenceKey)
      ↔ DuplicateKey (stateAfter window calls) redelivered := by
    rw [DuplicateKey, sameKey]
    have normal := congrArg VerificationState.lastEvidenceKey (keptState_stateAfter window calls)
    constructor
    · intro stored
      rw [stored]
      exact ⟨named, (strip_strip _).symm⟩
    · intro duplicate
      rw [← normal, keptState, ← duplicate.2, orNone, if_neg named]
  rw [last, ← stale, ← evaluate_ignored_iff]
  constructor
  · intro inert
    by_contra judged
    have key := evaluate_lastEvidenceKey judged
    rw [inert, rememberedKey, sameKey, if_neg named, orNone, if_neg named, last] at key
    exact judged ((evaluate_ignored_iff _ _ _).mpr (.inl key))
  · intro ignored
    rw [evaluate_ignored_state ignored, keptState_stateAfter]

/-- The window of second 60 is delivered twice in a row. -/
theorem redelivery_inert_minutely
    : let calls := [0, 60].map (deliveredWindow · true)
      (evaluateRecoveryEvidence minutelyWindow (stateAfter minutelyWindow calls)
        (deliveredWindow 60 true)).state
      = stateAfter minutelyWindow calls :=
  (redelivery_inert_iff
    (show ([0, 60].map (deliveredWindow · true))[1]? = some (deliveredWindow 60 true) from rfl)
    ⟨_, rfl, by decide⟩ rfl rfl (by decide)).mpr (.inl (by decide))

/-- The window of second 0 is delivered again after that of second 60: it is older than the
last healthy one, so that the stable period starts over.
-/
theorem redelivery_restarts_chain
    : let calls := [0, 60].map (deliveredWindow · true)
      let again := evaluateRecoveryEvidence minutelyWindow (stateAfter minutelyWindow calls)
        (deliveredWindow 0 true)
      EvaluatedAt minutelyWindow calls 0
      ∧ calls[0]? = some (deliveredWindow 0 true)
      ∧ (stateAfter minutelyWindow calls).distinctEvidenceCount = 2
      ∧ again.state.distinctEvidenceCount = 1
      ∧ again.state.lastHealthyObservedAt ≠ (stateAfter minutelyWindow calls).lastHealthyObservedAt
      ∧ again.state.lastEvidenceKey ≠ (stateAfter minutelyWindow calls).lastEvidenceKey :=
  ⟨⟨_, rfl, by decide⟩, rfl, by decide, by decide, by decide, by decide⟩

end K8sClue.Recovery
