import K8sClue.History.Completeness

/-! When a complete history has proven every one of its cuts.
An unproven cut is reported through the stretch up to the next observation, so a cut that
shares its time with a later listed one has no stretch and is not reported.
-/

namespace K8sClue.History

open Python Timeline List

def Silent (toMs : Int) (proven : InventoryObservation → Prop) (items : List InventoryObservation)
    : Prop :=
  ∀ item rest, item :: rest <:+ items
    → ¬ proven item
    → cutEnd toMs rest ≤ max item.collectedAtMs 0

variable {item : InventoryObservation} {items : List InventoryObservation}
  {proven : InventoryObservation → Prop} {toMs : Int}

theorem Silent.cons {rest : List InventoryObservation}
    : Silent toMs proven (item :: rest)
      ↔ (¬ proven item → cutEnd toMs rest ≤ max item.collectedAtMs 0)
        ∧ Silent toMs proven rest := by
  constructor
  · intro silent
    refine ⟨silent item rest (suffix_refl _), ?_⟩
    intro later after within
    exact silent later after (within.trans (suffix_cons item rest))
  · intro parts later after within
    rcases suffix_cons_iff.mp within with same | inside
    · obtain ⟨rfl, rfl⟩ := List.cons.inj same
      exact parts.1
    · exact parts.2 later after inside

theorem partialCutIntervals_eq_nil (toMs : Int) (scope : ClusterScope)
    (source : TimelineSource) (proven : InventoryObservation → Bool)
    (items : List InventoryObservation)
    : partialCutIntervals toMs scope source proven items = []
      ↔ Silent toMs (proven · = true) items := by
  induction items with
  | nil => simp [partialCutIntervals, Silent]
  | cons item rest ih =>
    rw [partialCutIntervals, Silent.cons, ← ih]
    cases proof : proven item with
    | true => simp
    | false =>
      by_cases width : max item.collectedAtMs 0 < cutEnd toMs rest
      · simp [width, not_le.mpr width]
      · simp [width, not_lt.mp width]

/-- Two proofs are silent together exactly if each one is. -/
theorem silent_and {first second : InventoryObservation → Prop}
    : Silent toMs (fun item => first item ∧ second item) items
      ↔ Silent toMs first items ∧ Silent toMs second items := by
  constructor
  · intro silent
    constructor
    · intro item rest within unproven
      exact silent item rest within (fun both => unproven both.1)
    · intro item rest within unproven
      exact silent item rest within (fun both => unproven both.2)
  · intro both item rest within unproven
    rcases not_and_or.mp unproven with notFirst | notSecond
    · exact both.1 item rest within notFirst
    · exact both.2 item rest within notSecond

def TimeOrdered (items : List InventoryObservation) : Prop :=
  items.Pairwise (fun left right => left.collectedAtMs ≤ right.collectedAtMs)

/-- The last observation of a time is followed by later ones only. -/
theorem TimeOrdered.exists_last (ordered : TimeOrdered items) (mem : item ∈ items)
    : ∃ last rest, last :: rest <:+ items
        ∧ last.collectedAtMs = item.collectedAtMs
        ∧ ∀ later ∈ rest, item.collectedAtMs < later.collectedAtMs := by
  induction items generalizing item with
  | nil => simp at mem
  | cons first rest ih =>
    obtain ⟨before, tail⟩ := pairwise_cons.mp ordered
    by_cases again : ∃ other ∈ rest, other.collectedAtMs = item.collectedAtMs
    · obtain ⟨other, inside, same⟩ := again
      obtain ⟨last, after, within, equal, later⟩ := ih tail inside
      rw [same] at equal later
      exact ⟨last, after, within.trans (suffix_cons first rest), equal, later⟩
    · rcases mem_cons.mp mem with rfl | inside
      · refine ⟨item, rest, suffix_refl _, rfl, ?_⟩
        intro later within
        exact lt_of_le_of_ne (before later within) (fun same => again ⟨later, within, same.symm⟩)
      · exact absurd ⟨item, inside, rfl⟩ again

/-- A time at which nothing is proven is reported, if no later observation is at or before
time zero.
Witness: the last observation of that time is unproven and its stretch has positive width.
-/
theorem TimeOrdered.reported (ordered : TimeOrdered items) (positive : 0 < toMs)
    (inside : ∀ item ∈ items, item.collectedAtMs < toMs) (mem : item ∈ items)
    (unproven : ∀ other ∈ items, other.collectedAtMs = item.collectedAtMs → ¬ proven other)
    (later : ∀ other ∈ items, item.collectedAtMs < other.collectedAtMs → 0 < other.collectedAtMs)
    : ¬ Silent toMs proven items := by
  intro silent
  obtain ⟨last, rest, within, same, after⟩ := ordered.exists_last mem
  have bounded := silent last rest within (unproven last (within.subset (by simp)) same)
  have before := inside item mem
  cases rest with
  | nil =>
    simp only [cutEnd] at bounded
    omega
  | cons next others =>
    simp only [cutEnd] at bounded
    have further := after next (by simp)
    have nonzero := later next (within.subset (by simp)) further
    omega

def UnprovenFirst (proven : InventoryObservation → Prop) (left right : InventoryObservation)
    : Prop :=
  left.collectedAtMs < right.collectedAtMs
  ∨ left.collectedAtMs = right.collectedAtMs ∧ (proven left → proven right)

instance (proven : InventoryObservation → Prop) [DecidablePred proven]
    : DecidableRel (UnprovenFirst proven) :=
  fun _ _ => inferInstanceAs (Decidable (_ ∨ _))

/-- With the unproven observations of each time listed first, only a time at which nothing is
proven is reported.
-/
theorem exists_unproven_time (ordered : items.Pairwise (UnprovenFirst proven))
    (reported : ¬ Silent toMs proven items)
    : ∃ item ∈ items,
        (∀ other ∈ items, other.collectedAtMs = item.collectedAtMs → ¬ proven other)
        ∧ ∀ other ∈ items, item.collectedAtMs < other.collectedAtMs → 0 < other.collectedAtMs := by
  simp only [Silent, not_forall, not_le] at reported
  obtain ⟨item, rest, ⟨before, rfl⟩, unproven, width⟩ := reported
  obtain ⟨_, tail, earlier⟩ := pairwise_append.mp ordered
  -- Whatever stands after the reported cut is later than it and later than time zero.
  have after : ∀ other ∈ rest, max item.collectedAtMs 0 < other.collectedAtMs := by
    cases rest with
    | nil => simp
    | cons next others =>
      intro other mem
      simp only [cutEnd] at width
      rcases mem_cons.mp mem with rfl | further
      · exact width
      · have sorted := (pairwise_cons.mp (pairwise_cons.mp tail).2).1 other further
        rcases sorted with less | same
        · omega
        · omega
  refine ⟨item, by simp, ?_, ?_⟩
  · intro other mem same proof
    rcases mem_append.mp mem with first | last
    · rcases earlier other first item (by simp) with less | equal
      · omega
      · exact unproven (equal.2 proof)
    · rcases mem_cons.mp last with rfl | further
      · exact unproven proof
      · have := after other further
        omega
  · intro other mem less
    rcases mem_append.mp mem with first | last
    · rcases earlier other first item (by simp) with before | equal
      · omega
      · omega
    · rcases mem_cons.mp last with rfl | further
      · omega
      · have := after other further
        omega

namespace CompletenessRequest

def Proven (req : CompletenessRequest) (item : InventoryObservation) : Prop :=
  item.resourcesComplete = true
  ∧ (req.eventsAuthorized = true → item.eventCaptureComplete = true)

instance (req : CompletenessRequest) (item : InventoryObservation)
    : Decidable (req.Proven item) :=
  inferInstanceAs (Decidable (_ ∧ _))

variable (req : CompletenessRequest)

theorem unprovenCuts_eq_nil
    : req.unprovenCuts = [] ↔ Silent req.toMs req.Proven req.inRange := by
  unfold unprovenCuts Proven
  rw [append_eq_nil_iff, partialCutIntervals_eq_nil, silent_and]
  cases req.eventsAuthorized with
  | true => simp [partialCutIntervals_eq_nil]
  | false => simp [Silent]

theorem ordered_timeOrdered : TimeOrdered req.ordered :=
  have : Std.Total (fun left right : InventoryObservation =>
      left.collectedAtMs ≤ right.collectedAtMs) :=
    ⟨fun left right => le_total left.collectedAtMs right.collectedAtMs⟩
  have : IsTrans InventoryObservation
      (fun left right => left.collectedAtMs ≤ right.collectedAtMs) :=
    ⟨fun _ _ _ => le_trans⟩
  pairwise_insertionSort _ _

theorem inRange_timeOrdered : TimeOrdered req.inRange :=
  req.ordered_timeOrdered.filter _

variable {listed : List InventoryObservation} {req}

theorem mem_inRange {item : InventoryObservation}
    : item ∈ req.inRange ↔ item ∈ req.observations ∧ req.InRange item := by
  simp [inRange, ordered]

def listing (req : CompletenessRequest) (listed : List InventoryObservation)
    : CompletenessRequest :=
  { req with observations := listed }

variable (same : listed.Perm req.observations)
include same

theorem inRange_listing_perm : (req.listing listed).inRange.Perm req.inRange := by
  refine Perm.filter _ ?_
  exact ((perm_insertionSort _ _).trans same).trans (perm_insertionSort _ _).symm

/-- Sorted times do not depend on the order they were listed in. -/
theorem times_listing
    : (req.listing listed).inRange.map (·.collectedAtMs)
      = req.inRange.map (·.collectedAtMs) := by
  refine Perm.eq_of_pairwise (fun _ _ _ _ => le_antisymm) ?_ ?_
    ((inRange_listing_perm same).map _)
  · exact pairwise_map.mpr (req.listing listed).inRange_timeOrdered
  · exact pairwise_map.mpr req.inRange_timeOrdered

theorem unobserved_listing : (req.listing listed).Unobserved ↔ req.Unobserved := by
  have empty : (req.listing listed).inRange = [] ↔ req.inRange = [] := by
    constructor
    · intro none
      exact nil_perm.mp (none ▸ inRange_listing_perm same)
    · intro none
      exact perm_nil.mp (none ▸ inRange_listing_perm same)
  exact or_congr empty Iff.rfl

theorem gaps_listing : (req.listing listed).gaps = req.gaps := by
  unfold gaps observationGaps
  rw [times_listing same]
  rfl

omit same

/-- Something other than an unproven cut keeps the history from being complete: a source the
caller may not read, a known reason, a window without observation or a gap in it.
-/
def OtherwiseIncomplete (req : CompletenessRequest) : Prop :=
  req.inventoryAuthorized = false
  ∨ req.Unobserved
  ∨ req.knownReasons ≠ []
  ∨ req.gaps ≠ []

theorem otherwiseIncomplete_listing (same : listed.Perm req.observations)
    : (req.listing listed).OtherwiseIncomplete ↔ req.OtherwiseIncomplete := by
  rw [OtherwiseIncomplete, unobserved_listing same, gaps_listing same]
  rfl

/-- Nothing else being wrong, a history is complete exactly if its unproven cuts are silent. -/
theorem complete_iff_silent (req : CompletenessRequest)
    : (assessCompleteness req).status = .complete
      ↔ ¬ req.OtherwiseIncomplete
        ∧ Silent req.toMs req.Proven req.inRange := by
  rw [assessCompleteness_status, ← unprovenCuts_eq_nil]
  unfold OtherwiseIncomplete
  by_cases authorized : req.inventoryAuthorized = false
  · simp [authorized]
  by_cases unobserved : req.Unobserved
  · cases req.hasEvents <;> simp [authorized, unobserved]
  · simp [authorized, unobserved, and_assoc]

/-- A history that is not complete is unavailable exactly if nothing was observed and nothing
recorded.
-/
theorem status_of_not_complete (other : (assessCompleteness req).status ≠ .complete)
    : (assessCompleteness req).status
      = if req.inventoryAuthorized = true ∧ req.Unobserved
          ∧ req.hasEvents = false then
          .unavailable
        else
          .incomplete := by
  rw [assessCompleteness_status] at other ⊢
  by_cases authorized : req.inventoryAuthorized = false
  · simp [authorized]
  by_cases unobserved : req.Unobserved
  · cases req.hasEvents <;> simp [authorized, unobserved]
  · rw [if_neg authorized, if_neg unobserved] at other ⊢
    have unclean : ¬ (req.knownReasons = [] ∧ req.gaps = [] ∧ req.unprovenCuts = []) :=
      fun clean => other (if_pos clean)
    rw [if_neg unclean, if_neg (fun both => unobserved both.2.1)]

/-- Listings differ in their verdict only by one being complete and the other not. -/
theorem status_listing (same : listed.Perm req.observations)
    (agree : (assessCompleteness (req.listing listed)).status = .complete
      ↔ (assessCompleteness req).status = .complete)
    : (assessCompleteness (req.listing listed)).status
      = (assessCompleteness req).status := by
  by_cases complete : (assessCompleteness req).status = .complete
  · rw [complete]
    exact agree.mpr complete
  · rw [status_of_not_complete complete, status_of_not_complete (mt agree.mp complete)]
    simp only [unobserved_listing same]
    rfl

def unprovenFirst (req : CompletenessRequest) : List InventoryObservation :=
  req.observations.insertionSort (UnprovenFirst req.Proven)

variable (req)

theorem unprovenFirst_pairwise : req.unprovenFirst.Pairwise (UnprovenFirst req.Proven) := by
  have total : Std.Total (UnprovenFirst req.Proven) := by
    refine ⟨fun left right => ?_⟩
    unfold UnprovenFirst
    by_cases proof : req.Proven right <;> grind
  have transitive : IsTrans InventoryObservation (UnprovenFirst req.Proven) := by
    refine ⟨fun first second third => ?_⟩
    unfold UnprovenFirst
    grind
  exact pairwise_insertionSort _ _

/-- Sorting by time keeps the unproven observations of each time first. -/
theorem inRange_unprovenFirst
    : (req.listing req.unprovenFirst).inRange.Pairwise (UnprovenFirst req.Proven) := by
  have byTime : TimeOrdered req.unprovenFirst := by
    refine req.unprovenFirst_pairwise.imp ?_
    intro left right first
    rcases first with less | same
    · exact le_of_lt less
    · exact le_of_eq same.1
  have kept : (req.listing req.unprovenFirst).ordered = req.unprovenFirst :=
    Pairwise.insertionSort_eq byTime
  rw [inRange, kept]
  exact req.unprovenFirst_pairwise.filter _

end CompletenessRequest

variable (req : CompletenessRequest)

/-- A complete verdict proves every observation it rests on, and the verdict does not depend
on the order in which the observations are listed.
-/
structure CompleteMeansProven : Prop where
  proven : (assessCompleteness req).status = .complete
    → ∀ item ∈ req.observations, req.InRange item → req.Proven item
  orderFree : ∀ listed : List InventoryObservation, listed.Perm req.observations
    → (assessCompleteness (req.listing listed)).status
      = (assessCompleteness req).status

/-- At some time in range no observation is proven. The times up to zero count as one: an
observation before them is only reported if the next one is later than time zero.
-/
def UnprovenTime : Prop :=
  ∃ item ∈ req.inRange,
    (∀ other ∈ req.inRange, other.collectedAtMs = item.collectedAtMs → ¬ req.Proven other)
    ∧ ∀ other ∈ req.inRange, item.collectedAtMs < other.collectedAtMs → 0 < other.collectedAtMs

variable {req : CompletenessRequest}

theorem UnprovenTime.reported (time : UnprovenTime req) (observed : ¬ req.Unobserved)
    : ¬ Silent req.toMs req.Proven req.inRange := by
  obtain ⟨item, mem, unproven, later⟩ := time
  have positive : 0 < req.toMs :=
    lt_of_le_of_lt req.window.nonnegative (not_le.mp (fun beyond => observed (.inr beyond)))
  refine req.inRange_timeOrdered.reported positive ?_ mem unproven later
  intro other inside
  exact (CompletenessRequest.mem_inRange.mp inside).2.2

theorem unprovenTime_listing {listed : List InventoryObservation}
    (same : listed.Perm req.observations)
    : UnprovenTime (req.listing listed) ↔ UnprovenTime req := by
  unfold UnprovenTime
  simp only [(CompletenessRequest.inRange_listing_perm same).mem_iff]
  rfl

/-- Proven observations leave nothing to report, in whatever order they are listed. -/
theorem silent_of_proven
    (proven : ∀ item ∈ req.observations, req.InRange item → req.Proven item)
    {listed : List InventoryObservation} (same : listed.Perm req.observations)
    : Silent req.toMs req.Proven (req.listing listed).inRange := by
  intro item rest within unproven
  have mem := (CompletenessRequest.inRange_listing_perm same).subset
    (within.subset mem_cons_self)
  obtain ⟨observed, inside⟩ := CompletenessRequest.mem_inRange.mp mem
  exact absurd (proven item observed inside) unproven

/-- If no listing of the observations is complete, there is nothing to prove. -/
theorem completeMeansProven_of_never
    (never : ∀ listed : List InventoryObservation, listed.Perm req.observations
      → (assessCompleteness (req.listing listed)).status ≠ .complete)
    : CompleteMeansProven req where
  proven := fun complete => absurd complete (never req.observations (Perm.refl _))
  orderFree := by
    intro listed same
    refine CompletenessRequest.status_listing same (iff_of_false (never listed same) ?_)
    exact never req.observations (Perm.refl _)

/-- A complete history has proven its cuts, whatever their order, exactly if another reason
already makes it incomplete, if every cut is proven, or if at some time no cut is.
What is left out are cuts of one time of which some are proven and some are not.
Witness: with the unproven cuts of each time listed first, every cut is silent.
-/
theorem completeMeansProven_iff (req : CompletenessRequest)
    : CompleteMeansProven req
      ↔ req.OtherwiseIncomplete
        ∨ (∀ item ∈ req.observations, req.InRange item → req.Proven item)
        ∨ UnprovenTime req := by
  constructor
  · intro means
    by_cases otherwise : req.OtherwiseIncomplete
    · exact .inl otherwise
    have same : req.unprovenFirst.Perm req.observations := perm_insertionSort _ _
    by_cases silent : Silent req.toMs req.Proven
        (req.listing req.unprovenFirst).inRange
    · have complete : (assessCompleteness (req.listing req.unprovenFirst)).status
          = .complete := by
        rw [CompletenessRequest.complete_iff_silent]
        exact ⟨mt (CompletenessRequest.otherwiseIncomplete_listing same).mp otherwise, silent⟩
      rw [means.orderFree _ same] at complete
      exact .inr (.inl (means.proven complete))
    · have time : UnprovenTime (req.listing req.unprovenFirst) :=
        exists_unproven_time req.inRange_unprovenFirst silent
      exact .inr (.inr ((unprovenTime_listing same).mp time))
  · rintro (otherwise | proven | time)
    · refine completeMeansProven_of_never ?_
      intro listed same complete
      rw [CompletenessRequest.complete_iff_silent] at complete
      exact complete.1 ((CompletenessRequest.otherwiseIncomplete_listing same).mpr otherwise)
    · refine ⟨fun _ => proven, ?_⟩
      intro listed same
      refine CompletenessRequest.status_listing same ?_
      rw [CompletenessRequest.complete_iff_silent, CompletenessRequest.complete_iff_silent,
        CompletenessRequest.otherwiseIncomplete_listing same]
      refine and_congr_right (fun _ => iff_of_true ?_ ?_)
      · exact silent_of_proven proven same
      · exact silent_of_proven proven (Perm.refl _)
    · refine completeMeansProven_of_never ?_
      intro listed same complete
      rw [CompletenessRequest.complete_iff_silent] at complete
      refine ((unprovenTime_listing same).mpr time).reported ?_ complete.2
      exact fun unobserved => complete.1 (.inr (.inl unobserved))

def sameTimeCuts : CompletenessRequest where
  window := firstMinute
  nowMs := 60000
  observations := [
    { collectedAtMs := 1000, resourcesComplete := false },
    { collectedAtMs := 1000, resourcesComplete := true, eventCaptureComplete := true }]
  captureCoverage := []
  scope := exampleScope
  truncated := false
  sourceUnavailable := false
  inventoryAuthorized := true

/-- Listed in this order the history is complete on an unproven cut; listed the other way
round it is incomplete.
-/
theorem sameTimeCuts_complete_unproven
    : (assessCompleteness sameTimeCuts).status = .complete
      ∧ (∃ item ∈ sameTimeCuts.observations, sameTimeCuts.InRange item ∧ ¬ sameTimeCuts.Proven item)
      ∧ (assessCompleteness (sameTimeCuts.listing sameTimeCuts.observations.reverse)).status
        = .incomplete
      ∧ ¬ CompleteMeansProven sameTimeCuts := by
  have complete : (assessCompleteness sameTimeCuts).status = .complete := by decide
  have unproven : ∃ item ∈ sameTimeCuts.observations,
      sameTimeCuts.InRange item ∧ ¬ sameTimeCuts.Proven item := by decide
  refine ⟨complete, unproven, by decide, ?_⟩
  intro means
  obtain ⟨item, mem, inside, missing⟩ := unproven
  exact missing (means.proven complete item mem inside)

end K8sClue.History
