import K8sClue.History.IncidentHistory

/-! The resources of an incident history, each with its lifecycle.
Events are grouped by uid, or by inventory key where there is none. Whether the time of a
deletion was observed is read off the gaps in the coverage of the window.
-/

namespace K8sClue.History

open Python Timeline Inventory Library List

inductive HistoryLifecycle where
  | present
  | deleted
  | unobserved
  deriving DecidableEq

inductive DeletedAtBound where
  | observed
  | gapBounded
  deriving DecidableEq

structure IncidentHistoryResource where
  subject : TimelineSubject
  lifecycle : HistoryLifecycle
  firstObservedAt : Option Int := none
  lastObservedAt : Option Int := none
  deletedAt : Option Int := none
  deletedAtBound : Option DeletedAtBound := none
  deriving DecidableEq

abbrev ResourceKey := String × String

def subjectKey : TimelineSubject → Option ResourceKey
  | .resource resource => some ("uid", resource.uid)
  | .inventoryLocator inventoryKey .. => some ("locator", inventoryKey)
  | _ => none

def resourceKey (event : TimelineEvent) : Option ResourceKey := subjectKey event.subject

variable (resource : IncidentHistoryResource)

/-- What the contract demands; its subjects are those that `_history_subject` accepts. -/
structure IncidentHistoryResource.Valid : Prop where
  subject : (subjectKey resource.subject).isSome
  deletion : if resource.lifecycle = .deleted then
      resource.deletedAt.isSome ∧ resource.deletedAtBound.isSome
    else
      resource.deletedAt = none ∧ resource.deletedAtBound = none

/-- `validate_truncation_is_not_complete`. -/
structure IncidentHistoryResponse.Valid (response : IncidentHistoryResponse) : Prop where
  truncated : response.truncated = true → .truncated ∈ response.completeness.reasons
  unavailable : response.completeness.status = .unavailable → response.events = []

/-- The events of a ledger are aware of their zone, so that their moments are compared. -/
def momentOf (event : TimelineEvent) : Int := utcMoment event.occurredAt

variable (events : List TimelineEvent)

def uidEvents : List TimelineEvent :=
  events.filter fun event => event.source = .inventory ∧ (resourceKey event).any (·.1 = "uid")

def uidsOf (nativeId : String) : List TimelineEvent :=
  ((uidEvents events).filter (·.nativeId = nativeId)).insertionSort EventBefore

def uidChanges (nativeId : String) : List (ResourceKey × TimelineEvent) :=
  ((uidsOf events nativeId).zip (uidsOf events nativeId).tail).filterMap fun pair =>
    if resourceKey pair.1 ≠ resourceKey pair.2 then
      (resourceKey pair.1).map (·, pair.2)
    else
      none

/-- `_uid_replacements`; of several changes of an identity the first one counts. -/
def uidReplacements : List (ResourceKey × TimelineEvent) :=
  (fromKeys ((uidEvents events).map (·.nativeId))).flatMap (uidChanges events)

variable (calendar : Calendar)

def deletionBound (deletedAt : Int) (gaps : List TimelineCoverage) : DeletedAtBound :=
  let deletedMs := calendar.milliseconds deletedAt
  -- A deletion seen at the observation that opens a gap is exact.
  if ∃ gap ∈ gaps, gap.reason = .collectionGap ∧ gap.fromMs < deletedMs ∧ deletedMs ≤ gap.toMs then
    .gapBounded
  else
    .observed

def presentResource (first latest : TimelineEvent) : IncidentHistoryResource where
  subject := latest.subject
  lifecycle := .present
  firstObservedAt := some (momentOf first)
  lastObservedAt := some (momentOf latest)

def IncidentHistoryResource.deletedWith (deletedAt : Int) (bound : DeletedAtBound)
    : IncidentHistoryResource :=
  { resource with
    lifecycle := .deleted
    deletedAt := some deletedAt
    deletedAtBound := some bound }

def historyResource (gaps : List TimelineCoverage)
    (replaced : Option TimelineEvent) (first latest : TimelineEvent)
    : IncidentHistoryResource :=
  let resource := presentResource first latest
  match replaced.filter (latest.eventType ≠ .delete ∧ momentOf latest ≤ momentOf ·) with
  | some later =>
    -- Another uid under the same inventory key; the deletion itself was never observed.
    resource.deletedWith (momentOf later) .gapBounded
  | none =>
    if latest.eventType = .delete then
      resource.deletedWith (momentOf latest) (deletionBound calendar (momentOf latest) gaps)
    else
      resource

def eventsOf (key : ResourceKey) : List TimelineEvent :=
  (events.filter fun event =>
    event.source = .inventory ∧ resourceKey event = some key).insertionSort EventBefore

/-- `project_resources`; the group of a key always has a first and a last event. -/
def projectResources (events : List TimelineEvent) (coverage : List TimelineCoverage)
    : List IncidentHistoryResource :=
  let keys := fromKeys ((events.filter (·.source = .inventory)).filterMap resourceKey)
  (keys.insertionSort (toLex · ≤ toLex ·)).filterMap fun key =>
    (eventsOf events key).head?.bind fun first => (eventsOf events key).getLast?.map
      (historyResource calendar coverage ((uidReplacements events).lookup key) first)

variable {calendar : Calendar} {events : List TimelineEvent} {coverage : List TimelineCoverage}
  {resource : IncidentHistoryResource}

theorem mem_projectResources (mem : resource ∈ projectResources calendar events coverage)
    : ∃ key first latest, (eventsOf events key).head? = some first
        ∧ (eventsOf events key).getLast? = some latest
        ∧ resource = historyResource calendar coverage ((uidReplacements events).lookup key) first
            latest := by
  obtain ⟨key, _, made⟩ := mem_filterMap.mp mem
  obtain ⟨first, head, rest⟩ := Option.bind_eq_some_iff.mp made
  obtain ⟨latest, last, same⟩ := Option.map_eq_some_iff.mp rest
  exact ⟨key, first, latest, head, last, same.symm⟩

/-- A resource was replaced under its key, its deletion was told, or it is present. -/
theorem historyResource_cases (calendar : Calendar) (coverage : List TimelineCoverage)
    (replaced : Option TimelineEvent) (first latest : TimelineEvent)
    : (∃ later ∈ replaced, momentOf latest ≤ momentOf later
        ∧ historyResource calendar coverage replaced first latest
          = (presentResource first latest).deletedWith (momentOf later) .gapBounded)
      ∨ historyResource calendar coverage replaced first latest
        = (presentResource first latest).deletedWith (momentOf latest)
            (deletionBound calendar (momentOf latest) coverage)
      ∨ historyResource calendar coverage replaced first latest = presentResource first latest
        ∧ ∀ later ∈ replaced, momentOf later < momentOf latest := by
  unfold historyResource
  split
  next later kept =>
    obtain ⟨known, after⟩ := Option.filter_eq_some_iff.mp kept
    exact .inl ⟨later, known, (of_decide_eq_true after).2, rfl⟩
  next unreplaced =>
    split
    · exact .inr (.inl rfl)
    next kept =>
      refine .inr (.inr ⟨rfl, fun later known => ?_⟩)
      simpa [kept] using Option.filter_eq_none_iff.mp unreplaced later known

theorem projectResources_valid
    : ∀ resource ∈ projectResources calendar events coverage, resource.Valid := by
  intro resource mem
  obtain ⟨key, first, latest, _, last, rfl⟩ := mem_projectResources mem
  have inside := (mem_insertionSort _).mp (mem_of_getLast? last)
  have keyed : resourceKey latest = some key := (of_decide_eq_true (mem_filter.mp inside).2).2
  have subject : (subjectKey latest.subject).isSome := Option.isSome_of_eq_some keyed
  rcases historyResource_cases calendar coverage ((uidReplacements events).lookup key) first latest
    with ⟨_, _, _, same⟩ | same | ⟨same, _⟩
  · exact same ▸ ⟨subject, rfl, rfl⟩
  · exact same ▸ ⟨subject, rfl, rfl⟩
  · exact same ▸ ⟨subject, rfl, rfl⟩

/-- The truncation of a history that is available is among its reasons. -/
theorem truncated_named {req : CompletenessRequest} (truncated : req.truncated = true)
    (available : (assessCompleteness req).status ≠ .unavailable)
    : .truncated ∈ (assessCompleteness req).reasons := by
  have known : .truncated ∈ req.knownReasons := by
    simp [CompletenessRequest.knownReasons, truncated]
  unfold assessCompleteness at available ⊢
  split
  · simp [known]
  split
  · simp [known]
  split at available
  · contradiction
  split at available
  · contradiction
  next unobserved =>
    rw [if_neg unobserved, finish]
    simp [known]

/-- The verdict, the resources and the response that is built from them are all accepted by
their contracts; intervals are so by their type.
-/
theorem history_contract_kept (calendar : Calendar) (req : CompletenessRequest)
    (events : List TimelineEvent) (correlationId clusterId : String)
    : let completeness := assessCompleteness { req with hasEvents := !events.isEmpty }
      (assessCompleteness req).Valid
      ∧ (∀ resource ∈ projectResources calendar events completeness.coverage, resource.Valid)
      ∧ IncidentHistoryResponse.Valid {
          correlationId, clusterId, events, completeness
          window := req.window
          truncated := req.truncated && completeness.status != .unavailable } := by
  refine ⟨assessCompleteness_valid _, projectResources_valid, ?_, ?_⟩
  · intro shown
    obtain ⟨truncated, available⟩ := Bool.and_eq_true_iff.mp shown
    exact truncated_named truncated (bne_iff_ne.mp available)
  · intro unavailable
    have status := assessCompleteness_status { req with hasEvents := !events.isEmpty }
    rw [unavailable] at status
    split at status
    · contradiction
    split at status
    · simpa using status
    · split at status <;> contradiction

end K8sClue.History
