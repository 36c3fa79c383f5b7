import K8sClue.Inventory.ChangeEvents
import K8sClue.Library.Separated

/-! What the source keys of the Timeline tell.
A key is made of parts with colons between them, some of which may hold colons of their own;
the parts that matter here are found from the ends of the key.
-/

namespace K8sClue.Inventory

open Python Timeline Library List

variable {first second after behind marker : String}

/-- What follows the last marker of a text, and what comes before it. -/
theorem behind_marker (label : String) (ends : marker = label ++ ":")
    (same : first ++ marker ++ after = second ++ marker ++ behind)
    (many : after.toList.count ':' = behind.toList.count ':')
    : first = second ∧ after = behind := by
  have chars := congrArg String.toList same
  have colon : ":".toList = [':'] := by decide
  simp only [ends, String.toList_append, ← append_assoc] at chars
  rw [append_assoc, append_assoc (second.toList ++ label.toList)] at chars
  obtain ⟨before, rest⟩ := separated_behind chars many
  exact ⟨String.toList_inj.mp (append_cancel_right before), String.toList_inj.mp rest⟩

/-- What comes before the first colon of a text, and what follows it. -/
theorem before_colon (same : first ++ (":" ++ after) = second ++ (":" ++ behind))
    (left : ':' ∉ first.toList) (right : ':' ∉ second.toList)
    : first = second ∧ after = behind := by
  have chars := congrArg String.toList same
  have colon : ":".toList = [':'] := by decide
  simp only [String.toList_append, colon, singleton_append] at chars
  obtain ⟨before, rest⟩ := separated_first chars left right
  exact ⟨String.toList_inj.mp before, String.toList_inj.mp rest⟩

theorem repr_no_colon (number : Nat) : ':' ∉ (toString number).toList := by
  change ':' ∉ (String.ofList _).toList
  rw [String.toList_ofList]
  intro mem
  exact absurd (Nat.isDigit_of_mem_toDigits (by decide) (by decide) mem) (by decide)

theorem int_repr_no_colon (number : Int) : ':' ∉ (toString number).toList := by
  cases number with
  | ofNat size => exact repr_no_colon size
  | negSucc size =>
    intro mem
    change ':' ∈ ("-" ++ toString (size + 1)).toList at mem
    rw [String.toList_append] at mem
    rcases mem_append.mp mem with sign | digits
    · exact absurd sign (by decide)
    · exact repr_no_colon (size + 1) digits

/-- The revision is found from the end of a correlated key. -/
theorem correlated_revision {event event' : TimelineEvent} {snapshot snapshot' : String}
    {revision revision' version version' : Nat}
    (same : (correlated snapshot revision version event).sourceKey
      = (correlated snapshot' revision' version' event').sourceKey)
    : revision = revision' := by
  have digits : ∀ number other : Nat,
      (toString number).toList.count ':' = (toString other).toList.count ':' := by
    intro number other
    rw [count_eq_zero.mpr (repr_no_colon number), count_eq_zero.mpr (repr_no_colon other)]
  obtain ⟨revised, _⟩ := behind_marker ":version" rfl same (digits version version')
  obtain ⟨_, number⟩ := behind_marker ":revision" rfl revised (digits revision revision')
  exact toString_injective number

private theorem inventory_no_colon : ':' ∉ "inventory".toList := by decide

/-- The kind of a change and the key of its resource are found from the start of a key. -/
theorem inventorySourceKey_told {env : Platform} {change change' : InventoryTimelineChange}
    {resource resource' : InventoryResource} (fits : resource.KeyFits env)
    (fits' : resource'.KeyFits env)
    (same : inventoryTimelineSourceKey env change resource ++ after
      = inventoryTimelineSourceKey env change' resource' ++ behind)
    : change = change' ∧ resource.inventoryKey = resource'.inventoryKey := by
  have named : ∀ change : InventoryTimelineChange, ':' ∉ change.name.toList := by
    intro change
    cases change <;> decide
  have keyed : ∀ {resource : InventoryResource}, resource.KeyFits env
      → ':' ∉ resource.inventoryKey.toList := by
    intro resource fits
    rw [fits]
    exact fun mem => absurd (env.sha256_hex _ ':' mem) (by decide)
  simp only [inventoryTimelineSourceKey, String.append_assoc] at same
  obtain ⟨_, rest⟩ := before_colon same inventory_no_colon inventory_no_colon
  obtain ⟨names, rest⟩ := before_colon rest (named change) (named change')
  obtain ⟨keys, _⟩ := before_colon rest (keyed fits) (keyed fits')
  refine ⟨?_, keys⟩
  revert names
  cases change <;> cases change' <;> decide

/-- No Kubernetes Event has the key of an inventory event. -/
theorem inventorySourceKey_apart (env : Platform) (change : InventoryTimelineChange)
    (resource : InventoryResource) (obs : KubernetesEventObservation)
    : inventoryTimelineSourceKey env change resource ++ after
      ≠ kubernetesEventSourceKey env obs := by
  intro same
  have start : "kubernetes_event:" = "kubernetes_event" ++ ":" := by decide
  have different : "inventory" ≠ "kubernetes_event" := by decide
  unfold inventoryTimelineSourceKey kubernetesEventSourceKey at same
  rw [start] at same
  simp only [String.append_assoc] at same
  exact different (before_colon same inventory_no_colon (by decide)).1

/-- The uid, the count and the time of an observation are found from the end of its key. -/
theorem kubernetesEventSourceKey_told {env : Platform}
    {obs obs' : KubernetesEventObservation}
    (same : kubernetesEventSourceKey env obs
      = kubernetesEventSourceKey env obs')
    : obs.uid = obs'.uid
      ∧ toString obs.count = toString obs'.count
      ∧ env.timestampWireValue obs.lastOccurrenceAt
        = env.timestampWireValue obs'.lastOccurrenceAt := by
  have digits : (toString obs.count).toList.count ':'
      = (toString obs'.count).toList.count ':' := by
    rw [count_eq_zero.mpr (int_repr_no_colon _), count_eq_zero.mpr (int_repr_no_colon _)]
  obtain ⟨counted, written⟩ := behind_marker "" rfl same (by
    rw [Platform.timestampWireValue, Platform.timestampWireValue, UtcTime.wireText_colons,
      UtcTime.wireText_colons])
  obtain ⟨named, numbers⟩ := behind_marker "" rfl counted digits
  have chars := congrArg String.toList named
  rw [String.toList_append, String.toList_append] at chars
  exact ⟨String.toList_inj.mp (append_cancel_left chars), numbers, written⟩

end K8sClue.Inventory
