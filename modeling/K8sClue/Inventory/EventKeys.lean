import K8sClue.Inventory.PlainPlatform
import K8sClue.Inventory.SourceKeys

/-! The keys of Kubernetes Event observations.
The time of a key holds colons of its own, but always as many, and it is written with fixed widths.
-/

namespace K8sClue.Inventory

open Python List

/-- The observation is of an instant whose fields in UTC are those of the time. -/
structure KubernetesEventObservation.WrittenAt (env : Platform) (instant : UtcTime → Int)
    (obs : KubernetesEventObservation) (time : UtcTime) : Prop where
  occurred : obs.lastOccurrenceAt = instant time
  written : env.utc (instant time) = time

/-- Two observations have one key exactly if they are of one uid, count and time.
Witness: `colon_uids_apart`.
-/
theorem event_keys_injective {env : Platform} {instant : UtcTime → Int} {time time' : UtcTime}
    {obs obs' : KubernetesEventObservation}
    (dated : obs.WrittenAt env instant time)
    (dated' : obs'.WrittenAt env instant time')
    (counted : 0 < obs.count) (counted' : 0 < obs'.count)
    : kubernetesEventSourceKey env obs = kubernetesEventSourceKey env obs'
      ↔ obs.uid = obs'.uid ∧ obs.count = obs'.count
        ∧ obs.lastOccurrenceAt = obs'.lastOccurrenceAt := by
  constructor
  · intro same
    obtain ⟨uids, numbers, written⟩ := kubernetesEventSourceKey_told same
    refine ⟨uids, ?_, ?_⟩
    · obtain ⟨size, isSize⟩ := Int.eq_ofNat_of_zero_le counted.le
      obtain ⟨size', isSize'⟩ := Int.eq_ofNat_of_zero_le counted'.le
      rw [isSize, isSize'] at numbers ⊢
      exact congrArg Int.ofNat (toString_injective numbers)
    · rw [dated.occurred, dated'.occurred] at written ⊢
      rw [Platform.timestampWireValue, Platform.timestampWireValue, dated.written,
        dated'.written] at written
      rw [UtcTime.wireText_injective written]
  · rintro ⟨uids, counts, times⟩
    unfold kubernetesEventSourceKey
    rw [uids, counts, times]

def observedAt (uid : String) (moment : Int) : KubernetesEventObservation where
  uid := uid
  apiVersion := "v1"
  inNamespace := none
  name := "restarted"
  eventType := "Warning"
  count := 3
  lastOccurrenceAt := moment

def instantInFebruary (time : UtcTime) : Int :=
  (((time.day - 1) * 24 + time.hour) * 60 + time.minute) * 60000000 + time.second * 1000000
    + time.microsecond

/-- A uid that ends as another one goes on has another key, and so has another time. -/
theorem colon_uids_apart
    : kubernetesEventSourceKey (plainPlatform {}) (observedAt "a:3" 0)
        ≠ kubernetesEventSourceKey (plainPlatform {}) (observedAt "a" 0)
      ∧ kubernetesEventSourceKey (plainPlatform {}) (observedAt "a" 0)
        ≠ kubernetesEventSourceKey (plainPlatform {}) (observedAt "a" 43200000001) := by
  have dated (uid : String) (moment : Int) (isIn : moment ∈ [0, 43200000001])
      : (observedAt uid moment).WrittenAt (plainPlatform {}) instantInFebruary
          (Plain.utcInFebruary moment) := by
    simp only [mem_cons, not_mem_nil, or_false] at isIn
    rcases isIn with rfl | rfl
    · exact ⟨rfl, rfl⟩
    · exact ⟨rfl, rfl⟩
  constructor
  · intro same
    have told := (event_keys_injective (dated "a:3" 0 (by simp)) (dated "a" 0 (by simp))
      (by decide) (by decide)).mp same
    exact absurd told.1 (by decide)
  · intro same
    have told := (event_keys_injective (dated "a" 0 (by simp))
      (dated "a" 43200000001 (by simp)) (by decide) (by decide)).mp same
    exact absurd told.2.2 (by decide)

end K8sClue.Inventory
