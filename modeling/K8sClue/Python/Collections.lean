import Mathlib.Data.List.Dedup

/-! Python's insertion-ordered collections as lists. -/

namespace K8sClue.Python

open List

variable {α : Type} [DecidableEq α] (keys : List α)

def fromKeys : List α := keys.reverse.dedup.reverse

@[simp] theorem mem_fromKeys {key : α} {keys : List α} : key ∈ fromKeys keys ↔ key ∈ keys := by
  simp [fromKeys]

theorem nodup_fromKeys : (fromKeys keys).Nodup := by
  simpa [fromKeys] using nodup_dedup keys.reverse

theorem fromKeys_concat (key : α)
    : fromKeys (keys ++ [key])
      = if key ∈ keys then fromKeys keys else fromKeys keys ++ [key] := by
  rw [fromKeys, reverse_append, reverse_singleton, singleton_append]
  split
  next known => rw [dedup_cons_of_mem (by simpa using known), fromKeys]
  next fresh => rw [dedup_cons_of_notMem (by simpa using fresh), reverse_cons, fromKeys]

@[simp] theorem fromKeys_eq_nil {keys : List α} : fromKeys keys = [] ↔ keys = [] := by
  rw [eq_nil_iff_forall_not_mem, eq_nil_iff_forall_not_mem]
  simp

omit [DecidableEq α] in
/-- `[values[start : start + size] for start in range(0, len(values), size)]`. -/
def slices (size : Nat) (values : List α) : List (List α) :=
  (List.range ((values.length + size - 1) / size)).map
    fun index => (values.drop (index * size)).take size

omit [DecidableEq α] in
theorem flatten_slices {size : Nat} (positive : 0 < size) (values : List α)
    : (slices size values).flatten = values := by
  have taken : ∀ count : Nat,
      ((List.range count).map fun index => (values.drop (index * size)).take size).flatten
      = values.take (count * size) := by
    intro count
    induction count with
    | zero => simp
    | succ count ih =>
      rw [range_succ, map_append, flatten_append, ih, Nat.succ_mul, take_add]
      simp
  rw [slices, taken, take_of_length_le]
  have rounded := Nat.div_add_mod (values.length + size - 1) size
  have remainder := Nat.mod_lt (values.length + size - 1) positive
  rw [Nat.mul_comm]
  omega

end K8sClue.Python
