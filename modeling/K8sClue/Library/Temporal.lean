import K8sClue.Library.Keyed

/-! Records that are valid from one revision until another.
A revision ends the validity of some open records and adds new ones; what was valid at an
earlier revision stays so, and what is valid now are the open records.
-/

namespace Library

open List

/-- How the validity of a record is read, and how it is ended. -/
structure Validity (ν : Type) where
  validFrom : ν → Nat
  validTo : ν → Option Nat
  close : Nat → ν → ν
  validFrom_close : ∀ revision version, validFrom (close revision version) = validFrom version
  validTo_close : ∀ revision version, validTo (close revision version) = some revision

namespace Validity

variable {ν κ : Type} (validity : Validity ν)

def IsOpen (version : ν) : Prop := validity.validTo version = none

instance : DecidablePred validity.IsOpen := fun version =>
  decidable_of_iff ((validity.validTo version).isNone = true) (by simp [IsOpen])

/-- The record is valid at a revision; the end of its validity is excluded. -/
def ValidAt (revision : Nat) (version : ν) : Prop :=
  validity.validFrom version ≤ revision
  ∧ (validity.validTo version = none ∨ ∃ ended ∈ validity.validTo version, revision < ended)

instance (revision : Nat) : DecidablePred (validity.ValidAt revision) := fun _ =>
  inferInstanceAs (Decidable (_ ∧ _))

def superseded (revision : Nat) (closes : ν → Bool) (version : ν) : ν :=
  if validity.IsOpen version ∧ closes version = true then
    validity.close revision version
  else
    version

/-- A revision closes the records it supersedes and adds new ones. -/
def advance (revision : Nat) (closes : ν → Bool) (added versions : List ν) : List ν :=
  versions.map (validity.superseded revision closes) ++ added

/-- Validity starts before it ends, and neither lies in the future. -/
structure UpTo (last : Nat) (versions : List ν) : Prop where
  starts : ∀ version ∈ versions, validity.validFrom version ≤ last
  ends : ∀ version ∈ versions, ∀ ended, validity.validTo version = some ended
    → validity.validFrom version < ended ∧ ended ≤ last

variable {validity} {revision last : Nat} {closes : ν → Bool} {added versions : List ν}

theorem validFrom_superseded (version : ν)
    : validity.validFrom (validity.superseded revision closes version)
      = validity.validFrom version := by
  unfold superseded
  split
  · exact validity.validFrom_close revision version
  · rfl

/-- What is open after a revision was open before and is not superseded. -/
theorem isOpen_superseded (version : ν)
    : validity.IsOpen (validity.superseded revision closes version)
      ↔ validity.IsOpen version ∧ closes version = false := by
  unfold superseded
  by_cases both : validity.IsOpen version ∧ closes version = true
  · rw [if_pos both, IsOpen, validity.validTo_close]
    simp [both.2]
  · rw [if_neg both, ← Bool.not_eq_true]
    tauto

theorem superseded_of_kept {version : ν}
    (kept : ¬ (validity.IsOpen version ∧ closes version = true))
    : validity.superseded revision closes version = version := if_neg kept

/-- A revision does not change what was valid before it. -/
theorem validAt_superseded {earlier : Nat} (before : earlier < revision) (version : ν)
    : validity.ValidAt earlier (validity.superseded revision closes version)
      ↔ validity.ValidAt earlier version := by
  unfold ValidAt
  rw [validFrom_superseded]
  unfold superseded
  split
  next both =>
    rw [validity.validTo_close]
    have ended : validity.validTo version = none := both.1
    simp [ended, before]
  · exact Iff.rfl

/-- Records that start with a revision are not valid before it. -/
theorem validAt_advance {earlier : Nat} (before : earlier < revision)
    (starts : ∀ version ∈ added, validity.validFrom version = revision)
    : (validity.advance revision closes added versions).filter (validity.ValidAt earlier ·)
      = (versions.filter (validity.ValidAt earlier ·)).map
          (validity.superseded revision closes) := by
  have none_added : added.filter (fun version => validity.ValidAt earlier version) = [] := by
    rw [filter_eq_nil_iff]
    intro version mem valid
    have started := (of_decide_eq_true valid).1
    rw [starts version mem] at started
    omega
  rw [advance, filter_append, none_added, append_nil, filter_map]
  congr 1
  refine filter_congr ?_
  simp [validAt_superseded before]

/-- At the latest revision and later exactly the open records are valid. -/
theorem UpTo.validAt_iff_isOpen (upTo : validity.UpTo last versions) {later : Nat}
    (after : last ≤ later) {version : ν} (mem : version ∈ versions)
    : validity.ValidAt later version ↔ validity.IsOpen version := by
  constructor
  · rintro ⟨_, opened | ⟨ended, bound, past⟩⟩
    · exact opened
    · have reached := (upTo.ends version mem ended bound).2
      omega
  · intro opened
    exact ⟨Nat.le_trans (upTo.starts version mem) after, .inl opened⟩

theorem UpTo.advance (upTo : validity.UpTo last versions) (later : last < revision)
    (starts : ∀ version ∈ added, validity.validFrom version = revision)
    (opened : ∀ version ∈ added, validity.IsOpen version)
    : validity.UpTo revision (validity.advance revision closes added versions) := by
  constructor
  · intro version mem
    rcases mem_append.mp mem with old | new
    · obtain ⟨before, inside, rfl⟩ := mem_map.mp old
      rw [validFrom_superseded]
      exact Nat.le_of_lt (Nat.lt_of_le_of_lt (upTo.starts before inside) later)
    · exact Nat.le_of_eq (starts version new)
  · intro version mem ended bound
    rcases mem_append.mp mem with old | new
    · obtain ⟨before, inside, rfl⟩ := mem_map.mp old
      rw [validFrom_superseded]
      unfold superseded at bound
      split at bound
      · rw [validity.validTo_close] at bound
        cases bound
        exact ⟨Nat.lt_of_le_of_lt (upTo.starts before inside) later, Nat.le_refl _⟩
      · obtain ⟨positive, reached⟩ := upTo.ends before inside ended bound
        exact ⟨positive, Nat.le_of_lt (Nat.lt_of_le_of_lt reached later)⟩
    · rw [opened version new] at bound
      simp at bound

/-- What is open after a revision: what it left open, and what it added. -/
theorem filter_isOpen_advance (opened : ∀ version ∈ added, validity.IsOpen version)
    : (validity.advance revision closes added versions).filter (validity.IsOpen ·)
      = (versions.filter (validity.IsOpen ·)).filter (fun version => !closes version)
        ++ added := by
  have all_added : added.filter (fun version => validity.IsOpen version) = added := by
    rw [filter_eq_self]
    intro version mem
    exact decide_eq_true (opened version mem)
  have kept : (versions.map (validity.superseded revision closes)).filter
        (fun version => validity.IsOpen version)
      = (versions.filter (fun version => validity.IsOpen version)).filter
          (fun version => !closes version) := by
    induction versions with
    | nil => rfl
    | cons version rest ih =>
      by_cases opened : validity.IsOpen version
      · cases chosen : closes version with
        | false =>
          rw [map_cons, superseded_of_kept (by simp [chosen])]
          simp [opened, chosen, ih]
        | true =>
          have closed : ¬ validity.IsOpen (validity.superseded revision closes version) := by
            rw [isOpen_superseded]
            simp [chosen]
          simp [chosen, closed, ih]
      · rw [map_cons, superseded_of_kept (fun both => opened both.1)]
        simp [opened, ih]
  rw [advance, filter_append, all_added, kept]

def Apart (first second : ν) : Prop :=
  ∀ revision, ¬ (validity.ValidAt revision first ∧ validity.ValidAt revision second)

/-- If no revision has a key twice, the validities of one key are apart. -/
theorem pairwise_apart {key : ν → κ}
    (unique : ∀ revision, Keyed.Unique key (versions.filter (validity.ValidAt revision ·)))
    : versions.Pairwise fun first second =>
        key first = key second → validity.Apart first second := by
  rw [pairwise_iff_getElem]
  intro i j hi hj before same revision both
  have different := unique revision
  rw [Keyed.Unique, Nodup, pairwise_map, pairwise_filter,
    pairwise_iff_getElem] at different
  exact different i j hi hj before (decide_eq_true both.1) (decide_eq_true both.2) same

end Validity

end Library
