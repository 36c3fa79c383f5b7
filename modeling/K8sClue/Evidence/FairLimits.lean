import K8sClue.Evidence.Snapshots
import K8sClue.Library.SortedBy

/-! The limit of a list by groups is fair.
Each walk takes one item of every group that has one left, so that the groups stay level until
they run out.
-/

namespace K8sClue.Evidence

open Python Library List

section Walks

variable {α : Type} {groupKey : α → String} {keys : List String} {queue : String → List α}
  {room : Nat}

/-- The first items of the groups. -/
def heads (keys : List String) (queue : String → List α) : List α :=
  keys.flatMap fun key => (queue key).take 1

theorem roundRobinPass_eq (filled : ∀ key ∈ keys, queue key ≠ [])
    : roundRobinPass (keys.map queue) room
      = ((heads keys queue).take room,
          (((keys.take room).filter fun key => (queue key).tail ≠ []).map
            fun key => (queue key).tail) ++ (keys.drop room).map queue) := by
  induction keys generalizing room with
  | nil => cases room <;> simp [roundRobinPass, heads]
  | cons key rest ih =>
    obtain ⟨item, more, split⟩ := exists_cons_of_ne_nil (filled key mem_cons_self)
    have others := fun room => @ih room fun other mem => filled other (mem_cons_of_mem _ mem)
    cases room with
    | zero => simp [roundRobinPass]
    | succ room =>
      rw [map_cons, split, roundRobinPass, others]
      by_cases last : more = []
      · simp [heads, split, last]
      · simp [heads, split, last]

/-- What a limit by groups selects of groups with distinct keys. -/
structure FairSelection (groupKey : α → String) (keys : List String) (queue : String → List α)
    (room : Nat) (selected : List α)
    : Prop where
  length : selected.length = min room (keys.flatMap queue).length
  taken : ∀ group, selected.filter (groupKey · = group)
    <+: (keys.flatMap queue).filter (groupKey · = group)
  fair : ∀ group other,
    (selected.filter (groupKey · = group)).length
        < ((keys.flatMap queue).filter (groupKey · = group)).length
    → (selected.filter (groupKey · = other)).length
      ≤ (selected.filter (groupKey · = group)).length + 1

theorem FairSelection.nothing (stops : room = 0 ∨ keys = [])
    : FairSelection groupKey keys queue room [] where
  length := by rcases stops with rfl | rfl <;> simp
  taken := fun _ => nil_prefix
  fair := fun _ _ _ => Nat.zero_le _

theorem roundRobinWalks_zero (walks : Nat) (groups : List (List α))
    : roundRobinWalks walks groups 0 = [] := by
  cases walks <;> simp [roundRobinWalks]

variable (own : ∀ key, ∀ item ∈ queue key, groupKey item = key) (nodup : keys.Nodup)
include own nodup

variable (group : String)

theorem filter_queues
    : (keys.flatMap queue).filter (groupKey · = group) = if group ∈ keys then queue group else [] :=
  filter_flatMap_of_nodup own nodup group

theorem filter_heads
    : (heads keys queue).filter (groupKey · = group)
      = if group ∈ keys then (queue group).take 1 else [] :=
  filter_flatMap_of_nodup (fun key item mem => own key item (mem_of_mem_take mem))
    nodup group

theorem filter_heads_length : ((heads keys queue).filter (groupKey · = group)).length ≤ 1 := by
  rw [filter_heads own nodup]
  split
  · exact length_take_le 1 _
  · exact Nat.zero_le 1

variable (filled : ∀ key ∈ keys, queue key ≠ [])
include filled

omit own nodup in
theorem heads_length : (heads keys queue).length = keys.length := by
  induction keys with
  | nil => rfl
  | cons key rest ih =>
    obtain ⟨item, more, split⟩ := exists_cons_of_ne_nil (filled key mem_cons_self)
    simp [heads, split, ← ih fun other mem => filled other (mem_cons_of_mem _ mem)]

/-- What is left after each group has given one item. -/
def leftKeys (keys : List String) (queue : String → List α) : List String :=
  keys.filter fun key => (queue key).tail ≠ []

omit own nodup in
theorem queues_length
    : (keys.flatMap queue).length
      = keys.length + ((leftKeys keys queue).flatMap fun key => (queue key).tail).length := by
  induction keys with
  | nil => rfl
  | cons key rest ih =>
    obtain ⟨item, more, split⟩ := exists_cons_of_ne_nil (filled key mem_cons_self)
    have others := ih fun other mem => filled other (mem_cons_of_mem _ mem)
    by_cases last : more = []
    · simp [leftKeys, split, last] at others ⊢
      omega
    · simp [leftKeys, split, last] at others ⊢
      omega

/-- The walk stops within the groups. -/
theorem FairSelection.short (stops : room < keys.length)
    : FairSelection groupKey keys queue room ((heads keys queue).take room) where
  length := by
    rw [length_take, heads_length filled, queues_length filled]
    omega
  taken := by
    intro group
    refine IsPrefix.trans ((List.take_prefix room _).filter _) ?_
    rw [filter_heads own nodup, filter_queues own nodup]
    split
    · exact take_prefix 1 _
    · exact prefix_rfl
  fair := by
    intro group other _
    have most := ((take_sublist room (heads keys queue)).filter (groupKey · = other)).length_le
    have single := filter_heads_length own nodup other
    omega

/-- The walk reaches every group, and the rest is selected of what is left. -/
theorem FairSelection.round {selected : List α} (reaches : keys.length ≤ room)
    (fair : FairSelection groupKey (leftKeys keys queue) (fun key => (queue key).tail)
      (room - keys.length) selected)
    : FairSelection groupKey keys queue room (heads keys queue ++ selected) := by
  have left (group : String)
      : ((leftKeys keys queue).flatMap fun key => (queue key).tail).filter (groupKey · = group)
        = if group ∈ keys then (queue group).tail else [] := by
    rw [leftKeys, filter_queues (fun key item mem => own key item (mem_of_mem_tail mem))
      (nodup.filter _)]
    by_cases last : (queue group).tail = [] <;> simp [last]
  have split (group : String) : (keys.flatMap queue).filter (groupKey · = group)
      = (heads keys queue).filter (groupKey · = group)
        ++ ((leftKeys keys queue).flatMap fun key => (queue key).tail).filter
          (groupKey · = group) := by
    rw [filter_queues own nodup, filter_heads own nodup, left]
    split
    · cases queue group <;> rfl
    · rfl
  exact {
    length := by
      rw [length_append, heads_length filled, fair.length, queues_length filled]
      omega
    taken := by
      intro group
      rw [filter_append, split]
      exact (prefix_append_right_inj _).mpr (fair.taken group)
    fair := by
      intro group other less
      have known : group ∈ keys := by
        by_contra unknown
        simp [filter_queues own nodup, unknown] at less
      have taken : ((heads keys queue).filter (groupKey · = group)).length = 1 := by
        rw [filter_heads own nodup, if_pos known, length_take]
        exact min_eq_left (length_pos_iff.mpr (filled group known))
      have most := filter_heads_length own nodup other
      rw [filter_append, split, length_append, length_append] at less
      rw [filter_append, filter_append, length_append, length_append]
      have level := fair.fair group other (by omega)
      omega }

/-- The walks select fairly, if there are as many as there is room.
Witness: by walks; a walk that stops within the groups is the last one.
-/
theorem roundRobinWalks_fair {walks : Nat} (enough : room ≤ walks)
    : FairSelection groupKey keys queue room (roundRobinWalks walks (keys.map queue) room) := by
  induction walks generalizing keys queue room with
  | zero => exact .nothing (.inl (Nat.le_zero.mp enough))
  | succ walks ih =>
    unfold roundRobinWalks
    split
    next stops =>
      refine .nothing ?_
      simpa [or_comm] using stops
    next continues =>
      simp only [List.isEmpty_map, Bool.or_eq_true, List.isEmpty_iff, not_or] at continues
      rw [roundRobinPass_eq filled]
      dsimp only
      by_cases reaches : keys.length ≤ room
      · have all := heads_length filled
        rw [take_of_length_le (by omega), take_of_length_le reaches,
          drop_eq_nil_of_le reaches, map_nil, append_nil, all]
        have some := List.length_pos_iff.mpr continues.1
        refine .round own nodup filled reaches (ih ?_ (nodup.filter _) ?_ (by omega))
        · exact fun key item mem => own key item (mem_of_mem_tail mem)
        · exact fun key mem => of_decide_eq_true (mem_filter.mp mem).2
      · have taken : ((heads keys queue).take room).length = room := by
          rw [length_take, heads_length filled]
          omega
        rw [taken, Nat.sub_self, roundRobinWalks_zero, append_nil]
        exact .short own nodup filled (not_le.mp reaches)

end Walks

/-- A limit by groups is fair: it selects as many items as there is room for, from each group a
first part of it, and never two more of a group than of another one that has items left.
-/
theorem roundRobinGroups_fair {α : Type} (groupKey : α → String) (items : List α) (maxItems : Nat)
    : (roundRobinGroups groupKey items maxItems).length = min maxItems items.length
      ∧ (∀ group, (roundRobinGroups groupKey items maxItems).filter (groupKey · = group)
          <+: items.filter (groupKey · = group))
      ∧ ∀ group other,
          ((roundRobinGroups groupKey items maxItems).filter (groupKey · = group)).length
              < (items.filter (groupKey · = group)).length
          → ((roundRobinGroups groupKey items maxItems).filter (groupKey · = other)).length
            ≤ ((roundRobinGroups groupKey items maxItems).filter (groupKey · = group)).length
              + 1 := by
  have own : ∀ key, ∀ item ∈ items.filter (groupKey · = key), groupKey item = key :=
    fun key item mem => of_decide_eq_true (mem_filter.mp mem).2
  have nodup := nodup_fromKeys (items.map groupKey)
  have fair := roundRobinWalks_fair own nodup (fun key mem => ?_) (le_refl maxItems)
  · have parts (group : String) : ((fromKeys (items.map groupKey)).flatMap fun key =>
        items.filter (groupKey · = key)).filter (groupKey · = group)
        = items.filter (groupKey · = group) := by
      rw [filter_queues own nodup]
      split
      · rfl
      next unknown =>
        refine (filter_eq_nil_iff.mpr fun item mem => ?_).symm
        simpa using fun same => unknown (by simpa using ⟨item, mem, same⟩)
    have all : ((fromKeys (items.map groupKey)).flatMap fun key =>
        items.filter (groupKey · = key)).Perm items := perm_of_filter parts
    refine ⟨?_, fun group => ?_, fun group other => ?_⟩
    · rw [← all.length_eq]
      exact fair.length
    · rw [← parts]
      exact fair.taken group
    · rw [← parts group]
      exact fair.fair group other
  · obtain ⟨item, listed, same⟩ := mem_map.mp (mem_fromKeys.mp mem)
    exact ne_nil_of_mem (mem_filter.mpr ⟨listed, decide_eq_true same⟩)

end K8sClue.Evidence
