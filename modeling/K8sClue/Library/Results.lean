import Mathlib.Data.List.Forall2

/-! Computations that may fail, read backwards from their results. -/

namespace Library

open List

variable {α β ε : Type}

variable {first : Except ε α} {next f : α → Except ε β} {result : β} {error : ε} {β' : Type}
  {items : List α} {results : List β} {relation : α → β → Prop}

/-- A sequence of two steps succeeds if both do. -/
theorem bind_ok
    : (first >>= next) = .ok result ↔ ∃ value, first = .ok value ∧ next value = .ok result := by
  cases first with
  | error error => exact ⟨nofun, fun ⟨_, wrong, _⟩ => nomatch wrong⟩
  | ok value =>
    constructor
    · exact fun done => ⟨value, rfl, done⟩
    · rintro ⟨_, same, done⟩
      cases same
      exact done

/-- A sequence of two steps fails where its first failure is. -/
theorem bind_error
    : (first >>= next) = .error error
      ↔ first = .error error ∨ ∃ value, first = .ok value ∧ next value = .error error := by
  cases first with
  | error wrong =>
    constructor
    · exact fun failed => .inl (congrArg _ (Except.error.inj failed))
    · rintro (same | ⟨_, impossible, _⟩)
      · exact congrArg _ (Except.error.inj same)
      · cases impossible
  | ok value =>
    constructor
    · exact fun failed => .inr ⟨value, rfl, failed⟩
    · rintro (impossible | ⟨_, same, failed⟩)
      · cases impossible
      · cases same
        exact failed

/-- Every step of a fold that succeeds has succeeded. -/
theorem foldlM_ok {step : β → α → Except ε β} {start ended : β}
    (returned : items.foldlM step start = .ok ended)
    : ∀ item ∈ items, ∃ before after, step before item = .ok after := by
  induction items generalizing start with
  | nil => exact nofun
  | cons item rest ih =>
    rw [foldlM_cons] at returned
    obtain ⟨next, made, later⟩ := bind_ok.mp returned
    exact forall_mem_cons.mpr ⟨⟨start, next, made⟩, ih later⟩

/-- A fold fails as one of its steps does. -/
theorem foldlM_error {step : β → α → Except ε β} {start : β}
    (stopped : items.foldlM step start = .error error)
    : ∃ item ∈ items, ∃ before, step before item = .error error := by
  induction items generalizing start with
  | nil => cases stopped
  | cons item rest ih =>
    rw [foldlM_cons] at stopped
    rcases bind_error.mp stopped with failed | ⟨_, _, later⟩
    · exact ⟨item, mem_cons_self, start, failed⟩
    · obtain ⟨other, mem, failed⟩ := ih later
      exact ⟨other, mem_cons_of_mem _ mem, failed⟩

inductive EndsAlike (related : α → β → Prop) : Except ε α → Except ε β → Prop where
  | ok {first : α} {second : β} (holds : related first second)
      : EndsAlike related (.ok first) (.ok second)
  | error (wrong : ε) : EndsAlike related (.error wrong) (.error wrong)

/-- Sequences of steps that end alike end alike. -/
theorem EndsAlike.bind {α' : Type} {related : α → β → Prop} {after : α' → β' → Prop}
    {second : Except ε β} {next : α → Except ε α'} {next' : β → Except ε β'}
    (alike : EndsAlike related first second)
    (steps : ∀ left right, related left right → EndsAlike after (next left) (next' right))
    : EndsAlike after (first >>= next) (second >>= next') := by
  cases alike with
  | ok holds => exact steps _ _ holds
  | error wrong => exact .error wrong

/-- A common first step does not matter. -/
theorem EndsAlike.bind_same {γ : Type} {after : β → β' → Prop} (first : Except ε γ)
    {next : γ → Except ε β} {next' : γ → Except ε β'}
    (steps : ∀ value, first = .ok value → EndsAlike after (next value) (next' value))
    : EndsAlike after (first >>= next) (first >>= next') := by
  cases first with
  | ok value => exact steps value rfl
  | error wrong => exact .error wrong

theorem isOk_iff {result : Except ε α} : result.isOk = true ↔ ∃ value, result = .ok value := by
  cases result with
  | ok value => exact ⟨fun _ => ⟨value, rfl⟩, fun _ => rfl⟩
  | error error => exact ⟨nofun, fun ⟨_, wrong⟩ => nomatch wrong⟩

/-- Mapping succeeds with the results of its items, one for each. -/
theorem mapM_some {f : α → Option β}
    : items.mapM f = some results
      ↔ Forall₂ (fun item result => f item = some result) items results := by
  induction items generalizing results with
  | nil => simp [eq_comm]
  | cons item rest ih =>
    simp only [mapM_cons, Option.bind_eq_bind, Option.bind_eq_some_iff, Option.pure_def,
      Option.some.injEq, ih, forall₂_cons_left_iff]
    constructor
    · rintro ⟨first, found, others, mapped, rfl⟩
      exact ⟨first, others, found, mapped, rfl⟩
    · rintro ⟨first, others, found, mapped, rfl⟩
      exact ⟨first, found, others, mapped, rfl⟩

/-- Mapping succeeds if every item does. -/
theorem mapM_total {f : α → Option β} (each : ∀ item ∈ items, ∃ result, f item = some result)
    : ∃ results, items.mapM f = some results := by
  induction items with
  | nil => exact ⟨[], rfl⟩
  | cons item rest ih =>
    obtain ⟨first, found⟩ := each item mem_cons_self
    obtain ⟨others, mapped⟩ := ih fun other mem => each other (mem_cons_of_mem _ mem)
    exact ⟨first :: others, by simp [found, mapped]⟩

theorem mapM_ok
    : items.mapM f = .ok results
      ↔ Forall₂ (fun item result => f item = .ok result) items results := by
  induction items generalizing results with
  | nil =>
    rw [forall₂_nil_left_iff]
    exact ⟨fun done => (Except.ok.inj done).symm, fun same => same ▸ rfl⟩
  | cons item rest ih =>
    rw [mapM_cons, forall₂_cons_left_iff]
    simp only [bind_ok, ih]
    constructor
    · rintro ⟨first, found, others, mapped, done⟩
      exact ⟨first, others, found, mapped, (Except.ok.inj done).symm⟩
    · rintro ⟨first, others, found, mapped, rfl⟩
      exact ⟨first, found, others, mapped, rfl⟩

theorem map_isOk (f : α → β) (result : Except ε α) : (result.map f).isOk = result.isOk := by
  cases result <;> rfl

/-- What is made of a result does not decide whether there is one. -/
theorem bind_pure_isOk (f : α → β) (result : Except ε α)
    : (result >>= fun value => pure (f value)).isOk = result.isOk := by
  cases result <;> rfl

/-- Mapping succeeds exactly if every item does. -/
theorem mapM_isOk : (items.mapM f).isOk = items.all fun item => (f item).isOk := by
  induction items with
  | nil => rfl
  | cons item rest ih =>
    rw [mapM_cons, all_cons, ← ih]
    cases f item with
    | error wrong => rfl
    | ok first => cases rest.mapM f <;> rfl

/-- A mapping that fails fails on one of its items. -/
theorem mapM_error (failed : items.mapM f = .error error)
    : ∃ item ∈ items, f item = .error error := by
  induction items with
  | nil => cases failed
  | cons item rest ih =>
    rw [mapM_cons, bind_error] at failed
    rcases failed with first | ⟨_, _, failed⟩
    · exact ⟨item, mem_cons_self, first⟩
    · rcases bind_error.mp failed with later | ⟨_, _, impossible⟩
      · obtain ⟨other, mem, same⟩ := ih later
        exact ⟨other, mem_cons_of_mem _ mem, same⟩
      · cases impossible

theorem forall₂_mem_right (related : Forall₂ relation items results)
    (mem : result ∈ results)
    : ∃ item ∈ items, relation item result := by
  induction related with
  | nil => simp at mem
  | cons first rest ih =>
    rcases mem_cons.mp mem with rfl | later
    · exact ⟨_, mem_cons_self, first⟩
    · obtain ⟨item, inside, holds⟩ := ih later
      exact ⟨item, mem_cons_of_mem _ inside, holds⟩

theorem forall₂_mem_left (related : Forall₂ relation items results) {item : α}
    (mem : item ∈ items)
    : ∃ result ∈ results, relation item result :=
  forall₂_mem_right related.flip mem

/-- The item of a result, with the items before and behind it. -/
theorem forall₂_split_right {before after : List β}
    (related : Forall₂ relation items (before ++ result :: after))
    : ∃ first item rest,
        items = first ++ item :: rest
        ∧ Forall₂ relation first before
        ∧ relation item result
        ∧ Forall₂ relation rest after := by
  induction before generalizing items with
  | nil =>
    obtain ⟨item, rest, holds, others, rfl⟩ := forall₂_cons_right_iff.mp related
    exact ⟨[], item, rest, rfl, .nil, holds, others⟩
  | cons head before ih =>
    obtain ⟨start, others, holds, remaining, rfl⟩ := forall₂_cons_right_iff.mp related
    obtain ⟨first, item, rest, rfl, ahead, chosen, behind⟩ := ih remaining
    exact ⟨start :: first, item, rest, rfl, .cons holds ahead, chosen, behind⟩

/-- Results that keep a key of their items stand under the keys of the items. -/
theorem forall₂_map_eq {κ : Type} (related : Forall₂ relation items results) {left : α → κ}
    {right : β → κ} (keeps : ∀ item result, relation item result → right result = left item)
    : results.map right = items.map left := by
  induction related with
  | nil => rfl
  | cons first rest ih => rw [map_cons, map_cons, ih, keeps _ _ first]

end Library
