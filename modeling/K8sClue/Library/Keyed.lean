import Mathlib.Data.List.Nodup

/-! Tables of records with a key.
Writing a record merges it into the record that has its key, or adds it behind the others. A
table is read through `find`; the lemmas say what each write does to what is found.
-/

namespace Library.Keyed

open List

variable {α κ : Type} {key : α → κ} {rows news : List α} {row : α}

def Unique (key : α → κ) (rows : List α) : Prop := (rows.map key).Nodup

theorem Unique.tail {first : α} (unique : Unique key (first :: rows)) : Unique key rows :=
  (nodup_cons.mp unique).2

theorem Unique.head_ne {first : α} (unique : Unique key (first :: rows)) (mem : row ∈ rows)
    : key row ≠ key first := by
  intro same
  exact (nodup_cons.mp unique).1 (same ▸ mem_map_of_mem mem)

theorem Unique.filter (unique : Unique key rows) (keep : α → Bool)
    : Unique key (rows.filter keep) :=
  unique.sublist (filter_sublist.map key)

variable {change : α → α}

theorem Unique.map (unique : Unique key rows) (kept : ∀ row, key (change row) = key row)
    : Unique key (rows.map change) := by
  have same : (rows.map change).map key = rows.map key := by simp [kept]
  rw [Unique, same]
  exact unique

theorem Unique.concat (unique : Unique key rows) (free : ∀ other ∈ rows, key other ≠ key row)
    : Unique key (rows ++ [row]) := by
  rw [Unique, map_append, nodup_append_comm]
  exact nodup_cons.mpr ⟨by simpa using free, unique⟩

variable [DecidableEq κ]

def find (key : α → κ) (rows : List α) (wanted : κ) : Option α :=
  rows.find? (fun row => key row = wanted)

/-- Merge a record into the one with its key, or add it. -/
def put (key : α → κ) (merge : α → α → α) : List α → α → List α
  | [], row => [row]
  | old :: rest, row =>
    if key old = key row then merge old row :: rest else old :: put key merge rest row

def putAll (key : α → κ) (merge : α → α → α) (rows news : List α) : List α :=
  news.foldl (put key merge) rows

/-- One record for each key: the last one, where its key first occurs. -/
def latest (key : α → κ) (rows : List α) : List α := putAll key (fun _ row => row) [] rows

variable {merge : α → α → α} {wanted : κ}

@[simp] theorem find_nil : find key [] wanted = none := rfl

theorem find_cons (row : α) (rest : List α)
    : find key (row :: rest) wanted
      = if key row = wanted then some row else find key rest wanted := by
  by_cases same : key row = wanted <;> simp [find, same]

theorem find_append (first second : List α)
    : find key (first ++ second) wanted
      = (find key first wanted).or (find key second wanted) := find?_append

theorem mem_of_find (found : find key rows wanted = some row) : row ∈ rows ∧ key row = wanted :=
  ⟨mem_of_find?_eq_some found, by simpa using find?_some found⟩

theorem find_eq_none : find key rows wanted = none ↔ ∀ row ∈ rows, key row ≠ wanted := by
  simp [find]

theorem find_isSome : (find key rows wanted).isSome ↔ ∃ row ∈ rows, key row = wanted := by
  simp [find]

/-- In a table without repeated keys every record is found under its key. -/
theorem Unique.find_eq (unique : Unique key rows) (mem : row ∈ rows)
    : find key rows (key row) = some row := by
  induction rows with
  | nil => simp at mem
  | cons first rest ih =>
    rw [find_cons]
    rcases mem_cons.mp mem with rfl | later
    · exact if_pos rfl
    · rw [if_neg (Ne.symm (unique.head_ne later)), ih unique.tail later]

theorem Unique.find_iff (unique : Unique key rows)
    : find key rows wanted = some row ↔ row ∈ rows ∧ key row = wanted := by
  refine ⟨mem_of_find, ?_⟩
  rintro ⟨mem, rfl⟩
  exact unique.find_eq mem

/-- Two records with one key are the same record. -/
theorem Unique.eq_of_key {first second : α} (unique : Unique key rows) (left : first ∈ rows)
    (right : second ∈ rows) (same : key first = key second)
    : first = second :=
  Option.some.inj ((unique.find_eq left).symm.trans (same ▸ unique.find_eq right))

/-- Keeping some records of a table keeps what is found of them. -/
theorem Unique.find_filter (unique : Unique key rows) (keep : α → Bool)
    : find key (rows.filter keep) wanted = (find key rows wanted).filter keep := by
  ext row
  rw [(unique.filter keep).find_iff, mem_filter, Option.filter_eq_some_iff, unique.find_iff]
  tauto

/-- Rewriting records without touching their keys. -/
theorem find_map (kept : ∀ row, key (change row) = key row)
    : find key (rows.map change) wanted = (find key rows wanted).map change := by
  induction rows with
  | nil => rfl
  | cons first rest ih =>
    rw [map_cons, find_cons, find_cons, ih, kept]
    split <;> rfl

section Writes

variable (keeps : ∀ old row, key old = key row → key (merge old row) = key row)
include keeps

/-- What is found after one write. -/
theorem find_put
    : find key (put key merge rows row) wanted
      = if key row = wanted then
          some (match find key rows wanted with
            | some old => merge old row
            | none => row)
        else
          find key rows wanted := by
  induction rows with
  | nil => rw [put, find_cons]; rfl
  | cons first rest ih =>
    rw [put, find_cons]
    by_cases same : key first = key row
    · rw [if_pos same, find_cons, keeps _ _ same, same]
      split <;> rfl
    · rw [if_neg same, find_cons, ih]
      by_cases here : key first = wanted
      · have other : key row ≠ wanted := fun match_ => same (here.trans match_.symm)
        rw [if_pos here, if_neg other, if_pos here]
      · rw [if_neg here, if_neg here]

/-- The keys after one write. -/
theorem keys_put
    : (put key merge rows row).map key
      = if key row ∈ rows.map key then rows.map key else rows.map key ++ [key row] := by
  induction rows with
  | nil => rfl
  | cons first rest ih =>
    rw [put]
    by_cases same : key first = key row
    · simp [same, keeps _ _ same]
    · simp only [if_neg same, map_cons, ih, mem_cons, Ne.symm same, false_or]
      split <;> rfl

theorem mem_keys_put
    : wanted ∈ (put key merge rows row).map key ↔ wanted ∈ rows.map key ∨ wanted = key row := by
  rw [keys_put keeps]
  split
  next known => exact ⟨.inl, fun either => either.elim id (· ▸ known)⟩
  · simp

theorem Unique.put (unique : Unique key rows) : Unique key (put key merge rows row) := by
  rw [Unique, keys_put keeps]
  split
  · exact unique
  next fresh => simpa using Nodup.concat fresh unique

theorem Unique.putAll (unique : Unique key rows) : Unique key (putAll key merge rows news) := by
  induction news generalizing rows with
  | nil => exact unique
  | cons row rest ih => exact ih (unique.put keeps)

theorem mem_keys_putAll
    : wanted ∈ (putAll key merge rows news).map key
      ↔ wanted ∈ rows.map key ∨ wanted ∈ news.map key := by
  induction news generalizing rows with
  | nil => simp [putAll]
  | cons row rest ih =>
    rw [putAll, foldl_cons, ← putAll, ih, mem_keys_put keeps, map_cons, mem_cons]
    tauto

theorem forall_put {holds : α → Prop}
    (merged : key row = wanted → ∀ old, holds (merge old row) ↔ holds old ∧ holds row)
    : (∀ other ∈ put key merge rows row, key other = wanted → holds other)
      ↔ (∀ other ∈ rows, key other = wanted → holds other) ∧ (key row = wanted → holds row) := by
  induction rows with
  | nil => simp [put]
  | cons first rest ih =>
    rw [put, forall_mem_cons]
    by_cases same : key first = key row
    · rw [if_pos same, forall_mem_cons, keeps _ _ same, same]
      by_cases here : key row = wanted
      · simp only [here, forall_true_left, merged here]
        exact and_right_comm
      · simp [here]
    · rw [if_neg same, forall_mem_cons, ih, and_assoc]

/-- What a merge says of both records is said of all records of a key by the one that is left. -/
theorem forall_putAll {holds : α → Prop}
    (merged : ∀ row ∈ news, key row = wanted → ∀ old, holds (merge old row) ↔ holds old ∧ holds row)
    : (∀ row ∈ putAll key merge rows news, key row = wanted → holds row)
      ↔ (∀ row ∈ rows, key row = wanted → holds row)
        ∧ ∀ row ∈ news, key row = wanted → holds row := by
  induction news generalizing rows with
  | nil => simp [putAll]
  | cons first rest ih =>
    obtain ⟨here, later⟩ := forall_mem_cons.mp merged
    rw [putAll, foldl_cons, ← putAll, ih later, forall_put keeps here, forall_mem_cons,
      and_assoc]

/-- What is found after records with different keys are written. -/
theorem find_putAll (different : Unique key news)
    : find key (putAll key merge rows news) wanted
      = match find key news wanted, find key rows wanted with
        | some row, some old => some (merge old row)
        | some row, none => some row
        | none, found => found := by
  induction news generalizing rows with
  | nil => rfl
  | cons first rest ih =>
    rw [putAll, foldl_cons, ← putAll, ih different.tail, find_put keeps, find_cons]
    by_cases same : key first = wanted
    · have absent : find key rest wanted = none := by
        rw [find_eq_none]
        intro row mem here
        exact different.head_ne mem (here.trans same.symm)
      rw [absent, if_pos same, if_pos same]
      cases find key rows wanted <;> rfl
    · rw [if_neg same, if_neg same]

end Writes

variable {part : α → Bool}

theorem filter_put (merged : ∀ old row, part (merge old row) = part old)
    (agree : ∀ old ∈ rows, key old = key row → part old = part row)
    : (put key merge rows row).filter part
      = if part row then put key merge (rows.filter part) row else rows.filter part := by
  induction rows with
  | nil =>
    rw [filter_nil, put]
    cases inside : part row <;> simp [inside]
  | cons first rest ih =>
    have later := ih fun old mem => agree old (mem_cons_of_mem _ mem)
    rw [put]
    by_cases same : key first = key row
    · have alike := agree first mem_cons_self same
      cases inside : part row <;> simp [same, alike, inside, merged, put]
    · rw [if_neg same, filter_cons, filter_cons, later]
      cases part first <;> cases part row <;> simp [put, same]

/-- A record of the table after a write was there before, is the new one, or comes from both. -/
theorem mem_put_cases {other : α} (mem : other ∈ put key merge rows row)
    : other ∈ rows ∨ other = row ∨ ∃ old ∈ rows, key old = key row ∧ other = merge old row := by
  induction rows with
  | nil => exact .inr (.inl (by simpa [put] using mem))
  | cons first rest ih =>
    rw [put] at mem
    by_cases same : key first = key row
    · rw [if_pos same] at mem
      rcases mem_cons.mp mem with merged | later
      · exact .inr (.inr ⟨first, mem_cons_self, same, merged⟩)
      · exact .inl (mem_cons_of_mem _ later)
    · rw [if_neg same] at mem
      rcases mem_cons.mp mem with here | later
      · exact .inl (here ▸ mem_cons_self)
      · rcases ih later with before | now | ⟨old, before, found⟩
        · exact .inl (mem_cons_of_mem _ before)
        · exact .inr (.inl now)
        · exact .inr (.inr ⟨old, mem_cons_of_mem _ before, found⟩)

/-- Records of one part are written to that part of the table.
Witness: induction over the new records; what one of them is merged with stays in its part.
-/
theorem filter_putAll {inside : Bool} (merged : ∀ old row, part (merge old row) = part old)
    (uniform : ∀ row ∈ news, part row = inside)
    (agree : ∀ old ∈ rows, ∀ row ∈ news, key old = key row → part old = inside)
    : (putAll key merge rows news).filter part
      = if inside then putAll key merge (rows.filter part) news else rows.filter part := by
  induction news generalizing rows with
  | nil => cases inside <;> rfl
  | cons first rest ih =>
    have head := uniform first mem_cons_self
    have tail {row : α} (mem : row ∈ rest) : row ∈ first :: rest := mem_cons_of_mem _ mem
    have later := @ih (put key merge rows first) (fun row mem => uniform row (tail mem)) (by
      intro other mem row new same
      rcases mem_put_cases mem with before | rfl | ⟨old, before, key, rfl⟩
      · exact agree other before row (tail new) same
      · exact head
      · rw [merged]
        exact agree old before first mem_cons_self key)
    rw [putAll, foldl_cons, ← putAll, later, filter_put merged]
    · cases inside <;> simp [head, putAll]
    · intro old before same
      rw [head]
      exact agree old before first mem_cons_self same

theorem put_keeping
    : put key (fun known _ => known) rows row
      = if (find key rows (key row)).isSome then rows else rows ++ [row] := by
  induction rows with
  | nil => rfl
  | cons first rest ih =>
    rw [put, find_cons]
    by_cases same : key first = key row
    · rw [if_pos same, if_pos same]
      rfl
    · rw [if_neg same, ih]
      split <;> rfl

theorem subset_put_keeping : rows ⊆ put key (fun known _ => known) rows row := by
  rw [put_keeping]
  split
  · exact Subset.refl _
  · exact subset_append_left _ _

theorem mem_put_keeping {other : α} (mem : other ∈ put key (fun known _ => known) rows row)
    : other ∈ rows ∨ other = row := by
  rw [put_keeping] at mem
  split at mem
  · exact .inl mem
  · simpa using mem

/-- The known records stay as they are, and some of the new ones stand behind them. -/
theorem putAll_keeping
    : ∃ added, putAll key (fun known _ => known) rows news = rows ++ added
        ∧ added.Sublist news := by
  induction news generalizing rows with
  | nil => exact ⟨[], (append_nil rows).symm, .slnil⟩
  | cons first rest ih =>
    rw [putAll, foldl_cons, ← putAll, put_keeping]
    split
    · obtain ⟨added, all, part⟩ := @ih rows
      exact ⟨added, all, part.cons first⟩
    · obtain ⟨added, all, part⟩ := @ih (rows ++ [first])
      exact ⟨first :: added, by simpa using all, part.cons_cons first⟩

theorem subset_putAll_keeping : rows ⊆ putAll key (fun known _ => known) rows news := by
  obtain ⟨added, all, _⟩ := @putAll_keeping α κ key rows news _
  rw [all]
  exact subset_append_left _ _

omit [DecidableEq κ] in
private theorem keeps_key (old row : α) (_ : key old = key row)
    : key ((fun _ next => next : α → α → α) old row) = key row := rfl

theorem unique_latest : Unique key (latest key rows) :=
  Unique.putAll keeps_key nodup_nil

theorem mem_keys_latest : wanted ∈ (latest key rows).map key ↔ wanted ∈ rows.map key := by
  rw [latest, mem_keys_putAll keeps_key]
  simp

/-- Where the later record replaces the earlier one, nothing else comes in. -/
theorem mem_of_mem_putAll {merge : α → α → α} (takes : ∀ old row, merge old row = row)
    (mem : row ∈ putAll key merge rows news)
    : row ∈ rows ∨ row ∈ news := by
  induction news generalizing rows with
  | nil => exact .inl mem
  | cons first rest ih =>
    rcases ih mem with before | later
    · rcases mem_put_cases before with old | rfl | ⟨old, _, _, rfl⟩
      · exact .inl old
      · exact .inr mem_cons_self
      · exact .inr (mem_cons.mpr (.inl (takes old first)))
    · exact .inr (mem_cons_of_mem _ later)

/-- The records that are kept are among those given. -/
theorem mem_of_mem_latest (mem : row ∈ latest key rows) : row ∈ rows := by
  simpa using mem_of_mem_putAll (fun _ _ => rfl) mem

/-- The keys that are kept stand in the order in which they first occur. -/
theorem keys_latest_sublist : ((latest key rows).map key).Sublist (rows.map key) := by
  have added : ∀ news held : List α,
      ((putAll key (fun _ later => later) held news).map key).Sublist
        (held.map key ++ news.map key) := by
    intro news
    induction news with
    | nil => exact fun held => by simp [putAll]
    | cons first rest ih =>
      intro held
      refine (ih _).trans ?_
      rw [keys_put keeps_key]
      split <;> simp
  simpa [latest] using added rows []

theorem put_of_fresh (fresh : ∀ old ∈ rows, key old ≠ key row)
    : put key merge rows row = rows ++ [row] := by
  induction rows with
  | nil => rfl
  | cons old rest ih =>
    obtain ⟨here, later⟩ := forall_mem_cons.mp fresh
    rw [put, if_neg here, ih later]
    rfl

/-- Records with different keys are all kept, in their order. -/
theorem latest_of_unique (unique : Unique key rows) : latest key rows = rows := by
  have added : ∀ (news held : List α), Unique key (held ++ news)
      → putAll key (fun _ next => next) held news = held ++ news := by
    intro news
    induction news with
    | nil => exact fun held _ => (append_nil held).symm
    | cons first rest ih =>
      intro held different
      have fresh := fun old mem => (pairwise_append.mp (pairwise_map.mp different)).2.2
        old mem first mem_cons_self
      rw [putAll, foldl_cons, ← putAll, put_of_fresh fresh, ih _ (by simpa using different)]
      simp
  exact added rows [] unique

/-- Which records are kept depends on their keys only. -/
theorem latest_map (kept : ∀ row, key (change row) = key row)
    : latest key (rows.map change) = (latest key rows).map change := by
  have put_map : ∀ (held : List α) (next : α),
      put key (fun _ later => later) (held.map change) (change next)
      = (put key (fun _ later => later) held next).map change := by
    intro held next
    induction held with
    | nil => rfl
    | cons old others ih =>
      simp only [map_cons, put, kept, ih]
      split <;> rfl
  have added : ∀ news held : List α,
      putAll key (fun _ later => later) (held.map change) (news.map change)
      = (putAll key (fun _ later => later) held news).map change := by
    intro news
    induction news with
    | nil => exact fun held => rfl
    | cons first rest ih =>
      intro held
      simp only [putAll, map_cons, foldl_cons, put_map] at ih ⊢
      exact ih _
  exact added rows []

end Library.Keyed
