import K8sClue.Library.Keyed
import Mathlib.Data.List.Induction
import Mathlib.Data.List.Perm.Basic
import Mathlib.Data.Set.Function

/-! Upserts into a table with two keys.
A record is merged into the one that shares its key. Where there is none it is added, unless
another record already has its identifier: then the write fails. Nothing is ever deleted, so what
a batch of writes leaves of a part of the table is what it would leave of an empty one only if it
writes every key of that part again.
-/

namespace Library.Keyed

open List

variable {α β κ ι : Type} {key : α → κ} {rows news : List α} {row : α}

/-- Two tables hold the same records, as far as `view` tells. -/
def Agree (view : α → β) (left right : List α) : Prop := (left.map view).Perm (right.map view)

variable [DecidableEq κ] [DecidableEq ι] {ident : α → ι} {merge : α → α → α} {wanted : κ}

def write (key : α → κ) (ident : α → ι) (merge : α → α → α) (rows : List α) (row : α)
    : Option (List α) :=
  if (find key rows (key row)).isNone && (find ident rows (ident row)).isSome then none
  else some (put key merge rows row)

/-- Write records one after the other; the first failure ends the batch. -/
def writeAll (key : α → κ) (ident : α → ι) (merge : α → α → α) (rows news : List α)
    : Option (List α) :=
  news.foldlM (write key ident merge) rows

theorem writeAll_cons (rest : List α)
    : writeAll key ident merge rows (row :: rest)
      = (write key ident merge rows row).bind
          (fun next => writeAll key ident merge next rest) := rfl

theorem writeAll_append (first second : List α)
    : writeAll key ident merge rows (first ++ second)
      = (writeAll key ident merge rows first).bind
          (fun next => writeAll key ident merge next second) := foldlM_append

/-- A batch that succeeds writes all its records. -/
theorem putAll_of_writeAll {next : List α} (done : writeAll key ident merge rows news = some next)
    : putAll key merge rows news = next := by
  induction news generalizing rows with
  | nil => exact Option.some.inj done
  | cons first rest ih =>
    rw [writeAll_cons, Option.bind_eq_some_iff] at done
    obtain ⟨middle, now, later⟩ := done
    rw [write] at now
    split at now
    · cases now
    · rw [putAll, foldl_cons, Option.some.inj now]
      exact ih later

section Identified

variable {name : κ → ι}

/-- The keys of a table are told apart by their names. -/
def Apart (key : α → κ) (name : κ → ι) (rows : List α) : Prop :=
  Set.InjOn name {wanted | wanted ∈ rows.map key}

omit [DecidableEq κ] [DecidableEq ι] in
theorem Apart.subset {other : List α} (apart : Apart key name rows)
    (within : ∀ wanted ∈ other.map key, wanted ∈ rows.map key)
    : Apart key name other :=
  Set.InjOn.mono within apart

variable (keeps : ∀ old row, key old = key row → key (merge old row) = key row)

include keeps in
omit [DecidableEq ι] in
theorem apart_put : Apart key name (put key merge rows row) ↔ Apart key name (row :: rows) := by
  have keys : ∀ wanted, wanted ∈ (put key merge rows row).map key
      ↔ wanted ∈ (row :: rows).map key := by
    intro wanted
    rw [mem_keys_put keeps, map_cons, mem_cons, or_comm]
  exact ⟨fun apart => apart.subset fun wanted => (keys wanted).mpr,
    fun apart => apart.subset fun wanted => (keys wanted).mp⟩

/-- Every record is identified by the name of its key. -/
def Named (key : α → κ) (ident : α → ι) (name : κ → ι) (rows : List α) : Prop :=
  ∀ row ∈ rows, ident row = name (key row)

/-- A write succeeds exactly if the name of its key is told apart from the names in the table. -/
theorem write_isSome_iff (named : Named key ident name rows) (apart : Apart key name rows)
    (new : ident row = name (key row))
    : (write key ident merge rows row).isSome ↔ Apart key name (row :: rows) := by
  rw [write]
  cases known : find key rows (key row) with
  | some other =>
    obtain ⟨mem, same⟩ := mem_of_find known
    refine iff_of_true rfl (apart.subset ?_)
    intro wanted inside
    rcases mem_cons.mp inside with here | before
    · exact here ▸ same ▸ mem_map_of_mem mem
    · exact before
  | none =>
    rw [find_eq_none] at known
    cases taken : find ident rows (ident row) with
    | some other =>
      obtain ⟨mem, same⟩ := mem_of_find taken
      refine iff_of_false nofun fun free => known other mem ?_
      refine free (mem_cons_of_mem _ (mem_map_of_mem mem)) mem_cons_self ?_
      rw [← named other mem, same, new]
    | none =>
      refine iff_of_true rfl ?_
      rw [find_eq_none] at taken
      have cross : ∀ other ∈ rows, name (key other) ≠ name (key row) := by
        intro other mem
        rw [← named other mem, ← new]
        exact taken other mem
      intro left leftIn right rightIn same
      rcases mem_cons.mp leftIn with rfl | leftIn
      · rcases mem_cons.mp rightIn with rfl | rightIn
        · rfl
        · obtain ⟨other, mem, rfl⟩ := mem_map.mp rightIn
          exact absurd same.symm (cross other mem)
      · rcases mem_cons.mp rightIn with rfl | rightIn
        · obtain ⟨other, mem, rfl⟩ := mem_map.mp leftIn
          exact absurd same (cross other mem)
        · exact apart leftIn rightIn same

variable (names : ∀ old row, key old = key row → ident (merge old row) = ident old)
include keeps names

omit [DecidableEq ι] in
theorem Named.put (named : Named key ident name rows) (new : ident row = name (key row))
    : Named key ident name (put key merge rows row) := by
  intro next mem
  rcases mem_put_cases mem with before | rfl | ⟨old, before, same, rfl⟩
  · exact named next before
  · exact new
  · rw [names old row same, keeps old row same, ← same]
    exact named old before

/-- A batch succeeds exactly if all keys that the table then has are told apart by their names.
Witness: induction over the batch; after each write the keys are the old ones and the new one.
-/
theorem writeAll_isSome_iff (named : Named key ident name rows) (apart : Apart key name rows)
    (new : Named key ident name news)
    : (writeAll key ident merge rows news).isSome ↔ Apart key name (news ++ rows) := by
  induction news generalizing rows with
  | nil => exact iff_of_true rfl apart
  | cons first rest ih =>
    have head := new first mem_cons_self
    have tail : Named key ident name rest :=
      fun row mem => new row (mem_cons_of_mem _ mem)
    rw [writeAll_cons]
    cases next : write key ident merge rows first with
    | none =>
      refine iff_of_false Bool.false_ne_true fun all => ?_
      have passes : (write key ident merge rows first).isSome :=
        (write_isSome_iff named apart head).mpr (all.subset (by grind))
      rw [next] at passes
      cases passes
    | some middle =>
      have passes : (write key ident merge rows first).isSome := by rw [next]; rfl
      have put_eq : put key merge rows first = middle := by
        rw [write] at next
        split at next
        · cases next
        · exact Option.some.inj next
      have still : Apart key name middle :=
        put_eq ▸ (apart_put keeps).mpr ((write_isSome_iff named apart head).mp passes)
      have keys : ∀ wanted, wanted ∈ (rest ++ middle).map key
          ↔ wanted ∈ (first :: rest ++ rows).map key := by
        intro wanted
        rw [← put_eq, map_append, mem_append, mem_keys_put keeps]
        simp only [map_append, map_cons, mem_cons, mem_append]
        tauto
      rw [Option.bind_some, ih (put_eq ▸ named.put keeps names head) still tail]
      exact ⟨fun all => all.subset fun wanted => (keys wanted).mpr,
        fun all => all.subset fun wanted => (keys wanted).mp⟩

end Identified

section Views

variable {view : α → β} {proper : α → Prop}
  (keeps : ∀ old row, key old = key row → key (merge old row) = key row)
  (shows : ∀ old row, proper old → proper row → key old = key row
    → proper (merge old row) ∧ view (merge old row) = view row)
include keeps shows

omit keeps in
theorem proper_putAll (old : ∀ row ∈ rows, proper row) (new : ∀ row ∈ news, proper row)
    : ∀ row ∈ putAll key merge rows news, proper row := by
  induction news generalizing rows with
  | nil => exact old
  | cons first rest ih =>
    refine @ih (put key merge rows first) ?_
      (fun row mem => new row (mem_cons_of_mem _ mem))
    intro row mem
    rcases mem_put_cases mem with before | rfl | ⟨known, before, same, rfl⟩
    · exact old row before
    · exact new _ mem_cons_self
    · exact (shows known first (old known before) (new first mem_cons_self) same).1

/-- Of every key that a batch writes the last record shows; the other keys stay as they were.
Witness: induction from the end of the batch, where the last record is written.
-/
theorem view_putAll (old : ∀ row ∈ rows, proper row) (new : ∀ row ∈ news, proper row)
    : (find key (putAll key merge rows news) wanted).map view
      = ((find key news.reverse wanted).map view).or ((find key rows wanted).map view) := by
  induction news using List.reverseRecOn with
  | nil => simp [putAll]
  | append_singleton earlier last ih =>
    have before : ∀ row ∈ earlier, proper row :=
      fun row mem => new row (mem_append_left _ mem)
    have after := proper_putAll shows old before
    have whole : putAll key merge rows (earlier ++ [last])
        = put key merge (putAll key merge rows earlier) last := by simp [putAll]
    rw [whole, find_put keeps, reverse_append, reverse_singleton,
      singleton_append, find_cons]
    by_cases same : key last = wanted
    · rw [if_pos same, if_pos same, Option.map_some, Option.map_some]
      cases found : find key (putAll key merge rows earlier) wanted with
      | none => rfl
      | some known =>
        obtain ⟨mem, here⟩ := mem_of_find found
        exact congrArg some (shows known last (after known mem) (new last (by simp))
          (here.trans same.symm)).2
    · rw [if_neg same, if_neg same, ih before]

end Views

/-- Tables with one record for each key agree exactly if the same shows under every key. -/
theorem agree_iff {view : α → β} {left right : List α} {keyOf : β → κ}
    (told : ∀ row, keyOf (view row) = key row)
    (uniqueLeft : Unique key left) (uniqueRight : Unique key right)
    : Agree view left right
      ↔ ∀ wanted, (find key left wanted).map view = (find key right wanted).map view := by
  have nodup {table : List α} (unique : Unique key table) : (table.map view).Nodup := by
    refine Nodup.of_map keyOf ?_
    have same : (table.map view).map keyOf = table.map key := by simp [told]
    rw [same]
    exact unique
  have shown {table : List α} (unique : Unique key table) (image : β)
      : image ∈ table.map view ↔ (find key table (keyOf image)).map view = some image := by
    rw [mem_map, Option.map_eq_some_iff]
    refine exists_congr fun row => ?_
    rw [unique.find_iff]
    constructor
    · rintro ⟨mem, rfl⟩
      exact ⟨⟨mem, (told row).symm⟩, rfl⟩
    · rintro ⟨⟨mem, _⟩, same⟩
      exact ⟨mem, same⟩
  have under {table : List α} (wanted : κ) (image : β)
      (found : (find key table wanted).map view = some image) : keyOf image = wanted := by
    obtain ⟨row, here, rfl⟩ := Option.map_eq_some_iff.mp found
    rw [told, (mem_of_find here).2]
  rw [Agree, perm_ext_iff_of_nodup (nodup uniqueLeft) (nodup uniqueRight)]
  simp only [shown uniqueLeft, shown uniqueRight]
  constructor
  · intro same wanted
    ext image
    constructor
    · intro found
      have here := under wanted image found
      subst here
      exact (same image).mp found
    · intro found
      have here := under wanted image found
      subst here
      exact (same image).mpr found
  · intro same image
    rw [same]

end Library.Keyed
