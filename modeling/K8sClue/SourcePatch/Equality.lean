import K8sClue.SourcePatch.Objects

/-! Python's equality between documents that differ in the scalars of some paths.
A loaded document need not equal itself, since it may hold a `nan`; what is compared below
is known to equal itself.
-/

namespace K8sClue.SourcePatch

open Python

theorem lookup_congr {entries : Entries} {left right : PyScalar} (equal : left.eq right = true)
    : lookup entries left = lookup entries right := by
  have same : (fun entry : PyScalar × PyValue => entry.1.eq left)
      = fun entry => entry.1.eq right := by
    funext entry
    rw [Bool.eq_iff_iff]
    refine ⟨fun found => PyScalar.eq_trans found equal, fun found => ?_⟩
    exact PyScalar.eq_trans found (PyScalar.eq_swap left right ▸ equal)
  rw [lookup, lookup, same]

theorem lookup_mem {entries : Entries} {key : PyScalar} {value : PyValue}
    (found : lookup entries key = some value)
    : ∃ entry ∈ entries, entry.1.eq key = true ∧ entry.2 = value := by
  obtain ⟨entry, located, rfl⟩ := Option.map_eq_some_iff.mp found
  exact ⟨entry, List.mem_of_find?_eq_some located, by simpa using List.find?_some located, rfl⟩

variable {compare : PyScalar → PyScalar → Bool}

theorem eqByEntries_iff {entries others : Entries}
    : PyValue.eqByEntries compare entries others = true
      ↔ ∀ entry ∈ entries, PyValue.eqByEntry compare entry others = true := by
  induction entries with
  | nil => simp [PyValue.eqByEntries]
  | cons entry rest ih => simp [PyValue.eqByEntries, ih]

theorem eqByEntry_iff {entry : PyScalar × PyValue} {others : Entries}
    : PyValue.eqByEntry compare entry others = true
      ↔ ∃ other, lookup others entry.1 = some other
          ∧ entry.2.eqBy compare other = true := by
  obtain ⟨key, value⟩ := entry
  rw [PyValue.eqByEntry]
  cases lookup others key <;> simp

mutual

/-- Python's `==` between loaded values is transitive. -/
theorem eq_trans : ∀ {first second third : PyValue},
    first.eq second = true → second.eq third = true → first.eq third = true
  | .scalar _, .scalar _, .scalar _, left, right => PyScalar.eq_trans left right
  | .list _, .list _, .list _, left, right => eqByItems_trans left right
  | .dict first, .dict second, .dict third, left, right => by
    simp only [PyValue.eq, PyValue.eqBy, Bool.and_eq_true, beq_iff_eq] at left right ⊢
    exact ⟨left.1.trans right.1, eqByEntries_trans left.2 right.2⟩

theorem eqByItems_trans : ∀ {first second third : List PyValue},
    PyValue.eqByItems PyScalar.eq first second = true
    → PyValue.eqByItems PyScalar.eq second third = true
    → PyValue.eqByItems PyScalar.eq first third = true
  | [], [], [], _, _ => rfl
  | _ :: _, _ :: _, _ :: _, left, right => by
    simp only [PyValue.eqByItems, Bool.and_eq_true] at left right ⊢
    exact ⟨eq_trans left.1 right.1, eqByItems_trans left.2 right.2⟩

theorem eqByEntries_trans : ∀ {first second third : Entries},
    PyValue.eqByEntries PyScalar.eq first second = true
    → PyValue.eqByEntries PyScalar.eq second third = true
    → PyValue.eqByEntries PyScalar.eq first third = true
  | [], _, _, _, _ => by simp [PyValue.eqByEntries]
  | entry :: rest, second, third, left, right => by
    simp only [PyValue.eqByEntries, Bool.and_eq_true] at left ⊢
    exact ⟨eqByEntry_trans left.1 right, eqByEntries_trans left.2 right⟩

theorem eqByEntry_trans : ∀ {entry : PyScalar × PyValue} {second third : Entries},
    PyValue.eqByEntry PyScalar.eq entry second = true
    → PyValue.eqByEntries PyScalar.eq second third = true
    → PyValue.eqByEntry PyScalar.eq entry third = true
  | (key, value), second, third, left, right => by
    obtain ⟨middle, found, equal⟩ := eqByEntry_iff.mp left
    obtain ⟨entry, mem, sameKey, rfl⟩ := lookup_mem found
    obtain ⟨last, foundLast, equalLast⟩ := eqByEntry_iff.mp (eqByEntries_iff.mp right entry mem)
    refine eqByEntry_iff.mpr ⟨last, ?_, eq_trans equal equalLast⟩
    rw [← lookup_congr sameKey]
    exact foundLast

end

/-- No two keys of the entries are equal for Python. -/
def DifferentKeys (entries : Entries) : Prop :=
  entries.Pairwise (fun left right => left.1.eq right.1 = false)

instance (entries : Entries) : Decidable (DifferentKeys entries) :=
  inferInstanceAs (Decidable (List.Pairwise _ _))

mutual

/-- Every dictionary of the value has different keys, as Python's dictionaries have. -/
def uniqueKeys : PyValue → Bool
  | .scalar _ => true
  | .list items => uniqueKeysOfItems items
  | .dict entries => DifferentKeys entries && uniqueKeysOfEntries entries
termination_by structural value => value

def uniqueKeysOfItems : List PyValue → Bool
  | [] => true
  | item :: rest => uniqueKeys item && uniqueKeysOfItems rest
termination_by structural items => items

def uniqueKeysOfEntries : List (PyScalar × PyValue) → Bool
  | [] => true
  | entry :: rest => uniqueKeysOfEntry entry && uniqueKeysOfEntries rest
termination_by structural entries => entries

def uniqueKeysOfEntry : PyScalar × PyValue → Bool
  | (_, value) => uniqueKeys value
termination_by structural entry => entry

end

variable {items : List PyValue}

theorem uniqueKeys_list
    : uniqueKeys (.list items) = true ↔ ∀ item ∈ items, uniqueKeys item = true := by
  rw [uniqueKeys]
  induction items with
  | nil => simp [uniqueKeysOfItems]
  | cons item rest ih => simp [uniqueKeysOfItems, ih]

variable {child selected : PyValue} {edits : List Edit} {entries : Entries} {key : String}
  {path : List Segment} {root : PyValue} {selection : Option String}

theorem uniqueKeys_dict
    : uniqueKeys (.dict entries) = true
      ↔ DifferentKeys entries ∧ ∀ entry ∈ entries, uniqueKeys entry.2 = true := by
  have values : uniqueKeysOfEntries entries = true
      ↔ ∀ entry ∈ entries, uniqueKeys entry.2 = true := by
    induction entries with
    | nil => simp [uniqueKeysOfEntries]
    | cons entry rest ih =>
      obtain ⟨key, value⟩ := entry
      simp [uniqueKeysOfEntries, uniqueKeysOfEntry, ih]
  rw [uniqueKeys, Bool.and_eq_true, decide_eq_true_eq, values]

theorem setKey_keys {child : PyValue} (value : PyValue) (present : getKey entries key = some child)
    : (setKey entries key value).map Prod.fst = entries.map Prod.fst := by
  induction entries with
  | nil => simp [getKey] at present
  | cons entry rest ih =>
    by_cases match_ : entry.1.eq (.str key)
    · simp [setKey, match_]
    · have later : getKey rest key = some child := by
        simpa [getKey, lookup, match_] using present
      simp [setKey, match_, ih later]

theorem DifferentKeys.setKey {child value : PyValue} (different : DifferentKeys entries)
    (present : getKey entries key = some child)
    : DifferentKeys (SourcePatch.setKey entries key value) := by
  have keys := setKey_keys value present
  have onKeys : (entries.map Prod.fst).Pairwise (fun left right => left.eq right = false) :=
    List.pairwise_map.mpr different
  rw [← keys] at onKeys
  exact List.pairwise_map.mp onKeys

/-- The entries after setting a key: the new one, and the old ones of the other keys. -/
theorem DifferentKeys.mem_setKey {value : PyValue} (different : DifferentKeys entries)
    {entry : PyScalar × PyValue} (mem : entry ∈ SourcePatch.setKey entries key value)
    : entry = (.str key, value) ∨ (entry ∈ entries ∧ entry.1 ≠ .str key) := by
  induction entries with
  | nil => exact .inl (by simpa [SourcePatch.setKey] using mem)
  | cons first rest ih =>
    obtain ⟨head, tail⟩ := List.pairwise_cons.mp different
    by_cases match_ : first.1.eq (.str key)
    · rw [SourcePatch.setKey, if_pos match_, List.mem_cons] at mem
      rcases mem with rfl | later
      · exact .inl (by rw [eq_str_iff.mp match_])
      · refine .inr ⟨List.mem_cons_of_mem _ later, fun same => ?_⟩
        have apart := head entry later
        rw [same, match_] at apart
        cases apart
    · rw [SourcePatch.setKey, if_neg match_, List.mem_cons] at mem
      rcases mem with rfl | later
      · exact .inr ⟨List.mem_cons_self, fun same => match_ (eq_str_iff.mpr same)⟩
      · rcases ih tail later with rfl | ⟨inRest, other⟩
        · exact .inl rfl
        · exact .inr ⟨List.mem_cons_of_mem _ inRest, other⟩

variable {left right : PyValue → PyValue}

theorem eq_list_map
    : (PyValue.list (items.map left)).eq (.list (items.map right)) = true
      ↔ ∀ item ∈ items, (left item).eq (right item) = true := by
  simp only [PyValue.eq, PyValue.eqBy]
  induction items with
  | nil => simp [PyValue.eqByItems]
  | cons item rest ih => simp [PyValue.eqByItems, ih]

theorem eq_list_self
    : (PyValue.list items).eq (.list items) = true ↔ ∀ item ∈ items, item.eq item = true := by
  simpa using @eq_list_map items id id

theorem eq_dict {left right : Entries}
    : (PyValue.dict left).eq (.dict right) = true
      ↔ left.length = right.length
        ∧ ∀ entry ∈ left, ∃ other, lookup right entry.1 = some other ∧ entry.2.eq other = true := by
  simp only [PyValue.eq, PyValue.eqBy, Bool.and_eq_true, beq_iff_eq, eqByEntries_iff, eqByEntry_iff]

theorem eq_child {left right : Entries} {child : PyValue}
    (equal : (PyValue.dict left).eq (.dict right) = true) (present : getKey left key = some child)
    : ∃ other, getKey right key = some other ∧ child.eq other = true := by
  obtain ⟨entry, mem, sameKey, rfl⟩ := lookup_mem present
  obtain ⟨other, found, same⟩ := (eq_dict.mp equal).2 entry mem
  exact ⟨other, (lookup_congr sameKey).symm.trans found, same⟩

theorem self_child {child : PyValue} (self : (PyValue.dict entries).eq (.dict entries) = true)
    (present : getKey entries key = some child)
    : child.eq child = true := by
  obtain ⟨other, found, same⟩ := eq_child self present
  rwa [← Option.some.inj (present.symm.trans found)] at same

/-- What a list has for each of its items, a child has for the selected one. -/
theorem of_selected {holds : PyValue → Prop} (whole : holds child)
    (each : ∀ items, holds (.list items) → ∀ item ∈ items, holds item)
    (chosen : selectItem child selection = .ok selected)
    : holds selected := by
  rcases selectItem_ok.mp chosen with ⟨rfl, rfl⟩ | ⟨name, items, rfl, rfl, unique⟩
  · exact whole
  · exact each items whole selected
      (List.mem_of_mem_filter (unique ▸ List.mem_singleton_self selected))

theorem self_selected (self : child.eq child = true)
    (chosen : selectItem child selection = .ok selected)
    : selected.eq selected = true :=
  @of_selected _ _ _ (fun value => value.eq value = true) self (fun _ => eq_list_self.mp) chosen

/-- An update of the selected item, compared with another one. -/
theorem updateItem_eq (self : child.eq child = true)
    (chosen : selectItem child selection = .ok selected)
    (equal : (left selected).eq (right selected) = true)
    : (updateItem left selection child).eq (updateItem right selection child) = true := by
  rcases selectItem_ok.mp chosen with ⟨rfl, rfl⟩ | ⟨name, items, rfl, rfl, unique⟩
  · exact equal
  · refine eq_list_map.mpr fun item mem => ?_
    by_cases named : isNamed name item
    · simpa [selected_named unique, named_selected unique mem named] using equal
    · simpa [named] using eq_list_self.mp self item mem

theorem uniqueKeys_child {child : PyValue} (unique : uniqueKeys (.dict entries) = true)
    (present : getKey entries key = some child)
    : uniqueKeys child = true := by
  obtain ⟨entry, mem, _, rfl⟩ := lookup_mem present
  exact (uniqueKeys_dict.mp unique).2 entry mem

theorem uniqueKeys_selected (unique : uniqueKeys child = true)
    (chosen : selectItem child selection = .ok selected)
    : uniqueKeys selected = true :=
  @of_selected _ _ _ (uniqueKeys · = true) unique (fun _ => uniqueKeys_list.mp) chosen

theorem uniqueKeys_updateItem {update : PyValue → PyValue} (unique : uniqueKeys child = true)
    (chosen : selectItem child selection = .ok selected)
    (updated : uniqueKeys (update selected) = true)
    : uniqueKeys (updateItem update selection child) = true := by
  rcases selectItem_ok.mp chosen with ⟨rfl, rfl⟩ | ⟨name, items, rfl, rfl, found⟩
  · exact updated
  · refine uniqueKeys_list.mpr (List.forall_mem_map.mpr fun item mem => ?_)
    by_cases named : isNamed name item
    · simpa [selected_named found, named_selected found mem named] using updated
    · simpa [named] using uniqueKeys_list.mp unique item mem

theorem uniqueKeys_replaceAt (value : PyScalar) (unique : uniqueKeys root = true)
    (holds : HoldsScalar root path)
    : uniqueKeys (replaceAt value root path) = true := by
  induction path generalizing root with
  | nil => rfl
  | cons segment rest ih =>
    obtain ⟨entries, child, selected, rfl, present, chosen, below⟩ := holds.cons
    have uniqueChild := uniqueKeys_child unique present
    obtain ⟨different, uniqueValues⟩ := uniqueKeys_dict.mp unique
    rw [replaceAt_cons present]
    refine uniqueKeys_dict.mpr ⟨different.setKey present, ?_⟩
    intro entry mem
    rcases different.mem_setKey mem with rfl | ⟨inEntries, _⟩
    · exact uniqueKeys_updateItem uniqueChild chosen
        (ih (uniqueKeys_selected uniqueChild chosen) below)
    · exact uniqueValues entry inEntries

/-- A document that equals itself gives equal documents with two equal scalars. -/
theorem replaceAt_eq {first second : PyScalar} (self : root.eq root = true)
    (unique : uniqueKeys root = true) (holds : HoldsScalar root path)
    (equal : first.eq second = true)
    : (replaceAt first root path).eq (replaceAt second root path) = true := by
  induction path generalizing root with
  | nil => exact equal
  | cons segment rest ih =>
    obtain ⟨entries, child, selected, rfl, present, chosen, below⟩ := holds.cons
    have selfChild := self_child self present
    have uniqueChild := uniqueKeys_child unique present
    have updated := @updateItem_eq _ _ _ (fun inner => replaceAt first inner rest)
      (fun inner => replaceAt second inner rest) selfChild chosen
      (ih (self_selected selfChild chosen) (uniqueKeys_selected uniqueChild chosen) below)
    rw [replaceAt_cons present, replaceAt_cons present]
    refine eq_dict.mpr ⟨?_, ?_⟩
    · simpa using congrArg List.length ((setKey_keys _ present).trans (setKey_keys _ present).symm)
    intro entry mem
    rcases (uniqueKeys_dict.mp unique).1.mem_setKey mem with rfl | ⟨inEntries, other⟩
    · exact ⟨_, getKey_setKey_same _ _ _, updated⟩
    · obtain ⟨found, located, same⟩ := (eq_dict.mp self).2 entry inEntries
      exact ⟨found, (lookup_setKey_other _ _ other).trans located, same⟩

theorem self_replaceAll (self : root.eq root = true) (unique : uniqueKeys root = true)
    (independent : Independent root edits)
    (equal : ∀ edit ∈ edits, edit.desired.eq edit.desired = true)
    : (replaceAll root edits).eq (replaceAll root edits) = true := by
  induction edits generalizing root with
  | nil => exact self
  | cons edit edits ih =>
    have holds := independent.holds edit List.mem_cons_self
    exact ih (replaceAt_eq self unique holds (equal edit List.mem_cons_self))
      (uniqueKeys_replaceAt edit.desired unique holds) independent.tail
      (fun other mem => equal other (List.mem_cons_of_mem _ mem))

theorem uniqueKeys_replaceAll (unique : uniqueKeys root = true)
    (independent : Independent root edits)
    : uniqueKeys (replaceAll root edits) = true := by
  induction edits generalizing root with
  | nil => exact unique
  | cons edit edits ih =>
    exact ih (uniqueKeys_replaceAt edit.desired unique
      (independent.holds edit List.mem_cons_self)) independent.tail

/-- Edits to equal scalars give an equal document. -/
theorem eq_replaceAll (self : root.eq root = true) (unique : uniqueKeys root = true)
    (independent : Independent root edits)
    (equal : ∀ edit ∈ edits, ∃ held,
        objectValueAt root edit.path = .ok (.scalar held) ∧ held.eq edit.desired = true)
    : root.eq (replaceAll root edits) = true := by
  induction edits generalizing root with
  | nil => exact self
  | cons edit edits ih =>
    obtain ⟨held, found, same⟩ := equal edit List.mem_cons_self
    have holds : HoldsScalar root edit.path := ⟨held, found⟩
    have selfDesired : edit.desired.eq edit.desired = true :=
      PyScalar.eq_trans (PyScalar.eq_swap held edit.desired ▸ same) same
    have here := replaceAt_eq self unique holds same
    rw [replaceAt_self found] at here
    refine eq_trans here (ih (replaceAt_eq self unique holds selfDesired)
        (uniqueKeys_replaceAt edit.desired unique holds) independent.tail ?_)
    intro other mem
    obtain ⟨otherHeld, otherFound, otherSame⟩ := equal other (List.mem_cons_of_mem _ mem)
    exact ⟨otherHeld, (replaceAt_apart edit.desired holds otherFound
      (independent.keeps edit List.mem_cons_self) (independent.ne_of_mem mem)).1, otherSame⟩

/-- Edits that put back what a path holds change nothing. -/
theorem replaceAll_self
    (holds : ∀ edit ∈ edits, objectValueAt root edit.path = .ok (.scalar edit.desired))
    : replaceAll root edits = root := by
  induction edits with
  | nil => rfl
  | cons edit edits ih =>
    rw [replaceAll_cons, replaceAt_self (holds edit List.mem_cons_self)]
    exact ih (fun other mem => holds other (List.mem_cons_of_mem _ mem))

/-- An edit may be made last. -/
theorem Independent.last {edit : Edit} (independent : Independent root (edit :: edits))
    : replaceAll root (edit :: edits)
      = replaceAt edit.desired (replaceAll root edits) edit.path := by
  rw [independent.replaceAll_perm (List.perm_append_singleton edit edits).symm, replaceAll,
    List.foldl_append]
  rfl

/-- The last of two edits at each path counts.
Witness: induction over both lists; the two edits of one path are made one after the other.
-/
theorem replaceAll_replaceAll {edits others : List Edit} (independent : Independent root edits)
    (samePaths : edits.map Edit.path = others.map Edit.path)
    : replaceAll (replaceAll root edits) others = replaceAll root others := by
  induction edits generalizing root others with
  | nil =>
    rfl
  | cons edit edits ih =>
    cases others with
    | nil => simp at samePaths
    | cons other rest =>
    obtain ⟨samePath, restPaths⟩ := List.cons.inj samePaths
    have again : Independent root (other :: edits) := independent.of_paths
      (by rw [List.map_cons, List.map_cons, samePath])
    obtain ⟨absent, distinct⟩ := List.nodup_cons.mp independent.distinct
    have later : Independent root edits :=
      ⟨fun edit mem => independent.holds edit (List.mem_cons_of_mem _ mem),
        fun edit mem => independent.keeps edit (List.mem_cons_of_mem _ mem), distinct⟩
    obtain ⟨held, found⟩ := independent.holds edit List.mem_cons_self
    have holds : HoldsScalar (replaceAll root edits) edit.path :=
      ⟨held, later.replaceAll_other absent found⟩
    rw [replaceAll_cons, independent.last, ← samePath, replaceAt_replaceAt _ _ holds
      (independent.keeps edit List.mem_cons_self), samePath, ← again.last]
    exact ih again.tail restPaths

/-- Edits of the paths of independent edits are independent, in the document they leave. -/
theorem Independent.again {edits others : List Edit} (independent : Independent root edits)
    (samePaths : (edits.map Edit.path).Perm (others.map Edit.path))
    : Independent (replaceAll root edits) others := by
  have same : Independent (replaceAll root edits) edits :=
    ⟨fun edit mem => ⟨_, independent.replaceAll_edit mem⟩, independent.keeps,
      independent.distinct⟩
  exact same.of_paths samePaths

def scalarAt (root : PyValue) (path : List Segment) : PyScalar :=
  match objectValueAt root path with
  | .ok (.scalar held) => held
  | _ => .none

/-- A document equals itself if it does so with other scalars in place of scalars that equal
themselves.
Witness: putting the old scalars back is a replacement too.
-/
theorem self_of_replaceAll (self : (replaceAll root edits).eq (replaceAll root edits) = true)
    (unique : uniqueKeys root = true) (independent : Independent root edits)
    (equal : ∀ edit ∈ edits, ∀ held, objectValueAt root edit.path = .ok (.scalar held)
        → held.eq held = true)
    : root.eq root = true := by
  let restore := edits.map (fun edit => { edit with desired := scalarAt root edit.path })
  have samePaths : edits.map Edit.path = restore.map Edit.path := by
    simp only [restore, List.map_map]
    rfl
  have old : ∀ edit ∈ edits,
      objectValueAt root edit.path = .ok (.scalar (scalarAt root edit.path)) := by
    intro edit mem
    obtain ⟨held, found⟩ := independent.holds edit mem
    rw [scalarAt, found]
  have restored : replaceAll (replaceAll root edits) restore = root := by
    rw [replaceAll_replaceAll independent samePaths]
    refine replaceAll_self ?_
    intro other mem
    obtain ⟨edit, inEdits, rfl⟩ := List.mem_map.mp mem
    exact old edit inEdits
  rw [← restored]
  refine self_replaceAll self (uniqueKeys_replaceAll unique independent)
    (independent.again (List.Perm.of_eq samePaths)) ?_
  intro other mem
  obtain ⟨edit, inEdits, rfl⟩ := List.mem_map.mp mem
  exact equal edit inEdits _ (old edit inEdits)

theorem eq_list_at {left right : List PyValue} {index : Nat} {item : PyValue}
    (equal : (PyValue.list left).eq (.list right) = true) (held : left[index]? = some item)
    : ∃ other, right[index]? = some other ∧ item.eq other = true := by
  induction left generalizing right index with
  | nil => simp at held
  | cons first rest ih =>
    cases right with
    | nil => simp [PyValue.eq, PyValue.eqBy, PyValue.eqByItems] at equal
    | cons second others =>
      simp only [PyValue.eq, PyValue.eqBy, PyValue.eqByItems, Bool.and_eq_true] at equal
      cases index with
      | zero => exact ⟨second, rfl, Option.some.inj held ▸ equal.1⟩
      | succ index => exact @ih others index equal.2 held

theorem isNamed_of_eq {other : PyValue} (named : isNamed name item = true)
    (equal : item.eq other = true)
    : isNamed name other = true := by
  obtain ⟨entries, rfl, found⟩ := isNamed_iff.mp named
  cases other with
  | dict others =>
    obtain ⟨value, present, same⟩ := eq_child equal found
    refine isNamed_iff.mpr ⟨others, rfl, ?_⟩
    cases value with
    | scalar value =>
      rw [present, eq_str_iff.mp ((PyScalar.eq_swap value (.str name)).trans same)]
    | _ => cases same
  | _ => cases equal

/-- Items of the same name in equal lists are equal. -/
theorem eq_selected {other found : PyValue} (equal : child.eq other = true)
    (chosen : selectItem child selection = .ok selected)
    (others : selectItem other selection = .ok found)
    : selected.eq found = true := by
  rcases selectItem_ok.mp chosen with ⟨rfl, rfl⟩ | ⟨name, items, rfl, rfl, unique⟩
  · exact Except.ok.inj others ▸ equal
  · rcases selectItem_ok.mp others with ⟨impossible, _⟩ | ⟨_, items', same, rfl, unique'⟩
    · cases impossible
    cases same
    have mem : selected ∈ items :=
      List.mem_of_mem_filter (unique ▸ List.mem_singleton_self selected)
    obtain ⟨index, held⟩ := List.mem_iff_getElem?.mp mem
    obtain ⟨item, there, same⟩ := eq_list_at equal held
    have named := isNamed_of_eq (selected_named unique) same
    rwa [named_selected unique' (List.mem_of_getElem? there) named] at same

/-- What equal documents hold at a path is equal. -/
theorem eq_found {first second mine theirs : PyValue} {path : List Segment}
    (equal : first.eq second = true) (found : objectValueAt first path = .ok mine)
    (others : objectValueAt second path = .ok theirs)
    : mine.eq theirs = true := by
  induction path generalizing first second with
  | nil => exact Except.ok.inj found ▸ Except.ok.inj others ▸ equal
  | cons segment rest ih =>
    obtain ⟨entries, child, selected, rfl, present, chosen, below⟩ := objectValueAt_cons.mp found
    obtain ⟨entries', child', selected', rfl, present', chosen', below'⟩ :=
      objectValueAt_cons.mp others
    obtain ⟨other, there, same⟩ := eq_child equal present
    obtain rfl := Option.some.inj (present'.symm.trans there)
    exact ih (eq_selected same chosen chosen') below below'

end K8sClue.SourcePatch
