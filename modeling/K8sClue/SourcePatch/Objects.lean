import K8sClue.Python.Value
import K8sClue.SourcePatch.FieldPath

/-! Reading and writing one scalar of a loaded document by its field path. -/

namespace K8sClue.SourcePatch

open Python

/-- What the source raises while it follows a path. -/
inductive PatchFailure where
  | manifestSourcePatch (message : String)
  | remediationUnsupported (reason : String)
  | keyError
  | valueError
  | typeError
  | indexError
  deriving DecidableEq

def targetMissing : PatchFailure := .manifestSourcePatch "manifest scalar target is missing"

def targetNotUnique : PatchFailure := .manifestSourcePatch "manifest scalar target is not unique"

abbrev Entries := List (PyScalar × PyValue)

def getKey (entries : Entries) (key : String) : Option PyValue := lookup entries (.str key)

/-- `entries[key] = value`: an existing key keeps its place. -/
def setKey : Entries → String → PyValue → Entries
  | [], key, value => [(.str key, value)]
  | entry :: rest, key, value =>
    if entry.1.eq (.str key) then (entry.1, value) :: rest
    else entry :: setKey rest key value

/-- `isinstance(item, Mapping) and item.get("name") == name`. -/
def isNamed (name : String) : PyValue → Bool
  | .dict entries =>
    match getKey entries "name" with
    | some (.scalar value) => value.eq (.str name)
    | _ => false
  | _ => false

def selectItem (child : PyValue) : Option String → Except PatchFailure PyValue
  | none => .ok child
  | some name =>
    match child with
    | .list items =>
      match items.filter (isNamed name) with
      | [item] => .ok item
      | _ => .error targetNotUnique
    | _ => .error targetMissing

def objectValueAt : PyValue → List Segment → Except PatchFailure PyValue
  | current, [] => .ok current
  | current, segment :: rest =>
    match current with
    | .dict entries =>
      match getKey entries segment.key with
      | none => .error targetMissing
      | some child =>
        match selectItem child segment.selectedName with
        | .ok selected => objectValueAt selected rest
        | .error failure => .error failure
    | _ => .error targetMissing

/-- Iterating over a value that is not a list: texts and mappings have no mapping items. -/
def iterationFailure : PyValue → PatchFailure
  | .scalar (.str _) => targetNotUnique
  | .dict _ => targetNotUnique
  | _ => .typeError

/-- `set_object_value`, returning the document that the source updates in place. -/
def setObjectValue : PyValue → List Segment → PyScalar → Except PatchFailure PyValue
  | _, [], _ => .error .indexError
  | current, [final], value =>
    match current, final.selectedName with
    | .dict entries, none => .ok (.dict (setKey entries final.key (.scalar value)))
    | _, _ => .error targetMissing
  | current, segment :: next :: rest, value =>
    match current with
    | .dict entries =>
      match getKey entries segment.key, segment.selectedName with
      | none, _ => .error .keyError
      | some child, none =>
        match setObjectValue child (next :: rest) value with
        | .ok updated => .ok (.dict (setKey entries segment.key updated))
        | .error failure => .error failure
      | some child, some name =>
        match child with
        | .list items =>
          match items.filter (isNamed name) with
          | [item] =>
            match setObjectValue item (next :: rest) value with
            | .ok updated =>
              .ok (.dict (setKey entries segment.key (.list (items.map (fun other =>
                  if isNamed name other then updated else other)))))
            | .error failure => .error failure
          | _ => .error targetNotUnique
        | other => .error (iterationFailure other)
    | _ => .error targetMissing

example
    : (setObjectValue (.dict [(.str "containers", .list [.dict [(.str "name", .scalar (.str "api")),
          (.str "image", .scalar (.str "a:1"))]])])
        (fieldPathSegments "containers[name=api].image") (.str "a:2")).isOk := by decide

theorem eq_str_iff {scalar : PyScalar} {text : String}
    : scalar.eq (.str text) = true ↔ scalar = .str text := by
  cases scalar with
  | float value => cases value <;> simp [PyScalar.eq, PyScalar.number]
  | _ => simp [PyScalar.eq, PyScalar.number]

@[simp] theorem getKey_setKey_same (entries : Entries) (key : String) (value : PyValue)
    : getKey (setKey entries key value) key = some value := by
  induction entries with
  | nil => simp [setKey, getKey, lookup, eq_str_iff]
  | cons entry rest ih =>
    by_cases match_ : entry.1.eq (.str key)
    · simp [setKey, getKey, lookup, match_]
    · simpa [setKey, getKey, lookup, match_] using ih

variable {key left right : String} {other leftRest rightRest : List Segment}
  {first second : PyValue} {edit : Edit} {others : List Edit}

theorem lookup_setKey_other (entries : Entries) {other : PyScalar} (value : PyValue)
    (different : other ≠ .str key)
    : lookup (setKey entries key value) other = lookup entries other := by
  have apart : ∀ scalar : PyScalar, scalar.eq (.str key) = true → scalar.eq other = false := by
    intro scalar equal
    rw [eq_str_iff] at equal
    rw [equal, PyScalar.eq_swap, Bool.eq_false_iff]
    exact fun same => different (eq_str_iff.mp same)
  induction entries with
  | nil => simp [setKey, lookup, apart _ (eq_str_iff.mpr rfl)]
  | cons entry rest ih =>
    by_cases match_ : entry.1.eq (.str key)
    · simp [setKey, match_, lookup, apart _ match_]
    · simp only [setKey, match_, Bool.false_eq_true, if_false, lookup, List.find?_cons]
      cases entry.1.eq other
      · simpa [lookup] using ih
      · rfl

theorem getKey_setKey_other (entries : Entries) {other : String} (different : key ≠ other)
    (value : PyValue)
    : getKey (setKey entries key value) other = getKey entries other :=
  lookup_setKey_other entries value (by simpa using different.symm)

@[simp] theorem setKey_setKey_same (entries : Entries) (key : String) (first second : PyValue)
    : setKey (setKey entries key first) key second = setKey entries key second := by
  induction entries with
  | nil => simp [setKey, eq_str_iff]
  | cons entry rest ih =>
    by_cases match_ : entry.1.eq (.str key)
    · simp [setKey, match_]
    · simp [setKey, match_, ih]

/-- Writes to two existing keys commute. -/
theorem setKey_comm (entries : Entries) (different : left ≠ right)
    (leftPresent : getKey entries left ≠ none) (rightPresent : getKey entries right ≠ none)
    (first second : PyValue)
    : setKey (setKey entries left first) right second
      = setKey (setKey entries right second) left first := by
  induction entries with
  | nil => exact absurd rfl leftPresent
  | cons entry rest ih =>
    by_cases isLeft : entry.1.eq (.str left)
    · have notRight : entry.1.eq (.str right) = false := by
        rw [eq_str_iff.mp isLeft, ← Bool.not_eq_true, eq_str_iff]
        simpa using different
      simp [setKey, isLeft, notRight]
    · by_cases isRight : entry.1.eq (.str right)
      · simp [setKey, isLeft, isRight]
      · have leftRest : getKey rest left ≠ none := by
          simpa [getKey, lookup, isLeft] using leftPresent
        have rightRest : getKey rest right ≠ none := by
          simpa [getKey, lookup, isRight] using rightPresent
        simp [setKey, isLeft, isRight, ih leftRest rightRest]

/-- Applies an update to a child, or to the items of it that have the selected name. -/
def updateItem (update : PyValue → PyValue) : Option String → PyValue → PyValue
  | none, child => update child
  | some name, .list items =>
    .list (items.map (fun item => if isNamed name item then update item else item))
  | some _, other => other

/-- The document with the scalar at a path replaced, and nothing else changed. -/
def replaceAt (value : PyScalar) : PyValue → List Segment → PyValue
  | _, [] => .scalar value
  | .dict entries, segment :: rest =>
    match getKey entries segment.key with
    | some child =>
      .dict (setKey entries segment.key (updateItem (fun selected => replaceAt value selected rest)
          segment.selectedName child))
    | none => .dict entries
  | other, _ => other

/-- The path ends in the `name` by which its last list item is selected. -/
def renamesItem : List Segment → Bool
  | [] => false
  | [_] => false
  | [segment, final] => segment.selectedName.isSome && final == ⟨"name", none⟩
  | _ :: next :: rest => renamesItem (next :: rest)

/-- A path holds a scalar of the document. -/
def HoldsScalar (root : PyValue) (path : List Segment) : Prop :=
  ∃ scalar, objectValueAt root path = .ok (.scalar scalar)

variable {child selected : PyValue} {edits : List Edit} {entries : Entries} {held : PyScalar}
  {item : PyValue} {items : List PyValue} {name : String} {path : List Segment}
  {rest : List Segment} {root : PyValue} {segment : Segment} {selection : Option String}
  {update : PyValue → PyValue} {value : PyValue}

/-- How a path of at least one segment is followed. -/
theorem objectValueAt_cons
    : objectValueAt root (segment :: rest) = .ok value
      ↔ ∃ entries child selected,
          root = .dict entries
          ∧ getKey entries segment.key = some child
          ∧ selectItem child segment.selectedName = .ok selected
          ∧ objectValueAt selected rest = .ok value := by
  cases root with
  | dict entries =>
    simp only [objectValueAt, PyValue.dict.injEq, exists_and_left, exists_eq_left']
    cases getKey entries segment.key with
    | none => simp
    | some child =>
      cases selected : selectItem child segment.selectedName <;> simp [selected]
  | _ => simp [objectValueAt]

theorem selectItem_ok
    : selectItem child selection = .ok selected
      ↔ selection = none ∧ child = selected
        ∨ ∃ name items, selection = some name ∧ child = .list items
          ∧ items.filter (isNamed name) = [selected] := by
  cases selection with
  | none => simp [selectItem]
  | some name =>
    cases child with
    | list items =>
      simp only [selectItem]
      split
      next found => simp [found]
      next other => simpa using other selected
    | _ => simp [selectItem]

theorem isNamed_iff
    : isNamed name item = true
      ↔ ∃ entries, item = .dict entries ∧ getKey entries "name" = some (.scalar (.str name)) := by
  cases item with
  | dict entries =>
    simp only [isNamed, PyValue.dict.injEq, exists_eq_left']
    split
    · rename_i value found
      simp [found, eq_str_iff]
    · rename_i other
      simp only [Bool.false_eq_true, false_iff]
      exact other _
  | _ => simp [isNamed]

/-- An item has at most one name. -/
theorem isNamed_other (named : isNamed name item = true) (other : String)
    : isNamed other item = decide (name = other) := by
  obtain ⟨entries, rfl, found⟩ := isNamed_iff.mp named
  rw [Bool.eq_iff_iff, isNamed_iff]
  simp [found]

theorem HoldsScalar.cons (holds : HoldsScalar root (segment :: rest))
    : ∃ entries child selected,
        root = .dict entries
        ∧ getKey entries segment.key = some child
        ∧ selectItem child segment.selectedName = .ok selected
        ∧ HoldsScalar selected rest := by
  obtain ⟨scalar, found⟩ := holds
  obtain ⟨entries, child, selected, rfl, present, chosen, below⟩ := objectValueAt_cons.mp found
  exact ⟨entries, child, selected, rfl, present, chosen, scalar, below⟩

/-- Only the scalar itself is reached by the empty path. -/
theorem HoldsScalar.ne_nil_of_dict (holds : HoldsScalar (.dict entries) path) : path ≠ [] := by
  rintro rfl
  obtain ⟨scalar, found⟩ := holds
  simp [objectValueAt] at found

theorem HoldsScalar.not_list (holds : HoldsScalar root path) (items : List PyValue)
    : root ≠ .list items := by
  rintro rfl
  cases path with
  | nil =>
    obtain ⟨scalar, found⟩ := holds
    simp [objectValueAt] at found
  | cons segment rest =>
    obtain ⟨entries, _, _, equal, _⟩ := holds.cons
    cases equal

theorem replaceAt_cons {value : PyScalar} {child : PyValue}
    (present : getKey entries segment.key = some child)
    : replaceAt value (.dict entries) (segment :: rest)
      = .dict (setKey entries segment.key
          (updateItem (fun selected => replaceAt value selected rest)
            segment.selectedName child)) := by
  rw [replaceAt, present]

section Unique

variable (unique : items.filter (isNamed name) = [selected])
include unique

theorem selected_named : isNamed name selected = true :=
  (List.mem_filter.mp (unique ▸ List.mem_singleton_self selected)).2

theorem named_selected (mem : item ∈ items) (named : isNamed name item = true)
    : item = selected :=
  List.mem_singleton.mp (unique ▸ List.mem_filter.mpr ⟨mem, named⟩)

/-- An update that keeps the name of the selected item keeps all names. -/
theorem isNamed_updated (kept : isNamed name (update selected) = true) (mem : item ∈ items)
    (other : String)
    : isNamed other (if isNamed name item then update item else item) = isNamed other item := by
  split
  next named =>
    rw [isNamed_other named, named_selected unique mem named, isNamed_other kept]
  · rfl

theorem filter_updated (kept : isNamed name (update selected) = true) (other : String)
    : (items.map (fun item => if isNamed name item then update item else item)).filter
        (isNamed other)
      = (items.filter (isNamed other)).map
          (fun item => if isNamed name item then update item else item) := by
  rw [List.filter_map]
  congr 1
  exact List.filter_congr fun item mem => isNamed_updated unique kept mem other

end Unique

section Chosen

variable (chosen : selectItem child selection = .ok selected)
include chosen

/-- Updates of the selected items depend only on what they do to the selected item. -/
theorem updateItem_congr {first second : PyValue → PyValue}
    (agree : first selected = second selected)
    : updateItem first selection child = updateItem second selection child := by
  rcases selectItem_ok.mp chosen with ⟨rfl, rfl⟩ | ⟨name, items, rfl, rfl, unique⟩
  · exact agree
  · simp only [updateItem, PyValue.list.injEq]
    refine List.map_congr_left fun item mem => ?_
    split
    next named => rw [named_selected unique mem named, agree]
    · rfl

/-- An update that leaves the selected item as it is leaves the child as it is. -/
theorem updateItem_self (fixed : update selected = selected)
    : updateItem update selection child = child := by
  have same : updateItem update selection child = updateItem id selection child :=
    updateItem_congr chosen fixed
  rw [same]
  rcases selectItem_ok.mp chosen with ⟨rfl, rfl⟩ | ⟨name, items, rfl, rfl, _⟩
  · rfl
  · simp [updateItem]

variable (kept : ∀ name ∈ selection, isNamed name (update selected) = true)
include kept

/-- Selecting after the update finds the updated item. -/
theorem selectItem_updateItem
    : selectItem (updateItem update selection child) selection = .ok (update selected) := by
  rcases selectItem_ok.mp chosen with ⟨rfl, rfl⟩ | ⟨name, items, rfl, rfl, unique⟩
  · rfl
  · refine selectItem_ok.mpr (.inr ⟨name, _, rfl, rfl, ?_⟩)
    rw [filter_updated unique (kept name rfl), unique, List.map_singleton,
      if_pos (selected_named unique)]

/-- Two updates of the same item are one update. -/
theorem updateItem_updateItem {again : PyValue → PyValue}
    : updateItem again selection (updateItem update selection child)
      = updateItem (fun inner => again (update inner)) selection child := by
  rcases selectItem_ok.mp chosen with ⟨rfl, rfl⟩ | ⟨name, items, rfl, rfl, unique⟩
  · rfl
  · simp only [updateItem, List.map_map, PyValue.list.injEq]
    refine List.map_congr_left fun item mem => ?_
    simp only [Function.comp_apply, isNamed_updated unique (kept name rfl) mem]
    split <;> rfl

/-- Updates of two different list items disturb neither the other item nor each other. -/
theorem updateItem_other {other : Option String} {second : PyValue}
    (chosenOther : selectItem child other = .ok second) (different : selection ≠ other)
    (noList : ∀ items, selected ≠ .list items) (noListOther : ∀ items, second ≠ .list items)
    : selectItem (updateItem update selection child) other = .ok second
      ∧ ∀ change, (∀ name ∈ other, isNamed name (change second) = true)
        → updateItem update selection (updateItem change other child)
          = updateItem change other (updateItem update selection child) := by
  rcases selectItem_ok.mp chosen with ⟨rfl, rfl⟩ | ⟨left, items, rfl, rfl, unique⟩
  · rcases selectItem_ok.mp chosenOther with ⟨rfl, rfl⟩ | ⟨_, items, rfl, rfl, _⟩
    · exact absurd rfl different
    · exact absurd rfl (noList items)
  rcases selectItem_ok.mp chosenOther with ⟨rfl, rfl⟩ | ⟨right, _, rfl, equal, uniqueOther⟩
  · exact absurd rfl (noListOther items)
  cases equal
  have apart {item : PyValue} (isRight : isNamed right item = true)
      : isNamed left item = false := by
    rw [isNamed_other isRight]
    exact decide_eq_false fun same => different (congrArg some same.symm)
  refine ⟨selectItem_ok.mpr (.inr ⟨right, _, rfl, rfl, ?_⟩), fun change keptOther => ?_⟩
  · rw [filter_updated unique (kept left rfl), uniqueOther, List.map_singleton,
      apart (selected_named uniqueOther)]
    rfl
  · simp only [updateItem, List.map_map, PyValue.list.injEq]
    refine List.map_congr_left fun item mem => ?_
    simp only [Function.comp_apply, isNamed_updated unique (kept left rfl) mem,
      isNamed_updated uniqueOther (keptOther right rfl) mem]
    by_cases isRight : isNamed right item = true
    · simp [apart isRight]
    · simp [isRight]

end Chosen

theorem renamesItem_cons (keeps : renamesItem (segment :: rest) = false)
    : renamesItem rest = false
      ∧ (segment.selectedName.isSome → rest ≠ [⟨"name", none⟩]) := by
  cases rest with
  | nil => simp [renamesItem]
  | cons next rest =>
    cases rest with
    | nil =>
      refine ⟨by simp [renamesItem], ?_⟩
      rintro selected equal
      simp only [List.cons.injEq] at equal
      simp [renamesItem, selected, equal] at keeps
    | cons third rest =>
      exact ⟨show renamesItem (next :: third :: rest) = false from keeps, by simp⟩

/-- The selected item keeps its name when a scalar below it is replaced, unless that scalar is
the name.
-/
theorem kept_replaceAt (value : PyScalar)
    (chosen : selectItem child segment.selectedName = .ok selected)
    (holds : HoldsScalar selected rest) (keeps : renamesItem (segment :: rest) = false)
    : ∀ name ∈ segment.selectedName, isNamed name (replaceAt value selected rest) = true := by
  intro name named
  rcases selectItem_ok.mp chosen with ⟨without, _⟩ | ⟨_, items, same, _, unique⟩
  · rw [without] at named
    cases named
  obtain rfl := Option.some.inj (named.symm.trans same)
  obtain ⟨entries, rfl, isName⟩ := isNamed_iff.mp (selected_named unique)
  obtain ⟨next, below, rfl⟩ := List.exists_cons_of_ne_nil holds.ne_nil_of_dict
  obtain ⟨_, child, inner, equal, present, chosenBelow, holdsBelow⟩ := holds.cons
  cases equal
  rw [replaceAt_cons present]
  by_cases atName : next.key = "name"
  · -- the name is a scalar, so the path ends there
    obtain rfl := Option.some.inj (isName.symm.trans (atName ▸ present))
    rcases selectItem_ok.mp chosenBelow with ⟨final, rfl⟩ | ⟨_, _, _, impossible, _⟩
    · cases below with
      | nil =>
        exact absurd (by rw [← atName, ← final]) ((renamesItem_cons keeps).2 (by simp [same]))
      | cons third rest =>
        obtain ⟨_, _, _, impossible, _⟩ := holdsBelow.cons
        cases impossible
    · cases impossible
  · exact isNamed_iff.mpr ⟨_, rfl, (getKey_setKey_other entries atName _).trans isName⟩

/-- A path reads back the scalar it was replaced by.
Witness: induction over the path; each key and each item name is found again.
-/
theorem objectValueAt_replaceAt (value : PyScalar) (holds : HoldsScalar root path)
    (keeps : renamesItem path = false)
    : objectValueAt (replaceAt value root path) path = .ok (.scalar value) := by
  induction path generalizing root with
  | nil => rfl
  | cons segment rest ih =>
    obtain ⟨entries, child, selected, rfl, present, chosen, below⟩ := holds.cons
    rw [replaceAt_cons present, objectValueAt_cons]
    exact ⟨_, _, _, rfl, getKey_setKey_same _ _ _,
      selectItem_updateItem chosen (kept_replaceAt value chosen below keeps),
      ih below (renamesItem_cons keeps).1⟩

/-- The scalars of two paths are replaced apart from each other.
Witness: induction over both paths; they part at a key, or at the names of two list items.
-/
theorem replaceAt_apart {left right : List Segment} (leftValue : PyScalar)
    (holds : HoldsScalar root left) (found : objectValueAt root right = .ok (.scalar held))
    (keeps : renamesItem left = false) (different : left ≠ right)
    : objectValueAt (replaceAt leftValue root left) right = .ok (.scalar held)
      ∧ ∀ rightValue, renamesItem right = false
        → replaceAt leftValue (replaceAt rightValue root right) left
          = replaceAt rightValue (replaceAt leftValue root left) right := by
  induction left generalizing root right with
  | nil =>
    obtain ⟨scalar, isScalar⟩ := holds
    obtain rfl : root = .scalar scalar := by simpa [objectValueAt] using isScalar
    cases right with
    | nil => exact absurd rfl different
    | cons segment rest => simp [objectValueAt] at found
  | cons segment rest ih =>
    obtain ⟨entries, child, selected, rfl, present, chosen, below⟩ := holds.cons
    have kept := kept_replaceAt leftValue chosen below keeps
    obtain ⟨segment', rest', rfl⟩ :=
      List.exists_cons_of_ne_nil (HoldsScalar.ne_nil_of_dict ⟨held, found⟩)
    obtain ⟨_, child', selected', equal, present', chosen', below'⟩ := objectValueAt_cons.mp found
    cases equal
    have kept' value := kept_replaceAt value chosen' ⟨held, below'⟩
    rw [replaceAt_cons present, objectValueAt_cons]
    by_cases sameKey : segment.key = segment'.key
    · obtain rfl : child = child' := Option.some.inj (present.symm.trans (sameKey ▸ present'))
      -- both paths go on below one key, with the same item or with another one
      have parts : (∃ second, selectItem (updateItem (fun inner => replaceAt leftValue inner rest)
              segment.selectedName child) segment'.selectedName = .ok second
            ∧ objectValueAt second rest' = .ok (.scalar held))
          ∧ ∀ rightValue, renamesItem (segment' :: rest') = false
            → updateItem (fun inner => replaceAt leftValue inner rest) segment.selectedName
                (updateItem (fun inner => replaceAt rightValue inner rest')
                  segment'.selectedName child)
              = updateItem (fun inner => replaceAt rightValue inner rest') segment'.selectedName
                  (updateItem (fun inner => replaceAt leftValue inner rest)
                    segment.selectedName child) := by
        by_cases sameName : segment.selectedName = segment'.selectedName
        · obtain rfl : segment = segment' := by
            cases segment
            simp_all
          obtain rfl : selected = selected' := by simpa [chosen] using chosen'
          obtain ⟨same, commute⟩ := ih below below' (renamesItem_cons keeps).1
            fun equal => different (by rw [equal])
          refine ⟨⟨_, selectItem_updateItem chosen kept, same⟩, fun rightValue keeps' => ?_⟩
          rw [updateItem_updateItem chosen (kept' rightValue keeps'),
            updateItem_updateItem chosen kept]
          exact updateItem_congr chosen (commute rightValue (renamesItem_cons keeps').1)
        · obtain ⟨same, commute⟩ := @updateItem_other _ _ _
            (fun inner => replaceAt leftValue inner rest) chosen kept _ _ chosen' sameName
            below.not_list (HoldsScalar.not_list ⟨held, below'⟩)
          exact ⟨⟨selected', same, below'⟩,
            fun rightValue keeps' => commute _ (kept' rightValue keeps')⟩
      obtain ⟨⟨second, same, belowSecond⟩, commute⟩ := parts
      refine ⟨⟨_, _, second, rfl, sameKey ▸ getKey_setKey_same _ _ _, same, belowSecond⟩,
        fun rightValue keeps' => ?_⟩
      rw [replaceAt_cons present',
        replaceAt_cons (by rw [sameKey]; exact getKey_setKey_same _ _ _),
        replaceAt_cons (by rw [sameKey]; exact getKey_setKey_same _ _ _), sameKey,
        setKey_setKey_same, setKey_setKey_same, commute rightValue keeps']
    · have present'' := (getKey_setKey_other entries sameKey
        (updateItem (fun inner => replaceAt leftValue inner rest) segment.selectedName
          child)).trans present'
      refine ⟨⟨_, child', selected', rfl, present'', chosen', below'⟩, fun rightValue _ => ?_⟩
      rw [replaceAt_cons present', replaceAt_cons present'', replaceAt_cons
          ((getKey_setKey_other entries (Ne.symm sameKey) _).trans present),
        setKey_comm entries (Ne.symm sameKey) (by simp [present']) (by simp [present])]

/-- Where a path holds a scalar, the source's update is the replacement of that scalar.
Witness: induction over the path; the one item with the selected name is the one updated.
-/
theorem setObjectValue_eq (value : PyScalar) (holds : HoldsScalar root path) (nonempty : path ≠ [])
    : setObjectValue root path value = .ok (replaceAt value root path) := by
  induction path generalizing root with
  | nil => exact absurd rfl nonempty
  | cons segment rest ih =>
    obtain ⟨entries, child, selected, rfl, present, chosen, below⟩ := holds.cons
    rw [replaceAt_cons present]
    cases rest with
    | nil =>
      rcases selectItem_ok.mp chosen with ⟨named, _⟩ | ⟨name, items, _, _, unique⟩
      · simp [setObjectValue, named, updateItem, replaceAt]
      · -- a selected item is a mapping, so the path would not hold a scalar
        obtain ⟨inner, rfl, _⟩ := isNamed_iff.mp (selected_named unique)
        exact absurd rfl below.ne_nil_of_dict
    | cons next rest =>
      have updated := ih below (by simp)
      have onlySelected := @updateItem_congr _ _ _ chosen
        (fun inner => replaceAt value inner (next :: rest))
        (fun _ => replaceAt value selected (next :: rest)) rfl
      rw [onlySelected]
      rcases selectItem_ok.mp chosen with ⟨named, rfl⟩ | ⟨name, items, named, rfl, unique⟩
      · simp [setObjectValue, present, named, updated, updateItem]
      · simp [setObjectValue, present, named, unique, updated, updateItem]

theorem setKey_self (present : getKey entries key = some value)
    : setKey entries key value = entries := by
  induction entries with
  | nil => simp [getKey] at present
  | cons entry rest ih =>
    by_cases match_ : entry.1.eq (.str key)
    · obtain rfl : entry.2 = value := by simpa [getKey, lookup, match_] using present
      simp [setKey, match_]
    · simp [setKey, match_, ih (by simpa [getKey, lookup, match_] using present)]

/-- Replacing a scalar by itself changes nothing. -/
theorem replaceAt_self (holds : objectValueAt root path = .ok (.scalar held))
    : replaceAt held root path = root := by
  induction path generalizing root with
  | nil => simpa [objectValueAt, replaceAt, eq_comm] using holds
  | cons segment rest ih =>
    obtain ⟨entries, child, selected, rfl, present, chosen, below⟩ := objectValueAt_cons.mp holds
    rw [replaceAt_cons present, updateItem_self chosen (ih below), setKey_self present]

/-- The last of two replacements at one path counts. -/
theorem replaceAt_replaceAt (first second : PyScalar) (holds : HoldsScalar root path)
    (keeps : renamesItem path = false)
    : replaceAt second (replaceAt first root path) path = replaceAt second root path := by
  induction path generalizing root with
  | nil => rfl
  | cons segment rest ih =>
    obtain ⟨entries, child, selected, rfl, present, chosen, below⟩ := holds.cons
    rw [replaceAt_cons present, replaceAt_cons present,
      replaceAt_cons (getKey_setKey_same _ _ _), setKey_setKey_same,
      updateItem_updateItem chosen (kept_replaceAt first chosen below keeps)]
    congr 2
    exact updateItem_congr chosen (ih below (renamesItem_cons keeps).1)

/-- A scalar read at another path after a replacement was there before it.
Witness: replacing the old scalar again restores the document.
-/
theorem objectValueAt_of_replaceAt {path : List Segment} {value held : PyScalar}
    (holds : HoldsScalar root path) (keeps : renamesItem path = false) (different : path ≠ other)
    (after : objectValueAt (replaceAt value root path) other = .ok (.scalar held))
    : objectValueAt root other = .ok (.scalar held) := by
  obtain ⟨old, found⟩ := holds
  have restored : replaceAt old (replaceAt value root path) path = root := by
    rw [replaceAt_replaceAt value old ⟨old, found⟩ keeps, replaceAt_self found]
  have holdsNow : HoldsScalar (replaceAt value root path) path :=
    ⟨value, objectValueAt_replaceAt value ⟨old, found⟩ keeps⟩
  rw [← restored]
  exact (replaceAt_apart old holdsNow after keeps different).1

/-- A path that renames its item reads the very name it selects by. -/
theorem renamesItem_value (renames : renamesItem path = true)
    : ∃ name, ∀ root value, objectValueAt root path = .ok value → value = .scalar (.str name) := by
  induction path with
  | nil => simp [renamesItem] at renames
  | cons segment rest ih =>
    match rest, renames with
    | [final], renames =>
      simp only [renamesItem, Bool.and_eq_true, Option.isSome_iff_exists, beq_iff_eq]
        at renames
      obtain ⟨⟨name, named⟩, rfl⟩ := renames
      refine ⟨name, fun root value found => ?_⟩
      obtain ⟨entries, child, selected, rfl, _, chosen, below⟩ := objectValueAt_cons.mp found
      rcases selectItem_ok.mp chosen with ⟨without, _⟩ | ⟨_, items, same, _, unique⟩
      · exact nomatch named.symm.trans without
      obtain rfl := Option.some.inj (named.symm.trans same)
      obtain ⟨inner, rfl, present⟩ := isNamed_iff.mp (selected_named unique)
      simpa [objectValueAt, present, selectItem, eq_comm] using below
    | next :: third :: rest, renames =>
      obtain ⟨name, fixed⟩ := ih (show renamesItem (next :: third :: rest) = true from renames)
      refine ⟨name, fun root value found => ?_⟩
      obtain ⟨_, _, selected, _, _, _, below⟩ := objectValueAt_cons.mp found
      exact fixed selected value below

theorem objectValueAt_append {initial rest : List Segment}
    : objectValueAt root (initial ++ rest) = .ok value
      ↔ ∃ middle, objectValueAt root initial = .ok middle ∧ objectValueAt middle rest = .ok value
      := by
  induction initial generalizing root with
  | nil => simp [objectValueAt]
  | cons segment initial ih =>
    rw [List.cons_append]
    simp only [objectValueAt_cons]
    grind

/-- One approved scalar change: where, from which value, to which value. -/
structure Edit where
  path : List Segment
  (current desired : PyScalar)
  deriving DecidableEq

/-- The document with the desired value of each edit put in place, one after the other. -/
def replaceAll (root : PyValue) (edits : List Edit) : PyValue :=
  edits.foldl (fun document edit => replaceAt edit.desired document edit.path) root

@[simp] theorem replaceAll_nil (root : PyValue) : replaceAll root [] = root := rfl

@[simp] theorem replaceAll_cons (root : PyValue) (edit : Edit) (edits : List Edit)
    : replaceAll root (edit :: edits)
      = replaceAll (replaceAt edit.desired root edit.path) edits := rfl

/-- Edits of different scalars of one document, none of which renames a selected item. -/
structure Independent (root : PyValue) (edits : List Edit) : Prop where
  holds : ∀ edit ∈ edits, HoldsScalar root edit.path
  keeps : ∀ edit ∈ edits, renamesItem edit.path = false
  distinct : (edits.map Edit.path).Nodup

theorem Independent.ne_of_mem (independent : Independent root (edit :: edits)) {other : Edit}
    (mem : other ∈ edits)
    : edit.path ≠ other.path := fun same =>
  (List.nodup_cons.mp independent.distinct).1 (same ▸ List.mem_map_of_mem mem)

theorem Independent.tail (independent : Independent root (edit :: edits))
    : Independent (replaceAt edit.desired root edit.path) edits where
  holds := by
    intro other mem
    obtain ⟨held, found⟩ := independent.holds other (List.mem_cons_of_mem _ mem)
    exact ⟨held, (replaceAt_apart edit.desired (independent.holds edit List.mem_cons_self) found
      (independent.keeps edit List.mem_cons_self) (independent.ne_of_mem mem)).1⟩
  keeps := fun other mem => independent.keeps other (List.mem_cons_of_mem _ mem)
  distinct := (List.nodup_cons.mp independent.distinct).2

/-- Only the paths of edits decide whether they are independent. -/
theorem Independent.of_paths {edits : List Edit} (independent : Independent root edits)
    (samePaths : (edits.map Edit.path).Perm (others.map Edit.path))
    : Independent root others := by
  have each : ∀ other ∈ others, HoldsScalar root other.path ∧ renamesItem other.path = false := by
    intro other mem
    obtain ⟨edit, inEdits, samePath⟩ :=
      List.mem_map.mp (samePaths.mem_iff.mpr (List.mem_map_of_mem mem))
    exact samePath ▸ ⟨independent.holds edit inEdits, independent.keeps edit inEdits⟩
  exact ⟨fun other mem => (each other mem).1, fun other mem => (each other mem).2,
    samePaths.nodup_iff.mp independent.distinct⟩

/-- Independent edits may be made in any order.
Witness: induction over the reordering; neighbours commute.
-/
theorem Independent.replaceAll_perm {edits : List Edit} (independent : Independent root edits)
    (reordered : edits.Perm others)
    : replaceAll root edits = replaceAll root others := by
  induction reordered generalizing root with
  | nil => rfl
  | cons edit _ ih => exact ih independent.tail
  | swap first second rest =>
    obtain ⟨held, found⟩ := independent.holds second (by simp)
    simp only [replaceAll_cons]
    rw [(replaceAt_apart first.desired (independent.holds first (by simp)) found
      (independent.keeps first (by simp)) (independent.ne_of_mem (by simp)).symm).2
        second.desired (independent.keeps second (by simp))]
  | trans firstPart _ ihFirst ihSecond =>
    exact (ihFirst independent).trans (ihSecond (independent.of_paths (firstPart.map _)))

/-- A scalar that no edit is about keeps its value. -/
theorem Independent.replaceAll_other (independent : Independent root edits)
    (untouched : path ∉ edits.map Edit.path) (holds : objectValueAt root path = .ok (.scalar held))
    : objectValueAt (replaceAll root edits) path = .ok (.scalar held) := by
  induction edits generalizing root with
  | nil => exact holds
  | cons edit edits ih =>
    rw [List.map_cons, List.mem_cons, not_or] at untouched
    exact ih independent.tail untouched.2
      (replaceAt_apart edit.desired (independent.holds edit (by simp)) holds
        (independent.keeps edit (by simp)) (Ne.symm untouched.1)).1

/-- The path of each edit holds its desired value in the end. -/
theorem Independent.replaceAll_edit (independent : Independent root edits) (mem : edit ∈ edits)
    : objectValueAt (replaceAll root edits) edit.path = .ok (.scalar edit.desired) := by
  induction edits generalizing root with
  | nil => simp at mem
  | cons first edits ih =>
    rcases List.mem_cons.mp mem with rfl | later
    · exact independent.tail.replaceAll_other (List.nodup_cons.mp independent.distinct).1
        (objectValueAt_replaceAt edit.desired (independent.holds edit (by simp))
          (independent.keeps edit (by simp)))
    · exact ih independent.tail later

end K8sClue.SourcePatch
