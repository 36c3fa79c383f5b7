import K8sClue.Library.Keyed
import K8sClue.Recovery.ApprovedChanges

/-! The merge authorization: a diff may contain the approved scalar changes and nothing else.
A change reported at a parent of approved scalars is compared by projecting them into it.
-/

namespace K8sClue.Recovery

open Python SourcePatch List

def alreadyConverged : String := "already_converged"
def intendedChange : String := "intended_change"

structure Diff where
  (resource namespace_ : String)
  desiredManifest : PyValue
  hasChanges : Bool
  status : String
  changes : List PyValue

/-- `path[len(parent + "."):]` for a path that starts with `parent + "."`. -/
def relativePath (parent path : String) : Option (List Char) :=
  if (parent.toList ++ ['.']).isPrefixOf path.toList then
    some (path.toList.drop (parent.toList.length + 1))
  else
    none

/-- One pass of the loop of `projected_parent_value`. -/
def projectChange (parentPath : String) (projected : PyValue) (change : ApprovedChange)
    : Except PatchFailure PyValue :=
  match relativePath parentPath change.fieldPath with
  | none => .ok projected
  | some relative =>
    let segments := segmentsOf relative
    if segments = [] then
      .error (.manifestSourcePatch "approved parent change does not match current value")
    else
      match objectValueAt projected segments with
      | .error failure => .error failure
      | .ok value =>
        if value.sameScalar change.current then
          setObjectValue projected segments change.desired
        else
          .error (.manifestSourcePatch "approved parent change does not match current value")

/-- The approved changes put into a parent value, each one checked first. -/
def projectChanges (parentPath : String)
    : PyValue → List ApprovedChange → Except PatchFailure PyValue
  | projected, [] => .ok projected
  | projected, change :: rest =>
    match projectChange parentPath projected change with
    | .ok next => projectChanges parentPath next rest
    | .error failure => .error failure

def projectedParentValue (source : PyValue) (parentPath : String) (approved : List ApprovedChange)
    : Except PatchFailure PyValue :=
  match source with
  | .dict _ => projectChanges parentPath source approved
  | _ => .error (.manifestSourcePatch "approved parent change is not an object")

/-- The approved changes at or under a field path. -/
def matchedChanges (fieldPath : String) (approved : List ApprovedChange) : List ApprovedChange :=
  approved.filter (fun change =>
    change.fieldPath = fieldPath || (relativePath fieldPath change.fieldPath).isSome)

/-- `{path: approved[path] for path in matched}`, in the order of the set. -/
def scopedChanges (py : Runtime) (matched : List ApprovedChange) : List ApprovedChange :=
  (py.setOrder (matched.map ApprovedChange.fieldPath)).filterMap (fun path =>
    matched.find? (fun change => change.fieldPath = path))

/-- The comparison of a change with the one approved scalar at its own path. -/
def leafMatches (change : Entries) (classification : String) (approved : ApprovedChange) : Bool :=
  (getOrNone change "old_desired").sameScalar approved.current
    && (getOrNone change "before").sameScalar
        (if classification = intendedChange then approved.current else approved.desired)
    && (getOrNone change "after").sameScalar approved.desired

/-- The comparison of a change with the approved scalars under its path; failures of the
projection are caught.
-/
def parentMatches (py : Runtime) (change : Entries) (fieldPath classification : String)
    (matched : List ApprovedChange)
    : Bool :=
  let ordered := scopedChanges py matched
  let oldDesired := getOrNone change "old_desired"
  let before := getOrNone change "before"
  let after := getOrNone change "after"
  if classification = intendedChange then
    oldDesired.eq before
      && match projectedParentValue before fieldPath ordered with
          | .ok projected => projected.eq after
          | .error _ => false
  else
    match projectedParentValue oldDesired fieldPath ordered with
    | .ok projected => projected.eq before && before.eq after
    | .error _ => false

/-- `approved_change_matches_diff`: the matched approved changes, `none` for a refusal. -/
def approvedChangeMatchesDiff (py : Runtime) (change : Entries) (approved : List ApprovedChange)
    : Option (List ApprovedChange) :=
  let fieldPath := py.text (getOrNone change "field_path")
  let classification := py.text (getOrNone change "classification")
  match matchedChanges fieldPath approved with
  | [] => if classification = alreadyConverged then some [] else none
  | first :: rest =>
    if classification ≠ intendedChange ∧ classification ≠ alreadyConverged then
      none
    else if first.fieldPath = fieldPath ∧ rest = [] then
      if leafMatches change classification first then some [first] else none
    else if parentMatches py change fieldPath classification (first :: rest) then
      some (first :: rest)
    else
      none

/-- `value.partition("/")`, as the parts before and after the first slash. -/
def partitionSlash (value : String) : String × Bool × String :=
  let head := value.toList.takeWhile (· ≠ '/')
  match value.toList.drop head.length with
  | [] => (value, false, "")
  | _ :: tail => (String.ofList head, true, String.ofList tail)

/-- The target of the authorization is the resource of the diff and of its manifest. -/
def targetMatches (py : Runtime) (payload : Entries) (diff : Diff) : Bool :=
  let lifecycle := (getOrNone payload "lifecycle").mapping
  let authorization := (getOrNone lifecycle "authorization").mapping
  let target := (getOrNone authorization "target").mapping
  let namespace_ := py.text (getOrNone target "namespace")
  let resourceKind := py.text (getOrNone target "resource_kind")
  let resourceName := py.text (getOrNone target "resource_name")
  let (diffKind, separator, diffName) := partitionSlash (strip diff.resource)
  let desired := diff.desiredManifest.mapping
  let metadata := (getOrNone desired "metadata").mapping
  let manifestNamespace := py.text (getOrNone metadata "namespace")
  namespace_ ≠ "" && resourceKind ≠ "" && resourceName ≠ ""
    && diff.namespace_ = namespace_ && separator
    && py.casefold diffKind = py.casefold resourceKind && diffName = resourceName
    && py.casefold (py.text (getOrNone desired "kind")) = py.casefold resourceKind
    && py.text (getOrNone metadata "name") = resourceName
    && (manifestNamespace = "" || manifestNamespace = namespace_)

/-- The desired manifest already holds an approved desired value. -/
def manifestHolds (diff : Diff) (change : ApprovedChange) : Bool :=
  match objectValueAt (.dict diff.desiredManifest.mapping) (fieldPathSegments change.fieldPath) with
  | .ok value => value.sameScalar change.desired
  | .error _ => false

/-- The loop over the changes: the covered paths and the number of intended changes. -/
def matchChanges (py : Runtime) (approved : List ApprovedChange)
    : List PyValue → Option (List ApprovedChange × Nat)
  | [] => some ([], 0)
  | .dict change :: rest =>
    match approvedChangeMatchesDiff py change approved, matchChanges py approved rest with
    | some matched, some (covered, intended) =>
      let counts := matched ≠ []
        && py.text (getOrNone change "classification") = intendedChange
      some (matched ++ covered, if counts then intended + 1 else intended)
    | _, _ => none
  | _ :: _ => none

def recoveryDiffMatchesApprovedScope (py : Runtime) (payload : Entries) (diff : Diff) : Bool :=
  match approvedChangeContract py payload with
  | none => false
  | some approved =>
    targetMatches py payload diff
      && approved.all (manifestHolds diff)
      && if diff.hasChanges then
          match matchChanges py approved diff.changes with
          | some (covered, intended) =>
            intended > 0 && approved.all (fun change => change ∈ covered)
          | none => false
        else
          (diff.status = alreadyConverged || diff.status = "no_change")
            && diff.changes.all (fun change =>
              match change with
              | .dict entries =>
                py.text (getOrNone entries "classification") = alreadyConverged
              | _ => false)

/-- An approved change, seen from the field path of a change at or above it. -/
def editUnder (fieldPath : String) (change : ApprovedChange) : Edit :=
  {
    path := segmentsOf ((relativePath fieldPath change.fieldPath).getD [])
    current := change.current
    desired := change.desired }

/-- The edits that a change of the diff is meant to consist of. -/
def approvedEdits (approved : List ApprovedChange) (fieldPath : String) : List Edit :=
  (matchedChanges fieldPath approved).map (editUnder fieldPath)

/-- `after` is `before` with the scalars of the edits replaced, from their current to their
desired values, and nothing else; types count and the order of the edits does not.
-/
structure ExactlyReplaced (edits : List Edit) (before after : PyValue) : Prop where
  current : ∀ edit ∈ edits,
      ∃ value, objectValueAt before edit.path = .ok value ∧ value.sameScalar edit.current
  replaced : ∀ ordered, edits.Perm ordered → (replaceAll before ordered).same after

/-- The changes of a diff are the approved scalar changes, type-strictly. -/
structure ExactMergeScope (py : Runtime) (approved : List ApprovedChange) (diff : Diff)
    : Prop where
  intended : ∀ change,
      .dict change ∈ diff.changes
      → py.text (getOrNone change "classification") = intendedChange
      → ExactlyReplaced (approvedEdits approved (py.text (getOrNone change "field_path")))
          (getOrNone change "before") (getOrNone change "after")
  covered : ∀ approvedChange ∈ approved,
      ∃ change,
        .dict change ∈ diff.changes
        ∧ approvedChange
          ∈ matchedChanges (py.text (getOrNone change "field_path")) approved
  someIntended : ∃ change,
      .dict change ∈ diff.changes
      ∧ py.text (getOrNone change "classification") = intendedChange
  untouched : ∀ change,
      .dict change ∈ diff.changes
      → matchedChanges (py.text (getOrNone change "field_path")) approved = []
      → py.text (getOrNone change "classification") = alreadyConverged

def object (fields : List (String × PyValue)) : PyValue :=
  .dict (fields.map (fun field => (.str field.1, field.2)))

/-- A plan that approves two replicas instead of one for the deployment `api`. -/
def replicaPayload : Entries :=
  (object [("lifecycle", object [("authorization", object [
    ("target", object [
      ("namespace", .scalar (.str "shop")),
      ("resource_kind", .scalar (.str "Deployment")),
      ("resource_name", .scalar (.str "api"))]),
    ("changes", .list [object [
      ("field_path", .scalar (.str "spec.replicas")),
      ("current_value", .scalar (.int 1)),
      ("desired_value", .scalar (.int 2))]])])])]).mapping

def specChange (paused : PyScalar) : Entries :=
  (object [
    ("field_path", .scalar (.str "spec")),
    ("classification", .scalar (.str intendedChange)),
    ("old_desired", object [("replicas", .scalar (.int 1)), ("paused", .scalar (.bool false))]),
    ("before", object [("replicas", .scalar (.int 1)), ("paused", .scalar (.bool false))]),
    ("after", object [("replicas", .scalar (.int 2)), ("paused", .scalar paused)])]).mapping

def specDiff (paused : PyScalar) : Diff :=
  {
    resource := "deployment/api"
    namespace_ := "shop"
    desiredManifest := object [
      ("kind", .scalar (.str "Deployment")),
      ("metadata", object [("name", .scalar (.str "api"))]),
      ("spec", object [("replicas", .scalar (.int 2)), ("paused", .scalar paused)])]
    hasChanges := true
    status := "changed"
    changes := [.dict (specChange paused)] }

/-- Replacing `False` by `0` beside the approved replicas is authorized. -/
theorem boolean_change_authorized
    : recoveryDiffMatchesApprovedScope insertionRuntime replicaPayload (specDiff (.int 0)) = true
      ∧ (specDiff (.int 0)).hasChanges = true
      ∧ ∃ approved,
          approvedChangeContract insertionRuntime replicaPayload = some approved
          ∧ ¬ExactMergeScope insertionRuntime approved (specDiff (.int 0)) := by
  refine ⟨by decide +kernel, rfl, [⟨"spec.replicas", .int 1, .int 2⟩], by decide +kernel, ?_⟩
  intro exact_
  have replaced := (exact_.intended (specChange (.int 0)) (mem_singleton_self _)
    (by decide +kernel)).replaced _ (Perm.refl _)
  exact absurd replaced (by decide +kernel)

/-- Each intended change leaves every scalar with the type it had before, or with the type of
the approved desired value where it was approved to change.
-/
def TypesPreserved (py : Runtime) (approved : List ApprovedChange) (diff : Diff) : Prop :=
  ∀ change,
    .dict change ∈ diff.changes
    → py.text (getOrNone change "classification") = intendedChange
    → (replaceAll (getOrNone change "before")
        (approvedEdits approved (py.text (getOrNone change "field_path")))).sameTypes
        (getOrNone change "after")

variable {before result : PyValue} {change : ApprovedChange} {changes : List ApprovedChange}
  {diff : Diff} {fieldPath parent : String} {py : Runtime} {relative : List Char}

theorem relativePath_some {parent path : String} (found : relativePath parent path = some relative)
    : path.toList = parent.toList ++ '.' :: relative := by
  unfold relativePath at found
  split at found <;> cases found
  rename_i starts
  obtain ⟨rest, whole⟩ := isPrefixOf_iff_prefix.mp starts
  rw [← whole]
  simp

/-- Relative paths that parse alike belong to the same path. -/
theorem relativePath_injective {parent left right : String} {first second : List Char}
    (foundLeft : relativePath parent left = some first)
    (foundRight : relativePath parent right = some second)
    (parsed : segmentsOf first ≠ []) (equal : segmentsOf first = segmentsOf second)
    : left = right := by
  apply String.toList_inj.mp
  rw [relativePath_some foundLeft, relativePath_some foundRight, segmentsOf_injective parsed equal]

variable {matched approved : List ApprovedChange} {held : PyScalar} {edits : List Edit}
  {leaf : ApprovedChange}

/-- Walking the set visits each matched change once, in some order. -/
theorem scopedChanges_perm (py : Runtime)
    (distinct : (matched.map ApprovedChange.fieldPath).Nodup)
    : (scopedChanges py matched).Perm matched := by
  have visited := (py.setOrder_perm (matched.map ApprovedChange.fieldPath)).filterMap
    (fun path => matched.find? (fun change => change.fieldPath = path))
  have inOrder : (matched.map ApprovedChange.fieldPath).filterMap
      (fun path => matched.find? (fun change => change.fieldPath = path)) = matched := by
    rw [filterMap_map]
    refine (filterMap_congr ?_).trans filterMap_some
    exact fun change mem => Library.Keyed.Unique.find_eq distinct mem
  rwa [inOrder] at visited

/-- An approved change whose desired value the manifest of the diff already holds. -/
structure Settled (diff : Diff) (change : ApprovedChange) : Prop where
  parsed : fieldPathSegments change.fieldPath ≠ []
  changed : change.current.same change.desired = false
  held : manifestHolds diff change = true

theorem Settled.holds (settled : Settled diff change)
    : ∃ scalar,
        objectValueAt (.dict diff.desiredManifest.mapping) (fieldPathSegments change.fieldPath)
          = .ok (.scalar scalar)
        ∧ scalar.same change.desired = true := by
  have held := settled.held
  unfold manifestHolds at held
  split at held
  · rename_i value found
    cases value with
    | scalar scalar => exact ⟨scalar, found, held⟩
    | _ => simp [PyValue.sameScalar] at held
  · simp at held

theorem Settled.segments (settled : Settled diff change)
    (found : relativePath parent change.fieldPath = some relative)
    (parsed : segmentsOf relative ≠ [])
    : fieldPathSegments change.fieldPath = segmentsOf parent.toList ++ segmentsOf relative := by
  have whole := settled.parsed
  unfold fieldPathSegments at whole ⊢
  rw [relativePath_some found] at whole ⊢
  exact segmentsOf_append whole parsed

/-- No approved change that fits the manifest renames the item it selects.
Witness: the path reads the name it selects by, before and in the manifest, so the current
and the desired value would be the same.
-/
theorem Settled.keeps (settled : Settled diff change)
    (found : relativePath parent change.fieldPath = some relative)
    (parsed : segmentsOf relative ≠ []) {value : PyValue}
    (read : objectValueAt value (segmentsOf relative) = .ok (.scalar held))
    (current : held.same change.current = true)
    : renamesItem (segmentsOf relative) = false := by
  by_contra renames
  obtain ⟨name, fixed⟩ := renamesItem_value (by simpa using renames)
  obtain ⟨scalar, manifest, desired⟩ := settled.holds
  rw [settled.segments found parsed] at manifest
  obtain ⟨middle, _, below⟩ := objectValueAt_append.mp manifest
  have heldName : held = .str name := by simpa using fixed value _ read
  have scalarName : scalar = .str name := by simpa using fixed middle _ below
  rw [heldName, PyScalar.same_str] at current
  rw [scalarName, PyScalar.same_str] at desired
  have changed := settled.changed
  rw [current, desired] at changed
  simp [PyScalar.same_str.mpr rfl] at changed

/-- One projected change replaces the scalar at its relative path. -/
theorem projectChange_inv {projected next : PyValue}
    (found : relativePath parent change.fieldPath = some relative)
    (done : projectChange parent projected change = .ok next)
    : segmentsOf relative ≠ []
      ∧ ∃ held,
          objectValueAt projected (segmentsOf relative) = .ok (.scalar held)
          ∧ held.same change.current = true
          ∧ next = replaceAt change.desired projected (segmentsOf relative) := by
  unfold projectChange at done
  rw [found] at done
  dsimp only at done
  split at done
  · simp at done
  rename_i parsed
  refine ⟨parsed, ?_⟩
  split at done
  · simp at done
  rename_i value read
  split at done
  · rename_i current
    cases value with
    | scalar held =>
      rw [setObjectValue_eq change.desired ⟨held, read⟩ parsed] at done
      exact ⟨held, read, current, (Except.ok.inj done).symm⟩
    | _ => simp [PyValue.sameScalar] at current
  · simp at done

/-- The edits of a projection are those of different scalars of the value it starts from. -/
structure Projected (before : PyValue) (edits : List Edit) : Prop where
  independent : Independent before edits
  current : ∀ edit ∈ edits,
      ∃ held,
        objectValueAt before edit.path = .ok (.scalar held)
        ∧ held.same edit.current = true

theorem Projected.nil (before : PyValue) : Projected before [] :=
  ⟨⟨by simp, by simp, by simp⟩, by simp⟩

/-- A further edit at a new path may be made before the others.
Witness: what the others find after it was there before it.
-/
theorem Projected.cons {before : PyValue} {edit : Edit}
    (read : objectValueAt before edit.path = .ok (.scalar held))
    (current : held.same edit.current = true) (keeps : renamesItem edit.path = false)
    (fresh : edit.path ∉ edits.map Edit.path)
    (projected : Projected (replaceAt edit.desired before edit.path) edits)
    : Projected before (edit :: edits) := by
  have readBefore : ∀ other ∈ edits,
      ∃ old, objectValueAt before other.path = .ok (.scalar old)
        ∧ old.same other.current = true := by
    intro other mem
    obtain ⟨old, found, same⟩ := projected.current other mem
    have different : edit.path ≠ other.path :=
      fun equal => fresh (equal ▸ mem_map_of_mem mem)
    exact ⟨old, objectValueAt_of_replaceAt ⟨held, read⟩ keeps different found, same⟩
  refine ⟨⟨forall_mem_cons.mpr ⟨⟨held, read⟩, fun other mem => ?_⟩,
      forall_mem_cons.mpr ⟨keeps, projected.independent.keeps⟩,
      nodup_cons.mpr ⟨fresh, projected.independent.distinct⟩⟩,
    forall_mem_cons.mpr ⟨⟨held, read, current⟩, readBefore⟩⟩
  obtain ⟨old, found, _⟩ := readBefore other mem
  exact ⟨old, found⟩

/-- A successful projection makes the edits under its parent, each on its current value.
Witness: induction over the changes, each edit put in front of the later ones.
-/
theorem projectChanges_inv (settled : ∀ change ∈ changes, Settled diff change)
    (below : ∀ change ∈ changes, (relativePath parent change.fieldPath).isSome)
    (distinct : (changes.map ApprovedChange.fieldPath).Nodup)
    (done : projectChanges parent before changes = .ok result)
    : Projected before (changes.map (editUnder parent))
      ∧ result = replaceAll before (changes.map (editUnder parent)) := by
  induction changes generalizing before with
  | nil =>
    obtain rfl := Except.ok.inj done
    exact ⟨Projected.nil before, rfl⟩
  | cons change rest ih =>
    obtain ⟨relative, found⟩ := Option.isSome_iff_exists.mp (below change (by simp))
    rw [projectChanges] at done
    split at done
    · rename_i next step
      obtain ⟨parsed, held, read, current, rfl⟩ := projectChange_inv found step
      rw [map_cons, nodup_cons] at distinct
      obtain ⟨projected, rfl⟩ := ih (forall_mem_cons.mp settled).2
        (forall_mem_cons.mp below).2 distinct.2 done
      have path : (editUnder parent change).path = segmentsOf relative := by
        simp [editUnder, found]
      have fresh : (editUnder parent change).path
          ∉ (rest.map (editUnder parent)).map Edit.path := by
        intro mem
        simp only [map_map, mem_map] at mem
        obtain ⟨other, later, equal⟩ := mem
        obtain ⟨second, foundOther⟩ := Option.isSome_iff_exists.mp
          (below other (mem_cons_of_mem _ later))
        have samePath : change.fieldPath = other.fieldPath :=
          relativePath_injective found foundOther parsed
            (by simpa [editUnder, found, foundOther] using equal.symm)
        exact distinct.1 (samePath ▸ mem_map_of_mem later)
      refine ⟨Projected.cons (path ▸ read) current ?_ fresh (path ▸ projected), ?_⟩
      · rw [path]
        exact (settled change (by simp)).keeps found parsed read current
      · rw [map_cons, replaceAll_cons, path]
        rfl
    · simp at done

theorem projectChanges_parsed (done : projectChanges parent before changes = .ok result)
    (mem : change ∈ changes) (found : relativePath parent change.fieldPath = some relative)
    : segmentsOf relative ≠ [] := by
  induction changes generalizing before with
  | nil => simp at mem
  | cons first rest ih =>
    rw [projectChanges] at done
    split at done
    · rename_i next step
      rcases mem_cons.mp mem with rfl | later
      · exact (projectChange_inv found step).1
      · exact ih done later
    · simp at done

theorem mem_matchedChanges
    : change ∈ matchedChanges fieldPath approved
      ↔ change ∈ approved
        ∧ (change.fieldPath = fieldPath ∨ (relativePath fieldPath change.fieldPath).isSome) := by
  simp [matchedChanges]

/-- The scalar approved at a path leaves no room for an approved scalar below it. -/
theorem Settled.exclusive {other : ApprovedChange} (leafSettled : Settled diff leaf)
    (otherSettled : Settled diff other)
    (found : relativePath leaf.fieldPath other.fieldPath = some relative)
    (parsed : segmentsOf relative ≠ [])
    : False := by
  obtain ⟨scalar, atLeaf, _⟩ := leafSettled.holds
  obtain ⟨_, atOther, _⟩ := otherSettled.holds
  rw [otherSettled.segments found parsed] at atOther
  obtain ⟨middle, here, below⟩ := objectValueAt_append.mp atOther
  obtain rfl : PyValue.scalar scalar = middle := by
    simpa [fieldPathSegments] using atLeaf.symm.trans here
  obtain ⟨segment, rest, equal⟩ := exists_cons_of_ne_nil parsed
  simp [equal, objectValueAt] at below

/-- When a parent is projected, all matched changes lie strictly below it. -/
theorem matched_below {ordered : List ApprovedChange} (visits : ordered.Perm matched)
    (settled : ∀ change ∈ matched, Settled diff change)
    (scope : ∀ change ∈ matched,
        change.fieldPath = fieldPath ∨ (relativePath fieldPath change.fieldPath).isSome)
    (distinct : (matched.map ApprovedChange.fieldPath).Nodup)
    (several : ∀ change, change.fieldPath = fieldPath → matched ≠ [change])
    (done : projectChanges fieldPath before ordered = .ok result)
    : ∀ change ∈ matched, (relativePath fieldPath change.fieldPath).isSome := by
  intro change mem
  rcases scope change mem with atPath | below
  · exfalso
    obtain ⟨other, otherMember, different⟩ :=
      ((distinct.of_map.ne_singleton_iff change).mp (several change atPath)).resolve_left
        (ne_nil_of_mem mem)
    have otherPath : other.fieldPath ≠ fieldPath := by
      intro equal
      exact different (inj_on_of_nodup_map distinct otherMember mem
        (equal.trans atPath.symm))
    obtain ⟨relative, found⟩ := Option.isSome_iff_exists.mp
      ((scope other otherMember).resolve_left otherPath)
    have parsed := projectChanges_parsed done (visits.mem_iff.mpr otherMember) found
    rw [← atPath] at found
    exact (settled change mem).exclusive (settled other otherMember) found parsed
  · exact below

/-- Edits that were found in place are exactly the change, once the types agree. -/
theorem Projected.exactly_iff {before after : PyValue} (projected : Projected before edits)
    (equal : (replaceAll before edits).eq after = true)
    : ExactlyReplaced edits before after ↔ (replaceAll before edits).sameTypes after = true := by
  constructor
  · intro exact_
    have same := exact_.replaced edits (Perm.refl _)
    rw [PyValue.same_eq, Bool.and_eq_true] at same
    exact same.1
  · intro types
    constructor
    · intro edit mem
      obtain ⟨held, read, current⟩ := projected.current edit mem
      exact ⟨.scalar held, read, current⟩
    · intro ordered reordered
      rw [← projected.independent.replaceAll_perm reordered, PyValue.same_eq, types, equal]
      rfl

variable {change : Entries}

/-- An accepted change at the path of an approved scalar is that scalar's change. -/
theorem leaf_projected (atPath : leaf.fieldPath = fieldPath)
    (accepted : leafMatches change intendedChange leaf = true)
    : Projected (getOrNone change "before") [editUnder fieldPath leaf]
      ∧ (replaceAll (getOrNone change "before") [editUnder fieldPath leaf]).eq
          (getOrNone change "after") = true := by
  have noRelative : relativePath fieldPath leaf.fieldPath = none := by
    cases found : relativePath fieldPath leaf.fieldPath with
    | none => rfl
    | some relative =>
      have whole := congrArg List.length (relativePath_some found)
      simp [atPath] at whole
  have path : (editUnder fieldPath leaf).path = [] := by
    rw [editUnder, noRelative]
    rfl
  simp only [leafMatches, Bool.and_eq_true] at accepted
  obtain ⟨⟨_, before⟩, after⟩ := accepted
  constructor
  · cases value : getOrNone change "before" with
    | scalar held =>
      rw [value] at before
      exact Projected.cons (by rw [path, objectValueAt]) before (by rw [path, renamesItem])
        (by simp) (Projected.nil _)
    | _ => simp [value, PyValue.sameScalar] at before
  · cases value : getOrNone change "after" with
    | scalar held =>
      rw [value] at after
      rw [replaceAll_cons, path, replaceAt]
      have same : leaf.desired.same held = true := by
        rw [PyScalar.same_swap]
        exact after
      rw [PyScalar.same, Bool.and_eq_true] at same
      simpa [PyValue.eq, PyValue.eqBy, editUnder] using same.2
    | _ => simp [value, PyValue.sameScalar] at after

/-- An accepted change above approved scalars projects them, each on its current value. -/
theorem parent_projected (settled : ∀ other ∈ matched, Settled diff other)
    (scope : ∀ other ∈ matched,
        other.fieldPath = fieldPath ∨ (relativePath fieldPath other.fieldPath).isSome)
    (distinct : (matched.map ApprovedChange.fieldPath).Nodup)
    (several : ∀ other, other.fieldPath = fieldPath → matched ≠ [other])
    (accepted : parentMatches py change fieldPath intendedChange matched = true)
    : Projected (getOrNone change "before") (matched.map (editUnder fieldPath))
      ∧ (replaceAll (getOrNone change "before") (matched.map (editUnder fieldPath))).eq
          (getOrNone change "after") = true := by
  simp only [parentMatches, if_true, Bool.and_eq_true] at accepted
  obtain ⟨_, projectedEqual⟩ := accepted
  split at projectedEqual
  · rename_i result done
    have visits := scopedChanges_perm py distinct
    have walked : projectChanges fieldPath (getOrNone change "before")
        (scopedChanges py matched) = .ok result := by
      unfold projectedParentValue at done
      split at done
      · exact done
      · simp at done
    have below := matched_below visits settled scope distinct several walked
    obtain ⟨projected, rfl⟩ := projectChanges_inv
      (fun other mem => settled other (visits.mem_iff.mp mem))
      (fun other mem => below other (visits.mem_iff.mp mem))
      ((visits.map _).nodup_iff.mpr distinct) walked
    have edits := visits.map (editUnder fieldPath)
    refine ⟨⟨projected.independent.of_paths (edits.map _), ?_⟩, ?_⟩
    · exact fun edit mem => projected.current edit (edits.mem_iff.mpr mem)
    · rw [← projected.independent.replaceAll_perm edits]
      exact projectedEqual
  · simp at projectedEqual

/-- What the authorization has checked about one change. -/
structure Admitted (py : Runtime) (approved : List ApprovedChange) (change : Entries)
    (matched : List ApprovedChange)
    : Prop where
  scope : matched = matchedChanges (py.text (getOrNone change "field_path")) approved
  converged : matched = [] → py.text (getOrNone change "classification") = alreadyConverged
  projected : py.text (getOrNone change "classification") = intendedChange
    → Projected (getOrNone change "before")
        (approvedEdits approved (py.text (getOrNone change "field_path")))
      ∧ (replaceAll (getOrNone change "before")
          (approvedEdits approved (py.text (getOrNone change "field_path")))).eq
          (getOrNone change "after") = true

theorem approvedChangeMatchesDiff_admitted (contracted : Contracted approved)
    (settled : ∀ other ∈ approved, Settled diff other)
    (accepted : approvedChangeMatchesDiff py change approved = some matched)
    : Admitted py approved change matched := by
  have inScope := fun other =>
    @mem_matchedChanges other (py.text (getOrNone change "field_path")) approved
  have distinct : ((matchedChanges (py.text (getOrNone change "field_path")) approved).map
      ApprovedChange.fieldPath).Nodup :=
    contracted.distinct.sublist (filter_sublist.map _)
  unfold approvedChangeMatchesDiff at accepted
  dsimp only at accepted
  split at accepted
  · rename_i none
    split at accepted <;> cases accepted
    rename_i converged
    refine ⟨none.symm, fun _ => converged, fun intended => ?_⟩
    rw [converged] at intended
    exact absurd intended (by decide)
  rename_i first rest some_
  rw [some_] at inScope distinct
  have settledMatched : ∀ other ∈ first :: rest, Settled diff other :=
    fun other mem => settled other ((inScope other).mp mem).1
  split at accepted
  · simp at accepted
  split at accepted
  · rename_i leaf
    obtain ⟨atPath, rfl⟩ := leaf
    split at accepted <;> cases accepted
    rename_i leafAccepted
    refine ⟨some_.symm, by simp, fun intended => ?_⟩
    rw [intended] at leafAccepted
    rw [approvedEdits, some_]
    exact leaf_projected atPath leafAccepted
  · rename_i notLeaf
    split at accepted <;> cases accepted
    rename_i parentAccepted
    refine ⟨some_.symm, by simp, fun intended => ?_⟩
    rw [intended] at parentAccepted
    rw [approvedEdits, some_]
    refine parent_projected settledMatched (fun other mem => ((inScope other).mp mem).2)
      distinct ?_ parentAccepted
    intro other atPath single
    obtain ⟨rfl, rfl⟩ := List.cons.inj single
    exact notLeaf ⟨atPath, rfl⟩

theorem matchChanges_inv {covered : List ApprovedChange} {changes : List PyValue} {intended : Nat}
    (accepted : matchChanges py approved changes = some (covered, intended))
    : (∀ change,
        .dict change ∈ changes
        → ∃ matched, approvedChangeMatchesDiff py change approved = some matched)
      ∧ (∀ approvedChange ∈ covered,
          ∃ change matched,
            .dict change ∈ changes
            ∧ approvedChangeMatchesDiff py change approved = some matched
            ∧ approvedChange ∈ matched)
      ∧ (0 < intended
        → ∃ change,
            .dict change ∈ changes
            ∧ py.text (getOrNone change "classification") = intendedChange) := by
  induction changes generalizing covered intended with
  | nil =>
    obtain ⟨rfl, rfl⟩ := Prod.mk.inj (Option.some.inj accepted)
    simp
  | cons raw rest ih =>
    cases raw with
    | dict change =>
      rw [matchChanges] at accepted
      split at accepted <;> cases accepted
      rename_i matched laterCovered laterIntended here later
      obtain ⟨checked, covers, counts⟩ := ih later
      refine ⟨?_, ?_, ?_⟩
      · simp only [mem_cons, PyValue.dict.injEq]
        rintro other (rfl | earlier)
        · exact ⟨matched, here⟩
        · exact checked other earlier
      · intro approvedChange mem
        rcases mem_append.mp mem with inMatched | inLater
        · exact ⟨change, matched, by simp, here, inMatched⟩
        · obtain ⟨other, found, inRest, known⟩ := covers approvedChange inLater
          exact ⟨other, found, mem_cons_of_mem _ inRest, known⟩
      · intro positive
        split at positive
        · rename_i isIntended
          simp only [Bool.and_eq_true, decide_eq_true_eq] at isIntended
          exact ⟨change, by simp, isIntended.2⟩
        · obtain ⟨other, inRest, isIntended⟩ := counts positive
          exact ⟨other, mem_cons_of_mem _ inRest, isIntended⟩
    | _ => simp [matchChanges] at accepted

/-- An authorized diff with changes consists of the approved scalar changes, type-strictly,
exactly when its intended changes also preserve the types of all scalars.
Witness: the projection makes the approved edits, and Python's equality adds everything but
the types.
-/
theorem authorized_diff_exact_iff {py : Runtime} {payload : Entries} {diff : Diff}
    (authorized : recoveryDiffMatchesApprovedScope py payload diff = true)
    (changes : diff.hasChanges = true)
    : ∃ approved,
        approvedChangeContract py payload = some approved
        ∧ (ExactMergeScope py approved diff ↔ TypesPreserved py approved diff) := by
  unfold recoveryDiffMatchesApprovedScope at authorized
  split at authorized
  · simp at authorized
  rename_i approved contract
  refine ⟨approved, contract, ?_⟩
  have contracted := approvedChangeContract_contracted contract
  rw [changes, if_pos rfl, Bool.and_eq_true, Bool.and_eq_true, all_eq_true] at authorized
  obtain ⟨⟨_, manifest⟩, scope⟩ := authorized
  split at scope
  · rename_i covered intended matched
    simp only [Bool.and_eq_true, decide_eq_true_eq, all_eq_true] at scope
    obtain ⟨checked, covers, counts⟩ := matchChanges_inv matched
    have settled : ∀ change ∈ approved, Settled diff change := fun change mem =>
      ⟨contracted.parsed change mem, contracted.changed change mem, manifest change mem⟩
    have admitted : ∀ change, .dict change ∈ diff.changes →
        ∃ found, Admitted py approved change found := by
      intro change mem
      obtain ⟨found, accepted⟩ := checked change mem
      exact ⟨found, approvedChangeMatchesDiff_admitted contracted settled accepted⟩
    constructor
    · intro exact_ change mem isIntended
      obtain ⟨_, admission⟩ := admitted change mem
      obtain ⟨projected, equal⟩ := admission.projected isIntended
      exact (projected.exactly_iff equal).mp (exact_.intended change mem isIntended)
    · intro types
      refine ⟨?_, ?_, counts scope.1, ?_⟩
      · intro change mem isIntended
        obtain ⟨_, admission⟩ := admitted change mem
        obtain ⟨projected, equal⟩ := admission.projected isIntended
        exact (projected.exactly_iff equal).mpr (types change mem isIntended)
      · intro approvedChange mem
        obtain ⟨change, found, inDiff, accepted, inFound⟩ :=
          covers approvedChange (scope.2 approvedChange mem)
        have admission := approvedChangeMatchesDiff_admitted contracted settled accepted
        exact ⟨change, inDiff, admission.scope ▸ inFound⟩
      · intro change mem untouched
        obtain ⟨_, admission⟩ := admitted change mem
        exact admission.converged (admission.scope.trans untouched)
  · simp at scope

/-- The same merge without the change of `paused` is authorized and exact. -/
theorem replica_change_exact
    : recoveryDiffMatchesApprovedScope insertionRuntime replicaPayload
        (specDiff (.bool false)) = true
      ∧ (specDiff (.bool false)).hasChanges = true
      ∧ ∃ approved,
          approvedChangeContract insertionRuntime replicaPayload = some approved
          ∧ (ExactMergeScope insertionRuntime approved (specDiff (.bool false))
            ↔ TypesPreserved insertionRuntime approved (specDiff (.bool false))) :=
  ⟨by decide +kernel, rfl, authorized_diff_exact_iff (by decide +kernel) rfl⟩

end K8sClue.Recovery
