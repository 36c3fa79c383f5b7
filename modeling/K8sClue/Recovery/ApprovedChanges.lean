import K8sClue.SourcePatch.Objects

/-! The approved scalar changes that a recovery plan carries through its merge. -/

namespace K8sClue.Recovery

open Python SourcePatch List

/-- One entry of `lifecycle.authorization.changes` that passed the contract. -/
structure ApprovedChange where
  fieldPath : String
  (current desired : PyScalar)
  deriving DecidableEq

def getOrNone (entries : Entries) (key : String) : PyValue :=
  (getKey entries key).getD (.scalar .none)

/-- `scalar_value`: `None`, a text, a number or a boolean. -/
def asScalar : PyValue → Option PyScalar
  | .scalar (.other _ _) => none
  | .scalar value => some value
  | _ => none

variable (py : Runtime)

/-- One entry of the contract, given the entries accepted before it. -/
def contractItem (approved : List ApprovedChange) (item : PyValue) : Option ApprovedChange :=
  match item with
  | .dict entries =>
    let fieldPath := py.text (getOrNone entries "field_path")
    match asScalar (getOrNone entries "current_value"),
      asScalar (getOrNone entries "desired_value") with
    | some current, some desired =>
      if fieldPath = ""
          ∨ fieldPath ∈ approved.map ApprovedChange.fieldPath
          ∨ fieldPathSegments fieldPath = []
          ∨ current.same desired then
        none
      else
        some { fieldPath, current, desired }
    | _, _ => none
  | _ => none

/-- The loop over the raw changes, in their order. -/
def contractItems : List ApprovedChange → List PyValue → Option (List ApprovedChange)
  | approved, [] => some approved
  | approved, item :: rest =>
    (contractItem py approved item).bind (fun change =>
      contractItems (approved ++ [change]) rest)

/-- `approved_change_contract` of the merge authorization: one to four scalar changes. -/
def approvedChangeContract (payload : Entries) : Option (List ApprovedChange) :=
  let lifecycle := (getOrNone payload "lifecycle").mapping
  let authorization := (getOrNone lifecycle "authorization").mapping
  match getOrNone authorization "changes" with
  | .list items =>
    if 1 ≤ items.length ∧ items.length ≤ 4 then contractItems py [] items else none
  | _ => none

def replicaFieldPath : String := "spec.replicas"

/-- `approved_replica_count`: the approved positive replica count, if replicas are changed. -/
def approvedReplicaCount (payload : Entries) : Option Int :=
  match approvedChangeContract py payload with
  | none => none
  | some approved =>
    match approved.find? (fun change => change.fieldPath = replicaFieldPath) with
    | some change =>
      match change.desired with
      | .int count => if 0 < count then some count else none
      | _ => none
    | none => none

/-- What every accepted contract guarantees. -/
structure Contracted (approved : List ApprovedChange) : Prop where
  parsed : ∀ change ∈ approved, fieldPathSegments change.fieldPath ≠ []
  changed : ∀ change ∈ approved, change.current.same change.desired = false
  distinct : (approved.map ApprovedChange.fieldPath).Nodup

variable {py : Runtime} {approved : List ApprovedChange}

theorem contractItem_inv {item : PyValue} {change : ApprovedChange}
    (accepted : contractItem py approved item = some change)
    : change.fieldPath ∉ approved.map ApprovedChange.fieldPath
      ∧ fieldPathSegments change.fieldPath ≠ []
      ∧ change.current.same change.desired = false := by
  unfold contractItem at accepted
  split at accepted
  · dsimp only at accepted
    split at accepted
    · split at accepted
      · simp at accepted
      · rename_i sound
        cases accepted
        simp only [not_or, Bool.not_eq_true] at sound
        exact sound.2
    · simp at accepted
  · simp at accepted

theorem contractItems_contracted {result : List ApprovedChange} {items : List PyValue}
    (accepted : contractItems py approved items = some result)
    (contracted : Contracted approved)
    : Contracted result := by
  induction items generalizing approved with
  | nil =>
    cases accepted
    exact contracted
  | cons item rest ih =>
    obtain ⟨change, found, continued⟩ := Option.bind_eq_some_iff.mp accepted
    obtain ⟨fresh, parsed, changed⟩ := contractItem_inv found
    refine ih continued ⟨?_, ?_, ?_⟩
    · intro other mem
      rcases mem_append.mp mem with earlier | last
      · exact contracted.parsed other earlier
      · exact mem_singleton.mp last ▸ parsed
    · intro other mem
      rcases mem_append.mp mem with earlier | last
      · exact contracted.changed other earlier
      · exact mem_singleton.mp last ▸ changed
    · rw [map_append, nodup_append]
      refine ⟨contracted.distinct, by simp, ?_⟩
      intro path mem other last
      simp only [map_singleton, mem_singleton] at last
      rintro rfl
      exact fresh (last ▸ mem)

/-- Accepted contracts have parseable, pairwise different paths and real changes. -/
theorem approvedChangeContract_contracted {payload : Entries}
    (accepted : approvedChangeContract py payload = some approved)
    : Contracted approved := by
  unfold approvedChangeContract at accepted
  dsimp only at accepted
  split at accepted
  · split at accepted
    · exact contractItems_contracted accepted ⟨by simp, by simp, by simp⟩
    · simp at accepted
  · simp at accepted

end K8sClue.Recovery
