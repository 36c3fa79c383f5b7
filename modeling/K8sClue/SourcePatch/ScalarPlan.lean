import K8sClue.SourcePatch.Materialize

/-! The structured scalar patch plan and its validation.
A plan carries its own rollback; what is accepted has, for each replacement, one rollback
replacement of the same path with the two values exchanged.
-/

namespace K8sClue.SourcePatch

open Python Library List

structure ManifestScalarPatchPlan where
  (actionType sourceType sourceManifestSha256 expectedBaseSha manifestPath : String)
  (replacements rollbackReplacements : List ScalarFieldReplacement)

def rawJson : String := "raw-json"
def rawYaml : String := "raw-yaml"

/-- `re.fullmatch(r"sha256:[0-9a-f]{64}", value)`. -/
def isSha256Digest (value : String) : Bool :=
  let hex := value.toList.drop 7
  startsWith value "sha256:" && hex.length == 64 && hex.all isLowerHex

/-- `safe_manifest_path`: a relative path without backslashes and without parent steps. -/
def safeManifestPath (value : String) : Bool :=
  value ≠ "" && !startsWith value "/" && !value.toList.contains backslash
    && !(value.toList.splitOn '/').contains ['.', '.']

inductive ScalarAction where
  | oomMemory
  | imageRollback
  | imageTagFix
  | replicaScale
  | probeFix
  | selectorFix
  deriving DecidableEq

def scalarAction (actionType : String) : Option ScalarAction :=
  if actionType = "oom_memory" then some .oomMemory
  else if actionType = "image_rollback" then some .imageRollback
  else if actionType = "image_tag_fix" then some .imageTagFix
  else if actionType = "replica_scale" then some .replicaScale
  else if actionType = "probe_fix" then some .probeFix
  else if actionType = "selector_fix" then some .selectorFix
  else none

/-- `scalar_value`: the loader's further types are no scalars of a plan. -/
def scalarValue : PyScalar → Bool
  | .other _ _ => false
  | _ => true

/-- `isinstance(value, str) and bool(value.strip())`. -/
def isNonblank : PyScalar → Bool
  | .str value => strip value ≠ ""
  | _ => false

/-- `type(current) is int and type(desired) is int and 1 <= current < desired <= cap`. -/
def increasesWithin (cap : Int) : PyScalar → PyScalar → Bool
  | .int current, .int desired => 1 ≤ current && current < desired && desired ≤ cap
  | _, _ => false

variable (py : Runtime)

/-- `int(digits)` of decimal digits of any script. -/
def decimalValue (digits : List Char) : Option Nat :=
  if digits = [] then none
  else (digits.mapM py.decimalDigit).map (·.foldl (fun value digit => 10 * value + digit) 0)

def memoryQuantityBytes : PyScalar → Option Nat
  | .str value =>
    let chars := value.toList
    let unit := chars.drop (chars.length - 2)
    let factor :=
      if unit = ['K', 'i'] then some 1024
      else if unit = ['M', 'i'] then some (1024 ^ 2)
      else if unit = ['G', 'i'] then some (1024 ^ 3)
      else none
    match decimalValue py (chars.take (chars.length - 2)), factor with
    | some count, some factor => some (count * factor)
    | _, _ => none
  | _ => none

def memoryIncreasesWithinCap (current desired : PyScalar) : Bool :=
  match memoryQuantityBytes py current, memoryQuantityBytes py desired with
  | some current, some desired => current < desired && desired ≤ 4 * 1024 ^ 3
  | _, _ => false

def actionAllowsReplacement (action : ScalarAction) (item : ScalarFieldReplacement) : Bool :=
  let path := item.fieldPath
  match action with
  | .imageRollback | .imageTagFix =>
    endsWith path ".image" && isNonblank item.currentValue && isNonblank item.desiredValue
  | .replicaScale =>
    path == "spec.replicas" && increasesWithin 10 item.currentValue item.desiredValue
  | .oomMemory =>
    (endsWith path ".resources.requests.memory" || endsWith path ".resources.limits.memory")
      && memoryIncreasesWithinCap py item.currentValue item.desiredValue
  | .probeFix =>
    if endsWith path ".timeoutSeconds" then
      increasesWithin 30 item.currentValue item.desiredValue
    else if endsWith path ".httpGet.port" then
      match item.desiredValue with
      | .int desired => 1 ≤ desired && desired ≤ 65535
      | _ => false
    else if endsWith path ".httpGet.path" then
      match item.desiredValue with
      | .str desired => startsWith desired "/"
      | _ => false
    else
      false
  | .selectorFix =>
    (startsWith path "spec.selector.matchLabels."
        || startsWith path "spec.template.metadata.labels.")
      && isNonblank item.currentValue && isNonblank item.desiredValue

variable (plan : ManifestScalarPatchPlan)

/-- `rollback_by_path.get(path)`, the paths being different. -/
def rollbackOf (item : ScalarFieldReplacement) : Option ScalarFieldReplacement :=
  plan.rollbackReplacements.find? (fun other => other.fieldPath == item.fieldPath)

/-- The check of one replacement and of its rollback. -/
def isExactInverse (action : ScalarAction) (item : ScalarFieldReplacement) : Bool :=
  fieldPathSegments item.fieldPath ≠ [] && scalarValue item.currentValue
    && scalarValue item.desiredValue && !item.currentValue.same item.desiredValue
    && (match rollbackOf plan item with
        | none => false
        | some rollback =>
          rollback.currentValue.same item.desiredValue
            && rollback.desiredValue.same item.currentValue)
    && actionAllowsReplacement py action item

def planIncomplete : PatchFailure :=
  .manifestSourcePatch "structured scalar patch metadata is incomplete"

def notExactInverse : PatchFailure :=
  .manifestSourcePatch "structured scalar rollback is not an exact inverse"

def validateScalarPatchPlan : Except PatchFailure Unit :=
  match scalarAction plan.actionType with
  | none => .error planIncomplete
  | some action =>
    if plan.sourceType ≠ rawYaml ∨ ¬isSha256Digest plan.sourceManifestSha256
        ∨ ¬isCommitSha plan.expectedBaseSha ∨ ¬safeManifestPath plan.manifestPath
        ∨ ¬(1 ≤ plan.replacements.length ∧ plan.replacements.length ≤ 4)
        ∨ plan.rollbackReplacements.length ≠ plan.replacements.length then
      .error planIncomplete
    else if ¬(plan.replacements.map ScalarFieldReplacement.fieldPath).Nodup then
      .error (.manifestSourcePatch "structured scalar patch target is duplicated")
    else if ¬(plan.rollbackReplacements.map ScalarFieldReplacement.fieldPath).Nodup then
      .error notExactInverse
    else if plan.replacements.all (isExactInverse py plan action) then
      .ok ()
    else
      .error notExactInverse

/-- A number or a nonempty text. -/
def IsWritten (value : PyScalar) : Prop :=
  (∃ number, value = .int number) ∨ ∃ text, value = .str text ∧ text ≠ ""

/-- One replacement of an accepted plan together with its rollback. -/
structure Inverse (item rollback : ScalarFieldReplacement)
    : Prop where
  found : rollbackOf plan item = some rollback
  listed : rollback ∈ plan.rollbackReplacements
  samePath : rollback.fieldPath = item.fieldPath
  parsed : fieldPathSegments item.fieldPath ≠ []
  changes : item.currentValue.same item.desiredValue = false
  fromDesired : rollback.currentValue.same item.desiredValue = true
  toCurrent : rollback.desiredValue.same item.currentValue = true

/-- What the checks of the source establish about a plan. -/
structure ValidPlan : Prop where
  isYaml : plan.sourceType = rawYaml
  paths : (plan.replacements.map ScalarFieldReplacement.fieldPath).Nodup
  rollbackPaths : (plan.rollbackReplacements.map ScalarFieldReplacement.fieldPath).Nodup
  equallyMany : plan.rollbackReplacements.length = plan.replacements.length
  inverse : ∀ item ∈ plan.replacements, ∃ rollback, Inverse plan item rollback
  writes : ∀ item ∈ plan.replacements, IsWritten item.desiredValue
  keepsKind : ∀ item ∈ plan.replacements, item.fieldPath ≠ "kind"

theorem isNonblank_written {value : PyScalar} (nonblank : isNonblank value = true)
    : IsWritten value := by
  cases value with
  | str text =>
    refine .inr ⟨text, rfl, ?_⟩
    rintro rfl
    exact absurd nonblank (by decide)
  | _ => simp [isNonblank] at nonblank

theorem increasesWithin_written {cap : Int} {current desired : PyScalar}
    (increases : increasesWithin cap current desired = true)
    : IsWritten desired := by
  cases current <;> cases desired <;> simp [increasesWithin] at increases
  exact .inl ⟨_, rfl⟩

variable {action : ScalarAction} {item : ScalarFieldReplacement} {plan : ManifestScalarPatchPlan}
  {py : Runtime}

theorem memoryQuantityBytes_written {value : PyScalar} {bytes : Nat}
    (quantity : memoryQuantityBytes py value = some bytes)
    : IsWritten value := by
  cases value with
  | str text =>
    refine .inr ⟨text, rfl, ?_⟩
    rintro rfl
    simp [memoryQuantityBytes] at quantity
  | _ => simp [memoryQuantityBytes] at quantity

/-- Whatever an action allows, it writes a number or a nonempty text. -/
theorem actionAllowsReplacement_written
    (allowed : actionAllowsReplacement py action item = true)
    : IsWritten item.desiredValue := by
  cases action with
  | imageRollback | imageTagFix | selectorFix =>
    simp only [actionAllowsReplacement, Bool.and_eq_true] at allowed
    exact isNonblank_written allowed.2
  | replicaScale =>
    simp only [actionAllowsReplacement, Bool.and_eq_true] at allowed
    exact increasesWithin_written allowed.2
  | oomMemory =>
    simp only [actionAllowsReplacement, Bool.and_eq_true, memoryIncreasesWithinCap] at allowed
    obtain ⟨_, increases⟩ := allowed
    split at increases
    · rename_i bytes _ quantity
      exact memoryQuantityBytes_written quantity
    · cases increases
  | probeFix =>
    simp only [actionAllowsReplacement] at allowed
    split at allowed
    · exact increasesWithin_written allowed
    split at allowed
    · split at allowed
      · rename_i number isInt
        exact .inl ⟨number, isInt⟩
      · cases allowed
    split at allowed
    · split at allowed
      · rename_i text isText
        refine .inr ⟨text, isText, ?_⟩
        rintro rfl
        exact absurd allowed (by decide)
      · cases allowed
    · cases allowed

/-- No action changes the kind of a resource. -/
theorem actionAllowsReplacement_kind (allowed : actionAllowsReplacement py action item = true)
    : item.fieldPath ≠ "kind" := by
  intro atKind
  have elsewhere : endsWith "kind" ".image" = false
      ∧ endsWith "kind" ".resources.requests.memory" = false
      ∧ endsWith "kind" ".resources.limits.memory" = false
      ∧ endsWith "kind" ".timeoutSeconds" = false
      ∧ endsWith "kind" ".httpGet.port" = false
      ∧ endsWith "kind" ".httpGet.path" = false
      ∧ startsWith "kind" "spec.selector.matchLabels." = false
      ∧ startsWith "kind" "spec.template.metadata.labels." = false
      ∧ ("kind" == "spec.replicas") = false := by decide
  cases action <;> simp [actionAllowsReplacement, atKind, elsewhere] at allowed

theorem isExactInverse_inv (accepted : isExactInverse py plan action item = true)
    : (∃ rollback, Inverse plan item rollback) ∧ IsWritten item.desiredValue
      ∧ item.fieldPath ≠ "kind" := by
  simp only [isExactInverse, Bool.and_eq_true, decide_eq_true_eq, Bool.not_eq_true'] at accepted
  obtain ⟨⟨⟨⟨⟨parsed, _⟩, _⟩, changes⟩, inverse⟩, allowed⟩ := accepted
  refine ⟨?_, actionAllowsReplacement_written allowed, actionAllowsReplacement_kind allowed⟩
  split at inverse
  · cases inverse
  · rename_i rollback found
    rw [Bool.and_eq_true] at inverse
    exact ⟨rollback, found, mem_of_find?_eq_some found,
      by simpa using find?_some found, parsed, changes, inverse.1, inverse.2⟩

theorem validateScalarPatchPlan_valid (accepted : validateScalarPatchPlan py plan = .ok ())
    : ValidPlan plan := by
  unfold validateScalarPatchPlan at accepted
  split at accepted
  · cases accepted
  split at accepted
  · cases accepted
  rename_i metadata
  split at accepted
  · cases accepted
  rename_i paths
  split at accepted
  · cases accepted
  rename_i rollbackPaths
  split at accepted
  · rename_i inverses
    simp only [not_or, not_not] at metadata
    rw [not_not] at paths rollbackPaths
    rw [all_eq_true] at inverses
    exact
      {
        isYaml := metadata.1
        paths := paths
        rollbackPaths := rollbackPaths
        equallyMany := metadata.2.2.2.2.2
        inverse := fun item mem => (isExactInverse_inv (inverses item mem)).1
        writes := fun item mem => (isExactInverse_inv (inverses item mem)).2.1
        keepsKind := fun item mem => (isExactInverse_inv (inverses item mem)).2.2 }
  · cases accepted

/-- The rollback replacements are those of the replacements, in some order. -/
theorem ValidPlan.rollback_perm (valid : ValidPlan plan)
    {back : ScalarFieldReplacement → ScalarFieldReplacement}
    (inverse : ∀ item ∈ plan.replacements, Inverse plan item (back item))
    : (plan.replacements.map back).Perm plan.rollbackReplacements := by
  have paths : (plan.replacements.map back).map ScalarFieldReplacement.fieldPath
      = plan.replacements.map ScalarFieldReplacement.fieldPath := by
    rw [map_map]
    exact map_congr_left (fun item mem => (inverse item mem).samePath)
  have distinct : (plan.replacements.map back).Nodup := Nodup.of_map _ (paths ▸ valid.paths)
  refine (subperm_of_subset distinct ?_).perm_of_length_le ?_
  · intro rollback mem
    obtain ⟨item, inPlan, rfl⟩ := mem_map.mp mem
    exact (inverse item inPlan).listed
  · rw [length_map]
    exact valid.equallyMany.le

end K8sClue.SourcePatch
