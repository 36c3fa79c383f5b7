import K8sClue.Python.Conversions
import K8sClue.SourcePatch.Materialize

/-! Fields that the kustomizations of a graph own.
A recovery edits a field in the file of its resource only if no kustomization is found to own the
field. Beside that search stands what the built-in transformers do to the field, as Kustomize
documents it.
-/

namespace K8sClue.SourcePatch

open Python Library List

inductive ProtectedField where
  | replicas
  | image (container : String)
  | selector (label : String)

def ProtectedField.path : ProtectedField → String
  | .replicas => "spec.replicas"
  | .image container => "spec.template.spec.containers[name=" ++ container ++ "].image"
  | .selector label => "spec.selector.matchLabels." ++ label

def sequenceValue (field : String) : PyValue → Except String (List PyValue)
  | .scalar .none => .ok []
  | .list items => .ok items
  | _ => .error ("Kustomize " ++ field ++ " must be a list")

def semanticFieldsOverlap (left right : String) : Bool :=
  left = right || startsWith left (right ++ ".") || startsWith right (left ++ ".")

/-- What a target can name of a resource. -/
def ManifestIdentity.named (selected : ManifestIdentity) : List (String × String) :=
  [("kind", selected.kind), ("name", selected.name), ("namespace", selected.namespace_.getD "")]

/-- One search for owners: `isalnum` of characters, what the loops over patches find, and the
references that are collected on the way.
-/
structure OwnerSearch where
  python : Runtime
  isAlnum : Char → Bool
  patchesOwn : PyDict → Except String Bool
  localReferences : PyDict → Except String (List String)
  selected : ManifestIdentity
  fields : List ProtectedField

namespace OwnerSearch

variable (search : OwnerSearch)

/-- The loop of `target_may_select`: only an unequal literal tells another resource. -/
def mayName (target : PyValue) : List (String × String) → Bool
  | [] => true
  | (key, expected) :: rest =>
    match target.get key with
    | .scalar .none => mayName target rest
    | .scalar (.str value) =>
      if value = expected then mayName target rest
      else !value.toList.all fun char => search.isAlnum char || ['.', '_', '-'].contains char
    | _ => true

def targetMaySelect : PyValue → Bool
  | .dict target => search.mayName (.dict target) search.selected.named
  | _ => true

/-- The body of the loop over the targets of a replacement. -/
def targetOwnsField : PyValue → Bool
  | .dict target =>
    search.targetMaySelect (PyDict.get target "select")
      && match PyDict.get target "fieldPaths" with
        | .list paths => paths.any fun
          | .scalar (.str path) => search.fields.any (semanticFieldsOverlap path ·.path)
          | _ => true
        | _ => true
  | _ => true

def replacementsOwnField (value : PyValue) : Except String Bool := do
  (← sequenceValue "replacements" value).anyM fun
    | .dict repl => do
      let targets ← sequenceValue "replacements.targets" (PyDict.get repl "targets")
      return targets.any search.targetOwnsField
    | _ => return true

/-- `str(replica.get("name") or "")` -/
def replicaName (replica : PyDict) : String :=
  let name := replica.get "name"
  if name.truthy then search.python.strOf name else ""

def replicaOwnsField : PyValue → Bool
  | .dict replica => search.replicaName replica = search.selected.name
  | _ => true

/-- The first check that finds an owner, or raises, ends the search. -/
def kustomizationOwnsProtectedField (document : PyDict) : Except String Bool :=
  if search.fields.isEmpty then .ok false
  else [
    do return !(← sequenceValue "transformers" (document.get "transformers")).isEmpty,
    if search.fields.any (·.path = "spec.replicas") then do
      return (← sequenceValue "replicas" (document.get "replicas")).any search.replicaOwnsField
    else .ok false,
    search.patchesOwn document,
    search.replacementsOwnField (document.get "replacements")
  ].anyM id

/-- `kustomize_resource_paths_and_field_ownership`, of the documents in the order of their paths. -/
def fieldOwnership : List PyDict → Except String (List String × Bool)
  | [] => return ([], false)
  | document :: rest => do
    let references ← search.localReferences document
    if ← search.kustomizationOwnsProtectedField document then return (references, true)
    let (paths, owned) ← fieldOwnership rest
    return (references ++ paths, owned)

end OwnerSearch

inductive Transformer where
  | replicas
  | images
  | commonLabels
  | labels
  | replacements
  /-- `replacements` that are kept in a file -/
  | replacementFiles

/-- Where a path of Kustomize leads: the items of a list have segments of their own. -/
def ProtectedField.segments : ProtectedField → List (List Char)
  | .replicas => ["spec", "replicas"].map String.toList
  | .image container =>
    ["spec", "template", "spec", "containers", "[name=" ++ container ++ "]", "image"].map
      String.toList
  | .selector label => ["spec", "selector", "matchLabels", label].map String.toList

def ProtectedField.value (field : ProtectedField) (resource : PyDict) : Option PyValue :=
  (objectValueAt (.dict resource) (fieldPathSegments field.path)).toOption

def listed : PyValue → List PyValue
  | .list items => items
  | _ => []

/-- The image that an entry gives to a container whose image it names. -/
def newImage (entry : PyValue) (image : String) : Option String :=
  match entry.get "name" with
  | .scalar (.str name) =>
    let version := image.toList.drop name.length
    if startsWith image name
        && (version = [] || ([':', '@'].any (version.head? = some ·) && !version.contains '/')) then
      let base := match entry.get "newName" with
        | .scalar (.str other) => other
        | _ => name
      match entry.get "digest", entry.get "newTag" with
      | .scalar (.str digest), _ => some (base ++ "@" ++ digest)
      | _, .scalar (.str tag) => some (base ++ ":" ++ tag)
      | _, _ => some (base ++ String.ofList version)
    else none
  | _ => none

/-- A target names nothing of a resource that is another one's. -/
def Selects (target : PyValue) (named : List (String × String)) : Prop :=
  ∀ entry ∈ named, target.get entry.1 = .scalar .none ∨ target.get entry.1 = .scalar (.str entry.2)

/-- What Kustomize reads beside a document: the values that a replacement writes for a target, at
its path and below, and the replacements that are kept in a file.
-/
structure ReplacementInputs where
  sourceValue : PyDict → PyDict → List (List Char) → Option PyValue
  keptIn : String → List PyDict

section Rewrites

variable (selected : ManifestIdentity) (inputs : ReplacementInputs) (document resource : PyDict)

/-- A replacement gives a field of the selected resource a value. -/
inductive Replaces (repl : PyDict) : ProtectedField → PyValue → Prop where
  | target {target : PyDict} {path : String} {field : ProtectedField}
      {first : List Char} {above below : List (List Char)} {value : PyValue}
      (inside : .dict target ∈ listed (repl.get "targets"))
      (selects : Selects (target.get "select") selected.named)
      (unrejected : ∀ other ∈ listed (target.get "reject"), ¬ Selects other selected.named)
      (pathed : .scalar (.str path) ∈ listed (target.get "fieldPaths"))
      (written : path.toList = ['.'].intercalate (first :: above))
      (leads : first :: above ++ below = field.segments)
      (given : inputs.sourceValue repl target below = some value)
      : Replaces repl field value

/-- A transformer of a document gives a field of the selected resource a value. -/
inductive Rewrites : Transformer → ProtectedField → PyValue → Prop where
  | replicas {entry : PyDict} (mem : .dict entry ∈ listed (document.get "replicas"))
      (named : entry.get "name" = .scalar (.str selected.name))
      (kind : selected.kind
        ∈ ["Deployment", "ReplicaSet", "ReplicationController", "StatefulSet"])
      : Rewrites .replicas .replicas (entry.get "count")
  | images {entry : PyValue} {container image next : String}
      (mem : entry ∈ listed (document.get "images"))
      (found : (ProtectedField.image container).value resource = some (.scalar (.str image)))
      (given : newImage entry image = some next)
      : Rewrites .images (.image container) (.scalar (.str next))
  | commonLabels {label : String} {value : PyValue}
      (found : getKey (document.get "commonLabels").mapping label = some value)
      (kind : selected.kind ∈ ["DaemonSet", "Deployment", "ReplicaSet", "StatefulSet"])
      : Rewrites .commonLabels (.selector label) value
  | labels {entry : PyValue} {label : String} {value : PyValue}
      (mem : entry ∈ listed (document.get "labels"))
      (selectors : (entry.get "includeSelectors").isBool true = true)
      (found : getKey (entry.get "pairs").mapping label = some value)
      (kind : selected.kind ∈ ["DaemonSet", "Deployment", "ReplicaSet", "StatefulSet"])
      : Rewrites .labels (.selector label) value
  | replacements {repl : PyDict} {field : ProtectedField} {value : PyValue}
      (mem : .dict repl ∈ listed (document.get "replacements"))
      (replaces : Replaces selected inputs repl field value)
      : Rewrites .replacements field value
  | replacementFiles {entry repl : PyDict} {path : String} {field : ProtectedField}
      {value : PyValue}
      (mem : .dict entry ∈ listed (document.get "replacements"))
      (pathed : entry.get "path" = .scalar (.str path))
      (kept : repl ∈ inputs.keptIn path)
      (replaces : Replaces selected inputs repl field value)
      : Rewrites .replacementFiles field value

end Rewrites

/-- Nothing looks for the images and labels of a document or into files of replacements; and the
path of a container in a replacement is written in another way than the protected one.
-/
def Transformer.Unseen : Transformer → ProtectedField → Prop
  | .replicas, _ => False
  | .replacements, .image _ => True
  | .replacements, _ => False
  | _, _ => True

section Found

variable {search : OwnerSearch} {document resource : PyDict} {field : ProtectedField}
  {inputs : ReplacementInputs}

/-- A search finds nothing if it looks at all items and finds nothing at any. -/
theorem anyM_false_iff {α : Type} {items : List α} {search : α → Except String Bool}
    : items.anyM search = .ok false ↔ ∀ item ∈ items, search item = .ok false := by
  induction items with
  | nil => simp [pure, Except.pure]
  | cons first rest ih =>
    rw [forall_mem_cons, ← ih]
    simp only [anyM, bind_ok]
    constructor
    · rintro ⟨found, searched, next⟩
      cases found with
      | true => cases next
      | false => exact ⟨searched, next⟩
    · rintro ⟨searched, next⟩
      exact ⟨false, searched, next⟩

def isSequence : PyValue → Bool
  | .scalar .none => true
  | .list _ => true
  | _ => false

theorem sequenceValue_ok {name : String} {value : PyValue} {items : List PyValue}
    : sequenceValue name value = .ok items ↔ isSequence value = true ∧ listed value = items := by
  unfold sequenceValue
  split
  · simp [isSequence, listed]
  · simp [isSequence, listed]
  next notNone notList =>
    refine ⟨nofun, fun ⟨sequence, _⟩ => ?_⟩
    unfold isSequence at sequence
    split at sequence
    · exact absurd rfl notNone
    · exact absurd rfl (notList _)
    · cases sequence

/-- The first value of the target that is not the resource's is a text of letters, digits, dots,
underscores and hyphens.
-/
def OwnerSearch.ToldApart (search : OwnerSearch) (target : PyValue) (named : List (String × String))
    : Prop :=
  ∃ before entry after value, named = before ++ entry :: after
    ∧ (∀ other ∈ before, target.get other.1 = .scalar .none
        ∨ target.get other.1 = .scalar (.str other.2))
    ∧ target.get entry.1 = .scalar (.str value) ∧ value ≠ entry.2
    ∧ ∀ char ∈ value.toList, search.isAlnum char = true ∨ char ∈ ['.', '_', '-']

/-- A target that is told apart, or whose paths are texts that lead to no protected field and to
nothing above or below one.
-/
def OwnerSearch.AimsElsewhere (search : OwnerSearch) (target : PyValue) : Prop :=
  ∃ fields, target = .dict fields
    ∧ (search.ToldApart (PyDict.get fields "select") search.selected.named
      ∨ ∃ paths, PyDict.get fields "fieldPaths" = .list paths
        ∧ ∀ path ∈ paths, ∃ text, path = .scalar (.str text)
          ∧ ∀ field ∈ search.fields, semanticFieldsOverlap text field.path = false)

/-- Nothing in a document stops the search: it has no transformers, no entry of `replicas` for the
resource if the replicas are protected, no patch that owns a field, only replacements that aim
elsewhere, and nothing that is not of the form that the search expects.
-/
structure OwnerSearch.Passes (search : OwnerSearch) (document : PyDict) : Prop where
  references : ∃ references, search.localReferences document = .ok references
  transformers : isSequence (document.get "transformers") = true
    ∧ listed (document.get "transformers") = []
  replicas : search.fields.any (·.path = "spec.replicas") = true
    → isSequence (document.get "replicas") = true
      ∧ ∀ entry ∈ listed (document.get "replicas"), ∃ replica, entry = .dict replica
        ∧ search.replicaName replica ≠ search.selected.name
  patches : search.patchesOwn document = .ok false
  replacements : isSequence (document.get "replacements") = true
    ∧ ∀ entry ∈ listed (document.get "replacements"), ∃ repl, entry = .dict repl
      ∧ isSequence (PyDict.get repl "targets") = true
      ∧ ∀ target ∈ listed (PyDict.get repl "targets"), search.AimsElsewhere target

variable {target : PyValue}

theorem mayName_false_iff {named : List (String × String)}
    : search.mayName target named = false ↔ search.ToldApart target named := by
  induction named with
  | nil => simp [OwnerSearch.mayName, OwnerSearch.ToldApart]
  | cons entry rest ih =>
    have later (same : target.get entry.1 = .scalar .none
          ∨ target.get entry.1 = .scalar (.str entry.2))
        : search.ToldApart target rest ↔ search.ToldApart target (entry :: rest) := by
      constructor
      · rintro ⟨before, other, after, value, rfl, equal, apart⟩
        exact ⟨entry :: before, other, after, value, rfl, forall_mem_cons.mpr ⟨same, equal⟩,
          apart⟩
      · rintro ⟨before, other, after, value, split_, equal, given, unequal, literal⟩
        cases before with
        | nil =>
          cases split_
          rcases same with missing | same
          · cases given.symm.trans missing
          · cases given.symm.trans same
            exact absurd rfl unequal
        | cons first before =>
          cases split_
          exact ⟨before, other, after, value, rfl, (forall_mem_cons.mp equal).2, given,
            unequal, literal⟩
    have first (different : target.get entry.1 ≠ .scalar .none)
        (other : target.get entry.1 ≠ .scalar (.str entry.2))
        : search.ToldApart target (entry :: rest)
          ↔ ∃ value, target.get entry.1 = .scalar (.str value)
            ∧ ∀ char ∈ value.toList, search.isAlnum char = true ∨ char ∈ ['.', '_', '-'] := by
      constructor
      · rintro ⟨before, _, after, value, split_, equal, given, _, literal⟩
        cases before with
        | nil =>
          cases split_
          exact ⟨value, given, literal⟩
        | cons _ _ =>
          cases split_
          exact ((forall_mem_cons.mp equal).1.elim different other).elim
      · rintro ⟨value, given, literal⟩
        exact ⟨[], entry, rest, value, rfl, by simp, given,
          fun same => other (same ▸ given), literal⟩
    unfold OwnerSearch.mayName
    split
    next missing => exact ih.trans (later (.inl missing))
    next value given =>
      split
      next same => exact ih.trans (later (.inr (same ▸ given)))
      next unequal =>
        rw [first (by simp [given]) (by simpa [given] using unequal)]
        simp [given]
    next missing text =>
      rw [first missing (text _)]
      simpa using fun value given => absurd given (text value)

theorem targetMaySelect_false_iff
    : search.targetMaySelect target = false
      ↔ search.ToldApart target search.selected.named := by
  cases target with
  | dict entries => exact mayName_false_iff
  | _ => exact ⟨nofun, fun ⟨_, _, _, _, _, _, given, _⟩ => nomatch given⟩

theorem not_toldApart_of_selects (selects : Selects target search.selected.named)
    : ¬ search.ToldApart target search.selected.named := by
  rintro ⟨before, entry, after, value, split_, _, given, unequal, _⟩
  rcases selects entry (by simp [split_]) with missing | same
  · cases given.symm.trans missing
  · cases given.symm.trans same
    exact unequal rfl

theorem targetOwnsField_false
    : search.targetOwnsField target = false ↔ search.AimsElsewhere target := by
  cases target with
  | dict fields =>
    rw [OwnerSearch.targetOwnsField, Bool.and_eq_false_iff, targetMaySelect_false_iff]
    constructor
    · rintro (told | apart)
      · exact ⟨fields, rfl, .inl told⟩
      · split at apart
        next paths given =>
          refine ⟨fields, rfl, .inr ⟨paths, given, fun path mem => ?_⟩⟩
          have unled := any_eq_false.mp apart path mem
          split at unled
          next text =>
            refine ⟨text, rfl, fun field listed_ => Bool.eq_false_iff.mpr fun overlaps => ?_⟩
            exact unled (any_eq_true.mpr ⟨field, listed_, overlaps⟩)
          · exact absurd rfl unled
        · cases apart
    · rintro ⟨_, same, told | ⟨paths, given, apart⟩⟩
      · cases same
        exact .inl told
      · cases same
        rw [given]
        refine .inr (any_eq_false.mpr fun path mem => ?_)
        obtain ⟨text, rfl, unled⟩ := apart path mem
        exact Bool.eq_false_iff.mp
          (any_eq_false.mpr fun field listed_ => Bool.eq_false_iff.mp (unled field listed_))
  | _ => exact ⟨nofun, fun ⟨_, same, _⟩ => nomatch same⟩

theorem replicaOwnsField_false {entry : PyValue}
    : search.replicaOwnsField entry = false
      ↔ ∃ replica, entry = .dict replica ∧ search.replicaName replica ≠ search.selected.name := by
  cases entry <;> simp [OwnerSearch.replicaOwnsField]

theorem intercalate_append (first next : List Char) (above below : List (List Char))
    : ['.'].intercalate (first :: above ++ next :: below)
      = ['.'].intercalate (first :: above) ++ '.' :: ['.'].intercalate (next :: below) := by
  induction above generalizing first with
  | nil => simp
  | cons second rest ih =>
    rw [cons_append, cons_append, intercalate_cons_cons, ← cons_append,
      ih second, intercalate_cons_cons, append_assoc _ _ ('.' :: _)]

/-- A part of a path and the whole path overlap. -/
theorem overlap_of_leads {path : String} {first : List Char} {above below : List (List Char)}
    (written : path.toList = ['.'].intercalate (first :: above))
    (leads : first :: above ++ below = field.segments)
    (seen : ¬ Transformer.replacements.Unseen field)
    : semanticFieldsOverlap path field.path = true := by
  have whole : field.path.toList = ['.'].intercalate field.segments := by
    cases field with
    | replicas => rfl
    | image container => exact (seen trivial).elim
    | selector label =>
      unfold ProtectedField.path ProtectedField.segments
      simp
  rw [← leads] at whole
  rw [semanticFieldsOverlap, Bool.or_eq_true, Bool.or_eq_true]
  cases below with
  | nil =>
    rw [append_nil] at whole
    exact .inl (.inl (decide_eq_true (String.toList_inj.mp (written.trans whole.symm))))
  | cons next rest =>
    rw [intercalate_append, ← written] at whole
    refine .inr (List.isPrefixOf_iff_prefix.mpr ⟨['.'].intercalate (next :: rest), ?_⟩)
    simp [whole]

theorem replacementsOwnField_false {value : PyValue}
    : search.replacementsOwnField value = .ok false
      ↔ isSequence value = true ∧ ∀ entry ∈ listed value, ∃ repl, entry = .dict repl
        ∧ isSequence (PyDict.get repl "targets") = true
        ∧ ∀ target ∈ listed (PyDict.get repl "targets"), search.AimsElsewhere target := by
  unfold OwnerSearch.replacementsOwnField
  simp only [bind_ok, sequenceValue_ok, anyM_false_iff, ← targetOwnsField_false]
  constructor
  · rintro ⟨items, ⟨sequence, rfl⟩, nothing⟩
    refine ⟨sequence, fun entry mem => ?_⟩
    have unowned := nothing entry mem
    split at unowned
    next repl =>
      obtain ⟨targets, read, none_⟩ := bind_ok.mp unowned
      obtain ⟨listed_, rfl⟩ := sequenceValue_ok.mp read
      exact ⟨repl, rfl, listed_, fun target inside =>
        Bool.eq_false_iff.mpr (any_eq_false.mp (Except.ok.inj none_) target inside)⟩
    · cases unowned
  · rintro ⟨sequence, each⟩
    refine ⟨_, ⟨sequence, rfl⟩, fun entry mem => ?_⟩
    obtain ⟨repl, rfl, listed_, none_⟩ := each entry mem
    refine bind_ok.mpr ⟨_, sequenceValue_ok.mpr ⟨listed_, rfl⟩, congrArg Except.ok ?_⟩
    exact any_eq_false.mpr fun target inside => Bool.eq_false_iff.mp (none_ target inside)

/-- A document is free where it passes. -/
theorem passes_iff (asked : search.fields.isEmpty = false)
    : search.Passes document
      ↔ (∃ references, search.localReferences document = .ok references)
        ∧ search.kustomizationOwnsProtectedField document = .ok false := by
  rw [OwnerSearch.kustomizationOwnsProtectedField, asked]
  simp only [Bool.false_eq_true, if_false, anyM_false_iff, forall_mem_cons, not_mem_nil, id_eq,
    IsEmpty.forall_iff, implies_true, and_true, replacementsOwnField_false, bind_ok,
    sequenceValue_ok, pure, Except.pure, Except.ok.injEq]
  constructor
  · rintro ⟨references, ⟨sequence, empty⟩, replicas, patches, replacements⟩
    refine ⟨references, ⟨_, ⟨sequence, rfl⟩, by rw [empty]; rfl⟩, ?_, patches, replacements⟩
    split
    next protected_ =>
      obtain ⟨listed_, none_⟩ := replicas protected_
      refine bind_ok.mpr ⟨_, sequenceValue_ok.mpr ⟨listed_, rfl⟩, congrArg Except.ok ?_⟩
      exact any_eq_false.mpr fun entry inside =>
        Bool.eq_false_iff.mp (replicaOwnsField_false.mpr (none_ entry inside))
    · rfl
  · rintro ⟨references, ⟨_, ⟨sequence, rfl⟩, empty⟩, replicas, patches, replacements⟩
    refine ⟨references, ⟨sequence, by simpa using empty⟩, fun protected_ => ?_, patches,
      replacements⟩
    rw [if_pos protected_] at replicas
    obtain ⟨items, read, none_⟩ := bind_ok.mp replicas
    obtain ⟨listed_, rfl⟩ := sequenceValue_ok.mp read
    exact ⟨listed_, fun entry inside => replicaOwnsField_false.mp
      (Bool.eq_false_iff.mpr (any_eq_false.mp (Except.ok.inj none_) entry inside))⟩

/-- The search stops at a document where it can see a field to be rewritten. -/
theorem not_passes_of_seen {transformer : Transformer} {value : PyValue}
    (mem : field ∈ search.fields)
    (rewrites : Rewrites search.selected inputs document resource transformer field value)
    (seen : ¬ transformer.Unseen field)
    : ¬ search.Passes document := by
  intro passes
  cases rewrites with
  | replicas inside named _ =>
    obtain ⟨_, same, unnamed⟩ :=
      (passes.replicas (any_eq_true.mpr ⟨_, mem, decide_eq_true rfl⟩)).2 _ inside
    cases same
    simp only [OwnerSearch.replicaName, named, PyValue.truthy, Runtime.strOf] at unnamed
    by_cases empty : search.selected.name = "" <;> simp [empty] at unnamed
  | @replacements repl _ _ inside replaces =>
    obtain ⟨_, same, _, untargeted⟩ := passes.replacements.2 _ inside
    cases same
    cases replaces with
    | @target target path _ _ _ _ _ within selects _ pathed written leads =>
      obtain ⟨_, same, told | ⟨paths, given, apart⟩⟩ := untargeted _ within
      · cases same
        exact not_toldApart_of_selects selects told
      · cases same
        rw [given] at pathed
        obtain ⟨_, same, unled⟩ := apart _ pathed
        cases same
        exact Bool.false_ne_true ((unled _ mem).symm.trans (overlap_of_leads written leads seen))
  | images => exact seen trivial
  | commonLabels => exact seen trivial
  | labels => exact seen trivial
  | replacementFiles => exact seen trivial

/-- A graph is free exactly if all its documents pass. -/
theorem free_graph_iff (asked : search.fields.isEmpty = false) {documents : List PyDict}
    : (∃ paths, search.fieldOwnership documents = .ok (paths, false))
      ↔ ∀ document ∈ documents, search.Passes document := by
  induction documents with
  | nil => exact ⟨fun _ _ mem => absurd mem not_mem_nil, fun _ => ⟨[], rfl⟩⟩
  | cons first rest ih =>
    rw [forall_mem_cons, ← ih, passes_iff asked]
    constructor
    · rintro ⟨paths, free⟩
      obtain ⟨references, read, next⟩ := bind_ok.mp free
      obtain ⟨owned, searched, next⟩ := bind_ok.mp next
      cases owned with
      | true => cases next
      | false =>
        obtain ⟨⟨later, found⟩, below, same⟩ := bind_ok.mp next
        cases (Prod.mk.inj (Except.ok.inj same)).2
        exact ⟨⟨⟨references, read⟩, searched⟩, later, below⟩
    · rintro ⟨⟨⟨references, read⟩, searched⟩, later, below⟩
      refine ⟨references ++ later, bind_ok.mpr ⟨references, read, ?_⟩⟩
      exact bind_ok.mpr ⟨false, searched, bind_ok.mpr ⟨(later, false), below, rfl⟩⟩

end Found

end K8sClue.SourcePatch
