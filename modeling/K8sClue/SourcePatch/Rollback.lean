import K8sClue.SourcePatch.Equality
import K8sClue.SourcePatch.ScalarPlan

/-! Patching a manifest by a scalar plan, and rolling the patch back.
The rollback finds the patched scalars again in the patched text and writes the old values
there, so it restores the old text only where writing the old value gives its old spelling.
-/

namespace K8sClue.SourcePatch

open Python Library List Function

/-- `if not accepted: raise failure`. -/
def require (accepted : Bool) (failure : PatchFailure) : Except PatchFailure Unit :=
  if accepted then .ok () else .error failure

def sourceInvalid : PatchFailure := .manifestSourcePatch "manifest source is invalid"

def oneObject : PyValue → Except PatchFailure Entries
  | .dict entries => .ok entries
  | _ => .error (.manifestSourcePatch "manifest source must be one object")

variable (yaml : Yaml)

def parseSingleManifest (source sourceType : String) : Except PatchFailure Entries :=
  if sourceType ≠ rawJson ∧ sourceType ≠ rawYaml then
    .error (.manifestSourcePatch "unsupported manifest source type")
  else if sourceType = rawJson then
    match yaml.jsonLoads source with
    | none => .error sourceInvalid
    | some value => oneObject value
  else
    match yaml.safeLoadAll source with
    | none => .error sourceInvalid
    | some [value] => oneObject value
    | some _ => .error (.manifestSourcePatch "manifest source must contain one document")

def manifestMessages : PatchMessages :=
  {
    stale := "manifest scalar does not match approved artifact"
    notScalar := "manifest scalar target is not unique"
    overlap := "manifest scalar target overlaps" }

def isDeployment (resource : Entries) : Bool :=
  match getKey resource "kind" with
  | some kind => kind.eq (.scalar (.str "Deployment"))
  | none => false

/-- The one mapping node of a source without anchors and aliases. -/
def composeManifest (source : String) : Except PatchFailure Node :=
  match yaml.hasAnchor source with
  | none => .error sourceInvalid
  | some true => .error (.manifestSourcePatch "manifest anchors and aliases are not patchable")
  | some false =>
    match yaml.composeAll source with
    | none => .error sourceInvalid
    | some [.mapping entries] => .ok (.mapping entries)
    | some _ => .error (.manifestSourcePatch "manifest source must contain one object")

variable (canonicalManifestDigest : Entries → Except PatchFailure String)

/-- `_materialize_scalar_replacements`, for a `canonical_manifest_digest` of the runtime. -/
def materializeScalarReplacements
    (source sourceType expectedSourceSha256 : String) (replacements : List ScalarFieldReplacement)
    : Except PatchFailure String := do
  let original ← parseSingleManifest yaml source sourceType
  require (isDeployment original) (.manifestSourcePatch "manifest source must be a Deployment")
  let digest ← canonicalManifestDigest original
  require (digest == expectedSourceSha256)
    (.manifestSourcePatch "manifest source digest does not match approved artifact")
  let root ← composeManifest yaml source
  let (spans, expected) ←
    collectSpans yaml manifestMessages false (.dict original) root (.dict original) replacements
  let patched ← splicedText manifestMessages source spans
  let document ← parseSingleManifest yaml patched sourceType
  require ((PyValue.dict document).eq expected)
    (.manifestSourcePatch "manifest patch changed fields outside approved scalars")
  return patched

def materializeScalarPatch (py : Runtime) (yaml : Yaml)
    (canonicalManifestDigest : Entries → Except PatchFailure String) (source : String)
    (plan : ManifestScalarPatchPlan)
    : Except PatchFailure String := do
  validateScalarPatchPlan py plan
  materializeScalarReplacements yaml canonicalManifestDigest source plan.sourceType
    plan.sourceManifestSha256 plan.replacements

def materializeScalarRollback (py : Runtime) (yaml : Yaml)
    (canonicalManifestDigest : Entries → Except PatchFailure String) (source : String)
    (plan : ManifestScalarPatchPlan) (expectedSourceSha256 : String)
    : Except PatchFailure String := do
  validateScalarPatchPlan py plan
  require (isSha256Digest expectedSourceSha256)
    (.manifestSourcePatch "rollback source digest is invalid")
  materializeScalarReplacements yaml canonicalManifestDigest source plan.sourceType
    expectedSourceSha256 plan.rollbackReplacements

-----------------------------------------------------------------------------------------
-- A returned text, read backwards through the checks
-----------------------------------------------------------------------------------------

/-- A source that passed the checks before the loop over the replacements. -/
structure ManifestRead
    (source expectedSourceSha256 : String) (original : Entries) (root : Node)
    : Prop where
  loaded : yaml.safeLoadAll source = some [.dict original]
  deployment : isDeployment original = true
  digest : canonicalManifestDigest original = .ok expectedSourceSha256
  composed : composeManifest yaml source = .ok root

variable {canonicalManifestDigest : Entries → Except PatchFailure String}
  {place : ScalarFieldReplacement → Span Char} {replacements : List ScalarFieldReplacement}
  {root : Node} {yaml : Yaml} {source : String}

theorem parseSingleManifest_yaml {document : Entries}
    : parseSingleManifest yaml source rawYaml = .ok document
      ↔ yaml.safeLoadAll source = some [.dict document] := by
  have notJson : rawYaml ≠ rawJson := by decide
  simp only [parseSingleManifest, notJson, if_false]
  cases yaml.safeLoadAll source with
  | none => simp
  | some documents =>
    match documents with
    | [] => simp
    | [.dict entries] => simp [oneObject]
    | [.scalar value] => simp [oneObject]
    | [.list items] => simp [oneObject]
    | first :: second :: rest => simp

theorem composeManifest_inv (composed : composeManifest yaml source = .ok root)
    : yaml.hasAnchor source = some false ∧ yaml.composeAll source = some [root]
      ∧ ∃ entries, root = .mapping entries := by
  unfold composeManifest at composed
  split at composed
  · cases composed
  · cases composed
  rename_i noAnchor
  split at composed
  · cases composed
  · rename_i entries nodes
    cases composed
    exact ⟨noAnchor, nodes, entries, rfl⟩
  · cases composed

theorem require_ok {accepted : Bool} {failure : PatchFailure} {done : Unit}
    : require accepted failure = .ok done ↔ accepted = true := by
  cases accepted <;> simp [require]

variable {messages : PatchMessages} {out : String} {spans : List (Span Char)} {final : PyValue}
  {py : Runtime}

theorem splicedText_ok
    : splicedText messages source spans = .ok out
      ↔ (spans.map (fun span => (span.start, span.stop))).Nodup
        ∧ String.ofList (spliceAll source.toList spans) = out := by
  rw [splicedText]
  split
  · rename_i distinct
    simp [distinct]
  · rename_i repeated
    simp [repeated]

/-- What a call that returns went through, and that going through it returns. -/
theorem materializeScalarReplacements_ok {source expectedSourceSha256 : String}
    : materializeScalarReplacements yaml canonicalManifestDigest source rawYaml
        expectedSourceSha256 replacements = .ok out
      ↔ ∃ original root spans expected document,
          ManifestRead yaml canonicalManifestDigest source expectedSourceSha256 original root
          ∧ collectSpans yaml manifestMessages false (.dict original) root (.dict original)
              replacements = .ok (spans, expected)
          ∧ (spans.map (fun span => (span.start, span.stop))).Nodup
          ∧ String.ofList (spliceAll source.toList spans) = out
          ∧ yaml.safeLoadAll out = some [.dict document]
          ∧ (PyValue.dict document).eq expected = true := by
  simp only [materializeScalarReplacements, bind_ok, require_ok, beq_iff_eq, pure, Except.pure,
    splicedText_ok, parseSingleManifest_yaml, exists_const, Except.ok.injEq]
  constructor
  · rintro ⟨original, loaded, deployment, digest, digestOk, same, root, composed,
      ⟨spans, expected⟩, collected, patched, ⟨distinct, spliced⟩, document, reloaded, equal,
      rfl⟩
    exact ⟨original, root, spans, expected, document,
      ⟨loaded, deployment, same ▸ digestOk, composed⟩, collected, distinct, spliced, reloaded,
      equal⟩
  · rintro ⟨original, root, spans, expected, document, read, collected, distinct, spliced,
      reloaded, equal⟩
    exact ⟨original, read.loaded, read.deployment, _, read.digest, rfl, root,
      read.composed, (spans, expected), collected, out, ⟨distinct, spliced⟩, document, reloaded,
      equal, rfl⟩

/-- A value that may not be the desired one already equals the current value, types included. -/
theorem Approved.held {original : PyValue} {repl : ScalarFieldReplacement}
    (approved : Approved false original repl)
    : ∃ held, objectValueAt original (fieldPathSegments repl.fieldPath) = .ok (.scalar held)
        ∧ held.same repl.currentValue = true := by
  obtain ⟨current, read, same | ⟨impossible, _⟩⟩ := approved
  · cases current with
    | scalar held => exact ⟨held, read, same⟩
    | _ => simp [PyValue.sameScalar] at same
  · cases impossible

/-- The loop over replacements none of which may be applied already. -/
theorem collectSpans_ok {original : PyValue} {expected : PyValue}
    (approved : ∀ repl ∈ replacements, Approved false original repl)
    (found : ∀ repl ∈ replacements,
        targetSpan yaml manifestMessages root repl = .ok (place repl))
    (expects : setInOrder expected replacements = .ok final)
    : collectSpans yaml manifestMessages false original root expected replacements
      = .ok (replacements.map place, final) := by
  induction replacements generalizing expected with
  | nil =>
    cases expects
    rfl
  | cons repl rest ih =>
    obtain ⟨held, read, same⟩ := (approved repl mem_cons_self).held
    rw [setInOrder] at expects
    split at expects
    · cases expects
    rename_i next set_
    have step : collectReplacement yaml manifestMessages false original root expected
        repl = .ok (some (place repl), next) := by
      simp [collectReplacement, read, alreadyApplied, PyValue.sameScalar, same, set_,
        found repl mem_cons_self]
    have later := ih (fun other mem => approved other (mem_cons_of_mem _ mem))
      (fun other mem => found other (mem_cons_of_mem _ mem)) expects
    simp only [collectSpans, step, later]
    rfl

theorem targetSpans_eq_map
    (located : ∀ repl ∈ replacements,
        targetSpan yaml messages root repl = .ok (place repl))
    : targetSpans yaml messages root replacements = replacements.map place := by
  induction replacements with
  | nil => rfl
  | cons repl rest ih =>
    have later := ih (fun other mem => located other (mem_cons_of_mem _ mem))
    rw [targetSpans] at later ⊢
    rw [filterMap_cons, located repl mem_cons_self, later]
    rfl

/-- What the loop found at each replacement. -/
theorem collectSpans_found {original : PyValue} {expected : PyValue}
    (collected : Collected yaml manifestMessages false original root expected replacements spans
      final)
    (places : ∀ repl ∈ replacements, ∀ span,
        targetSpan yaml manifestMessages root repl = .ok span
        → place repl = span)
    : (∀ repl ∈ replacements,
        targetSpan yaml manifestMessages root repl = .ok (place repl))
      ∧ spans = replacements.map place := by
  have pending : pendingReplacements false original replacements = replacements := by
    rw [pendingReplacements, filter_eq_self]
    intro repl _
    rw [alreadyApplied]
    split <;> rfl
  have found := collected.found
  rw [pending] at found
  have located : ∀ repl ∈ replacements,
      targetSpan yaml manifestMessages root repl = .ok (place repl) := by
    intro repl mem
    obtain ⟨span, target⟩ := found repl mem
    rw [target, places repl mem span target]
  refine ⟨located, ?_⟩
  rw [collected.spans_eq, pending, targetSpans_eq_map located]

-----------------------------------------------------------------------------------------
-- How PyYAML reads the patched text
-----------------------------------------------------------------------------------------

/-- The style of the scalar that a text is read as. -/
def textStyle : List Char → Option Char
  | [] => none
  | char :: _ => if char = singleQuote ∨ char = doubleQuote then some char else none

def spanOf (yaml : Yaml) (root : Node) (repl : ScalarFieldReplacement) : Span Char :=
  match targetSpan yaml manifestMessages root repl with
  | .ok span => span
  | .error _ => { start := 0, stop := 0, text := [] }

/-- PyYAML reads a patched text, whose spans were replaced by encoded scalars, as the source
with those scalars in place: the nodes keep their paths and the written text decides their
style, later entries of a repeated key win, and dictionaries have different keys.
-/
structure Reread (yaml : Yaml) (source patched : String)
    (replacements : List ScalarFieldReplacement) (root rereadRoot : Node)
    (original document : Entries)
    : Prop where
  composedSource : yaml.composeAll source = some [root]
  loadedSource : yaml.safeLoadAll source = some [.dict original]
  unique : uniqueKeys (.dict original) = true
  composed : composeManifest yaml patched = .ok rereadRoot
  loaded : yaml.safeLoadAll patched = some [.dict document]
  nodes : (∀ repl ∈ replacements,
      renamesItem (fieldPathSegments repl.fieldPath) = false)
    → ∀ repl ∈ replacements, ∃ value,
        nodeValueAt rereadRoot (fieldPathSegments repl.fieldPath)
        = .ok (.scalar
            {
              value := value
              style := textStyle (spanOf yaml root repl).text
              start := movedStart (replacements.map (spanOf yaml root))
                (spanOf yaml root repl)
              stop := movedStart (replacements.map (spanOf yaml root))
                  (spanOf yaml root repl)
                + (spanOf yaml root repl).text.length })
  taken : (∀ repl ∈ replacements,
      takesNode yaml root (fieldPathSegments repl.fieldPath) = true)
    → PyValue.dict document
      = replaceAll (.dict original) (replacements.map ScalarFieldReplacement.toEdit)
  overridden : (∀ repl ∈ replacements,
      renamesItem (fieldPathSegments repl.fieldPath) = false)
    → ∀ repl ∈ replacements,
        takesNode yaml root (fieldPathSegments repl.fieldPath) = false
        → objectValueAt (.dict document) (fieldPathSegments repl.fieldPath)
          = objectValueAt (.dict original) (fieldPathSegments repl.fieldPath)

/-- The text that the rollback of a replacement writes, in the style left by the patch. -/
def rollbackText (yaml : Yaml) (root : Node) (plan : ManifestScalarPatchPlan)
    (repl : ScalarFieldReplacement)
    : Except PatchFailure String :=
  match rollbackOf plan repl with
  | none => .error notExactInverse
  | some rollback =>
    encodedScalarValue yaml
      {
        value := ""
        style := textStyle (spanOf yaml root repl).text
        start := 0
        stop := 0 }
      rollback.desiredValue

def rollbackChars (yaml : Yaml) (root : Node) (plan : ManifestScalarPatchPlan)
    (repl : ScalarFieldReplacement)
    : List Char :=
  ((rollbackText yaml root plan repl).toOption.getD "").toList

/-- Writing the old values in the style left by the patch, at the places of the old scalars,
gives the source; and each path leads to the scalar that the loader takes, and keeps doing so.
-/
structure RestoresSource (yaml : Yaml) (source : String) (plan : ManifestScalarPatchPlan)
    (root : Node)
    : Prop where
  takes : ∀ repl ∈ plan.replacements,
      takesNode yaml root (fieldPathSegments repl.fieldPath) = true
  keeps : ∀ repl ∈ plan.replacements,
      renamesItem (fieldPathSegments repl.fieldPath) = false
  encodes : ∀ repl ∈ plan.replacements, (rollbackText yaml root plan repl).isOk = true
  respells : spliceAll source.toList (plan.replacements.map
        (respelled (spanOf yaml root) (rollbackChars yaml root plan)))
    = source.toList

-----------------------------------------------------------------------------------------
-- The patch that was made
-----------------------------------------------------------------------------------------

theorem toString_int_ne_nil (value : Int) : (toString value).toList ≠ [] := by
  have digits : ∀ number : Nat, number.repr.toList ≠ [] := by
    intro number
    rw [Nat.repr, String.toList_ofList]
    exact Nat.toDigits_ne_nil
  cases value with
  | ofNat number => exact digits number
  | negSucc number =>
    have signed : toString (Int.negSucc number) = "-" ++ (number + 1).repr := rfl
    simp [signed]

theorem encodedScalarValue_nonempty {node : ScalarNode} {value : PyScalar} {text : String}
    (written : IsWritten value) (encoded : encodedScalarValue yaml node value = .ok text)
    : text.toList ≠ [] := by
  have quoted : ∀ content : String, (jsonString content).toList ≠ [] := by
    simp [jsonString]
  rcases written with ⟨number, rfl⟩ | ⟨content, rfl, nonempty⟩
  · simp only [encodedScalarValue] at encoded
    split at encoded <;> cases encoded
    exact toString_int_ne_nil number
  · simp only [encodedScalarValue] at encoded
    split at encoded
    · cases encoded
      simp [singleQuoted]
    split at encoded
    · cases encoded
      exact quoted content
    split at encoded
    · cases encoded
      simpa using nonempty
    · cases encoded
      exact quoted content

/-- What a returned patch of a manifest did. -/
structure PatchedBy (yaml : Yaml) (source patched : String) (plan : ManifestScalarPatchPlan)
    (root : Node) (original document : Entries) (expected : PyValue)
    : Prop where
  valid : ValidPlan plan
  deployment : isDeployment original = true
  approved : ∀ repl ∈ plan.replacements, Approved false (.dict original) repl
  located : ∀ repl ∈ plan.replacements,
      targetSpan yaml manifestMessages root repl = .ok (spanOf yaml root repl)
  separate : Separate source.toList.length (plan.replacements.map (spanOf yaml root))
  spliced : patched.toList = spliceAll source.toList (plan.replacements.map (spanOf yaml root))
  expects : setInOrder (.dict original) plan.replacements = .ok expected
  equal : (PyValue.dict document).eq expected = true

variable {source patched digest : String} {plan : ManifestScalarPatchPlan} {rereadRoot : Node}
  {original document : Entries} {expected : PyValue}

theorem materializeScalarPatch_inv
    (returned : materializeScalarPatch py yaml canonicalManifestDigest source plan
      = .ok patched)
    : validateScalarPatchPlan py plan = .ok ()
      ∧ materializeScalarReplacements yaml canonicalManifestDigest source rawYaml
          plan.sourceManifestSha256 plan.replacements = .ok patched := by
  obtain ⟨_, accepted, done⟩ := bind_ok.mp returned
  have isYaml := (validateScalarPatchPlan_valid accepted).isYaml
  exact ⟨accepted, isYaml ▸ done⟩

theorem patchedBy_of_returned (sound : SoundMarks yaml)
    (returned : materializeScalarPatch py yaml canonicalManifestDigest source plan
      = .ok patched)
    (reread : Reread yaml source patched plan.replacements root rereadRoot original document)
    : ∃ expected, PatchedBy yaml source patched plan root original document expected := by
  obtain ⟨accepted, done⟩ := materializeScalarPatch_inv returned
  obtain ⟨readOriginal, readRoot, spans, expected, reloaded, read, collected, distinct, spliced,
    loaded, equal⟩ := materializeScalarReplacements_ok.mp done
  obtain ⟨unanchored, nodes, _⟩ := composeManifest_inv read.composed
  obtain rfl : root = readRoot := by
    simpa using reread.composedSource.symm.trans nodes
  obtain rfl : original = readOriginal := by
    simpa using reread.loadedSource.symm.trans read.loaded
  obtain rfl : document = reloaded := by
    simpa using reread.loaded.symm.trans loaded
  have collectedAll := collectSpans_inv collected
  obtain ⟨located, rfl⟩ := @collectSpans_found (spanOf yaml root) _ _ _ _ _ _ _ collectedAll
    (fun repl _ span target => by rw [spanOf, target])
  have sameSpans := targetSpans_eq_map located
  have separate : Separate source.toList.length
      (targetSpans yaml manifestMessages root plan.replacements) :=
    targetSpans_separate sound unanchored nodes (mem_singleton_self _) (sameSpans ▸ distinct)
  rw [sameSpans] at separate
  exact ⟨expected,
    {
      valid := validateScalarPatchPlan_valid accepted
      deployment := read.deployment
      approved := collectedAll.approved
      located := located
      separate := separate
      spliced := by rw [← spliced, String.toList_ofList]
      expects := collectedAll.expects
      equal := equal
    }⟩

namespace PatchedBy

variable (patch : PatchedBy yaml source patched plan root original document expected)
include patch

/-- The spliced texts are not empty. -/
theorem nonempty : ∀ repl ∈ plan.replacements, (spanOf yaml root repl).text ≠ [] := by
  intro repl mem
  obtain ⟨node, text, _, encoded, isSpan⟩ := targetSpan_inv (patch.located repl mem)
  rw [isSpan]
  exact encodedScalarValue_nonempty (patch.valid.writes repl mem) encoded

theorem parsed
    : ∀ repl ∈ plan.replacements, fieldPathSegments repl.fieldPath ≠ [] := by
  intro repl mem
  obtain ⟨_, inverse⟩ := patch.valid.inverse repl mem
  exact inverse.parsed

theorem independent
    (keeps : ∀ repl ∈ plan.replacements,
        renamesItem (fieldPathSegments repl.fieldPath) = false)
    : Independent (.dict original) (plan.replacements.map ScalarFieldReplacement.toEdit) :=
  approved_independent patch.approved patch.parsed patch.valid.paths keeps

end PatchedBy

-----------------------------------------------------------------------------------------
-- The rollback of the patch
-----------------------------------------------------------------------------------------

def backward (plan : ManifestScalarPatchPlan) (repl : ScalarFieldReplacement)
    : ScalarFieldReplacement :=
  (rollbackOf plan repl).getD repl

theorem ValidPlan.backward (valid : ValidPlan plan)
    : ∀ item ∈ plan.replacements, Inverse plan item (backward plan item) := by
  intro item mem
  obtain ⟨rollback, inverse⟩ := valid.inverse item mem
  rw [SourcePatch.backward, inverse.found]
  exact inverse

section Rolling

/-- A scalar that still equals its current value is not the one the rollback expects. -/
theorem not_current_and_desired {repl rollback : ScalarFieldReplacement}
    (inverse : Inverse plan repl rollback) {held : PyScalar}
    (current : held.same repl.currentValue = true)
    (expected : held.same rollback.currentValue = true)
    : False := by
  have desired := PyScalar.same_trans expected inverse.fromDesired
  rw [PyScalar.same_swap] at current
  have both := PyScalar.same_trans current desired
  rw [inverse.changes] at both
  cases both

variable (patch : PatchedBy yaml source patched plan root original document expected)
  (reread : Reread yaml source patched plan.replacements root rereadRoot original document)
  (keeps : ∀ repl ∈ plan.replacements,
      renamesItem (fieldPathSegments repl.fieldPath) = false)
include reread keeps

/-- Where the rollback of a replacement writes, and what. -/
theorem targetSpan_backward
    (valid : ValidPlan plan) {repl : ScalarFieldReplacement}
    (mem : repl ∈ plan.replacements)
    : targetSpan yaml manifestMessages rereadRoot (backward plan repl)
      = (rollbackText yaml root plan repl).map (fun _ =>
          rewound (spanOf yaml root) (rollbackChars yaml root plan)
            (plan.replacements.map (spanOf yaml root)) repl) := by
  have inverse := valid.backward repl mem
  obtain ⟨value, reached⟩ := reread.nodes keeps repl mem
  have text (start stop : Nat) : rollbackText yaml root plan repl
      = encodedScalarValue yaml ⟨value, textStyle (spanOf yaml root repl).text, start, stop⟩
          (backward plan repl).desiredValue := by
    rw [rollbackText, inverse.found]
    rfl
  rw [targetSpan, inverse.samePath, reached]
  dsimp only
  rw [← text]
  cases written : rollbackText yaml root plan repl with
  | error failure => rfl
  | ok chars =>
    simp only [Except.map, rewound, rollbackChars, written, Except.toOption, Option.getD_some]

/-- The rollback spans are those of the replacements, moved. -/
theorem rollback_places (valid : ValidPlan plan)
    (encodes : ∀ repl ∈ plan.replacements,
        (rollbackText yaml root plan repl).isOk = true)
    : (∀ rollback ∈ plan.rollbackReplacements,
        targetSpan yaml manifestMessages rereadRoot rollback
        = .ok (spanOf yaml rereadRoot rollback))
      ∧ (plan.replacements.map (rewound (spanOf yaml root) (rollbackChars yaml root plan)
          (plan.replacements.map (spanOf yaml root)))).Perm
        (plan.rollbackReplacements.map (spanOf yaml rereadRoot)) := by
  have reordered := valid.rollback_perm valid.backward
  have target : ∀ repl ∈ plan.replacements,
      targetSpan yaml manifestMessages rereadRoot (backward plan repl)
      = .ok (rewound (spanOf yaml root) (rollbackChars yaml root plan)
          (plan.replacements.map (spanOf yaml root)) repl) := by
    intro repl mem
    rw [targetSpan_backward reread keeps valid mem]
    have written := encodes repl mem
    cases outcome : rollbackText yaml root plan repl with
    | error failure => simp [outcome, Except.toBool] at written
    | ok text => rfl
  constructor
  · intro rollback listed
    obtain ⟨repl, mem, rfl⟩ := mem_map.mp (reordered.mem_iff.mpr listed)
    rw [spanOf, target repl mem]
  · refine Perm.trans (Perm.of_eq ?_) (reordered.map (spanOf yaml rereadRoot))
    rw [map_map]
    refine map_congr_left ?_
    intro repl mem
    rw [comp_apply, spanOf, target repl mem]

include patch

/-- Splicing the rollback spans into the patched text respells the source. -/
theorem rollback_spliced
    (encodes : ∀ repl ∈ plan.replacements,
        (rollbackText yaml root plan repl).isOk = true)
    : ((plan.rollbackReplacements.map (spanOf yaml rereadRoot)).map
        (fun span => (span.start, span.stop))).Nodup
      ∧ spliceAll patched.toList (plan.rollbackReplacements.map (spanOf yaml rereadRoot))
        = spliceAll source.toList (plan.replacements.map
            (respelled (spanOf yaml root) (rollbackChars yaml root plan))) := by
  obtain ⟨_, reordered⟩ := rollback_places reread keeps patch.valid encodes
  obtain ⟨separate, restored⟩ := @spliceAll_rewound Char ScalarFieldReplacement
    (spanOf yaml root) (rollbackChars yaml root plan) source.toList plan.replacements
    patch.separate patch.nonempty
  rw [← patch.spliced] at separate restored
  refine ⟨(separate.perm reordered).distinct, ?_⟩
  rw [← restored]
  exact (spliceAll_perm separate reordered).symm

/-- Where the loader takes every patched scalar, the patched document is the expected one. -/
theorem PatchedBy.document_eq
    (takes : ∀ repl ∈ plan.replacements,
        takesNode yaml root (fieldPathSegments repl.fieldPath) = true)
    : PyValue.dict document
        = replaceAll (.dict original) (plan.replacements.map ScalarFieldReplacement.toEdit)
      ∧ expected = .dict document := by
  have taken := reread.taken takes
  have expects := setInOrder_eq (patch.independent keeps) patch.parsed
  exact ⟨taken, (Except.ok.inj (patch.expects.symm.trans expects)).trans taken.symm⟩

omit reread

variable (taken : PyValue.dict document
  = replaceAll (.dict original) (plan.replacements.map ScalarFieldReplacement.toEdit))
include taken

theorem PatchedBy.rollback_approved
    : ∀ rollback ∈ plan.rollbackReplacements, Approved false (.dict document) rollback := by
  intro rollback listed
  have reordered := patch.valid.rollback_perm patch.valid.backward
  obtain ⟨repl, mem, rfl⟩ := mem_map.mp (reordered.mem_iff.mpr listed)
  have inverse := patch.valid.backward repl mem
  have desired := (patch.independent keeps).replaceAll_edit
    (mem_map_of_mem (f := ScalarFieldReplacement.toEdit) mem)
  rw [← taken] at desired
  refine ⟨.scalar repl.desiredValue, inverse.samePath ▸ desired, .inl ?_⟩
  rw [PyValue.sameScalar, PyScalar.same_swap]
  exact inverse.fromDesired

/-- The kind is not a patched scalar. -/
theorem PatchedBy.stays_deployment : isDeployment document = true := by
  have atKind : ∀ (entries : Entries),
      isDeployment entries = true
      ↔ objectValueAt (.dict entries) [⟨"kind", none⟩] = .ok (.scalar (.str "Deployment")) := by
    intro entries
    simp only [isDeployment, objectValueAt, selectItem]
    cases getKey entries "kind" with
    | none => simp
    | some kind =>
      cases kind with
      | scalar value => simp [PyValue.eq, PyValue.eqBy, eq_str_iff]
      | _ => simp [PyValue.eq, PyValue.eqBy]
  rw [atKind, taken]
  refine (patch.independent keeps).replaceAll_other ?_ ((atKind original).mp patch.deployment)
  intro patchedKind
  rw [map_map] at patchedKind
  obtain ⟨repl, mem, same⟩ := mem_map.mp patchedKind
  refine patch.valid.keepsKind repl mem
    (fieldPathSegments_injective (patch.parsed repl mem) ?_)
  exact same.trans (by decide)

omit taken

include reread

/-- The source, once restored, is the document that the rollback expects.
Witness: the old values are equal to those in the source, and the patched document, which
was compared with itself, shows that nothing else in it is unequal to itself.
-/
theorem PatchedBy.rollback_expected
    (takes : ∀ repl ∈ plan.replacements,
        takesNode yaml root (fieldPathSegments repl.fieldPath) = true)
    : ∃ final,
        setInOrder (.dict document) plan.rollbackReplacements = .ok final
        ∧ (PyValue.dict original).eq final = true := by
  have independent := patch.independent keeps
  obtain ⟨taken, rfl⟩ := patch.document_eq reread keeps takes
  have reordered := patch.valid.rollback_perm patch.valid.backward
  have samePaths : (plan.replacements.map ScalarFieldReplacement.toEdit).map Edit.path
      = ((plan.replacements.map (backward plan)).map ScalarFieldReplacement.toEdit).map
          Edit.path := by
    simp only [map_map]
    refine map_congr_left ?_
    intro repl mem
    exact congrArg fieldPathSegments (patch.valid.backward repl mem).samePath.symm
  have independentBack := independent.again (Perm.of_eq samePaths)
  have swapped := independentBack.of_paths
    ((reordered.map ScalarFieldReplacement.toEdit).map Edit.path)
  have self : (PyValue.dict original).eq (.dict original) = true := by
    refine self_of_replaceAll (taken ▸ patch.equal) reread.unique independent ?_
    intro edit mem held found
    obtain ⟨repl, inPlan, rfl⟩ := mem_map.mp mem
    obtain ⟨same, read, isCurrent⟩ := (patch.approved repl inPlan).held
    obtain rfl : held = same := by
      simpa using found.symm.trans read
    have equal := (Bool.and_eq_true_iff.mp isCurrent).2
    exact PyScalar.eq_trans equal (PyScalar.eq_swap _ _ ▸ equal)
  refine ⟨replaceAll (.dict original)
    ((plan.replacements.map (backward plan)).map ScalarFieldReplacement.toEdit), ?_, ?_⟩
  · rw [taken, setInOrder_eq swapped, ← independentBack.replaceAll_perm
      (reordered.map ScalarFieldReplacement.toEdit), replaceAll_replaceAll independent samePaths]
    intro rollback listed
    obtain ⟨repl, mem, rfl⟩ := mem_map.mp (reordered.mem_iff.mpr listed)
    rw [(patch.valid.backward repl mem).samePath]
    exact patch.parsed repl mem
  · have oldValues : ∀ edit
        ∈ (plan.replacements.map (backward plan)).map ScalarFieldReplacement.toEdit, ∃ held,
          objectValueAt (.dict original) edit.path = .ok (.scalar held)
          ∧ held.eq edit.desired = true := by
      intro edit mem
      obtain ⟨rollback, inRollbacks, rfl⟩ := mem_map.mp mem
      obtain ⟨repl, inPlan, rfl⟩ := mem_map.mp inRollbacks
      have inverse := patch.valid.backward repl inPlan
      obtain ⟨held, read, isCurrent⟩ := (patch.approved repl inPlan).held
      rw [← inverse.samePath] at read
      have back := inverse.toCurrent
      rw [PyScalar.same_swap] at back
      exact ⟨held, read, (Bool.and_eq_true_iff.mp (PyScalar.same_trans isCurrent back)).2⟩
    refine eq_replaceAll self reread.unique
      ⟨?_, independentBack.keeps, independentBack.distinct⟩ oldValues
    intro edit mem
    obtain ⟨held, read, _⟩ := oldValues edit mem
    exact ⟨held, read⟩

omit keeps

/-- A rollback that returns the source shows that the source is restored by respelling it. -/
theorem PatchedBy.restoresSource
    (returned : materializeScalarReplacements yaml canonicalManifestDigest patched rawYaml digest
      plan.rollbackReplacements = .ok source)
    : RestoresSource yaml source plan root := by
  obtain ⟨readDocument, readRoot, spans, final, reloaded, read, collected, _, spliced, _⟩ :=
    materializeScalarReplacements_ok.mp returned
  obtain rfl : document = readDocument := by
    simpa using reread.loaded.symm.trans read.loaded
  obtain rfl : rereadRoot = readRoot := Except.ok.inj (reread.composed.symm.trans read.composed)
  have collectedAll := collectSpans_inv collected
  obtain ⟨located, rfl⟩ := @collectSpans_found (spanOf yaml rereadRoot) _ _ _ _ _ _ _
    collectedAll (fun rollback _ span target => by rw [spanOf, target])
  have differs : ∀ repl ∈ plan.replacements, ∃ before after,
      objectValueAt (.dict original) (fieldPathSegments repl.fieldPath) = .ok before
      ∧ objectValueAt (.dict document) (fieldPathSegments repl.fieldPath) = .ok after
      ∧ before ≠ after := by
    intro repl mem
    have inverse := patch.valid.backward repl mem
    obtain ⟨before, found, current⟩ := (patch.approved repl mem).held
    obtain ⟨after, foundAfter, desired⟩ := (collectedAll.approved _ inverse.listed).held
    refine ⟨_, _, found, inverse.samePath ▸ foundAfter, ?_⟩
    rintro ⟨⟩
    exact not_current_and_desired inverse current desired
  have keeps : ∀ repl ∈ plan.replacements,
      renamesItem (fieldPathSegments repl.fieldPath) = false := by
    intro repl mem
    by_contra renames
    obtain ⟨name, fixed⟩ := renamesItem_value (Bool.not_eq_false _ ▸ renames)
    obtain ⟨before, after, found, foundAfter, different⟩ := differs repl mem
    exact different ((fixed _ _ found).trans (fixed _ _ foundAfter).symm)
  have encodes : ∀ repl ∈ plan.replacements,
      (rollbackText yaml root plan repl).isOk = true := by
    intro repl mem
    have target := located _ (patch.valid.backward repl mem).listed
    rw [targetSpan_backward reread keeps patch.valid mem] at target
    cases outcome : rollbackText yaml root plan repl with
    | error failure =>
      rw [outcome] at target
      cases target
    | ok text => rfl
  refine ⟨?_, keeps, encodes, ?_⟩
  · intro repl mem
    by_contra overridden
    obtain ⟨before, after, found, foundAfter, different⟩ := differs repl mem
    have unchanged := reread.overridden keeps repl mem (by simpa using overridden)
    exact different (Except.ok.inj (found.symm.trans (unchanged.symm.trans foundAfter)))
  · rw [← (rollback_spliced patch reread keeps encodes).2]
    have text := congrArg String.toList spliced
    rwa [String.toList_ofList] at text

/-- A source that is restored by respelling it is what the rollback returns. -/
theorem PatchedBy.rollback_returns
    (digested : canonicalManifestDigest document = .ok digest)
    (restores : RestoresSource yaml source plan root)
    : materializeScalarReplacements yaml canonicalManifestDigest patched rawYaml digest
        plan.rollbackReplacements = .ok source := by
  obtain ⟨taken, _⟩ := patch.document_eq reread restores.keeps restores.takes
  obtain ⟨final, expects, equal⟩ := patch.rollback_expected reread restores.keeps restores.takes
  obtain ⟨located, _⟩ := rollback_places reread restores.keeps patch.valid restores.encodes
  obtain ⟨distinct, spliced⟩ := rollback_spliced patch reread restores.keeps restores.encodes
  refine materializeScalarReplacements_ok.mpr ⟨document, rereadRoot, _, final, original,
    ⟨reread.loaded, patch.stays_deployment restores.keeps taken, digested, reread.composed⟩,
    collectSpans_ok (patch.rollback_approved restores.keeps taken) located expects, distinct, ?_,
    reread.loadedSource, equal⟩
  rw [spliced, restores.respells, String.ofList_toList]

end Rolling

def replicaSource (count : String) : String :=
  "kind: Deployment\nspec:\n  replicas: " ++ count ++ "\n"

def replicaNode (count : String) : Node :=
  .mapping [
    (.scalar ⟨"kind", none, 0, 4⟩, .scalar ⟨"Deployment", none, 6, 16⟩),
    (.scalar ⟨"spec", none, 17, 21⟩, .mapping [
      (.scalar ⟨"replicas", none, 25, 33⟩, .scalar ⟨count, none, 35, 35 + count.toList.length⟩)])]

def replicaDocument (count : Int) : Entries :=
  [(.str "kind", .scalar (.str "Deployment")),
    (.str "spec", .dict [(.str "replicas", .scalar (.int count))])]

def replicaCounts : List (String × Int) := [("2", 2), ("0x2", 2), ("3", 3)]

/-- What PyYAML makes of the sources with these counts. -/
def replicaYaml : Yaml where
  hasAnchor := fun _ => some false
  composeAll := fun source =>
    (replicaCounts.find? (fun count => source == replicaSource count.1)).map
      (fun count => [replicaNode count.1])
  safeLoadAll := fun source =>
    (replicaCounts.find? (fun count => source == replicaSource count.1)).map
      (fun count => [.dict (replicaDocument count.2)])
  safeLoad := fun _ => none
  jsonLoads := fun _ => none
  construct := fun node => .str node.value
  floatText := fun _ => ""

/-- A digest that tells the documents with these counts apart. -/
def replicaDigest (document : Entries) : Except PatchFailure String :=
  match scalarAt (.dict document) (fieldPathSegments "spec.replicas") with
  | .int 2 => .ok ("sha256:" ++ String.ofList (List.replicate 64 '2'))
  | _ => .ok ("sha256:" ++ String.ofList (List.replicate 64 '3'))

def replicaPlan : ManifestScalarPatchPlan :=
  {
    actionType := "replica_scale"
    sourceType := rawYaml
    sourceManifestSha256 := "sha256:" ++ String.ofList (List.replicate 64 '2')
    expectedBaseSha := String.ofList (List.replicate 40 'a')
    manifestPath := "deploy/api.yaml"
    replacements := [⟨"spec.replicas", .int 2, .int 3⟩]
    rollbackReplacements := [⟨"spec.replicas", .int 3, .int 2⟩] }

theorem replicaYaml_known {count : String × Int} (mem : count ∈ replicaCounts)
    : replicaYaml.composeAll (replicaSource count.1) = some [replicaNode count.1]
      ∧ replicaYaml.safeLoadAll (replicaSource count.1)
        = some [.dict (replicaDocument count.2)] := by
  have located : replicaCounts.find? (fun other =>
      replicaSource count.1 == replicaSource other.1) = some count := by
    revert mem count
    decide +kernel
  simp only [replicaYaml, located, Option.map_some, and_self]

theorem replicaYaml_composed {source : String} {nodes : List Node}
    (composed : replicaYaml.composeAll source = some nodes)
    : ∃ count ∈ replicaCounts, source = replicaSource count.1 ∧ nodes = [replicaNode count.1] := by
  obtain ⟨count, located, rfl⟩ := Option.map_eq_some_iff.mp composed
  exact ⟨count, mem_of_find?_eq_some located, by simpa using find?_some located, rfl⟩

theorem replicaYaml_sound : SoundMarks replicaYaml where
  inside := by
    intro source nodes composed
    obtain ⟨count, mem, rfl, rfl⟩ := replicaYaml_composed composed
    clear composed
    revert count
    decide +kernel
  disjoint := by
    intro source nodes _ composed
    obtain ⟨count, mem, rfl, rfl⟩ := replicaYaml_composed composed
    clear composed
    revert count
    decide +kernel

theorem replicaDigest_form (document : Entries) (digest : String)
    (digested : replicaDigest document = .ok digest)
    : isSha256Digest digest = true := by
  unfold replicaDigest at digested
  split at digested <;> obtain rfl := Except.ok.inj digested <;> decide +kernel

theorem replicaYaml_reread
    : Reread replicaYaml (replicaSource "2") (replicaSource "3") replicaPlan.replacements
        (replicaNode "2") (replicaNode "3") (replicaDocument 2) (replicaDocument 3) where
  composedSource := (@replicaYaml_known ("2", 2) (by simp [replicaCounts])).1
  loadedSource := (@replicaYaml_known ("2", 2) (by simp [replicaCounts])).2
  unique := by decide +kernel
  composed := by
    have known := (@replicaYaml_known ("3", 3) (by simp [replicaCounts])).1
    rfl
  loaded := (@replicaYaml_known ("3", 3) (by simp [replicaCounts])).2
  nodes := by
    intro _ repl mem
    obtain rfl := mem_singleton.mp mem
    exact ⟨"3", by rfl⟩
  taken := fun _ => by rfl
  overridden := by
    intro _ repl mem overridden
    obtain rfl := mem_singleton.mp mem
    exact absurd overridden (by decide +kernel)

end K8sClue.SourcePatch
