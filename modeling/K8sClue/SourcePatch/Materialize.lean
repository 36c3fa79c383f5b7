import K8sClue.Library.Splice
import K8sClue.SourcePatch.Nodes
import Mathlib.Data.List.Pairwise

/-! Patching approved scalars in the text of a manifest, without serializing it again.
The scalars are found twice: as values in the loaded document and as nodes in the source.
-/

namespace K8sClue.SourcePatch

open Python Library List

structure ScalarFieldReplacement where
  fieldPath : String
  (currentValue desiredValue : PyScalar)
  deriving DecidableEq

/-- The errors by which the two materializations differ. -/
structure PatchMessages where
  (stale notScalar overlap : String)

variable (yaml : Yaml) (messages : PatchMessages)

/-- The span of the scalar node at a path, with the text of the desired value. -/
def targetSpan (root : Node) (repl : ScalarFieldReplacement)
    : Except PatchFailure (Span Char) :=
  match nodeValueAt root (fieldPathSegments repl.fieldPath) with
  | .error failure => .error failure
  | .ok (.scalar node) =>
    match encodedScalarValue yaml node repl.desiredValue with
    | .error failure => .error failure
    | .ok text => .ok { start := node.start, stop := node.stop, text := text.toList }
  | .ok _ => .error (.manifestSourcePatch messages.notScalar)

variable (allowAlreadyApplied : Bool)

/-- The scalar already has its desired value, and the caller accepts that. -/
def alreadyApplied (original : PyValue) (repl : ScalarFieldReplacement) : Bool :=
  match objectValueAt original (fieldPathSegments repl.fieldPath) with
  | .ok current => allowAlreadyApplied && current.sameScalar repl.desiredValue
  | .error _ => false

/-- One pass of the loop: the span to splice, if any, and the expected document. -/
def collectReplacement (allowAlreadyApplied : Bool)
    (original : PyValue) (root : Node) (expected : PyValue) (repl : ScalarFieldReplacement)
    : Except PatchFailure (Option (Span Char) × PyValue) :=
  let segments := fieldPathSegments repl.fieldPath
  match objectValueAt original segments with
  | .error failure => .error failure
  | .ok current =>
    if alreadyApplied allowAlreadyApplied original repl then
      match setObjectValue expected segments repl.desiredValue with
      | .error failure => .error failure
      | .ok next => .ok (none, next)
    else if current.sameScalar repl.currentValue then
      match targetSpan yaml messages root repl,
        setObjectValue expected segments repl.desiredValue with
      | .error failure, _ => .error failure
      | .ok _, .error failure => .error failure
      | .ok span, .ok next => .ok (some span, next)
    else
      .error (.manifestSourcePatch messages.stale)

def collectSpans (allowAlreadyApplied : Bool) (original : PyValue) (root : Node)
    : PyValue → List ScalarFieldReplacement → Except PatchFailure (List (Span Char) × PyValue)
  | expected, [] => .ok ([], expected)
  | expected, repl :: rest =>
    match collectReplacement yaml messages allowAlreadyApplied original root expected
        repl with
    | .error failure => .error failure
    | .ok (span, next) =>
      match collectSpans allowAlreadyApplied original root next rest with
      | .error failure => .error failure
      | .ok (spans, final) => .ok (span.toList ++ spans, final)

/-- The spliced text, refused when two targets have the same marks. -/
def splicedText (source : String) (spans : List (Span Char)) : Except PatchFailure String :=
  if (spans.map (fun span => (span.start, span.stop))).Nodup then
    .ok (String.ofList (spliceAll source.toList spans))
  else
    .error (.manifestSourcePatch messages.overlap)

structure ManifestIdentity where
  (apiVersion kind : String)
  namespace_ : Option String
  name : String
  deriving DecidableEq

/-- `isinstance(value, str) and value.strip()`. -/
def nonblankText : Option PyValue → Option String
  | some (.scalar (.str value)) => if strip value = "" then none else some value
  | _ => none

/-- `manifest_identity` of the entries of a resource. -/
def manifestIdentity (resource : Entries) : Option ManifestIdentity :=
  match getKey resource "metadata" with
  | some (.dict metadata) =>
    match nonblankText (getKey resource "apiVersion"), nonblankText (getKey resource "kind"),
      nonblankText (getKey metadata "name"), getKey metadata "namespace" with
    | some apiVersion, some kind, some name, some (.scalar (.str namespace_)) =>
      some { apiVersion, kind, namespace_ := some namespace_, name }
    | some apiVersion, some kind, some name, some (.scalar .none) =>
      some { apiVersion, kind, namespace_ := none, name }
    | some apiVersion, some kind, some name, none =>
      some { apiVersion, kind, namespace_ := none, name }
    | _, _, _, _ => none
  | _ => none

structure DeclaredScalarPatch where
  (sourceType sourcePath : String)
  replacements : List ScalarFieldReplacement
  documentIdentity : Option ManifestIdentity

def declaredMessages : PatchMessages :=
  {
    stale := "declared source scalar does not match approved value"
    notScalar := "declared source target is not one scalar"
    overlap := "declared source targets overlap" }

/-- The index of the document that the patch is about. -/
def selectDocument (identity : Option ManifestIdentity) (originals : List PyValue)
    : Except PatchFailure Nat :=
  match identity with
  | none =>
    if originals.length = 1 then .ok 0
    else .error (.manifestSourcePatch "declared source must contain one object")
  | some identity =>
    match (List.range originals.length).filter (fun index =>
      match originals[index]? with
      | some (PyValue.dict document) => manifestIdentity document = some identity
      | _ => false) with
    | [index] => .ok index
    | _ => .error (.manifestSourcePatch "declared source document is missing or ambiguous")

structure DeclaredSource where
  originals : List PyValue
  index : Nat
  original : PyValue
  root : Node

def readDeclaredSource (source : String) (identity : Option ManifestIdentity)
    : Except PatchFailure DeclaredSource :=
  match yaml.hasAnchor source with
  | none => .error (.manifestSourcePatch "declared source is invalid")
  | some true =>
    .error (.manifestSourcePatch "declared source anchors and aliases are not patchable")
  | some false =>
    match yaml.composeAll source, yaml.safeLoadAll source with
    | some nodes, some originals =>
      if nodes.length ≠ originals.length then
        .error (.manifestSourcePatch "declared source document structure is invalid")
      else
        match selectDocument identity originals with
        | .error failure => .error failure
        | .ok index =>
          match originals[index]?, nodes[index]? with
          | some (.dict entries), some (.mapping root) =>
            .ok { originals, index, original := .dict entries, root := .mapping root }
          | _, _ =>
            .error (.manifestSourcePatch "declared source must contain one object")
    | _, _ => .error (.manifestSourcePatch "declared source is invalid")

def materializeDeclaredScalarPatch (source : String)
    (patch : DeclaredScalarPatch) (allowAlreadyApplied : Bool)
    : Except PatchFailure String :=
  if patch.sourceType ≠ "raw-yaml" ∧ patch.sourceType ≠ "helm-values"
      ∧ patch.sourceType ≠ "kustomize" then
    .error (.remediationUnsupported "declared source adapter is unsupported")
  else if patch.replacements = [] then
    .error (.remediationUnsupported "declared source has no replacement")
  else
    match readDeclaredSource yaml source patch.documentIdentity with
    | .error failure => .error failure
    | .ok read =>
      match collectSpans yaml declaredMessages allowAlreadyApplied read.original read.root
          read.original patch.replacements with
      | .error failure => .error failure
      | .ok (spans, expected) =>
        match splicedText declaredMessages source spans with
        | .error failure => .error failure
        | .ok patched =>
          match yaml.safeLoadAll patched with
          | none =>
            .error (.manifestSourcePatch "declared patch produced invalid YAML")
          | some documents =>
            if (PyValue.list documents).eq (.list (read.originals.set read.index expected)) then
              .ok patched
            else
              .error (.manifestSourcePatch "declared patch changed fields outside approved scalars")

def digitYaml : Yaml where
  hasAnchor := fun _ => some false
  composeAll := fun source =>
    if source = "a: 1\n" ∨ source = "a: 2\n" then
      some [.mapping [(.scalar ⟨"a", none, 0, 1⟩,
        .scalar ⟨if source = "a: 1\n" then "1" else "2", none, 3, 4⟩)]]
    else
      none
  safeLoadAll := fun source =>
    if source = "a: 1\n" then some [.dict [(.str "a", .scalar (.int 1))]]
    else if source = "a: 2\n" then some [.dict [(.str "a", .scalar (.int 2))]]
    else none
  safeLoad := fun text =>
    if text = "1" then some (.scalar (.int 1))
    else if text = "2" then some (.scalar (.int 2))
    else none
  jsonLoads := fun _ => none
  construct := fun node => .str node.value
  floatText := fun _ => ""

def digitPatch (replacements : List ScalarFieldReplacement) : DeclaredScalarPatch :=
  {
    sourceType := "raw-yaml"
    sourcePath := "values.yaml"
    replacements
    documentIdentity := none }

/-- A path that is already at the desired value of one replacement and is moved on by the
next one is left at the second value, so the first desired value is not in the document.
-/
theorem repeated_path_overwritten
    : materializeDeclaredScalarPatch digitYaml "a: 1\n"
        (digitPatch [⟨"a", .int 0, .int 1⟩, ⟨"a", .int 1, .int 2⟩]) true
        = .ok "a: 2\n"
      ∧ digitYaml.safeLoadAll "a: 2\n" = some [.dict [(.str "a", .scalar (.int 2))]]
      ∧ objectValueAt (.dict [(.str "a", .scalar (.int 2))]) (fieldPathSegments "a")
        = .ok (.scalar (.int 2))
      ∧ (PyValue.scalar (.int 2)).eq (.scalar (.int 1)) = false := by
  refine ⟨by rfl, by rfl, by rfl, by rfl⟩

/-- The desired values set one after the other, in the order of the replacements. -/
def setInOrder : PyValue → List ScalarFieldReplacement → Except PatchFailure PyValue
  | document, [] => .ok document
  | document, repl :: rest =>
    match setObjectValue document (fieldPathSegments repl.fieldPath)
        repl.desiredValue with
    | .error failure => .error failure
    | .ok next => setInOrder next rest

/-- The replacements whose scalars are spliced. -/
def pendingReplacements (original : PyValue) (replacements : List ScalarFieldReplacement)
    : List ScalarFieldReplacement :=
  replacements.filter (fun repl =>
    !alreadyApplied allowAlreadyApplied original repl)

def targetSpans (yaml : Yaml) (messages : PatchMessages) (root : Node)
    (replacements : List ScalarFieldReplacement)
    : List (Span Char) :=
  replacements.filterMap (fun repl =>
    (targetSpan yaml messages root repl).toOption)

/-- The value that a replacement found in the original document was approved. -/
def Approved (original : PyValue) (repl : ScalarFieldReplacement) : Prop :=
  ∃ current,
    objectValueAt original (fieldPathSegments repl.fieldPath) = .ok current
    ∧ (current.sameScalar repl.currentValue = true
      ∨ (allowAlreadyApplied = true ∧ current.sameScalar repl.desiredValue = true))

/-- The collected spans and the expected document of a list of replacements. -/
structure Collected (yaml : Yaml) (messages : PatchMessages) (allowAlreadyApplied : Bool)
    (original : PyValue) (root : Node) (expected : PyValue)
    (replacements : List ScalarFieldReplacement) (spans : List (Span Char)) (final : PyValue)
    : Prop where
  spans_eq : spans = targetSpans yaml messages root
      (pendingReplacements allowAlreadyApplied original replacements)
  found : ∀ repl ∈ pendingReplacements allowAlreadyApplied original replacements,
      ∃ span, targetSpan yaml messages root repl = .ok span
  expects : setInOrder expected replacements = .ok final
  approved : ∀ repl ∈ replacements, Approved allowAlreadyApplied original repl

variable {allowAlreadyApplied : Bool} {messages : PatchMessages} {original : PyValue}
  {repl : ScalarFieldReplacement} {replacements : List ScalarFieldReplacement}
  {root : Node} {source : String} {yaml : Yaml}

/-- One pass of the loop, read backwards. -/
theorem collectReplacement_inv {expected next : PyValue} {span : Option (Span Char)}
    (done : collectReplacement yaml messages allowAlreadyApplied original root expected
      repl = .ok (span, next))
    : Approved allowAlreadyApplied original repl
      ∧ setObjectValue expected (fieldPathSegments repl.fieldPath)
          repl.desiredValue = .ok next
      ∧ ((alreadyApplied allowAlreadyApplied original repl = true ∧ span = none)
        ∨ (alreadyApplied allowAlreadyApplied original repl = false
          ∧ ∃ target,
              targetSpan yaml messages root repl = .ok target ∧ span = some target)) := by
  unfold collectReplacement at done
  dsimp only at done
  split at done
  · cases done
  rename_i current read
  split at done
  · rename_i applied
    have desired := applied
    simp only [alreadyApplied, read, Bool.and_eq_true] at desired
    split at done <;> cases done
    rename_i set_
    exact ⟨⟨current, read, .inr desired⟩, set_, .inl ⟨applied, rfl⟩⟩
  · rename_i notApplied
    rw [Bool.not_eq_true] at notApplied
    split at done
    · rename_i same
      split at done <;> cases done
      rename_i target found set_
      exact ⟨⟨current, read, .inl same⟩, set_, .inr ⟨notApplied, target, found, rfl⟩⟩
    · cases done

/-- The whole loop, read backwards.
Witness: induction over the replacements, the expected document being passed along.
-/
theorem collectSpans_inv {expected final : PyValue} {spans : List (Span Char)}
    (done : collectSpans yaml messages allowAlreadyApplied original root expected replacements
      = .ok (spans, final))
    : Collected yaml messages allowAlreadyApplied original root expected replacements spans
        final := by
  induction replacements generalizing expected spans with
  | nil =>
    obtain ⟨rfl, rfl⟩ := Prod.mk.inj (Except.ok.inj done)
    exact ⟨rfl, by simp [pendingReplacements], rfl, by simp⟩
  | cons repl rest ih =>
    rw [collectSpans] at done
    split at done
    · cases done
    rename_i span next step
    split at done <;> cases done
    rename_i laterSpans later
    obtain ⟨approved, set_, outcome⟩ := collectReplacement_inv step
    have collected := ih later
    refine ⟨?_, ?_, ?_, ?_⟩
    · rw [collected.spans_eq]
      rcases outcome with ⟨applied, rfl⟩ | ⟨notApplied, target, found, rfl⟩
      · simp [pendingReplacements, applied]
      · simp [pendingReplacements, notApplied, targetSpans, found, Except.toOption]
    · intro other mem
      rcases outcome with ⟨applied, rfl⟩ | ⟨notApplied, target, found, rfl⟩
      · exact collected.found other (by simpa [pendingReplacements, applied] using mem)
      · rw [pendingReplacements, filter_cons, notApplied] at mem
        rcases mem_cons.mp mem with rfl | inRest
        · exact ⟨target, found⟩
        · exact collected.found other inRest
    · rw [setInOrder, set_]
      exact collected.expects
    · intro other mem
      rcases mem_cons.mp mem with rfl | inRest
      · exact approved
      · exact collected.approved other inRest

theorem targetSpan_inv {span : Span Char}
    (found : targetSpan yaml messages root repl = .ok span)
    : ∃ node text,
        nodeValueAt root (fieldPathSegments repl.fieldPath) = .ok (.scalar node)
        ∧ encodedScalarValue yaml node repl.desiredValue = .ok text
        ∧ span = { start := node.start, stop := node.stop, text := text.toList } := by
  unfold targetSpan at found
  split at found
  · cases found
  · rename_i node reached
    split at found <;> cases found
    rename_i text encoded
    exact ⟨node, text, reached, encoded, rfl⟩
  · cases found

theorem mem_targetSpans {span : Span Char}
    (mem : span ∈ targetSpans yaml messages root replacements)
    : ∃ repl ∈ replacements, targetSpan yaml messages root repl = .ok span := by
  obtain ⟨repl, inList, found⟩ := mem_filterMap.mp mem
  refine ⟨repl, inList, ?_⟩
  cases outcome : targetSpan yaml messages root repl with
  | error failure => simp [outcome, Except.toOption] at found
  | ok target =>
    simp only [outcome, Except.toOption, Option.some_inj] at found
    rw [found]

/-- Spans of scalar nodes with different marks do not touch each other. -/
theorem targetSpans_separate (sound : SoundMarks yaml) {nodes : List Node}
    (unanchored : yaml.hasAnchor source = some false)
    (composed : yaml.composeAll source = some nodes) (mem : root ∈ nodes)
    (distinct : ((targetSpans yaml messages root replacements).map
      (fun span => (span.start, span.stop))).Nodup)
    : Separate source.toList.length (targetSpans yaml messages root replacements) := by
  have located : ∀ span ∈ targetSpans yaml messages root replacements,
      ∃ node ∈ nodes.flatMap Node.scalars, span.start = node.start ∧ span.stop = node.stop := by
    intro span inSpans
    obtain ⟨repl, _, found⟩ := mem_targetSpans inSpans
    obtain ⟨node, text, reached, _, rfl⟩ := targetSpan_inv found
    refine ⟨node, mem_flatMap.mpr ⟨root, mem, ?_⟩, rfl, rfl⟩
    exact nodeValueAt_scalars reached node (by simp [Node.scalars])
  refine ⟨?_, ?_, ?_, distinct⟩
  · intro span inSpans
    obtain ⟨node, inNodes, start, stop⟩ := located span inSpans
    rw [start, stop]
    exact (sound.inside source nodes composed node inNodes).1
  · intro span inSpans
    obtain ⟨node, inNodes, _, stop⟩ := located span inSpans
    rw [stop]
    exact (sound.inside source nodes composed node inNodes).2
  · intro left inLeft right inRight different
    obtain ⟨leftNode, leftMember, leftStart, leftStop⟩ := located left inLeft
    obtain ⟨rightNode, rightMember, rightStart, rightStop⟩ := located right inRight
    have apart : leftNode ≠ rightNode := by
      rintro rfl
      refine different (inj_on_of_nodup_map distinct inLeft inRight ?_)
      rw [leftStart, leftStop, rightStart, rightStop]
    have symmetric : Std.Symm (fun left right : ScalarNode =>
        left.stop ≤ right.start ∨ right.stop ≤ left.start) := ⟨fun _ _ => Or.symm⟩
    have disjoint := (sound.disjoint source nodes unanchored composed).forall leftMember
      rightMember apart
    rw [Span.Disjoint, leftStart, leftStop, rightStart, rightStop]
    exact disjoint

def ScalarFieldReplacement.toEdit (repl : ScalarFieldReplacement) : Edit :=
  {
    path := fieldPathSegments repl.fieldPath
    current := repl.currentValue
    desired := repl.desiredValue }

theorem Approved.holds (approved : Approved allowAlreadyApplied original repl)
    : HoldsScalar original (fieldPathSegments repl.fieldPath) := by
  obtain ⟨current, read, same⟩ := approved
  cases current with
  | scalar held => exact ⟨held, read⟩
  | _ => simp [PyValue.sameScalar] at same

/-- Independent replacements set in order are the replacement of their scalars. -/
theorem setInOrder_eq
    (independent : Independent original (replacements.map ScalarFieldReplacement.toEdit))
    (parsed : ∀ repl ∈ replacements, fieldPathSegments repl.fieldPath ≠ [])
    : setInOrder original replacements
      = .ok (replaceAll original (replacements.map ScalarFieldReplacement.toEdit)) := by
  induction replacements generalizing original with
  | nil => rfl
  | cons repl rest ih =>
    have holds : HoldsScalar original (fieldPathSegments repl.fieldPath) :=
      independent.holds repl.toEdit (by simp)
    rw [setInOrder, setObjectValue_eq repl.desiredValue holds (parsed _ (by simp))]
    exact ih independent.tail (fun other mem => parsed other (mem_cons_of_mem _ mem))

/-- Approved replacements at different paths that rename nothing are independent. -/
theorem approved_independent
    (approved : ∀ repl ∈ replacements, Approved allowAlreadyApplied original repl)
    (parsed : ∀ repl ∈ replacements, fieldPathSegments repl.fieldPath ≠ [])
    (distinct : (replacements.map ScalarFieldReplacement.fieldPath).Nodup)
    (keeps : ∀ repl ∈ replacements,
        renamesItem (fieldPathSegments repl.fieldPath) = false)
    : Independent original (replacements.map ScalarFieldReplacement.toEdit) where
  holds := by
    intro edit mem
    obtain ⟨repl, inList, rfl⟩ := mem_map.mp mem
    exact (approved repl inList).holds
  keeps := by
    intro edit mem
    obtain ⟨repl, inList, rfl⟩ := mem_map.mp mem
    exact keeps repl inList
  distinct := by
    rw [map_map]
    refine Nodup.map_on ?_ (Nodup.of_map _ distinct)
    intro left inLeft right inRight equal
    exact inj_on_of_nodup_map distinct inLeft inRight
      (fieldPathSegments_injective (parsed left inLeft) equal)

theorem readDeclaredSource_inv {identity : Option ManifestIdentity} {read : DeclaredSource}
    (done : readDeclaredSource yaml source identity = .ok read)
    : yaml.hasAnchor source = some false
      ∧ ∃ nodes,
        yaml.composeAll source = some nodes
        ∧ read.root ∈ nodes
        ∧ yaml.safeLoadAll source = some read.originals
        ∧ read.originals[read.index]? = some read.original
        ∧ selectDocument identity read.originals = .ok read.index
        ∧ ∃ entries, read.original = .dict entries := by
  unfold readDeclaredSource at done
  split at done
  · cases done
  · cases done
  rename_i unanchored
  split at done
  · rename_i nodes originals composed loaded
    split at done
    · cases done
    split at done
    · cases done
    rename_i index selected
    split at done <;> cases done
    rename_i entries root document node
    exact ⟨unanchored, nodes, composed, mem_of_getElem? node, loaded, document, selected,
      entries, rfl⟩
  · cases done

/-- A returned patch, read backwards through all checks of the source. -/
theorem materializeDeclaredScalarPatch_inv {patch : DeclaredScalarPatch} {out : String}
    (returned : materializeDeclaredScalarPatch yaml source patch allowAlreadyApplied = .ok out)
    : ∃ read spans expected documents,
        readDeclaredSource yaml source patch.documentIdentity = .ok read
        ∧ Collected yaml declaredMessages allowAlreadyApplied read.original read.root
            read.original patch.replacements spans expected
        ∧ (spans.map (fun span => (span.start, span.stop))).Nodup
        ∧ out = String.ofList (spliceAll source.toList spans)
        ∧ yaml.safeLoadAll out = some documents
        ∧ (PyValue.list documents).eq (.list (read.originals.set read.index expected))
          = true := by
  unfold materializeDeclaredScalarPatch at returned
  split at returned
  · cases returned
  split at returned
  · cases returned
  split at returned
  · cases returned
  rename_i read readOk
  split at returned
  · cases returned
  rename_i spans expected collected
  unfold splicedText at returned
  split at returned
  · cases returned
  rename_i patched spliced
  split at spliced <;> cases spliced
  rename_i distinct
  split at returned
  · cases returned
  rename_i documents loaded
  split at returned <;> cases returned
  rename_i equal
  exact ⟨read, spans, expected, documents, readOk, collectSpans_inv collected, distinct, rfl,
    loaded, equal⟩

/-- What a returned patch did to the text and to the documents in it. -/
structure DeclaredPatched (yaml : Yaml) (source : String) (patch : DeclaredScalarPatch)
    (allowAlreadyApplied : Bool) (out : String) (read : DeclaredSource) (expected : PyValue)
    : Prop where
  /-- Each spliced replacement has its scalar node, and no two have the same one. -/
  targets : ∀ repl
      ∈ pendingReplacements allowAlreadyApplied read.original patch.replacements,
      ∃ node text,
        nodeValueAt read.root (fieldPathSegments repl.fieldPath) = .ok (.scalar node)
        ∧ encodedScalarValue yaml node repl.desiredValue = .ok text
        ∧ targetSpan yaml declaredMessages read.root repl
          = .ok { start := node.start, stop := node.stop, text := text.toList }
  different : ((targetSpans yaml declaredMessages read.root
      (pendingReplacements allowAlreadyApplied read.original patch.replacements)).map
      (fun span => (span.start, span.stop))).Nodup
  /-- The text is the source with those spans replaced at once. -/
  spliced : out.toList
    = replaceSpans 0 source.toList (sortSpans (targetSpans yaml declaredMessages read.root
          (pendingReplacements allowAlreadyApplied read.original patch.replacements)))
  anyOrder : ∀ replacements other,
      patch.replacements.Perm replacements
      → materializeDeclaredScalarPatch yaml source { patch with replacements }
          allowAlreadyApplied = .ok other
      → other = out
  /-- The documents are those of the source with the desired values set in order. -/
  expects : setInOrder read.original patch.replacements = .ok expected
  reloads : ∃ documents,
      yaml.safeLoadAll out = some documents
      ∧ (PyValue.list documents).eq (.list (read.originals.set read.index expected)) = true
  /-- With different paths that rename nothing, the order of the values is immaterial too. -/
  exactly : (patch.replacements.map ScalarFieldReplacement.fieldPath).Nodup
    → (∀ repl ∈ patch.replacements,
        renamesItem (fieldPathSegments repl.fieldPath) = false)
    → Independent read.original (patch.replacements.map ScalarFieldReplacement.toEdit)
      ∧ expected
        = replaceAll read.original (patch.replacements.map ScalarFieldReplacement.toEdit)
  approved : ∀ repl ∈ patch.replacements,
      Approved allowAlreadyApplied read.original repl

/-- A returned patch is byte-exact: it replaces the spans of different scalar nodes at once,
loads as the source with the desired values set, and each scalar had an approved value.
Witness: separate spans splice in any order, and the source's own checks give the rest.
-/
theorem materializeDeclaredScalarPatch_exact {yaml : Yaml} (sound : SoundMarks yaml)
    {source : String} {patch : DeclaredScalarPatch} {allowAlreadyApplied : Bool} {out : String}
    (returned : materializeDeclaredScalarPatch yaml source patch allowAlreadyApplied = .ok out)
    : ∃ read expected,
        readDeclaredSource yaml source patch.documentIdentity = .ok read
        ∧ DeclaredPatched yaml source patch allowAlreadyApplied out read expected := by
  obtain ⟨read, spans, expected, documents, readOk, collected, distinct, spliced, loaded, equal⟩
    := materializeDeclaredScalarPatch_inv returned
  obtain ⟨unanchored, nodes, composed, mem, _, _, _, entries, isDict⟩ :=
    readDeclaredSource_inv readOk
  have separate := targetSpans_separate sound unanchored composed mem
    (collected.spans_eq ▸ distinct)
  have parsed : ∀ repl ∈ patch.replacements,
      fieldPathSegments repl.fieldPath ≠ [] := by
    intro repl inPatch
    exact HoldsScalar.ne_nil_of_dict (isDict ▸ (collected.approved repl inPatch).holds)
  refine ⟨read, expected, readOk, ?_, collected.spans_eq ▸ distinct, ?_, ?_, collected.expects,
    ⟨documents, loaded, equal⟩, ?_, collected.approved⟩
  · intro repl pending
    obtain ⟨span, found⟩ := collected.found repl pending
    obtain ⟨node, text, reached, encoded, rfl⟩ := targetSpan_inv found
    exact ⟨node, text, reached, encoded, found⟩
  · rw [spliced, String.toList_ofList, collected.spans_eq, spliceAll_eq separate]
  · intro replacements other reordered returnedOther
    obtain ⟨otherRead, otherSpans, _, _, otherReadOk, otherCollected, _, otherSpliced, _⟩ :=
      materializeDeclaredScalarPatch_inv returnedOther
    obtain rfl : read = otherRead := Except.ok.inj (readOk.symm.trans otherReadOk)
    have sameSpans := (reordered.filter (fun repl =>
      !alreadyApplied allowAlreadyApplied read.original repl)).filterMap
        (fun repl => (targetSpan yaml declaredMessages read.root repl).toOption)
    rw [otherSpliced, spliced, collected.spans_eq, otherCollected.spans_eq]
    exact congrArg String.ofList (spliceAll_perm separate sameSpans).symm
  · intro distinctPaths keeps
    have independent := approved_independent collected.approved parsed distinctPaths keeps
    have expects := setInOrder_eq independent parsed
    exact ⟨independent, Except.ok.inj (collected.expects.symm.trans expects)⟩

theorem digitYaml_sound : SoundMarks digitYaml := by
  constructor
  case' disjoint => intro source nodes _ composed
  case' inside => intro source nodes composed
  all_goals
    simp only [digitYaml] at composed
    split at composed <;> cases composed
    rename_i known
    rcases known with rfl | rfl <;> decide +kernel

/-- One replacement of the digit. -/
theorem materializeDeclaredScalarPatch_digit
    : materializeDeclaredScalarPatch digitYaml "a: 1\n" (digitPatch [⟨"a", .int 1, .int 2⟩])
        false = .ok "a: 2\n"
      ∧ ∃ read expected,
          readDeclaredSource digitYaml "a: 1\n" none = .ok read
          ∧ DeclaredPatched digitYaml "a: 1\n" (digitPatch [⟨"a", .int 1, .int 2⟩]) false
              "a: 2\n" read expected := by
  have returned : materializeDeclaredScalarPatch digitYaml "a: 1\n"
      (digitPatch [⟨"a", .int 1, .int 2⟩]) false = .ok "a: 2\n" := by rfl
  exact ⟨returned, materializeDeclaredScalarPatch_exact digitYaml_sound returned⟩

end K8sClue.SourcePatch
