import K8sClue.SourcePatch.Equality
import K8sClue.SourcePatch.Materialize

/-! Declared patches that are made again: a text that was returned once is returned as it is,
and a scalar with a third value is refused.
-/

namespace K8sClue.SourcePatch

open Python Library List

/-- The path neither ends in a `name` nor starts at a key that identifies the manifest. -/
structure KeepsIdentity (path : List Segment) : Prop where
  last : ∀ segment ∈ path.getLast?, segment.key ≠ "name"
  first : ∀ segment ∈ path.head?, segment.key ∉ ["apiVersion", "kind", "metadata"]

/-- How the safe loader reads what is written for a number: the names of truth values and decimal
numbers as such, and the text of a float as that float or, if it has no point, as a text.
-/
def ReadsNumber (yaml : Yaml) : PyScalar → Prop
  | .bool value => yaml.safeLoad (if value then "true" else "false") = some (.scalar (.bool value))
  | .int value => yaml.safeLoad (toString value) = some (.scalar (.int value))
  | .float (.finite value) =>
    yaml.safeLoad (yaml.floatText value) = some (.scalar (.float (.finite value)))
    ∨ yaml.safeLoad (yaml.floatText value) = some (.scalar (.str (yaml.floatText value)))
  | .float .negativeZero => yaml.safeLoad "-0.0" = some (.scalar (.float .negativeZero))
  | _ => True

/-- The scalar that is read at the place of a replacement is the one its text is read as alone. -/
def readAt (yaml : Yaml) (root : Node) (repl : ScalarFieldReplacement) : Option PyValue :=
  match targetSpan yaml declaredMessages root repl with
  | .ok span => yaml.safeLoad (String.ofList span.text)
  | .error _ => none

def ScalarFieldReplacement.editTo (repl : ScalarFieldReplacement) (value : PyScalar) : Edit where
  path := fieldPathSegments repl.fieldPath
  current := repl.currentValue
  desired := value

/-- PyYAML reads a text, in which the texts of some scalars were written over others, as the
source with those scalars in place: it has no anchors, the documents are of the same kinds, and
where the loader takes the values of the paths from the scalars, it reads what was written there
and all else as before.
-/
structure RereadsDeclared (yaml : Yaml) (read : DeclaredSource)
    (written : List ScalarFieldReplacement) (out : String)
    : Prop where
  unanchored : yaml.hasAnchor out = some false
  composed : ∃ nodes root,
      yaml.composeAll out = some nodes ∧ nodes.length = read.originals.length
      ∧ nodes[read.index]? = some (.mapping root)
  loaded : (∀ repl ∈ written, takesNode yaml read.root (fieldPathSegments repl.fieldPath) = true)
    → ∃ value : ScalarFieldReplacement → PyScalar,
        (∀ repl ∈ written, readAt yaml read.root repl = some (.scalar (value repl)))
        ∧ yaml.safeLoadAll out
          = some (read.originals.set read.index (replaceAll read.original
              (written.map fun repl => repl.editTo (value repl))))

theorem KeepsIdentity.keeps {path : List Segment} (identity : KeepsIdentity path)
    : renamesItem path = false := by
  have last := identity.last
  clear identity
  fun_induction renamesItem path with
  | case1 => rfl
  | case2 => rfl
  | case3 segment final =>
    have other : final ≠ ⟨"name", none⟩ := by
      rintro rfl
      exact last _ rfl rfl
    simp [other]
  | case4 first next rest _ ih => exact ih (by simpa using last)

variable {entries : Entries} {replacements : List ScalarFieldReplacement} {yaml : Yaml}

theorem manifestIdentity_replaceAll (entries : Entries) (edits : List Edit)
    (nonempty : ∀ edit ∈ edits, edit.path ≠ []) (identity : ∀ edit ∈ edits, KeepsIdentity edit.path)
    : ∃ changed,
        replaceAll (.dict entries) edits = .dict changed
        ∧ manifestIdentity changed = manifestIdentity entries := by
  induction edits generalizing entries with
  | nil => exact ⟨entries, rfl, rfl⟩
  | cons edit edits ih =>
    rw [forall_mem_cons] at nonempty identity
    obtain ⟨segment, rest, path⟩ := exists_cons_of_ne_nil nonempty.1
    have apart := identity.1.first segment (by rw [path]; rfl)
    simp only [mem_cons, not_mem_nil, or_false, not_or] at apart
    rw [replaceAll_cons, path]
    cases present : getKey entries segment.key with
    | none =>
      rw [replaceAt, present]
      exact ih entries nonempty.2 identity.2
    | some child =>
      rw [replaceAt_cons present]
      obtain ⟨changed, all, kept⟩ := ih _ nonempty.2 identity.2
      refine ⟨changed, all, kept.trans ?_⟩
      unfold manifestIdentity
      rw [getKey_setKey_other _ apart.1, getKey_setKey_other _ apart.2.1,
        getKey_setKey_other _ apart.2.2]

/-- A document that keeps its identity is selected again. -/
theorem selectDocument_set {identity : Option ManifestIdentity} {originals : List PyValue}
    {index : Nat} {changed : Entries} (held : originals[index]? = some (.dict entries))
    (same : manifestIdentity changed = manifestIdentity entries)
    : selectDocument identity (originals.set index (.dict changed))
      = selectDocument identity originals := by
  unfold selectDocument
  rw [length_set]
  cases identity with
  | none => rfl
  | some identity =>
    dsimp only
    congr 2 with position
    by_cases here : index = position
    · subst here
      have inside : index < originals.length := (List.getElem?_eq_some_iff.mp held).1
      rw [List.getElem?_set_self inside, held]
      simp only [same]
    · rw [getElem?_set_ne here]

/-- Where every scalar has its desired value, nothing is spliced. -/
theorem collectSpans_applied {messages : PatchMessages} {original expected final : PyValue}
    {root : Node}
    (applied : ∀ repl ∈ replacements, alreadyApplied true original repl = true)
    (sets : setInOrder expected replacements = .ok final)
    : collectSpans yaml messages true original root expected replacements = .ok ([], final) := by
  induction replacements generalizing expected with
  | nil => rw [← Except.ok.inj sets, collectSpans]
  | cons repl rest ih =>
    rw [forall_mem_cons] at applied
    have found := applied.1
    unfold alreadyApplied at found
    rw [setInOrder] at sets
    split at found
    · rename_i current read
      split at sets
      · cases sets
      · rename_i next set_
        simp [collectSpans, collectReplacement, read, applied.1, set_, ih applied.2 sets]
    · cases found

/-- What was written for a value is read as it, if it is read as an equal one. -/
theorem ReadsNumber.read {node : ScalarNode} {value loaded : PyScalar} {text : String}
    (reads : ReadsNumber yaml value) (encoded : encodedScalarValue yaml node value = .ok text)
    (found : yaml.safeLoad text = some (.scalar loaded)) (equal : loaded.eq value = true)
    : loaded = value := by
  have only {known : PyScalar} (law : yaml.safeLoad text = some (.scalar known))
      : loaded = known :=
    PyValue.scalar.inj (Option.some.inj (found.symm.trans law))
  cases value with
  | str content => exact eq_str_iff.mp equal
  | none =>
    unfold PyScalar.eq at equal
    split at equal
    next number => cases number
    · exact beq_iff_eq.mp (Bool.and_eq_true_iff.mp equal).1
    · cases equal
  | bool value =>
    cases value <;> simp only [encodedScalarValue, jsonScalar] at encoded <;>
      split at encoded <;> cases encoded <;> exact only reads
  | int value =>
    simp only [encodedScalarValue, jsonScalar] at encoded
    split at encoded <;> cases encoded
    exact only reads
  | float value =>
    simp only [encodedScalarValue] at encoded
    split at encoded
    · cases encoded
    cases value with
    | finite value =>
      cases encoded
      rcases reads with number | text
      · exact only number
      · rw [only text, PyScalar.eq_swap] at equal
        exact absurd (eq_str_iff.mp equal) nofun
    | negativeZero =>
      cases encoded
      exact only reads
    | _ => cases encoded
  | other _ _ =>
    simp only [encodedScalarValue, jsonScalar] at encoded
    split at encoded <;> cases encoded

section Again

variable {source out : String} {patch : DeclaredScalarPatch} {allowAlreadyApplied : Bool}
  {original : PyValue}

theorem pending_subset {repl : ScalarFieldReplacement}
    (mem : repl ∈ pendingReplacements allowAlreadyApplied original replacements)
    : repl ∈ replacements :=
  mem_of_mem_filter mem

theorem Independent.pending
    (independent : Independent original (replacements.map ScalarFieldReplacement.toEdit))
    : Independent original ((pendingReplacements allowAlreadyApplied original replacements).map
        ScalarFieldReplacement.toEdit) where
  holds := fun _ mem => independent.holds _ (map_subset _ (fun _ => pending_subset) mem)
  keeps := fun _ mem => independent.keeps _ (map_subset _ (fun _ => pending_subset) mem)
  distinct := independent.distinct.sublist ((filter_sublist.map _).map _)

/-- Once the pending values are written, every path has a value that counts as the desired one. -/
theorem applied_of_written
    (independent : Independent original (replacements.map ScalarFieldReplacement.toEdit))
    (self : ∀ repl ∈ pendingReplacements allowAlreadyApplied original replacements,
      repl.desiredValue.eq repl.desiredValue = true)
    : ∀ repl ∈ replacements, alreadyApplied true
        (replaceAll original ((pendingReplacements allowAlreadyApplied original replacements).map
          ScalarFieldReplacement.toEdit)) repl = true := by
  intro repl mem
  cases applied : alreadyApplied allowAlreadyApplied original repl with
  | false =>
    have pending : repl ∈ pendingReplacements allowAlreadyApplied original replacements :=
      mem_filter.mpr ⟨mem, by rw [applied]; rfl⟩
    have found := independent.pending.replaceAll_edit
      (mem_map_of_mem (f := ScalarFieldReplacement.toEdit) pending)
    simp only [ScalarFieldReplacement.toEdit] at found
    simp only [alreadyApplied, found, PyValue.sameScalar, PyScalar.same, self repl pending]
    cases repl.desiredValue <;> simp [PyScalar.sameType]
  | true =>
    obtain ⟨held, found⟩ := independent.holds _ (mem_map_of_mem mem)
    have untouched : repl.toEdit.path
        ∉ ((pendingReplacements allowAlreadyApplied original replacements).map
            ScalarFieldReplacement.toEdit).map Edit.path := by
      intro touched
      obtain ⟨edit, inPending, same⟩ := mem_map.mp touched
      obtain ⟨other, pending, rfl⟩ := mem_map.mp inPending
      have equal := inj_on_of_nodup_map independent.distinct
        (mem_map_of_mem (pending_subset pending)) (mem_map_of_mem mem) same
      have notApplied := (mem_filter.mp pending).2
      simp only [ScalarFieldReplacement.toEdit, Edit.mk.injEq] at equal
      rw [alreadyApplied, equal.1, equal.2.2, ← alreadyApplied, applied] at notApplied
      cases notApplied
    have kept := independent.pending.replaceAll_other untouched found
    simp only [ScalarFieldReplacement.toEdit] at found kept
    simp only [alreadyApplied, found, Bool.and_eq_true] at applied
    simp only [alreadyApplied, kept, applied.2, Bool.and_self]

theorem holds_of_applied {repl : ScalarFieldReplacement}
    (applied : alreadyApplied true original repl = true)
    : HoldsScalar original (fieldPathSegments repl.fieldPath) := by
  unfold alreadyApplied at applied
  split at applied
  · rename_i current found
    cases current with
    | scalar held => exact ⟨held, found⟩
    | _ => cases applied
  · cases applied

/-- Setting all values after the pending ones gives what setting all of them gives. -/
theorem replaceAll_pending
    (independent : Independent original (replacements.map ScalarFieldReplacement.toEdit))
    (again : Independent
      (replaceAll original ((pendingReplacements allowAlreadyApplied original replacements).map
        ScalarFieldReplacement.toEdit))
      (replacements.map ScalarFieldReplacement.toEdit))
    : replaceAll (replaceAll original
          ((pendingReplacements allowAlreadyApplied original replacements).map
            ScalarFieldReplacement.toEdit))
        (replacements.map ScalarFieldReplacement.toEdit)
      = replaceAll original (replacements.map ScalarFieldReplacement.toEdit) := by
  have parts := (filter_append_perm (fun repl =>
    !alreadyApplied allowAlreadyApplied original repl) replacements).symm.map
      ScalarFieldReplacement.toEdit
  rw [again.replaceAll_perm parts, independent.replaceAll_perm parts, map_append]
  simp only [replaceAll, foldl_append]
  exact congrArg (foldl _ · _) (replaceAll_self fun edit mem =>
    independent.pending.replaceAll_edit mem)

variable {read : DeclaredSource}
  (returned : materializeDeclaredScalarPatch yaml source patch allowAlreadyApplied = .ok out)
  (readOk : readDeclaredSource yaml source patch.documentIdentity = .ok read)
  (distinct : (patch.replacements.map ScalarFieldReplacement.fieldPath).Nodup)
  (identity : ∀ repl ∈ patch.replacements, KeepsIdentity (fieldPathSegments repl.fieldPath))
  (takes : ∀ repl ∈ pendingReplacements allowAlreadyApplied read.original patch.replacements,
    takesNode yaml read.root (fieldPathSegments repl.fieldPath) = true)
  (numbers : ∀ repl ∈ patch.replacements, ReadsNumber yaml repl.desiredValue)
  (rereads : RereadsDeclared yaml read
    (pendingReplacements allowAlreadyApplied read.original patch.replacements) out)
include returned readOk distinct identity takes numbers rereads

/-- The text is read as the source with the pending values set, type for type.
Witness: what is read at a path equals its desired value by the reload check, and what is written
for a number is read as a number of its type or not as a number.
-/
theorem RereadsDeclared.exact_types
    : Independent read.original (patch.replacements.map ScalarFieldReplacement.toEdit)
      ∧ (∀ repl ∈ pendingReplacements allowAlreadyApplied read.original patch.replacements,
          repl.desiredValue.eq repl.desiredValue = true)
      ∧ yaml.safeLoadAll out
        = some (read.originals.set read.index (replaceAll read.original
            ((pendingReplacements allowAlreadyApplied read.original patch.replacements).map
              ScalarFieldReplacement.toEdit)))
      ∧ (PyValue.list (read.originals.set read.index (replaceAll read.original
            ((pendingReplacements allowAlreadyApplied read.original patch.replacements).map
              ScalarFieldReplacement.toEdit)))).eq
          (.list (read.originals.set read.index (replaceAll read.original
            (patch.replacements.map ScalarFieldReplacement.toEdit)))) = true := by
  obtain ⟨_, spans, expected, documents, readAgain, collected, _, _, loaded, equal⟩ :=
    materializeDeclaredScalarPatch_inv returned
  obtain rfl := Except.ok.inj (readOk.symm.trans readAgain)
  obtain ⟨_, _, _, _, _, held, _, entries, isDict⟩ := readDeclaredSource_inv readOk
  obtain ⟨value, reads, loadedAs⟩ := rereads.loaded takes
  obtain rfl := Option.some.inj (loaded.symm.trans loadedAs)
  have parsed : ∀ repl ∈ patch.replacements,
      fieldPathSegments repl.fieldPath ≠ [] := by
    intro repl inPatch
    exact HoldsScalar.ne_nil_of_dict (isDict ▸ (collected.approved repl inPatch).holds)
  have independent := approved_independent collected.approved parsed distinct
    fun repl inPatch => (identity repl inPatch).keeps
  obtain rfl := Except.ok.inj (collected.expects.symm.trans (setInOrder_eq independent parsed))
  have inside : read.index < read.originals.length := (List.getElem?_eq_some_iff.mp held).1
  obtain ⟨other, there, same⟩ := eq_list_at equal (List.getElem?_set_self inside)
  rw [List.getElem?_set_self inside] at there
  obtain rfl := Option.some.inj there
  have written : ∀ repl ∈ pendingReplacements allowAlreadyApplied read.original
      patch.replacements, (value repl).eq repl.desiredValue = true
        ∧ value repl = repl.desiredValue := by
    intro repl pending
    obtain ⟨span, target⟩ := collected.found repl pending
    obtain ⟨node, text, _, encoded, rfl⟩ := targetSpan_inv target
    have found := reads repl pending
    simp only [readAt, target, String.ofList_toList] at found
    have paths : Independent read.original
        ((pendingReplacements allowAlreadyApplied read.original patch.replacements).map
          fun repl => repl.editTo (value repl)) :=
      independent.pending.of_paths (by rw [map_map, map_map]; rfl)
    have mine := paths.replaceAll_edit (mem_map_of_mem pending)
    have theirs := independent.replaceAll_edit (mem_map_of_mem (pending_subset pending))
    have equal : (value repl).eq repl.desiredValue = true := eq_found same mine theirs
    exact ⟨equal, (numbers repl (pending_subset pending)).read encoded found equal⟩
  have edits : (pendingReplacements allowAlreadyApplied read.original patch.replacements).map
        (fun repl => repl.editTo (value repl))
      = (pendingReplacements allowAlreadyApplied read.original patch.replacements).map
        ScalarFieldReplacement.toEdit := by
    refine map_congr_left fun repl pending => ?_
    rw [(written repl pending).2]
    rfl
  rw [edits] at loaded equal
  refine ⟨independent, fun repl pending => ?_, loaded, equal⟩
  obtain ⟨equal, type⟩ := written repl pending
  rwa [type] at equal

/-- A text that was returned is patched again, to no effect. -/
theorem RereadsDeclared.reapplied
    : materializeDeclaredScalarPatch yaml out patch true = .ok out := by
  obtain ⟨independent, self, loaded, equal⟩ :=
    rereads.exact_types returned readOk distinct identity takes numbers
  obtain ⟨_, _, _, _, _, held, selected, entries, isDict⟩ := readDeclaredSource_inv readOk
  obtain ⟨nodes, root, composed, lengths, mapping⟩ := rereads.composed
  have applied := applied_of_written independent self
  have parsed : ∀ repl ∈ patch.replacements, fieldPathSegments repl.fieldPath ≠ [] :=
    fun repl mem => HoldsScalar.ne_nil_of_dict
      (isDict ▸ independent.holds _ (mem_map_of_mem mem))
  have again : Independent
      (replaceAll read.original
        ((pendingReplacements allowAlreadyApplied read.original patch.replacements).map
          ScalarFieldReplacement.toEdit))
      (patch.replacements.map ScalarFieldReplacement.toEdit) :=
    ⟨forall_mem_map.mpr fun repl mem => holds_of_applied (applied repl mem),
      independent.keeps, independent.distinct⟩
  have sets := setInOrder_eq again parsed
  rw [replaceAll_pending independent again] at sets
  obtain ⟨changed, isChanged, same⟩ := manifestIdentity_replaceAll entries
    ((pendingReplacements allowAlreadyApplied read.original patch.replacements).map
      ScalarFieldReplacement.toEdit)
    (forall_mem_map.mpr fun repl pending => parsed repl (pending_subset pending))
    (forall_mem_map.mpr fun repl pending => identity repl (pending_subset pending))
  rw [← isDict] at isChanged
  rw [isChanged] at loaded equal applied sets
  rw [isDict] at held
  have inside : read.index < read.originals.length := (List.getElem?_eq_some_iff.mp held).1
  have reread : readDeclaredSource yaml out patch.documentIdentity = .ok
      { read with
        originals := read.originals.set read.index (.dict changed)
        original := .dict changed
        root := .mapping root } := by
    rw [readDeclaredSource, rereads.unanchored, composed, loaded]
    simp only [length_set, lengths, selectDocument_set held same, selected, mapping,
      List.getElem?_set_self inside]
    exact if_neg fun different => different rfl
  unfold materializeDeclaredScalarPatch at returned ⊢
  split at returned
  · cases returned
  rename_i typed
  split at returned
  · cases returned
  rename_i some
  rw [if_neg typed, if_neg some, reread]
  simp only [collectSpans_applied applied sets]
  have unchanged : splicedText declaredMessages out [] = .ok out := by
    simp [splicedText, spliceAll, sortSpans]
  rw [unchanged, set_set]
  simp only [loaded, equal, if_true]

end Again

/-- Making a declared patch again changes nothing, where the loader takes the values of different
paths from the scalars that the paths lead to, and a scalar with a third value is refused whatever
the flag.
-/
theorem declared_patch_made_again (yaml : Yaml) (source : String) (patch : DeclaredScalarPatch)
    (read : DeclaredSource)
    (readOk : readDeclaredSource yaml source patch.documentIdentity = .ok read)
    : ((patch.replacements.map ScalarFieldReplacement.fieldPath).Nodup
        → (∀ repl ∈ patch.replacements,
            KeepsIdentity (fieldPathSegments repl.fieldPath))
        → (∀ repl ∈ patch.replacements, ReadsNumber yaml repl.desiredValue)
        → ∀ allowAlreadyApplied out,
            materializeDeclaredScalarPatch yaml source patch allowAlreadyApplied = .ok out
            → (∀ repl ∈ pendingReplacements allowAlreadyApplied read.original patch.replacements,
                takesNode yaml read.root (fieldPathSegments repl.fieldPath) = true)
            → RereadsDeclared yaml read
                (pendingReplacements allowAlreadyApplied read.original patch.replacements) out
            → materializeDeclaredScalarPatch yaml out patch true = .ok out)
      ∧ ∀ repl ∈ patch.replacements, ∀ held,
          objectValueAt read.original (fieldPathSegments repl.fieldPath)
            = .ok (.scalar held)
          → held.same repl.currentValue = false
          → held.same repl.desiredValue = false
          → ∀ allowAlreadyApplied out,
              materializeDeclaredScalarPatch yaml source patch allowAlreadyApplied ≠ .ok out := by
  refine ⟨fun distinct identity numbers _ _ returned takes rereads =>
    rereads.reapplied returned readOk distinct identity takes numbers, ?_⟩
  intro repl mem held found notCurrent notDesired allowAlreadyApplied out returned
  obtain ⟨_, _, _, _, readAgain, collected, _⟩ := materializeDeclaredScalarPatch_inv returned
  obtain rfl := Except.ok.inj (readOk.symm.trans readAgain)
  obtain ⟨current, isCurrent, same⟩ := collected.approved repl mem
  obtain rfl := Except.ok.inj (found.symm.trans isCurrent)
  simp [PyValue.sameScalar, notCurrent, notDesired] at same

theorem declared_patch_made_again_digit
    : materializeDeclaredScalarPatch digitYaml "a: 2\n" (digitPatch [⟨"a", .int 1, .int 2⟩])
        true = .ok "a: 2\n" := by
  refine (declared_patch_made_again digitYaml "a: 1\n" _ _ rfl).1 (by decide) ?_ ?_ false _ rfl ?_
    ⟨rfl, ⟨_, _, rfl, rfl, rfl⟩, fun _ => ⟨fun _ => .int 2, ?_, rfl⟩⟩
  · intro repl mem
    obtain rfl := mem_singleton.mp mem
    exact ⟨by decide, by decide⟩
  all_goals
    intro repl mem
    obtain rfl := mem_singleton.mp mem
    rfl

/-- Two items that each repeat the key `name`: the composed nodes have the first name of an item,
the loaded dictionaries its last.
-/
def renamedSource (first second : String) : String :=
  "l: [\x7bname: a, name: b, x: " ++ first ++ "\x7d, \x7bname: b, name: a, x: " ++ second
    ++ "\x7d]\n"

def renamedItem (first second value : String) (start : Nat) : Node :=
  .mapping [
    (.scalar ⟨"name", none, start + 1, start + 5⟩,
      .scalar ⟨first, none, start + 7, start + 8⟩),
    (.scalar ⟨"name", none, start + 10, start + 14⟩,
      .scalar ⟨second, none, start + 16, start + 17⟩),
    (.scalar ⟨"x", none, start + 19, start + 20⟩,
      .scalar ⟨value, none, start + 22, start + 22 + value.length⟩)]

def renamedNode (first second : String) : Node :=
  .mapping [(.scalar ⟨"l", none, 0, 1⟩,
    .sequence [renamedItem "a" "b" first 4, renamedItem "b" "a" second (29 + first.length)])]

def renamedValue (first second : PyScalar) : PyValue :=
  .dict [(.str "l", .list [
    .dict [(.str "name", .scalar (.str "b")), (.str "x", .scalar first)],
    .dict [(.str "name", .scalar (.str "a")), (.str "x", .scalar second)]])]

def renamedYaml : Yaml where
  hasAnchor := fun _ => some false
  composeAll := fun source =>
    if source = renamedSource "5" "5" then some [renamedNode "5" "5"]
    else if source = renamedSource "true" "1" then some [renamedNode "true" "1"]
    else none
  safeLoadAll := fun source =>
    if source = renamedSource "5" "5" then some [renamedValue (.int 5) (.int 5)]
    else if source = renamedSource "true" "1" then some [renamedValue (.bool true) (.int 1)]
    else none
  safeLoad := fun _ => none
  jsonLoads := fun _ => none
  construct := fun node => .str node.value
  floatText := fun _ => ""

/-- A path that is moved on by a second replacement has a value that the first one refuses. Where a
path leads to one scalar and the loader takes its value from another, two replacements write each
other's values; the reload check takes `True` for `1`, the second call does not.
-/
theorem repeated_path_conflicts
    : (materializeDeclaredScalarPatch digitYaml "a: 1\n"
          (digitPatch [⟨"a", .int 0, .int 1⟩, ⟨"a", .int 1, .int 2⟩]) true = .ok "a: 2\n"
        ∧ materializeDeclaredScalarPatch digitYaml "a: 2\n"
            (digitPatch [⟨"a", .int 0, .int 1⟩, ⟨"a", .int 1, .int 2⟩]) true
          = .error (.manifestSourcePatch declaredMessages.stale))
      ∧ materializeDeclaredScalarPatch renamedYaml (renamedSource "5" "5")
          (digitPatch [⟨"l[name=a].x", .int 5, .bool true⟩, ⟨"l[name=b].x", .int 5, .int 1⟩]) false
        = .ok (renamedSource "true" "1")
      ∧ materializeDeclaredScalarPatch renamedYaml (renamedSource "true" "1")
          (digitPatch [⟨"l[name=a].x", .int 5, .bool true⟩, ⟨"l[name=b].x", .int 5, .int 1⟩]) true
        = .error (.manifestSourcePatch declaredMessages.stale) := by
  refine ⟨⟨by rfl, by rfl⟩, by decide +kernel, by decide +kernel⟩

end K8sClue.SourcePatch
