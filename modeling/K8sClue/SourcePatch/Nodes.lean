import K8sClue.SourcePatch.Objects

/-! Composed YAML nodes with their source marks, and the text of a replaced scalar.
PyYAML itself is a parameter: what it scans, composes and loads for each text.
-/

namespace K8sClue.SourcePatch

open Python List

structure ScalarNode where
  value : String
  style : Option Char
  (start stop : Nat)
  deriving DecidableEq

inductive Node where
  | scalar (node : ScalarNode)
  | sequence (items : List Node)
  | mapping (entries : List (Node × Node))

/-- The YAML and JSON functions of the runtime; `none` where `YAMLError` or
`JSONDecodeError` is raised.
-/
structure Yaml where
  /-- `yaml.scan` meets an anchor or an alias. -/
  hasAnchor : String → Option Bool
  composeAll : String → Option (List Node)
  safeLoadAll : String → Option (List PyValue)
  (safeLoad jsonLoads : String → Option PyValue)
  /-- The value that the safe loader constructs for a scalar node. -/
  construct : ScalarNode → PyScalar
  /-- `float.__repr__` of a finite number. -/
  floatText : ℚ → String

namespace Node

mutual

def scalars : Node → List ScalarNode
  | .scalar node => [node]
  | .sequence items => scalarsOfItems items
  | .mapping entries => scalarsOfEntries entries
termination_by structural node => node

def scalarsOfItems : List Node → List ScalarNode
  | [] => []
  | item :: rest => scalars item ++ scalarsOfItems rest
termination_by structural items => items

def scalarsOfEntries : List (Node × Node) → List ScalarNode
  | [] => []
  | entry :: rest => scalarsOfEntry entry ++ scalarsOfEntries rest
termination_by structural entries => entries

def scalarsOfEntry : Node × Node → List ScalarNode
  | (key, value) => scalars key ++ scalars value
termination_by structural entry => entry

end

end Node

variable (yaml : Yaml)

/-- What is assumed of composed marks: they lie in the source, and without anchors those of
different scalar nodes do not overlap; an alias composes the node of its anchor once more.
-/
structure SoundMarks : Prop where
  inside : ∀ source nodes,
      yaml.composeAll source = some nodes
      → ∀ node ∈ nodes.flatMap Node.scalars,
          node.start ≤ node.stop ∧ node.stop ≤ source.toList.length
  disjoint : ∀ source nodes,
      yaml.hasAnchor source = some false
      → yaml.composeAll source = some nodes
      → (nodes.flatMap Node.scalars).Pairwise
          (fun left right => left.stop ≤ right.start ∨ right.stop ≤ left.start)

/-- `mapping_value`: the first entry whose key is the scalar text. -/
def mappingValue (entries : List (Node × Node)) (key : String) : Option Node :=
  (entries.find? (fun entry =>
    match entry.1 with
    | .scalar node => node.value = key
    | _ => false)).map Prod.snd

/-- The node is a mapping whose `name` is the scalar text. -/
def nodeNamed (name : String) : Node → Bool
  | .mapping entries =>
    match mappingValue entries "name" with
    | some (.scalar node) => node.value = name
    | _ => false
  | _ => false

/-- The one item of a sequence with the selected name. -/
def selectNode (child : Node) : Option String → Except PatchFailure Node
  | none => .ok child
  | some name =>
    match child with
    | .sequence items =>
      match items.filter (nodeNamed name) with
      | [item] => .ok item
      | _ => .error targetNotUnique
    | _ => .error targetMissing

def nodeValueAt : Node → List Segment → Except PatchFailure Node
  | current, [] => .ok current
  | current, segment :: rest =>
    match current with
    | .mapping entries =>
      match mappingValue entries segment.key with
      | none => .error targetMissing
      | some child =>
        match selectNode child segment.selectedName with
        | .ok selected => nodeValueAt selected rest
        | .error failure => .error failure
    | _ => .error targetMissing

/-- The key node is a scalar that loads as the text. -/
def loadsAs (key : String) : Node → Bool
  | .scalar node => yaml.construct node = .str key
  | _ => false

/-- The first entry with the text of a key is the one whose value the loader keeps: its key
loads as that text, and no later key does.
-/
def takesEntry (key : String) : List (Node × Node) → Bool
  | [] => false
  | entry :: rest =>
    if (mappingValue [entry] key).isSome then
      loadsAs yaml key entry.1 && rest.all (fun later => !loadsAs yaml key later.1)
    else
      takesEntry key rest

/-- The loader takes the value of a path from the node that the path leads to. -/
def takesNode : Node → List Segment → Bool
  | _, [] => true
  | .mapping entries, segment :: rest =>
    takesEntry yaml segment.key entries
      && match mappingValue entries segment.key, segment.selectedName with
          | some child, none => takesNode child rest
          | some child, some name =>
            match selectNode child (some name) with
            | .ok (.mapping item) =>
              takesEntry yaml "name" item && takesNode (.mapping item) rest
            | _ => false
          | none, _ => false
  | _, _ => false

def singleQuote : Char := Char.ofNat 39
def doubleQuote : Char := Char.ofNat 34
def backslash : Char := Char.ofNat 92

/-- One character of `json.dumps(text, ensure_ascii=False)`. -/
def jsonChar (char : Char) : List Char :=
  if char = doubleQuote ∨ char = backslash then
    [backslash, char]
  else if char = '\n' then
    [backslash, 'n']
  else if char = '\r' then
    [backslash, 'r']
  else if char = '\t' then
    [backslash, 't']
  else if char.toNat = 0x0C then
    [backslash, 'f']
  else if char.toNat = 0x08 then
    [backslash, 'b']
  else if char.toNat < 0x20 then
    [backslash, 'u', '0', '0', (Nat.digitChar (char.toNat / 16)), (Nat.digitChar (char.toNat % 16))]
  else
    [char]

def jsonString (value : String) : String :=
  String.ofList (doubleQuote :: (value.toList.flatMap jsonChar ++ [doubleQuote]))

/-- `f"'{value.replace(chr(39), chr(39) * 2)}'"`. -/
def singleQuoted (value : String) : String :=
  String.ofList (singleQuote
    :: (value.toList.flatMap (fun char =>
          if char = singleQuote then [char, char] else [char])
        ++ [singleQuote]))

/-- `json.dumps` of a scalar that is not a text, without `nan` and infinities. -/
def jsonScalar : PyScalar → Except PatchFailure String
  | .none => .ok "null"
  | .bool true => .ok "true"
  | .bool false => .ok "false"
  | .int value => .ok (toString value)
  | .float (.finite value) => .ok (yaml.floatText value)
  | .float .negativeZero => .ok "-0.0"
  | .float _ => .error .valueError
  | .str value => .ok (jsonString value)
  | .other _ _ => .error .typeError

/-- A plain text is kept plain only when it loads as itself. -/
def plainLoads (value : String) : Bool :=
  match yaml.safeLoad value with
  | some loaded => loaded.eq (.scalar (.str value))
  | none => false

def encodedScalarValue (node : ScalarNode) (value : PyScalar) : Except PatchFailure String :=
  match value with
  | .str text =>
    if node.style = some singleQuote then
      .ok (singleQuoted text)
    else if node.style = some doubleQuote then
      .ok (jsonString text)
    else if node.style = none ∧ '\n' ∉ text.toList ∧ plainLoads yaml text then
      .ok text
    else
      .ok (jsonString text)
  | other =>
    if node.style ≠ none then
      .error (.manifestSourcePatch "manifest scalar style is not patchable")
    else
      jsonScalar yaml other

theorem scalars_item {items : List Node} {item : Node} (mem : item ∈ items)
    : ∀ node ∈ item.scalars, node ∈ Node.scalarsOfItems items := by
  intro node inItem
  induction items with
  | nil => simp at mem
  | cons first rest ih =>
    rw [Node.scalarsOfItems, mem_append]
    rcases mem_cons.mp mem with rfl | later
    · exact .inl inItem
    · exact .inr (ih later)

theorem scalars_entry {entries : List (Node × Node)} {entry : Node × Node}
    (mem : entry ∈ entries)
    : ∀ node ∈ entry.2.scalars, node ∈ Node.scalarsOfEntries entries := by
  intro node inValue
  induction entries with
  | nil => simp at mem
  | cons first rest ih =>
    rw [Node.scalarsOfEntries, mem_append]
    rcases mem_cons.mp mem with rfl | later
    · left
      rw [Node.scalarsOfEntry, mem_append]
      exact .inr inValue
    · exact .inr (ih later)

theorem selectNode_scalars {child selected : Node} {selection : Option String}
    (chosen : selectNode child selection = .ok selected)
    : ∀ node ∈ selected.scalars, node ∈ child.scalars := by
  intro node inSelected
  cases selection with
  | none =>
    obtain rfl : child = selected := by simpa [selectNode] using chosen
    exact inSelected
  | some name =>
    cases child with
    | sequence items =>
      simp only [selectNode] at chosen
      split at chosen
      · rename_i item found
        obtain rfl := Except.ok.inj chosen
        have mem : item ∈ items := mem_of_mem_filter (found ▸ mem_singleton_self item)
        exact scalars_item mem node inSelected
      · simp at chosen
    | _ => simp [selectNode] at chosen

/-- Following a path stays inside the document. -/
theorem nodeValueAt_scalars {root found : Node} {path : List Segment}
    (reached : nodeValueAt root path = .ok found)
    : ∀ node ∈ found.scalars, node ∈ root.scalars := by
  induction path generalizing root with
  | nil =>
    obtain rfl : root = found := by simpa [nodeValueAt] using reached
    exact fun _ inFound => inFound
  | cons segment rest ih =>
    intro node inFound
    cases root with
    | mapping entries =>
      simp only [nodeValueAt] at reached
      split at reached
      · simp at reached
      · rename_i child present
        split at reached
        · rename_i selected chosen
          obtain ⟨entry, inEntries, rfl⟩ := Option.map_eq_some_iff.mp present
          exact scalars_entry (mem_of_find?_eq_some inEntries) node
            (selectNode_scalars chosen node (ih reached node inFound))
        · simp at reached
    | _ => simp [nodeValueAt] at reached

end K8sClue.SourcePatch
