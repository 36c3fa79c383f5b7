import K8sClue.Library.Results
import K8sClue.Python.Text

/-! Field paths of approved scalar changes, such as `spec.containers[name=api].image`.
A path that does not parse has no segments, which every caller refuses.
-/

namespace K8sClue.SourcePatch

open Python Library List Function

/-- One step of a field path: a mapping key, and the `name` of one item of its list. -/
structure Segment where
  key : String
  selectedName : Option String
  deriving DecidableEq

/-- Puts a character in front of the part that is being read. -/
def consHead (char : Char) : List (List Char) → List (List Char)
  | [] => [[char]]
  | part :: parts => (char :: part) :: parts

/-- The bracket depth after one character; a closing bracket needs an open one. -/
def nextDepth (depth : Nat) (char : Char) : Option Nat :=
  if char = '[' then
    some (depth + 1)
  else if char = ']' then
    match depth with
    | 0 => none
    | outer + 1 => some outer
  else
    some depth

/-- `_field_path_parts`: cut at the dots outside of brackets; `none` for unbalanced brackets. -/
def fieldPathParts (depth : Nat) : List Char → Option (List (List Char))
  | [] => if depth = 0 then some [[]] else none
  | char :: rest =>
    (nextDepth depth char).bind (fun next =>
      (fieldPathParts next rest).map (if char = '.' ∧ depth = 0 then ([] :: ·) else consHead char))

def isKeyChar (char : Char) : Bool := char.isAlphanum || char == '_' || char == '-'

/-- The text between `[name=` and the closing bracket at the end of a part. -/
def selectedName (rest : List Char) : Option (List Char) :=
  match rest with
  | '[' :: 'n' :: 'a' :: 'm' :: 'e' :: '=' :: tail =>
    let name := tail.takeWhile (· ≠ ']')
    if tail = name ++ [']'] ∧ name ≠ [] then some name else none
  | _ => none

/-- One part matched against `FIELD_PATH_SEGMENT_PATTERN`; a blank name is refused. -/
def parseSegment (part : List Char) : Option Segment :=
  let key := part.takeWhile isKeyChar
  let rest := part.dropWhile isKeyChar
  if key = [] then
    none
  else if rest = [] then
    some { key := String.ofList key, selectedName := none }
  else
    match selectedName rest with
    | some name =>
      if stripChars name = [] then none
      else some { key := String.ofList key, selectedName := some (String.ofList name) }
    | none => none

def segmentsOf (chars : List Char) : List Segment :=
  (((fieldPathParts 0 chars).bind (·.mapM parseSegment))).getD []

def fieldPathSegments (value : String) : List Segment := segmentsOf value.toList

def Segment.render (segment : Segment) : List Char :=
  segment.key.toList
    ++ match segment.selectedName with
        | none => []
        | some name => '[' :: 'n' :: 'a' :: 'm' :: 'e' :: '=' :: name.toList ++ [']']

/-- What `FIELD_PATH_SEGMENT_PATTERN` and the test for blank names demand of a segment. -/
structure Segment.Matched (segment : Segment) : Prop where
  key_nonempty : segment.key.toList ≠ []
  key : ∀ char ∈ segment.key.toList, isKeyChar char = true
  unclosed : ∀ name ∈ segment.selectedName, ∀ char ∈ name.toList, char ≠ ']'
  visible : ∀ name ∈ segment.selectedName, stripChars name.toList ≠ []

variable {rest parent below : List Char} {char : Char}

theorem selectedName_iff {name : List Char}
    : selectedName rest = some name
      ↔ rest = '[' :: 'n' :: 'a' :: 'm' :: 'e' :: '=' :: name ++ [']']
        ∧ name ≠ [] ∧ ∀ char ∈ name, char ≠ ']' := by
  constructor
  · intro found
    unfold selectedName at found
    split at found
    case h_2 => cases found
    dsimp only at found
    split at found <;> cases found
    rename_i tail closed
    exact ⟨by simpa using closed.1, closed.2,
      fun char mem => by simpa using mem_takeWhile_imp mem⟩
  · rintro ⟨rfl, named, unclosed⟩
    have stops : (name ++ [']']).takeWhile (· ≠ ']') = name := by
      rw [takeWhile_append_of_pos fun char mem => by simpa using unclosed char mem]
      simp
    simp only [selectedName, cons_append, stops]
    rw [if_pos ⟨trivial, named⟩]

/-- The key of a part ends where its characters do. -/
theorem takeWhile_key {key : List Char} (keyed : ∀ char ∈ key, isKeyChar char = true)
    (rest : List Char) (ends : ∀ char ∈ rest.head?, isKeyChar char = false)
    : (key ++ rest).takeWhile isKeyChar = key ∧ (key ++ rest).dropWhile isKeyChar = rest := by
  rw [takeWhile_append_of_pos keyed, dropWhile_append_of_pos keyed]
  cases rest with
  | nil => simp
  | cons char rest => simp [ends char rfl]

/-- A part is read as a segment exactly if it is the text of that segment. -/
theorem parseSegment_iff {part : List Char} {segment : Segment}
    : parseSegment part = some segment ↔ segment.render = part ∧ segment.Matched := by
  constructor
  · intro parsed
    have whole := takeWhile_append_dropWhile (p := isKeyChar) (l := part)
    have keyed : ∀ char ∈ part.takeWhile isKeyChar, isKeyChar char = true :=
      fun char mem => mem_takeWhile_imp mem
    unfold parseSegment at parsed
    dsimp only at parsed
    split at parsed
    · cases parsed
    rename_i named
    split at parsed
    · rename_i noRest
      cases parsed
      rw [noRest] at whole
      exact ⟨by simpa [Segment.render] using whole, by simpa using named, by simpa using keyed,
        by simp, by simp⟩
    split at parsed
    case h_2 => cases parsed
    rename_i name found
    obtain ⟨rest, _, unclosed⟩ := selectedName_iff.mp found
    split at parsed <;> cases parsed
    rename_i visible
    rw [rest] at whole
    exact ⟨by simpa [Segment.render] using whole, by simpa using named, by simpa using keyed,
      by simpa using unclosed, by simpa using visible⟩
  · rintro ⟨rfl, matched⟩
    unfold parseSegment Segment.render
    cases selected : segment.selectedName with
    | none =>
      obtain ⟨key, rest⟩ := takeWhile_key matched.key [] (by simp)
      rw [key, rest, if_neg matched.key_nonempty, if_pos rfl, String.ofList_toList, ← selected]
    | some name =>
      have visible := matched.visible name selected
      have named : name.toList ≠ [] := fun empty => visible (by rw [empty]; rfl)
      obtain ⟨key, rest⟩ := takeWhile_key matched.key
        ('[' :: 'n' :: 'a' :: 'm' :: 'e' :: '=' :: name.toList ++ [']']) (by simp [isKeyChar])
      rw [key, rest, if_neg matched.key_nonempty,
        selectedName_iff.mpr ⟨rfl, named, matched.unclosed name selected⟩]
      simp [visible, ← selected]

def joinParts : List (List Char) → List Char
  | [] => []
  | [part] => part
  | part :: next :: rest => part ++ '.' :: joinParts (next :: rest)

variable {chars : List Char} {depth : Nat} {parts : List (List Char)}

theorem joinParts_consHead (char : Char) (some : parts ≠ [])
    : joinParts (consHead char parts) = char :: joinParts parts := by
  cases parts with
  | nil => exact absurd rfl some
  | cons part rest => cases rest <;> rfl

/-- Reading one character cuts at a dot or extends the current part. -/
theorem fieldPathParts_cons (cut : fieldPathParts depth (char :: rest) = some parts)
    : ∃ next tail,
        nextDepth depth char = some next
        ∧ fieldPathParts next rest = some tail
        ∧ parts = (if char = '.' ∧ depth = 0 then [] :: tail else consHead char tail) := by
  obtain ⟨next, stepped, mapped⟩ := Option.bind_eq_some_iff.mp cut
  obtain ⟨tail, read, rfl⟩ := Option.map_eq_some_iff.mp mapped
  exact ⟨next, tail, stepped, read, by split <;> rfl⟩

/-- The parts of a path, joined again, are the path. -/
theorem fieldPathParts_join (cut : fieldPathParts depth chars = some parts)
    : parts ≠ [] ∧ joinParts parts = chars := by
  induction chars generalizing depth parts with
  | nil =>
    rw [fieldPathParts] at cut
    split at cut <;> cases cut
    simp [joinParts]
  | cons char rest ih =>
    obtain ⟨next, tail, _, read, rfl⟩ := fieldPathParts_cons cut
    obtain ⟨nonempty, joined⟩ := ih read
    obtain ⟨part, others, rfl⟩ := exists_cons_of_ne_nil nonempty
    split
    · rename_i dot
      simp [joinParts, joined, dot.1]
    · exact ⟨by simp [consHead], by rw [joinParts_consHead char nonempty, joined]⟩

theorem segmentsOf_inv (parsed : segmentsOf chars ≠ [])
    : ∃ parts,
        fieldPathParts 0 chars = some parts
        ∧ parts.mapM parseSegment = some (segmentsOf chars) := by
  unfold segmentsOf at parsed ⊢
  cases cut : fieldPathParts 0 chars with
  | none => simp [cut] at parsed
  | some parts =>
    cases read : parts.mapM parseSegment with
    | none => simp [cut, read] at parsed
    | some segments => simp [read]

variable {segments : List Segment}

theorem mapM_render (read : parts.mapM parseSegment = some segments)
    : segments.map Segment.render = parts := by
  simpa using forall₂_map_eq (mapM_some.mp read)
    fun part segment parsed => (parseSegment_iff.mp parsed).1.trans (id_eq part).symm

/-- A path that parses is the text of its segments. -/
theorem segmentsOf_render (parsed : segmentsOf chars ≠ [])
    : joinParts ((segmentsOf chars).map Segment.render) = chars := by
  obtain ⟨parts, cut, read⟩ := segmentsOf_inv parsed
  rw [mapM_render read]
  exact (fieldPathParts_join cut).2

/-- Different paths that parse have different segments. -/
theorem segmentsOf_injective {left right : List Char} (parsed : segmentsOf left ≠ [])
    (equal : segmentsOf left = segmentsOf right)
    : left = right := by
  have texts := segmentsOf_render parsed
  rw [equal, segmentsOf_render (equal ▸ parsed)] at texts
  exact texts.symm

theorem fieldPathSegments_injective {left right : String} (parsed : fieldPathSegments left ≠ [])
    (equal : fieldPathSegments left = fieldPathSegments right)
    : left = right :=
  String.toList_inj.mp (segmentsOf_injective parsed equal)

theorem nextDepth_add {depth next : Nat} (stepped : nextDepth depth char = some next) (outer : Nat)
    : nextDepth (depth + outer) char = some (next + outer) := by
  unfold nextDepth at stepped ⊢
  split at stepped
  · cases stepped
    rw [if_pos ‹_›]
    congr 1
    omega
  rw [if_neg ‹_›]
  split at stepped
  · cases depth with
    | zero => simp at stepped
    | succ depth =>
      obtain rfl := Option.some.inj stepped
      rw [if_pos ‹_›, show depth + 1 + outer = depth + outer + 1 by omega]
  · cases stepped
    rw [if_neg ‹_›]

/-- A text with balanced brackets leaves an enclosing bracket open. -/
theorem fieldPathParts_open (closed : fieldPathParts depth chars = some parts) (outer : Nat)
    : fieldPathParts (depth + (outer + 1)) chars = none := by
  induction chars generalizing depth parts with
  | nil => simp [fieldPathParts]
  | cons char rest ih =>
    obtain ⟨next, tail, stepped, read, _⟩ := fieldPathParts_cons closed
    simp [fieldPathParts, nextDepth_add stepped, ih read]

/-- A path below a parent is cut where the parent ends.
Witness: induction over the parent's text; inside a bracket of the parent the rest could not
be balanced on its own.
-/
theorem fieldPathParts_append {parts tail : List (List Char)}
    (cut : fieldPathParts depth (parent ++ '.' :: below) = some parts)
    (cutBelow : fieldPathParts 0 below = some tail)
    : ∃ initial, fieldPathParts depth parent = some initial ∧ parts = initial ++ tail := by
  induction parent generalizing depth parts with
  | nil =>
    obtain ⟨next, read, stepped, readBelow, rfl⟩ := fieldPathParts_cons cut
    obtain rfl : depth = next := by simpa [nextDepth] using stepped
    cases depth with
    | zero =>
      obtain rfl : tail = read := Option.some.inj (cutBelow.symm.trans readBelow)
      exact ⟨[[]], rfl, by simp⟩
    | succ outer =>
      have opened := fieldPathParts_open cutBelow outer
      rw [Nat.zero_add, readBelow] at opened
      simp at opened
  | cons char rest ih =>
    obtain ⟨next, read, stepped, readRest, rfl⟩ := fieldPathParts_cons cut
    obtain ⟨initial, cutRest, rfl⟩ := ih readRest
    refine ⟨_, by rw [fieldPathParts, stepped, Option.bind_some, cutRest, Option.map_some], ?_⟩
    obtain ⟨nonempty, _⟩ := fieldPathParts_join cutRest
    obtain ⟨part, others, rfl⟩ := exists_cons_of_ne_nil nonempty
    split <;> simp [consHead]

/-- The segments of a path below a parent are those of the parent and then its own. -/
theorem segmentsOf_append (parsed : segmentsOf (parent ++ '.' :: below) ≠ [])
    (parsedBelow : segmentsOf below ≠ [])
    : segmentsOf (parent ++ '.' :: below) = segmentsOf parent ++ segmentsOf below := by
  obtain ⟨parts, cut, read⟩ := segmentsOf_inv parsed
  obtain ⟨tail, cutBelow, readBelow⟩ := segmentsOf_inv parsedBelow
  obtain ⟨initial, cutParent, rfl⟩ := fieldPathParts_append cut cutBelow
  rw [mapM_append] at read
  simp only [Option.bind_eq_bind, Option.bind_eq_some_iff, readBelow, Option.pure_def,
    Option.some_inj] at read
  obtain ⟨first, readParent, second, rfl, joined⟩ := read
  have parentSegments : segmentsOf parent = first := by
    simp [segmentsOf, cutParent, readParent]
  rw [parentSegments]
  exact joined.symm

/-- The name that a segment selects has no bracket at all. -/
structure Segment.WellFormed (segment : Segment) : Prop extends segment.Matched where
  unopened : ∀ name ∈ segment.selectedName, ∀ char ∈ name.toList, char ≠ '['

def renderPath (segments : List Segment) : String :=
  String.ofList (joinParts (segments.map Segment.render))

theorem ne_of_isKeyChar (key : isKeyChar char = true) : char ≠ '[' ∧ char ≠ ']' ∧ char ≠ '.' := by
  refine ⟨?_, ?_, ?_⟩ <;>
  · rintro rfl
    exact absurd key (by decide)

theorem nextDepth_plain (unopened : char ≠ '[') (unclosed : char ≠ ']')
    : nextDepth depth char = some depth := by
  simp [nextDepth, unopened, unclosed]

/-- Every part ends at depth zero, and every part but the first one starts there. -/
theorem fieldPathParts_balanced (cut : fieldPathParts depth chars = some parts)
    : ∃ part rest,
        parts = part :: rest
        ∧ part.foldlM nextDepth depth = some 0
        ∧ ∀ later ∈ rest, later.foldlM nextDepth 0 = some 0 := by
  induction chars generalizing depth parts with
  | nil =>
    rw [fieldPathParts] at cut
    split at cut <;> cases cut
    rename_i outside
    exact ⟨[], [], rfl, by rw [outside]; rfl, by simp⟩
  | cons char rest ih =>
    obtain ⟨next, tail, stepped, read, rfl⟩ := fieldPathParts_cons cut
    obtain ⟨part, others, rfl, balanced, later⟩ := ih read
    split
    · rename_i dot
      obtain rfl : depth = next := by simpa [nextDepth, dot.1] using stepped
      refine ⟨[], part :: others, rfl, by rw [dot.2]; rfl, ?_⟩
      simpa [dot.2 ▸ balanced] using later
    · exact ⟨char :: part, others, rfl, by simp [stepped, balanced], later⟩

/-- Without closing brackets every opening bracket adds to the depth. -/
theorem foldlM_nextDepth (unclosed : ∀ char ∈ chars, char ≠ ']')
    : chars.foldlM nextDepth depth = some (depth + chars.count '[') := by
  induction chars generalizing depth with
  | nil => rfl
  | cons char rest ih =>
    have later := fun char mem => unclosed char (mem_cons_of_mem _ mem)
    by_cases opens : char = '['
    · simp [nextDepth, opens, ih later]
      omega
    · simp [nextDepth_plain opens (unclosed char mem_cons_self), ih later,
        count_cons_of_ne opens]

/-- Characters that neither cut nor nest belong to the part that is being read. -/
theorem fieldPathParts_plain
    (unopened : ∀ char ∈ chars, char ≠ '[')
    (unclosed : ∀ char ∈ chars, char ≠ ']')
    (uncut : ∀ char ∈ chars, ¬(char = '.' ∧ depth = 0))
    : fieldPathParts depth (chars ++ rest)
      = (fieldPathParts depth rest).map (chars.foldr consHead ·) := by
  induction chars with
  | nil => simp
  | cons char chars ih =>
    simp only [mem_cons, forall_eq_or_imp] at unopened unclosed uncut
    rw [cons_append, fieldPathParts, nextDepth_plain unopened.1 unclosed.1,
      Option.bind_some, if_neg uncut.1, ih unopened.2 unclosed.2 uncut.2, Option.map_map]
    rfl

theorem foldr_consHead (part : List Char)
    : chars.foldr consHead (part :: parts) = (chars ++ part) :: parts := by
  induction chars with
  | nil => rfl
  | cons char chars ih => rw [foldr_cons, ih]; rfl

section Texts

variable {segment : Segment}

/-- In a balanced part the selected name has no opening bracket. -/
theorem Segment.Matched.wellFormed (matched : segment.Matched)
    (balanced : segment.render.foldlM nextDepth 0 = some 0)
    : segment.WellFormed where
  toMatched := matched
  unopened := by
    intro name selected char mem opens
    have key := fun char mem => ne_of_isKeyChar (matched.key char mem)
    rw [Segment.render, selected, foldlM_append,
      foldlM_nextDepth fun char mem => (key char mem).2.1,
      count_eq_zero.mpr fun opens => (key _ opens).1 rfl] at balanced
    have none : name.toList.count '[' = 0 := by
      simpa [foldlM_nextDepth (matched.unclosed name selected), nextDepth, Nat.add_comm 1]
        using balanced
    exact count_eq_zero.mp none (opens ▸ mem)

/-- The text of a segment is read as one part. -/
theorem Segment.WellFormed.fieldPathParts_render (wellFormed : segment.WellFormed)
    (rest : List Char)
    : fieldPathParts 0 (segment.render ++ rest)
      = (fieldPathParts 0 rest).map (segment.render.foldr consHead ·) := by
  have key := fun char mem => ne_of_isKeyChar (wellFormed.key char mem)
  rw [Segment.render, append_assoc,
    fieldPathParts_plain (fun char mem => (key char mem).1)
      (fun char mem => (key char mem).2.1)
      (fun char mem dot => (key char mem).2.2 dot.1)]
  cases selected : segment.selectedName with
  | none => simp
  | some name =>
    have inside : fieldPathParts 1 (name.toList ++ ']' :: rest) = _ :=
      fieldPathParts_plain (wellFormed.unopened name selected)
        (wellFormed.unclosed name selected) (by simp)
    simp [fieldPathParts, nextDepth, inside, comp_def]

end Texts

/-- A path of well-formed segments is cut into their texts. -/
theorem fieldPathParts_join_render (nonempty : segments ≠ [])
    (wellFormed : ∀ segment ∈ segments, segment.WellFormed)
    : fieldPathParts 0 (joinParts (segments.map Segment.render))
      = some (segments.map Segment.render) := by
  induction segments with
  | nil => exact absurd rfl nonempty
  | cons segment rest ih =>
    have read := (wellFormed segment mem_cons_self).fieldPathParts_render
    cases rest with
    | nil => simpa [joinParts, fieldPathParts, foldr_consHead] using read []
    | cons next rest =>
      have cut := ih (by simp) fun later mem => wellFormed later (mem_cons_of_mem _ mem)
      rw [map_cons, map_cons, joinParts, read, fieldPathParts]
      rw [map_cons] at cut
      simp [nextDepth, cut, foldr_consHead]

/-- A text is read as some segments exactly if it is the path of these, and they are well formed.
-/
theorem fieldPathSegments_eq_iff {value : String} (nonempty : segments ≠ [])
    : fieldPathSegments value = segments
      ↔ (∀ segment ∈ segments, segment.WellFormed) ∧ renderPath segments = value := by
  constructor
  · rintro rfl
    obtain ⟨parts, cut, read⟩ := segmentsOf_inv nonempty
    obtain ⟨part, rest, rfl, first, later⟩ := fieldPathParts_balanced cut
    refine ⟨fun segment mem => ?_, ?_⟩
    · obtain ⟨read, inside, parsed⟩ := forall₂_mem_right (mapM_some.mp read) mem
      obtain ⟨rfl, matched⟩ := parseSegment_iff.mp parsed
      refine matched.wellFormed ?_
      rcases mem_cons.mp inside with same | other
      · exact same ▸ first
      · exact later _ other
    · rw [renderPath, fieldPathSegments, segmentsOf_render nonempty, String.ofList_toList]
  · rintro ⟨wellFormed, rfl⟩
    have read : (segments.map Segment.render).mapM parseSegment = some segments :=
      mapM_some.mpr (forall₂_map_left_iff.mpr (forall₂_same.mpr
        fun segment mem => parseSegment_iff.mpr ⟨rfl, (wellFormed segment mem).toMatched⟩))
    rw [fieldPathSegments, renderPath, String.toList_ofList, segmentsOf,
      fieldPathParts_join_render nonempty wellFormed, Option.bind_some, read, Option.getD_some]

/-- `field_path_segments` accepts exactly the paths of its grammar, and reads each of them as
the only segments that it is the text of.
-/
theorem fieldPathSegments_grammar (value : String)
    : (fieldPathSegments value ≠ []
        ↔ ∃ segments : List Segment, segments ≠ [] ∧ (∀ segment ∈ segments, segment.WellFormed)
            ∧ renderPath segments = value)
      ∧ ∀ segments : List Segment, segments ≠ []
        → (∀ segment ∈ segments, segment.WellFormed) → renderPath segments = value
        → fieldPathSegments value = segments := by
  refine ⟨⟨fun parsed => ⟨_, parsed, (fieldPathSegments_eq_iff parsed).mp rfl⟩, ?_⟩, ?_⟩
  · rintro ⟨segments, nonempty, accepted⟩
    exact (fieldPathSegments_eq_iff nonempty).mpr accepted ▸ nonempty
  · intro segments nonempty wellFormed rendered
    exact (fieldPathSegments_eq_iff nonempty).mpr ⟨wellFormed, rendered⟩

example : fieldPathSegments "spec.containers[name=a.b].image"
    = [⟨"spec", none⟩, ⟨"containers", some "a.b"⟩, ⟨"image", none⟩] := by decide

end K8sClue.SourcePatch
