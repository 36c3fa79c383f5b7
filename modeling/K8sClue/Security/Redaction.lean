import K8sClue.Library.Keyed
import K8sClue.Python.Value

/-! Redaction of JSON-like values before they cross a trust boundary.
A value under a sensitive key is replaced whole; everything else is walked down to a depth, and
mappings and sequences are cut behind their first items.
-/

namespace K8sClue.Security

open Python Library List Function

/-- A value of nested mappings, lists and tuples; the keys of a mapping are in their order. -/
inductive JsonLike where
  | scalar (value : PyScalar)
  | sequence (isTuple : Bool) (items : List JsonLike)
  | mapping (entries : List (PyScalar × JsonLike))

abbrev JsonLike.text (value : String) : JsonLike := .scalar (.str value)

def sensitiveKeys : List String := [
  "password", "passwd", "pwd", "token", "access_token", "access-token", "refresh_token",
  "refresh-token", "id_token", "id-token", "secret", "api_key", "api-key", "apikey",
  "client_secret", "client-secret", "credential", "credentials", "private_key", "private-key",
  "ssh_key", "ssh-key"
]

def sensitiveHeaderKeys : List String := ["authorization", "cookie", "set-cookie"]

/-- What redaction takes from its surroundings: Python's runtime, and `redact_log_line`, which
hides secrets inside one text.
-/
structure Redactor where
  python : Runtime
  redactLogLine : String → String

namespace Redactor

variable (redactor : Redactor)

def keyText : PyScalar → String
  | .str key => key
  | key => redactor.python.str (.scalar key)

def normalizedSensitiveKey (value : String) : String :=
  String.ofList ((redactor.python.casefold value).toList.map fun char =>
    if char ∈ ['-', '.', ' '] then '_' else char)

def compact (value : String) : String := String.ofList (value.toList.filter (· ≠ '_'))

def isSensitiveValueKey (key : String) : Bool :=
  let normalized := redactor.normalizedSensitiveKey key
  ((sensitiveKeys ++ sensitiveHeaderKeys).map redactor.normalizedSensitiveKey).any fun part =>
    contains normalized part || contains (compact normalized) (compact part)

def maxLogLineLength : Nat := 4096

def truncatedLogLineSuffix : String := " [TRUNCATED]"

/-- The line of `truncate_log_line`. -/
def truncateLogLine (line : String) : String :=
  if line.length ≤ maxLogLineLength then
    line
  else
    String.ofList (line.toList.take (maxLogLineLength - truncatedLogLineSuffix.length))
      ++ truncatedLogLineSuffix

/-- `items[:limit]`, where a negative limit counts from the end. -/
def firstItems {α : Type} (limit : Int) (items : List α) : List α :=
  items.take (if limit < 0 then items.length + limit else limit).toNat

/-- The first items, and behind them the marker that there were more. -/
def withMarker {α : Type} (more : Bool) (marker : α) (first : List α) : List α :=
  if more then first ++ [marker] else first

structure Limits where
  maxDepth : Int := 12
  maxMappingItems : Int := 100
  maxSequenceItems : Int := 100

/-- One entry of a mapping, where a value that is not hidden is walked. -/
def redactEntry (walk : JsonLike → JsonLike) (entry : PyScalar × JsonLike) : PyScalar × JsonLike :=
  let key := redactor.keyText entry.1
  (.str key, if redactor.isSensitiveValueKey key then .text "[REDACTED]" else walk entry.2)

/-- `_redact_sensitive_value` with the given number of levels left. -/
def redactWithin (limits : Limits) : Nat → JsonLike → JsonLike
  | 0, _ => .text "[TRUNCATED]"
  | left + 1, .mapping entries =>
    let first := (entries.take limits.maxMappingItems.toNat).map
      (redactor.redactEntry (redactWithin limits left))
    -- A dict keeps the place of a key that is written again, and the marker is written last.
    .mapping (Keyed.latest Prod.fst (withMarker (limits.maxMappingItems.toNat < entries.length)
      (.str "_truncated", .scalar (.bool true)) first))
  | left + 1, .sequence isTuple items =>
    let first := (firstItems limits.maxSequenceItems items).map (redactWithin limits left)
    .sequence isTuple
      (withMarker (limits.maxSequenceItems < items.length) (.text "[TRUNCATED]") first)
  | _ + 1, .scalar (.str value) => .text (truncateLogLine (redactor.redactLogLine value))
  | _ + 1, .scalar (.other type value) =>
    .text (truncateLogLine (redactor.redactLogLine (redactor.keyText (.other type value))))
  | _ + 1, .scalar value => .scalar value

def redactSensitiveValue (limits : Limits) (value : JsonLike) : JsonLike :=
  redactor.redactWithin limits limits.maxDepth.toNat value

/-- Two values of one structure that differ at most inside values under sensitive keys. -/
inductive Agree : JsonLike → JsonLike → Prop where
  | scalar (value : PyScalar) : Agree (.scalar value) (.scalar value)
  | sequence (isTuple : Bool) (pairs : List (JsonLike × JsonLike))
    (same : ∀ pair ∈ pairs, Agree pair.1 pair.2)
    : Agree (.sequence isTuple (pairs.map (·.1))) (.sequence isTuple (pairs.map (·.2)))
  | mapping (pairs : List (PyScalar × JsonLike × JsonLike))
    (same : ∀ pair ∈ pairs, redactor.isSensitiveValueKey (redactor.keyText pair.1) = false →
      Agree pair.2.1 pair.2.2)
    : Agree (.mapping (pairs.map fun pair => (pair.1, pair.2.1)))
        (.mapping (pairs.map fun pair => (pair.1, pair.2.2)))

/-- A value that nests at most so deep, with mappings, and sequences where their limit is not
negative, within the limits and one marker.
-/
inductive Within (limits : Limits) : Nat → JsonLike → Prop where
  | scalar (depth : Nat) (value : PyScalar) : Within limits depth (.scalar value)
  | sequence {depth : Nat} {isTuple : Bool} {items : List JsonLike}
    (few : 0 ≤ limits.maxSequenceItems → items.length ≤ limits.maxSequenceItems.toNat + 1)
    (inside : ∀ item ∈ items, Within limits depth item)
    : Within limits (depth + 1) (.sequence isTuple items)
  | mapping {depth : Nat} {entries : List (PyScalar × JsonLike)}
    (few : entries.length ≤ limits.maxMappingItems.toNat + 1)
    (inside : ∀ entry ∈ entries, Within limits depth entry.2)
    : Within limits (depth + 1) (.mapping entries)

variable {redactor} {limits : Limits} {value other : JsonLike}

/-- Values that agree are redacted alike at every depth. -/
theorem redactWithin_eq (agree : redactor.Agree value other) (left : Nat)
    : redactor.redactWithin limits left value = redactor.redactWithin limits left other := by
  induction left generalizing value other with
  | zero => simp only [redactWithin]
  | succ left ih =>
    cases agree with
    | scalar value => rfl
    | sequence isTuple pairs same =>
      have walked : (firstItems limits.maxSequenceItems (pairs.map (·.1))).map
            (redactor.redactWithin limits left)
          = (firstItems limits.maxSequenceItems (pairs.map (·.2))).map
            (redactor.redactWithin limits left) := by
        simp only [firstItems, length_map, ← map_take, map_map]
        exact map_congr_left fun pair mem => ih (same pair (mem_of_mem_take mem))
      simp only [redactWithin, walked, length_map]
    | mapping pairs same =>
      simp only [redactWithin, length_map, ← map_take, map_map]
      rw [map_congr_left]
      intro pair mem
      simp only [comp_apply, redactEntry]
      split
      · rfl
      next plain => rw [ih (same pair (mem_of_mem_take mem) (by simpa using plain))]

theorem length_withMarker {α : Type} {first : List α} {limit : Nat} (few : first.length ≤ limit)
    (more : Bool) (marker : α)
    : (withMarker more marker first).length ≤ limit + 1 := by
  unfold withMarker
  split
  · rw [length_append, length_singleton]
    omega
  · omega

theorem mem_withMarker {α : Type} {first : List α} {more : Bool} {marker item : α}
    (mem : item ∈ withMarker more marker first)
    : item ∈ first ∨ item = marker := by
  unfold withMarker at mem
  split at mem
  · simpa using mem
  · exact .inl mem

theorem redactWithin_within (left : Nat) (value : JsonLike)
    : Within limits left (redactor.redactWithin limits left value) := by
  induction left generalizing value with
  | zero => exact .scalar 0 _
  | succ left ih =>
    cases value with
    | scalar value => cases value <;> exact .scalar _ _
    | sequence isTuple items =>
      refine .sequence (fun counts => ?_) ?_
      · have few : (firstItems limits.maxSequenceItems items).length
            ≤ limits.maxSequenceItems.toNat := by
          rw [firstItems, if_neg (by omega)]
          exact length_take_le _ _
        rw [← length_map (redactor.redactWithin limits left)] at few
        exact length_withMarker few _ _
      intro item mem
      rcases mem_withMarker mem with walked | rfl
      · obtain ⟨inner, -, rfl⟩ := mem_map.mp walked
        exact ih inner
      · exact .scalar _ _
    | mapping entries =>
      have few := length_take_le limits.maxMappingItems.toNat entries
      rw [← length_map (redactor.redactEntry (redactor.redactWithin limits left))] at few
      refine .mapping ?_ ?_
      · have fewer : ∀ rows : List (PyScalar × JsonLike),
            (Keyed.latest Prod.fst rows).length ≤ rows.length := by
          intro rows
          have kept : (_ : List PyScalar).Sublist (rows.map Prod.fst) := Keyed.keys_latest_sublist
          simpa using kept.length_le
        exact (fewer _).trans (length_withMarker few _ _)
      · intro entry mem
        rcases mem_withMarker (Keyed.mem_of_mem_latest mem) with walked | rfl
        · obtain ⟨inner, -, rfl⟩ := mem_map.mp walked
          simp only [redactEntry]
          split
          · exact .scalar _ _
          · exact ih inner.2
        · exact .scalar _ _

/-- Values that agree outside sensitive keys are redacted alike, and what is left stays within the
limits; only a negative limit of sequences, which cuts them from the end, does not bound them.
-/
theorem sensitive_values_never_leak (redactor : Redactor) (limits : Limits)
    : (∀ value other : JsonLike, redactor.Agree value other →
        redactor.redactSensitiveValue limits value = redactor.redactSensitiveValue limits other)
      ∧ ∀ value, Within limits limits.maxDepth.toNat
          (redactor.redactSensitiveValue limits value) :=
  ⟨fun _ _ agree => redactWithin_eq agree _,
    fun value => redactWithin_within limits.maxDepth.toNat value⟩

/-- A redactor of a runtime of ASCII texts. -/
def asciiRedactor : Redactor where
  python := insertionRuntime
  redactLogLine := id

/-- Cut at a negative limit, three items stay three items. -/
theorem negative_limit_unbounded
    : (asciiRedactor.redactSensitiveValue { maxSequenceItems := -1 }
        (.sequence false [.scalar .none, .scalar .none, .scalar .none])
      = .sequence false [.scalar .none, .scalar .none, .text "[TRUNCATED]"])
      ∧ ¬ ((3 : Int) ≤ -1 + 1) :=
  ⟨rfl, by decide⟩

end Redactor

end K8sClue.Security
