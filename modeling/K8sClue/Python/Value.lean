import K8sClue.Python.Text
import Mathlib.Data.Rat.Defs

/-! Values as `json.loads` and `yaml.safe_load` build them, with Python's equality on them.
Python's `==` identifies `True`, `1` and `1.0`; the type-strict equality does not.
-/

namespace K8sClue.Python

open List

/-- A Python `float`: a number, or one of the values that are not numbers. -/
inductive PyFloat where
  | finite (value : ℚ)
  | negativeZero
  | infinity
  | negativeInfinity
  | notANumber
  deriving DecidableEq

/-- A Python scalar; `other` stands for the loader's further types, such as dates. -/
inductive PyScalar where
  | none
  | bool (value : Bool)
  | int (value : Int)
  | float (value : PyFloat)
  | str (value : String)
  | other (type value : String)
  deriving DecidableEq

/-- A loaded document. The entries of a `dict` are in insertion order. -/
inductive PyValue where
  | scalar (value : PyScalar)
  | list (items : List PyValue)
  | dict (entries : List (PyScalar × PyValue))

def PyScalar.number : PyScalar → Option ℚ
  | .bool value => some (if value then 1 else 0)
  | .int value => some value
  | .float (.finite value) => some value
  | .float .negativeZero => some 0
  | _ => Option.none

/-- Python's `==` on scalars: numbers by value, and no number equals itself as `nan`. -/
def PyScalar.eq (left right : PyScalar) : Bool :=
  match left.number, right.number with
  | some first, some second => first == second
  | Option.none, Option.none => left == right && left != .float .notANumber
  | _, _ => false

def PyScalar.sameType : PyScalar → PyScalar → Bool
  | .none, .none => true
  | .bool _, .bool _ => true
  | .int _, .int _ => true
  | .float _, .float _ => true
  | .str _, .str _ => true
  | .other left _, .other right _ => left == right
  | _, _ => false

variable (left right : PyScalar)

/-- `same_scalar` on two scalars. -/
def PyScalar.same : Bool := left.sameType right && left.eq right

theorem PyScalar.sameType_swap : left.sameType right = right.sameType left := by
  cases left <;> cases right <;> simp [PyScalar.sameType, Bool.beq_comm]

theorem PyScalar.eq_swap : left.eq right = right.eq left := by
  unfold PyScalar.eq
  cases first : left.number <;> cases second : right.number
  · by_cases same : left = right
    · rw [same]
    · have notEqual : (left == right) = false := by simpa using same
      have notEqual' : (right == left) = false := by simpa using Ne.symm same
      simp only [notEqual, notEqual', Bool.false_and]
  · rfl
  · rfl
  · exact Bool.beq_comm

theorem PyScalar.same_swap : left.same right = right.same left := by
  rw [PyScalar.same, PyScalar.same, PyScalar.sameType_swap, PyScalar.eq_swap]

theorem PyScalar.same_str {text : String} {scalar : PyScalar}
    : (PyScalar.str text).same scalar = true ↔ scalar = .str text := by
  cases scalar with
  | str value =>
    simpa [PyScalar.same, PyScalar.sameType, PyScalar.eq, PyScalar.number] using eq_comm
  | _ => simp [PyScalar.same, PyScalar.sameType]

variable {first second third : PyScalar}

theorem PyScalar.eq_trans (left : first.eq second = true) (right : second.eq third = true)
    : first.eq third = true := by
  unfold PyScalar.eq at *
  cases one : first.number <;> cases two : second.number <;> cases three : third.number <;>
    simp_all

theorem PyScalar.sameType_trans (left : first.sameType second = true)
    (right : second.sameType third = true)
    : first.sameType third = true := by
  cases first <;> cases second <;> cases third <;> simp_all [PyScalar.sameType]

theorem PyScalar.same_trans (left : first.same second = true) (right : second.same third = true)
    : first.same third = true := by
  simp only [PyScalar.same, Bool.and_eq_true] at left right ⊢
  exact ⟨PyScalar.sameType_trans left.1 right.1, PyScalar.eq_trans left.2 right.2⟩

variable (entries : List (PyScalar × PyValue)) (key : PyScalar)

/-- `entries[key]`, with Python's equality on keys. -/
def lookup : Option PyValue :=
  (entries.find? (fun entry => entry.1.eq key)).map Prod.snd

/-- `entries[key] = value`. -/
def setItem (value : PyValue) : List (PyScalar × PyValue) :=
  if entries.any (·.1.eq key) then
    entries.map (fun entry => if entry.1.eq key then (entry.1, value) else entry)
  else
    entries ++ [(key, value)]

theorem lookup_append (first second : List (PyScalar × PyValue)) (key : PyScalar)
    : lookup (first ++ second) key = (lookup first key).or (lookup second key) := by
  unfold lookup
  rw [find?_append, Option.map_or]

theorem lookup_cons_str (name key : String) (value : PyValue) (rest : List (PyScalar × PyValue))
    : lookup ((.str name, value) :: rest) (.str key)
      = if name = key then some value else lookup rest (.str key) := by
  have same : (PyScalar.str name).eq (.str key) = decide (name = key) := by
    by_cases equal : name = key <;> simp [PyScalar.eq, PyScalar.number, equal]
  unfold lookup
  rw [find?_cons, same]
  by_cases equal : name = key <;> simp [equal]

@[simp] theorem lookup_nil : lookup [] key = none := rfl

/-- Writing under one text leaves what is found under another. -/
theorem lookup_setItem_other {name key : String} (value : PyValue) (different : name ≠ key)
    : lookup (setItem entries (.str name) value) (.str key) = lookup entries (.str key) := by
  have apart : ∀ entry : PyScalar × PyValue, entry.1.eq (.str key) = true
      → entry.1.eq (.str name) = false := by
    intro entry same
    rw [Bool.eq_false_iff]
    intro other
    have both := PyScalar.eq_trans ((PyScalar.eq_swap _ _).trans other) same
    simp [PyScalar.eq, PyScalar.number, different] at both
  unfold setItem
  split
  · have keys : ((fun entry : PyScalar × PyValue => entry.1.eq (.str key))
        ∘ fun entry : PyScalar × PyValue =>
          if entry.1.eq (.str name) then (entry.1, value) else entry)
        = fun entry => entry.1.eq (.str key) := by
      funext entry
      simp only [Function.comp]
      split <;> rfl
    rw [lookup, find?_map, Option.map_map, keys]
    refine Option.map_congr ?_
    intro entry held
    have kept := find?_some held
    simp [apart entry kept]
  · rw [lookup_append, lookup_cons_str, if_neg different, lookup_nil, Option.or_none]

namespace PyValue

mutual

/-- Equality of values for a given comparison of scalars. Dictionaries are compared without
regard to order: equally many entries, and each one found on the other side.
-/
def eqBy (compare : PyScalar → PyScalar → Bool) : PyValue → PyValue → Bool
  | .scalar left, .scalar right => compare left right
  | .list left, .list right => eqByItems compare left right
  | .dict left, .dict right =>
    left.length == right.length && eqByEntries compare left right
  | _, _ => false
termination_by structural left => left

def eqByItems (compare : PyScalar → PyScalar → Bool) : List PyValue → List PyValue → Bool
  | [], [] => true
  | left :: lefts, right :: rights =>
    eqBy compare left right && eqByItems compare lefts rights
  | _, _ => false
termination_by structural left => left

def eqByEntries (compare : PyScalar → PyScalar → Bool)
    : List (PyScalar × PyValue) → List (PyScalar × PyValue) → Bool
  | [], _ => true
  | entry :: rest, others =>
    eqByEntry compare entry others && eqByEntries compare rest others
termination_by structural entries => entries

def eqByEntry (compare : PyScalar → PyScalar → Bool)
    : PyScalar × PyValue → List (PyScalar × PyValue) → Bool
  | (key, value), others =>
    match lookup others key with
    | some other => eqBy compare value other
    | none => false
termination_by structural entry => entry

end

def eq : PyValue → PyValue → Bool := eqBy PyScalar.eq

/-- Equality that also compares the type of each scalar. -/
def same : PyValue → PyValue → Bool := eqBy PyScalar.same

/-- The values have the same shape, and scalars of the same type in the same places. -/
def sameTypes : PyValue → PyValue → Bool := eqBy PyScalar.sameType

/-- `same_scalar`: a scalar of the same type that is equal to the expected one. -/
def sameScalar : PyValue → PyScalar → Bool
  | .scalar left, right => left.same right
  | _, _ => false

variable (first second : PyScalar → PyScalar → Bool)

mutual

/-- Two comparisons of scalars may be made in one pass or in two. -/
theorem eqBy_and
    : ∀ left right : PyValue,
        eqBy (fun a b => first a b && second a b) left right
        = (eqBy first left right && eqBy second left right)
  | .scalar left, right => by cases right <;> simp [eqBy]
  | .list left, right => by
    cases right with
    | list right => simpa [eqBy] using eqByItems_and left right
    | _ => simp [eqBy]
  | .dict left, right => by
    cases right with
    | dict right =>
      simp only [eqBy, eqByEntries_and left right]
      cases left.length == right.length <;> simp
    | _ => simp [eqBy]

theorem eqByItems_and
    : ∀ left right : List PyValue,
        eqByItems (fun a b => first a b && second a b) left right
        = (eqByItems first left right && eqByItems second left right)
  | [], right => by cases right <;> simp [eqByItems]
  | left :: lefts, [] => by simp [eqByItems]
  | left :: lefts, right :: rights => by
    simp only [eqByItems, eqBy_and left right, eqByItems_and lefts rights]
    ac_rfl

theorem eqByEntries_and
    : ∀ left right : List (PyScalar × PyValue),
        eqByEntries (fun a b => first a b && second a b) left right
        = (eqByEntries first left right && eqByEntries second left right)
  | [], right => by simp [eqByEntries]
  | entry :: rest, others => by
    simp only [eqByEntries, eqByEntry_and entry others, eqByEntries_and rest others]
    ac_rfl

theorem eqByEntry_and
    : ∀ (entry : PyScalar × PyValue) (others : List (PyScalar × PyValue)),
        eqByEntry (fun a b => first a b && second a b) entry others
        = (eqByEntry first entry others && eqByEntry second entry others)
  | (key, value), others => by
    simp only [eqByEntry]
    cases lookup others key with
    | none => rfl
    | some other => exact eqBy_and value other

end

/-- Type-strict equality is Python's equality between values of the same types. -/
theorem same_eq (left right : PyValue)
    : left.same right = (left.sameTypes right && left.eq right) :=
  eqBy_and PyScalar.sameType PyScalar.eq left right

/-- `bool(value)`. -/
def truthy : PyValue → Bool
  | .scalar .none => false
  | .scalar (.bool value) => value
  | .scalar (.int value) => value ≠ 0
  | .scalar (.float (.finite value)) => value ≠ 0
  | .scalar (.float .negativeZero) => false
  | .scalar (.float _) => true
  | .scalar (.str value) => value ≠ ""
  | .scalar (.other _ _) => true
  | .list items => !items.isEmpty
  | .dict entries => !entries.isEmpty

def mapping : PyValue → List (PyScalar × PyValue)
  | .dict entries => entries
  | _ => []

variable (value : PyValue)

/-- `value.get(key)`; what is not a dictionary has no keys. -/
def get (key : String) : PyValue :=
  (lookup value.mapping (.str key)).getD (.scalar .none)

/-- `value is expected` for one of the two booleans. -/
def isBool (expected : Bool) : Bool :=
  match value with
  | .scalar (.bool actual) => actual == expected
  | _ => false

def isText (text : String) : Bool :=
  match value with
  | .scalar (.str actual) => actual == text
  | _ => false

end PyValue

/-- The parts of the runtime the source depends on and the model leaves open: `str` of a
value that is not a text, `str.casefold`, the value of a decimal digit of any script, and the
order in which a set is walked.
-/
structure Runtime where
  str : PyValue → String
  casefold : String → String
  decimalDigit : Char → Option Nat
  setOrder : List String → List String
  setOrder_perm : ∀ texts, (setOrder texts).Perm texts

variable (py : Runtime)

def Runtime.text : PyValue → String
  | .scalar (.str value) => strip value
  | value => if value.truthy then strip (py.str value) else ""

/-- `normalized_text`: `str(value).strip()`, and the empty text for `None`. -/
def Runtime.normalizedText : PyValue → String
  | .scalar .none => ""
  | .scalar (.str value) => strip value
  | value => strip (py.str value)

/-- The digits of a number whose digits may be grouped by single underscores. -/
def ungroupedDigits : List Char → Option (List Char)
  | [] => none
  | ['_'] => none
  | [digit] => some [digit]
  | '_' :: _ :: _ => none
  | digit :: '_' :: rest => (ungroupedDigits rest).map (digit :: ·)
  | digit :: rest => (ungroupedDigits rest).map (digit :: ·)

/-- `int` refuses texts with more digits than this. -/
def maxIntDigits : Nat := 4300

/-- `int(value)` of a text, or its `ValueError`. -/
def Runtime.parseInt (value : String) : Option Int :=
  let (negative, grouped) :=
    match stripChars value.toList with
    | '-' :: rest => (true, rest)
    | '+' :: rest => (false, rest)
    | chars => (false, chars)
  match (ungroupedDigits grouped).bind (·.mapM py.decimalDigit) with
  | none => none
  | some digits =>
    if digits.length > maxIntDigits then
      none
    else
      let magnitude : Nat := digits.foldl (fun number digit => 10 * number + digit) 0
      some (if negative then -magnitude else magnitude)

def Runtime.positiveInt : PyValue → Option Int
  | .scalar (.int value) => if 1 ≤ value then some value else none
  | .scalar (.str value) => (py.parseInt value).filter (1 ≤ ·)
  | _ => none

def exactNonnegativeInt : PyValue → Option Int
  | .scalar (.int value) => if 0 ≤ value then some value else none
  | _ => none

/-- A runtime that knows the ASCII letters and digits and walks sets as they were built. -/
def insertionRuntime : Runtime where
  str := fun _ => ""
  casefold := fun value => String.ofList (value.toList.map Char.toLower)
  decimalDigit := fun char => if char.isDigit then some (char.toNat - 48) else none
  setOrder := id
  setOrder_perm := fun _ => Perm.refl _

end K8sClue.Python
