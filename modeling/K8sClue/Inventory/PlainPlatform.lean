import K8sClue.Inventory.Resources
import K8sClue.Library.Codes
import Mathlib

/-! Platforms that can be run.
Texts and values are written in digits, one way for each, and those of a table by their places; a
digest of digits is the digits themselves. The columns behave as those of the database do: a number
in exponent notation is read back as the integer that its digits spell.
-/

namespace K8sClue.Inventory

open Python Library List Function

namespace Plain

def nat : Code Nat :=
  Code.digit.list.through
    (fun number => (lowestDigits number number).attachWith _ (lowestDigits_isDigit _ _)) (by
      intro first second same
      have chars := congrArg (List.map Subtype.val) same
      simp only [attachWith_map_subtype_val] at chars
      rw [← ofLowestDigits_lowestDigits first first le_rfl, chars,
        ofLowestDigits_lowestDigits second second le_rfl])

def int : Code Int :=
  (Code.bool.pair nat).through (fun number => (decide (number < 0), number.natAbs)) (by
    intro first second same
    obtain ⟨sign, size⟩ := Prod.mk.inj same
    have signs := decide_eq_decide.mp sign
    omega)

def text : Code String :=
  (nat.through Char.toNat (fun _ _ same => Char.toNat_inj.mp same)).list.through String.toList
    (fun _ _ same => String.toList_inj.mp same)

def scalarParts : PyScalar → Nat × List Int × List String
  | .none => (0, [], [])
  | .bool value => (1, [if value then 1 else 0], [])
  | .int value => (2, [value], [])
  | .float (.finite value) => (3, [value.num, value.den], [])
  | .float .negativeZero => (4, [], [])
  | .float .infinity => (5, [], [])
  | .float .negativeInfinity => (6, [], [])
  | .float .notANumber => (7, [], [])
  | .str value => (8, [], [value])
  | .other type value => (9, [], [type, value])

theorem scalarParts_injective : Injective scalarParts := by
  intro first second same
  cases first with
  | bool left =>
    cases second with
    | bool right => cases left <;> cases right <;> simp_all [scalarParts]
    | float right => cases right <;> simp [scalarParts] at same
    | _ => simp [scalarParts] at same
  | float left =>
    cases second with
    | float right =>
      cases left <;> cases right <;> simp [scalarParts] at same ⊢
      exact Rat.ext same.1 (by omega)
    | _ => cases left <;> simp [scalarParts] at same
  | _ =>
    cases second with
    | float right => cases right <;> simp [scalarParts] at same
    | _ => simp_all [scalarParts]

def scalar : Code PyScalar :=
  (nat.pair (int.list.pair text.list)).through scalarParts scalarParts_injective

mutual

def writeValue : PyValue → List Char
  | .scalar value => '0' :: scalar.write value
  | .list items => '1' :: writeValues items
  | .dict entries => '2' :: writeEntries entries
termination_by structural value => value

def writeValues : List PyValue → List Char
  | [] => ['0']
  | value :: rest => '1' :: (writeValue value ++ writeValues rest)
termination_by structural values => values

def writeEntries : List (PyScalar × PyValue) → List Char
  | [] => ['0']
  | entry :: rest => '1' :: (writeEntry entry ++ writeEntries rest)
termination_by structural entries => entries

def writeEntry : PyScalar × PyValue → List Char
  | (key, value) => scalar.write key ++ writeValue value
termination_by structural entry => entry

end

mutual

theorem writeValue_digits
    : ∀ value : PyValue, ∀ char ∈ writeValue value, char.isDigit = true
  | .scalar value => by
    simpa [writeValue] using scalar.digits value
  | .list items => by
    simpa [writeValue] using writeValues_digits items
  | .dict entries => by
    simpa [writeValue] using writeEntries_digits entries

theorem writeValues_digits
    : ∀ values : List PyValue, ∀ char ∈ writeValues values, char.isDigit = true
  | [] => by simp [writeValues]
  | value :: rest => by
    have head := writeValue_digits value
    have tail := writeValues_digits rest
    simpa [writeValues, or_imp, forall_and] using And.intro head tail

theorem writeEntries_digits
    : ∀ entries : List (PyScalar × PyValue), ∀ char ∈ writeEntries entries, char.isDigit = true
  | [] => by simp [writeEntries]
  | entry :: rest => by
    have head := writeEntry_digits entry
    have tail := writeEntries_digits rest
    simpa [writeEntries, or_imp, forall_and] using And.intro head tail

theorem writeEntry_digits
    : ∀ entry : PyScalar × PyValue, ∀ char ∈ writeEntry entry, char.isDigit = true
  | (key, value) => by
    have named := scalar.digits key
    have held := writeValue_digits value
    simpa [writeEntry, or_imp, forall_and] using And.intro named held

end

mutual

theorem writeValue_unique
    : ∀ (first second : PyValue) {after behind : List Char},
        writeValue first ++ after = writeValue second ++ behind
        → first = second ∧ after = behind
  | .scalar left, second, after, behind => by
    intro same
    cases second with
    | scalar right =>
      simp only [writeValue, cons_append, List.cons.injEq, true_and] at same
      obtain ⟨rfl, rest⟩ := scalar.unique same
      exact ⟨rfl, rest⟩
    | _ => simp [writeValue] at same
  | .list left, second, after, behind => by
    intro same
    cases second with
    | list right =>
      simp only [writeValue, cons_append, List.cons.injEq, true_and] at same
      obtain ⟨rfl, rest⟩ := writeValues_unique left right same
      exact ⟨rfl, rest⟩
    | _ => simp [writeValue] at same
  | .dict left, second, after, behind => by
    intro same
    cases second with
    | dict right =>
      simp only [writeValue, cons_append, List.cons.injEq, true_and] at same
      obtain ⟨rfl, rest⟩ := writeEntries_unique left right same
      exact ⟨rfl, rest⟩
    | _ => simp [writeValue] at same

theorem writeValues_unique
    : ∀ (first second : List PyValue) {after behind : List Char},
        writeValues first ++ after = writeValues second ++ behind
        → first = second ∧ after = behind
  | [], second, after, behind => by
    intro same
    cases second with
    | nil => exact ⟨rfl, by simpa [writeValues] using same⟩
    | cons value rest => simp [writeValues] at same
  | value :: rest, second, after, behind => by
    intro same
    cases second with
    | nil => simp [writeValues] at same
    | cons other others =>
      simp only [writeValues, cons_append, append_assoc, List.cons.injEq,
        true_and] at same
      obtain ⟨rfl, tail⟩ := writeValue_unique value other same
      obtain ⟨rfl, ending⟩ := writeValues_unique rest others tail
      exact ⟨rfl, ending⟩

theorem writeEntries_unique
    : ∀ (first second : List (PyScalar × PyValue)) {after behind : List Char},
        writeEntries first ++ after = writeEntries second ++ behind
        → first = second ∧ after = behind
  | [], second, after, behind => by
    intro same
    cases second with
    | nil => exact ⟨rfl, by simpa [writeEntries] using same⟩
    | cons entry rest => simp [writeEntries] at same
  | entry :: rest, second, after, behind => by
    intro same
    cases second with
    | nil => simp [writeEntries] at same
    | cons other others =>
      simp only [writeEntries, cons_append, append_assoc, List.cons.injEq,
        true_and] at same
      obtain ⟨rfl, tail⟩ := writeEntry_unique entry other same
      obtain ⟨rfl, ending⟩ := writeEntries_unique rest others tail
      exact ⟨rfl, ending⟩

theorem writeEntry_unique
    : ∀ (first second : PyScalar × PyValue) {after behind : List Char},
        writeEntry first ++ after = writeEntry second ++ behind
        → first = second ∧ after = behind
  | (key, value), (name, other), after, behind => by
    intro same
    simp only [writeEntry, append_assoc] at same
    obtain ⟨rfl, tail⟩ := scalar.unique same
    obtain ⟨rfl, ending⟩ := writeValue_unique value other tail
    exact ⟨rfl, ending⟩

end

def value : Code PyValue where
  write := writeValue
  digits := writeValue_digits
  unique := writeValue_unique _ _

def identity : Code InventoryIdentity :=
  text.list.through
    (fun identity => [identity.workspaceId, identity.clusterId, identity.resourceType,
      identity.apiVersion, identity.inNamespace, identity.kind, identity.name]) (by
      intro first second same
      cases first
      cases second
      simpa using same)

def content : Code VersionContent :=
  (text.list.pair (text.option.list.pair ((text.pair text).list.pair
    (value.pair (text.list.pair Code.bool))))).through
    (fun content =>
      ([content.inventoryKey, content.resourceType, content.apiVersion, content.kind,
        content.name, content.status, content.health],
        [content.inNamespace, content.uid, content.resourceVersion], content.labels,
        .dict content.summary, content.applicationIds, content.applicationBindingComplete)) (by
      intro first second same
      cases first
      simp_all)

/-- What a platform spells by tables: values that it writes by their places, and the integers that
the database reads from floats in exponent notation.
-/
structure Tables where
  identities : List InventoryIdentity := []
  contents : List VersionContent := []
  exponents : List (Rat × Int) := []

variable (exponents : List (Rat × Int))

/-- A number as the database spells it: without an exponent, so it is read as an integer. -/
def storeScalar : PyScalar → PyScalar
  | .float (.finite value) =>
    match exponents.lookup value with
    | some number => .int number
    | none => .float (.finite value)
  | scalar => scalar

theorem storeScalar_storeScalar (scalar : PyScalar)
    : storeScalar exponents (storeScalar exponents scalar) = storeScalar exponents scalar := by
  cases scalar with
  | float value =>
    cases value with
    | finite value =>
      cases spelled : exponents.lookup value <;> simp [storeScalar, spelled]
    | _ => rfl
  | _ => rfl

mutual

def storeValue : PyValue → PyValue
  | .scalar value => .scalar (storeScalar exponents value)
  | .list items => .list (storeValues items)
  | .dict entries => .dict (storeEntries entries)
termination_by structural value => value

def storeValues : List PyValue → List PyValue
  | [] => []
  | value :: rest => storeValue value :: storeValues rest
termination_by structural values => values

def storeEntries : List (PyScalar × PyValue) → List (PyScalar × PyValue)
  | [] => []
  | entry :: rest => storeEntry entry :: storeEntries rest
termination_by structural entries => entries

def storeEntry : PyScalar × PyValue → PyScalar × PyValue
  | (key, value) => (key, storeValue value)
termination_by structural entry => entry

end

mutual

/-- What was read back is stored as it is. -/
theorem storeValue_storeValue
    : ∀ value, storeValue exponents (storeValue exponents value) = storeValue exponents value
  | .scalar value => by simp only [storeValue, storeScalar_storeScalar]
  | .list items => by simp only [storeValue, storeValues_storeValues items]
  | .dict entries => by simp only [storeValue, storeEntries_storeEntries entries]

theorem storeValues_storeValues
    : ∀ values,
        storeValues exponents (storeValues exponents values) = storeValues exponents values
  | [] => by simp only [storeValues]
  | value :: rest => by
    simp only [storeValues, storeValue_storeValue value, storeValues_storeValues rest]

theorem storeEntries_storeEntries
    : ∀ entries,
        storeEntries exponents (storeEntries exponents entries) = storeEntries exponents entries
  | [] => by simp only [storeEntries]
  | entry :: rest => by
    simp only [storeEntries, storeEntry_storeEntry entry, storeEntries_storeEntries rest]

theorem storeEntry_storeEntry
    : ∀ entry, storeEntry exponents (storeEntry exponents entry) = storeEntry exponents entry
  | (key, value) => by simp only [storeEntry, storeValue_storeValue value]

end

def textColumn : PyValue → Option (Option String)
  | .scalar .none => some none
  | .scalar (.str value) => some (some value)
  | .scalar (.int value) => some (some (toString value))
  | _ => none

theorem isHexDigit_of_isDigit {char : Char} (digit : char.isDigit = true)
    : isHexDigit char = true := by
  unfold isHexDigit
  simp only [Bool.or_eq_true]
  exact .inl digit

theorem tagged_injective {α : Type} {p : α → Prop} [DecidablePred p] {low high : α → List Char}
    (onLow : ∀ {first second}, p first → p second → low first = low second → first = second)
    (onHigh : Injective high)
    : Injective fun value =>
        String.ofList (if p value then '0' :: low value else '1' :: high value) := by
  intro first second same
  have chars := String.ofList_injective same
  split at chars <;> split at chars
  next left right => exact onLow left right (List.cons.inj chars).2
  · exact absurd (List.cons.inj chars).1 (by decide)
  · exact absurd (List.cons.inj chars).1 (by decide)
  · exact onHigh (List.cons.inj chars).2

section Interned

variable {α : Type} (code : Code α) (known : List α)

/-- The place of a value in a table, by their codes. -/
def placeOf (value : α) : Nat := known.findIdx fun other => code.write other = code.write value

/-- A value of the table is written by its place, any other one by its code. -/
def interned (value : α) : String :=
  String.ofList (if placeOf code known value < known.length then
      '0' :: nat.write (placeOf code known value)
    else
      '1' :: code.write value)

theorem interned_injective : Injective (interned code known) := by
  refine tagged_injective (fun {first second} left right same => ?_) code.injective
  have places := nat.injective same
  have here := of_decide_eq_true (findIdx_getElem (w := left))
  have there := of_decide_eq_true (findIdx_getElem (w := right))
  simp only [placeOf] at places
  simp only [places] at here
  exact code.injective (here.symm.trans there)

end Interned

variable (value : String)

/-- Digits stay as they are, behind a zero; any other text is written in digits. -/
def digest : String :=
  String.ofList
    (if value.toList.all isHexDigit then '0' :: value.toList else '1' :: text.write value)

theorem digest_injective : Injective digest :=
  tagged_injective (fun _ _ same => String.toList_inj.mp same) text.injective

theorem digest_hex : ∀ char ∈ (digest value).toList, isHexDigit char = true := by
  rw [digest, String.toList_ofList]
  split
  next hex =>
    intro char mem
    rcases mem_cons.mp mem with rfl | inside
    · decide
    · exact all_eq_true.mp hex char inside
  · intro char mem
    rcases mem_cons.mp mem with rfl | inside
    · decide
    · exact isHexDigit_of_isDigit (text.digits value char inside)

theorem digest_nonempty : digest value ≠ "" := by
  intro empty
  have chars := congrArg String.toList empty
  unfold digest at chars
  split at chars <;> simp at chars

/-- The fields of a moment of a month that starts with the moment zero. -/
def utcInFebruary (moment : Int) : UtcTime where
  year := 2024
  month := 2
  day := 1 + moment.toNat / 86400000000 % 29
  hour := moment.toNat / 3600000000 % 24
  minute := moment.toNat / 60000000 % 60
  second := moment.toNat / 1000000 % 60
  microsecond := moment.toNat % 1000000
  year_lt := by decide
  month_lt := by decide
  day_lt := by omega
  hour_lt := by omega
  minute_lt := by omega
  second_lt := by omega
  microsecond_lt := by omega

end Plain

def plainPlatform (tables : Plain.Tables) : Platform where
  python := insertionRuntime
  iso := digitIso
  zone := id
  lower := id
  lower_small := fun _ _ => rfl
  strip_lower := strip_strip
  textColumn := Plain.textColumn
  jsonb := fun entries => some (Plain.storeEntries tables.exponents entries)
  jsonb_stored := by
    intro written stored same
    cases same
    exact congrArg some (Plain.storeEntries_storeEntries tables.exponents written)
  sha256 := Plain.digest
  sha256_injective := Plain.digest_injective
  sha256_nonempty := Plain.digest_nonempty
  sha256_hex := Plain.digest_hex
  identityJson := Plain.interned Plain.identity tables.identities
  identityJson_injective := Plain.interned_injective _ _
  contentJson := Plain.interned Plain.content tables.contents
  contentJson_injective := fun _ _ _ _ same => Plain.interned_injective _ _ same
  factsJson := fun _ => ""
  utc := Plain.utcInFebruary

end K8sClue.Inventory
