import Mathlib.Data.List.DropRight
import Mathlib.Data.List.Infix

/-! Python's string helpers that the modelled sources call on every text they read. -/

namespace K8sClue.Python

open List

/-- `str.isspace` on one character: the Unicode whitespace that `str.strip` removes. -/
def isSpace (char : Char) : Bool :=
  let code := char.toNat
  (0x09 ≤ code && code ≤ 0x0D) || (0x1C ≤ code && code ≤ 0x20)
    || code == 0x85 || code == 0xA0 || code == 0x1680
    || (0x2000 ≤ code && code ≤ 0x200A)
    || code == 0x2028 || code == 0x2029 || code == 0x202F || code == 0x205F || code == 0x3000

/-- `str.strip()` on the characters of a string. -/
def stripChars (chars : List Char) : List Char :=
  ((chars.dropWhile isSpace).reverse.dropWhile isSpace).reverse

variable (value : String)

def strip : String := String.ofList (stripChars value.toList)

/-- Where nothing is dropped from a list, nothing is dropped from a first part of it. -/
theorem dropWhile_of_start {drop : Char → Bool} {chars part : List Char}
    (kept : chars.dropWhile drop = chars) (start : part <+: chars)
    : part.dropWhile drop = part := by
  cases part with
  | nil => rfl
  | cons char rest =>
    obtain ⟨after, rfl⟩ := start
    have first := dropWhile_eq_self_iff.mp kept (by simp)
    rw [dropWhile_cons_of_neg (by simpa using first)]

/-- Stripping twice strips once. -/
theorem strip_strip : strip (strip value) = strip value := by
  have both : ∀ chars, stripChars chars = (chars.dropWhile isSpace).rdropWhile isSpace :=
    fun _ => rfl
  have start : (stripChars value.toList).dropWhile isSpace = stripChars value.toList :=
    dropWhile_of_start (dropWhile_idempotent _ _) (List.rdropWhile_prefix _ _)
  have again : stripChars (stripChars value.toList) = stripChars value.toList := by
    rw [both (stripChars value.toList), start, both, rdropWhile_idempotent]
  simp only [strip, String.toList_ofList, again]

/-- A text without whitespace is its own stripped text. -/
theorem strip_of_visible {value : String} (visible : ∀ char ∈ value.toList, isSpace char = false)
    : strip value = value := by
  have kept : ∀ chars : List Char, (∀ char ∈ chars, isSpace char = false)
      → chars.dropWhile isSpace = chars := by
    intro chars all
    rw [dropWhile_eq_self_iff]
    intro nonempty
    simpa using all _ (getElem_mem nonempty)
  unfold strip stripChars
  rw [kept _ visible, kept _ (by simpa using visible), reverse_reverse, String.ofList_toList]

/-- `value.strip() if isinstance(value, str) else ""`, for a value that may be missing. -/
def text (value : Option String) : String := (value.map strip).getD ""

/-- `value or None` for a string: the empty string counts as absent. -/
def orNone : Option String := if value = "" then none else some value

def startsWith (value start : String) : Bool := start.toList.isPrefixOf value.toList

def endsWith (value final : String) : Bool := final.toList.isSuffixOf value.toList

theorem toString_injective {number other : Nat} (same : toString number = toString other)
    : number = other := by
  have digits := congrArg (fun text : String => Nat.ofDigitChars 10 text.toList 0) same
  change Nat.ofDigitChars 10 (String.ofList (Nat.toDigits 10 number)).toList 0
    = Nat.ofDigitChars 10 (String.ofList (Nat.toDigits 10 other)).toList 0 at digits
  simpa only [String.toList_ofList, Nat.ofDigitChars_ten_toDigits] using digits

/-- `[0-9a-f]` as a pattern. -/
def isLowerHex (char : Char) : Bool :=
  ('0' ≤ char && char ≤ '9') || ('a' ≤ char && char ≤ 'f')

/-- `re.fullmatch(r"[0-9a-f]{40,64}", value)`: the full name of a commit. -/
def isCommitSha : Bool :=
  let hex := value.toList
  40 ≤ hex.length && hex.length ≤ 64 && hex.all isLowerHex

/-- `str.casefold`, the full case folding of each character. Of the characters with a meaning
in a `LIKE` pattern, each one is its own folding and part of no other.
-/
structure CaseFolding where
  fold : Char → List Char
  fixed : ∀ char ∈ ['%', '_', '\\'], fold char = [char]
  reserved : ∀ char folded, folded ∈ fold char → folded ∈ ['%', '_', '\\'] → char = folded

def CaseFolding.casefold (folding : CaseFolding) (value : String) : String :=
  String.ofList (value.toList.flatMap folding.fold)

theorem toLower_wildcard {char : Char} (lowered : char.toLower ∈ ['%', '_', '\\'])
    : char = char.toLower := by
  by_cases upper : char.val ≥ 'A'.val ∧ char.val ≤ 'Z'.val
  · have moved : char.toLower.val = char.val + 32 := by
      unfold Char.toLower
      rw [dif_pos upper]
      rfl
    have wildcard : char.toLower.val = 37 ∨ char.toLower.val = 95 ∨ char.toLower.val = 92 := by
      simp only [mem_cons, not_mem_nil, or_false] at lowered
      rcases lowered with same | same | same <;> rw [same] <;> decide
    obtain ⟨from_a, to_z⟩ := upper
    rw [moved] at wildcard
    simp only [UInt32.le_iff_toNat_le, ← UInt32.toNat_inj]
      at from_a to_z wildcard
    simp at from_a to_z wildcard
    omega
  · unfold Char.toLower
    rw [dif_neg upper]

/-- The folding of texts whose only letters with a case are those of ASCII. -/
def asciiFolding : CaseFolding where
  fold := fun char => [char.toLower]
  fixed := by
    intro char special
    simp only [mem_cons, not_mem_nil, or_false] at special
    rcases special with rfl | rfl | rfl <;> decide
  reserved := by
    intro char folded mem special
    rw [mem_singleton.mp mem] at special ⊢
    exact toLower_wildcard special

def contains (value needle : String) : Bool :=
  value.toList.tails.any (needle.toList.isPrefixOf ·)

theorem contains_iff {value needle : String}
    : contains value needle = true ↔ needle.toList <:+: value.toList := by
  simp only [contains, any_eq_true, mem_tails, isPrefixOf_iff_prefix,
    infix_iff_prefix_suffix]
  exact ⟨fun ⟨tail, suffix, start⟩ => ⟨tail, start, suffix⟩,
    fun ⟨tail, start, suffix⟩ => ⟨tail, suffix, start⟩⟩

end K8sClue.Python
