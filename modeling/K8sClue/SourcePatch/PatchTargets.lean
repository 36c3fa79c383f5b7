import K8sClue.SourcePatch.Kustomize
import Mathlib.Tactic.FinCases

/-! Patch targets as Kustomize reads them.
A target selects by regular expressions that are anchored at both ends; `target_may_select` takes
a value of letters, digits, dots, underscores and hyphens for a literal.
-/

namespace K8sClue.SourcePatch

open Python

/-- The characters that do not stand for themselves in a regular expression, beside the dot. -/
def operators : List Char :=
  ['\\', '+', '*', '?', '(', ')', '[', ']', '\x7b', '\x7d', '|', '^', '$']

/-- A text that a pattern without operators matches as a whole. -/
def Spells (pattern text : List Char) : Prop :=
  List.Forall₂ (fun sign char => if sign = '.' then char ≠ '\n' else sign = char) pattern text

def Plain (pattern : String) : Prop := ∀ char ∈ pattern.toList, char ∉ operators

/-- A reading of the values of a target as regular expressions. -/
structure Selectors where
  accepts : PyValue → String → Prop
  plain : ∀ pattern text, Plain pattern
    → (accepts (.scalar (.str pattern)) text ↔ Spells pattern.toList text.toList)

/-- Every value that is given matches what the resource has; an absent one matches everything. -/
def Selectors.Select (selectors : Selectors) (target : PyValue) (resource : ManifestIdentity)
    : Prop :=
  ∀ entry ∈ resource.named, target.get entry.1 ≠ .scalar .none
    → selectors.accepts (target.get entry.1) entry.2

/-- A literal departs from a text in its length, or at a place where it has another character and
not a dot that matches the text's.
-/
def Departs (pattern text : List Char) : Prop :=
  pattern.length ≠ text.length
  ∨ ∃ (place : Nat) (sign char : Char), pattern[place]? = some sign
    ∧ text[place]? = some char ∧ sign ≠ char ∧ (sign = '.' → char = '\n')

theorem not_spells_iff {pattern text : List Char}
    : ¬ Spells pattern text ↔ Departs pattern text := by
  have misses {sign char : Char} : ¬ (if sign = '.' then char ≠ '\n' else sign = char)
      ↔ sign ≠ char ∧ (sign = '.' → char = '\n') := by
    split
    next dot =>
      subst dot
      refine ⟨fun newline => ?_, fun apart => not_not.mpr (apart.2 rfl)⟩
      obtain rfl := not_not.mp newline
      exact ⟨by decide, fun _ => rfl⟩
    next letter => simp [letter]
  induction pattern generalizing text with
  | nil =>
    cases text with
    | nil => simp [Spells, Departs]
    | cons char chars => simp [Spells, Departs]
  | cons sign signs ih =>
    cases text with
    | nil => simp [Spells, Departs]
    | cons char chars =>
      have rest : ¬ Spells (sign :: signs) (char :: chars)
          ↔ (sign ≠ char ∧ (sign = '.' → char = '\n')) ∨ Departs signs chars := by
        rw [Spells, List.forall₂_cons, not_and_or, misses]
        exact or_congr_right ih
      rw [rest, Departs, Departs, List.length_cons, List.length_cons]
      constructor
      · rintro (here | lengths | ⟨place, later⟩)
        · exact .inr ⟨0, sign, char, rfl, rfl, here⟩
        · exact .inl (mt Nat.succ.inj lengths)
        · exact .inr ⟨place + 1, later⟩
      · rintro (lengths | ⟨place, there⟩)
        · exact .inr (.inl (mt (congrArg Nat.succ) lengths))
        · cases place with
          | zero =>
            obtain ⟨_, _, first, second, apart⟩ := there
            cases first
            cases second
            exact .inl apart
          | succ place => exact .inr (.inr ⟨place, there⟩)

/-- A value that the target gives does not match the resource's: it has no operators and departs
from it, or the reading does not accept it.
-/
def Selectors.Unmatched (selectors : Selectors) (target : PyValue) (entry : String × String)
    : Prop :=
  (∃ value, target.get entry.1 = .scalar (.str value) ∧ Plain value
    ∧ Departs value.toList entry.2.toList)
  ∨ target.get entry.1 ≠ .scalar .none
    ∧ (∀ value, target.get entry.1 = .scalar (.str value) → ¬ Plain value)
    ∧ ¬ selectors.accepts (target.get entry.1) entry.2

theorem not_select_iff {selectors : Selectors} {target : PyValue} {resource : ManifestIdentity}
    : ¬ selectors.Select target resource
      ↔ ∃ entry ∈ resource.named, selectors.Unmatched target entry := by
  rw [Selectors.Select]
  push Not
  refine exists_congr fun entry => and_congr_right fun _ => ?_
  by_cases plain : ∃ value, target.get entry.1 = .scalar (.str value) ∧ Plain value
  · obtain ⟨value, given, plain⟩ := plain
    simp [Selectors.Unmatched, given, selectors.plain value _ plain, not_spells_iff, plain]
  · push Not at plain
    exact ⟨fun ⟨given, unmatched⟩ => .inr ⟨given, plain, unmatched⟩, fun unmatched =>
      unmatched.elim (fun ⟨value, given, free, _⟩ => absurd free (plain value given))
        fun ⟨given, _, unmatched⟩ => ⟨given, unmatched⟩⟩

/-- A target that is excluded does not select the resource, exactly if one whose first value tells
it apart gives some value that does not match: a text without operators that departs from the
resource's in its length or off the dots, or another one that is not accepted.
-/
theorem excluded_not_selected_iff (search : OwnerSearch) (selectors : Selectors) (target : PyValue)
    : (search.targetMaySelect target = false → ¬ selectors.Select target search.selected)
      ↔ (search.ToldApart target search.selected.named
        → ∃ entry ∈ search.selected.named, selectors.Unmatched target entry) := by
  rw [not_select_iff, targetMaySelect_false_iff]

def namedSearch (name : String) : OwnerSearch where
  python := insertionRuntime
  isAlnum := Char.isAlphanum
  patchesOwn _ := .ok false
  localReferences _ := .ok []
  selected := ⟨"apps/v1", "Deployment", none, name⟩
  fields := [.replicas]

def nameTarget (name : String) : PyValue := .dict [(.str "name", .scalar (.str name))]

/-- A dot matches any character: the target is excluded and selects the resource. -/
theorem dotted_target_selects
    : (namedSearch "webx1").targetMaySelect (nameTarget "web.1") = false
      ∧ ∀ selectors : Selectors,
          selectors.Select (nameTarget "web.1") (namedSearch "webx1").selected := by
  refine ⟨rfl, ?_⟩
  intro selectors entry mem given
  fin_cases mem
  · exact absurd rfl given
  · exact (selectors.plain "web.1" "webx1" (by simp [Plain, operators])).mpr (by simp [Spells])
  · exact absurd rfl given

end K8sClue.SourcePatch
