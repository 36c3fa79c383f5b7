import Mathlib.Data.List.Basic

/-! Codes in decimal digits whose end can be seen.
Where a code is followed by anything, the value and what follows can be told; so codes compose
by writing one behind the other.
-/

namespace Library

open List Function

/-- A way to write values such that nothing written behind one can be taken for a part of it. -/
structure Code (α : Type) where
  write : α → List Char
  digits : ∀ value, ∀ char ∈ write value, char.isDigit = true
  unique : ∀ {first second : α} {after behind : List Char},
      write first ++ after = write second ++ behind → first = second ∧ after = behind

namespace Code

variable {α β : Type} (code : Code α)

theorem injective : Injective code.write := by
  intro first second same
  have padded : code.write first ++ [] = code.write second ++ [] := by rw [same]
  exact (code.unique padded).1

/-- Two values, one behind the other. -/
def pair (left : Code α) (right : Code β) : Code (α × β) where
  write := fun value => left.write value.1 ++ right.write value.2
  digits := by
    intro value char mem
    rcases mem_append.mp mem with first | second
    · exact left.digits value.1 char first
    · exact right.digits value.2 char second
  unique := by
    intro first second after behind same
    rw [append_assoc, append_assoc] at same
    obtain ⟨left_eq, rest⟩ := left.unique same
    obtain ⟨right_eq, tail⟩ := right.unique rest
    exact ⟨Prod.ext left_eq right_eq, tail⟩

/-- A value in the code of what it is made of. -/
def through (code : Code β) (parts : α → β) (injective : Injective parts) : Code α where
  write := fun value => code.write (parts value)
  digits := fun value => code.digits (parts value)
  unique := fun same => (code.unique same).imp_left (fun equal => injective equal)

/-- Items, each announced by a one; a zero ends them. -/
def writeItems (write : α → List Char) : List α → List Char
  | [] => ['0']
  | item :: rest => '1' :: (write item ++ writeItems write rest)

def list : Code (List α) where
  write := writeItems code.write
  digits := by
    intro items
    induction items with
    | nil => simp [writeItems]
    | cons item rest ih =>
      intro char mem
      rcases mem_cons.mp mem with rfl | later
      · rfl
      · rcases mem_append.mp later with here | behind
        · exact code.digits item char here
        · exact ih char behind
  unique := by
    intro first
    induction first with
    | nil =>
      intro second after behind same
      cases second with
      | nil => exact ⟨rfl, by simpa [writeItems] using same⟩
      | cons item rest => simp [writeItems] at same
    | cons item rest ih =>
      intro second after behind same
      cases second with
      | nil => simp [writeItems] at same
      | cons other others =>
        simp only [writeItems, cons_append, append_assoc, List.cons.injEq,
          true_and] at same
        obtain ⟨item_eq, tail⟩ := code.unique same
        obtain ⟨rest_eq, ending⟩ := ih tail
        exact ⟨by rw [item_eq, rest_eq], ending⟩

def option : Code (Option α) :=
  code.list.through Option.toList (by
    intro first second same
    cases first <;> cases second <;> simp_all)

/-- A digit is its own code. -/
def digit : Code { char : Char // char.isDigit = true } where
  write := fun value => [value.val]
  digits := by
    intro value char mem
    rw [mem_singleton.mp mem]
    exact value.property
  unique := by
    intro first second after behind same
    obtain ⟨head, tail⟩ := List.cons.inj same
    exact ⟨Subtype.ext head, tail⟩

def bool : Code Bool :=
  digit.through (fun value => if value then ⟨'1', rfl⟩ else ⟨'0', rfl⟩) (by
    intro first second same
    cases first <;> cases second <;> simp_all)

end Code

end Library
