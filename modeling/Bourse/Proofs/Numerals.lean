import Mathlib.Data.List.Basic
import Mathlib.Data.List.TakeDrop

namespace Bourse

/-- The rest of a text where a numeral has come to its end. -/
def EndsNumeral (rest : List Char) : Prop := ∀ c ∈ rest.head?, c.isDigit = false

theorem EndsNumeral.nil : EndsNumeral [] := nofun

theorem EndsNumeral.cons {c : Char} (other : c.isDigit = false) (rest : List Char) : EndsNumeral (c :: rest) := by
  intro first same
  rw [List.head?_cons, Option.mem_some] at same
  exact same ▸ other

theorem EndsNumeral.takeWhile {rest : List Char} (ends : EndsNumeral rest) : rest.takeWhile Char.isDigit = [] := by
  cases rest with
  | nil => rfl
  | cons c rest => exact List.takeWhile_cons_of_neg (by simpa using ends c rfl)

theorem EndsNumeral.take {rest : List Char} (ends : EndsNumeral rest) (count : Nat) :
    EndsNumeral (rest.take count) := by
  cases count with
  | zero => exact .nil
  | succ count =>
    cases rest with
    | nil => exact .nil
    | cons c rest => exact .cons (ends c rfl) _

section Span

variable {digits rest : List Char}

/-- Digits are taken from the front until the numeral ends. -/
theorem takeWhile_digits (all : ∀ c ∈ digits, c.isDigit = true) (ends : EndsNumeral rest) :
    (digits ++ rest).takeWhile Char.isDigit = digits := by
  rw [List.takeWhile_append_of_pos all, ends.takeWhile, List.append_nil]

theorem dropWhile_digits (all : ∀ c ∈ digits, c.isDigit = true) (ends : EndsNumeral rest) :
    (digits ++ rest).dropWhile Char.isDigit = rest := by
  rw [List.dropWhile_append_of_pos all]
  have whole := List.takeWhile_append_dropWhile (p := Char.isDigit) (l := rest)
  rwa [ends.takeWhile, List.nil_append] at whole

theorem span_digits (all : ∀ c ∈ digits, c.isDigit = true) (ends : EndsNumeral rest) :
    (digits ++ rest).span Char.isDigit = (digits, rest) := by
  rw [List.span_eq_takeWhile_dropWhile, takeWhile_digits all ends, dropWhile_digits all ends]

end Span

theorem isDigit_of_mem_toDigits {n : Nat} {c : Char} (member : c ∈ Nat.toDigits 10 n) : c.isDigit = true :=
  Nat.isDigit_of_mem_toDigits (by decide) (by decide) member

theorem ne_of_isDigit {c other : Char} (digit : c.isDigit = true) (none : other.isDigit = false) : c ≠ other := by
  rintro rfl
  rw [none] at digit
  cases digit

theorem toDigits_eq_cons (n : Nat) : ∃ c digits, Nat.toDigits 10 n = c :: digits ∧ c.isDigit = true := by
  cases same : Nat.toDigits 10 n with
  | nil => exact absurd same Nat.toDigits_ne_nil
  | cons c digits => exact ⟨c, digits, rfl, isDigit_of_mem_toDigits (same ▸ List.mem_cons_self)⟩

/-- Only the numeral of zero starts with a zero. -/
theorem eq_zero_of_head?_toDigits {n : Nat} (first : (Nat.toDigits 10 n).head? = some '0') : n = 0 := by
  induction n using Nat.strongRecOn with
  | ind n shorter =>
    rw [Nat.toDigits_eq_if (by decide)] at first
    by_cases small : n < 10
    · rw [if_pos small, List.head?_cons, Option.some.injEq] at first
      exact Nat.digitChar_eq_zero.mp first
    · rw [if_neg small, List.head?_append_of_ne_nil _ Nat.toDigits_ne_nil] at first
      have none := shorter (n / 10) (by omega) first
      omega

theorem toDigits_ne_zero_cons (n : Nat) (next : Char) (rest : List Char) :
    Nat.toDigits 10 n ≠ '0' :: next :: rest := by
  intro same
  have zero : n = 0 := eq_zero_of_head?_toDigits (by rw [same, List.head?_cons])
  rw [zero, Nat.toDigits_zero] at same
  cases same

end Bourse
