import Exemplar.Calendar.Expression
import Exemplar.Calendar.Field
import Exemplar.Reading
import Mathlib.Algebra.Group.Nat.Defs

/-!
# Numbers in decimal digits

The fields of a date pattern and the amounts of a date expression are numbers in the same
notation, the basic digits with any number of zeros in front. `padded` writes it and
`amount?` reads it, and the two undo each other. A number that fits into a width is written
with exactly as many digits, which is what allows it to be read without anything behind it
that marks its end.
-/

namespace Exemplar.Calendar

variable {width n : Nat}

theorem padded_ne_nil (width n : Nat) : padded width n ≠ [] := by
  simp [padded, Nat.toDigits_ne_nil]

theorem isDigit_of_mem_padded {c : Char} (h : c ∈ padded width n) : c.isDigit = true := by
  rcases List.mem_append.1 h with hzero | hdigit
  · rw [List.eq_of_mem_replicate hzero]
    rfl
  · exact Nat.isDigit_of_mem_toDigits (by decide) (by decide) hdigit

theorem length_padded (hwidth : 0 < width) (h : n < 10 ^ width) :
    (padded width n).length = width := by
  have hle : (Nat.toDigits 10 n).length ≤ width :=
    (Nat.length_toDigits_le_iff (by decide) hwidth).2 h
  simp only [padded, List.length_append, List.length_replicate]
  omega

theorem amount?_of_isDigit {digits : List Char} (h : ∀ c ∈ digits, c.isDigit = true) :
    amount? digits = some (Nat.ofDigitChars 10 digits 0) := by
  rw [amount?, if_pos (List.all_eq_true.2 h), Nat.ofDigitChars_eq_foldl]
  rfl

theorem amount?_padded (width n : Nat) : amount? (padded width n) = some n := by
  rw [amount?_of_isDigit fun c hc => isDigit_of_mem_padded hc, padded, Nat.ofDigitChars_append,
    Nat.ofDigitChars_replicate_zero, Nat.mul_zero, Nat.ofDigitChars_ten_toDigits]

end Exemplar.Calendar
