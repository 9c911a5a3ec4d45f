import TenantReports.Number.Fixed

/-!
# Digits with zeros around them

**Zeros before a number leave it as it is, and each zero after it counts ten times.**

* `natural?_padded`: a number with zeros before it is the number read.
* `length_padded`: a number that fits a width is written in that width.
* `accumulate_append_zeros`: digits with zeros after them.
-/

namespace TenantReports.Number

theorem accumulate_append (n : Nat) (s t : List Char) :
    accumulate n (s ++ t) = accumulate (accumulate n s) t :=
  List.foldl_append

/-- **Each zero after digits counts ten times.** -/
theorem accumulate_append_zeros (n : Nat) (s : List Char) (count : Nat) :
    accumulate n (s ++ List.replicate count '0') = accumulate n s * Nat.pow 10 count := by
  induction count with
  | zero =>
    rw [List.replicate_zero, List.append_nil]
    exact (Nat.mul_one _).symm
  | succ count ih =>
    rw [List.replicate_succ', ← List.append_assoc, accumulate_append, ih]
    exact Nat.mul_assoc _ _ 10

/-- Zeros before a number leave it as it is. -/
theorem accumulate_padded (width n : Nat) : accumulate 0 (padded width n) = n := by
  rw [padded, accumulate_append, Fixed.accumulate_zeros, accumulate_digits]

theorem isDigit_of_mem_padded {width n : Nat} {c : Char} (member : c ∈ padded width n) :
    c.isDigit = true := by
  rcases List.mem_append.mp member with zero | digit
  · rw [List.eq_of_mem_replicate zero]
    rfl
  · exact isDigit_of_mem_digits digit

theorem padded_ne_nil (width n : Nat) : padded width n ≠ [] :=
  List.append_ne_nil_of_right_ne_nil _ Nat.toDigits_ne_nil

/-- Digits are read as the number that they are worth. -/
theorem natural?_of_isDigit {s : List Char} (some : s ≠ []) (digit : ∀ c ∈ s, c.isDigit = true) :
    natural? s = .some (accumulate 0 s) := by
  rw [natural?, List.isEmpty_eq_false_iff.mpr some, List.all_eq_true.mpr digit]
  rfl

/-- **A number with zeros before it is the number read.** -/
theorem natural?_padded (width n : Nat) : natural? (padded width n) = some n := by
  rw [natural?_of_isDigit (padded_ne_nil width n) fun _ => isDigit_of_mem_padded,
    accumulate_padded]

/-- **A number that fits a width is written in that width.** -/
theorem length_padded {width n : Nat} (positive : 0 < width) (fits : n < Nat.pow 10 width) :
    (padded width n).length = width := by
  have short : (digits n).length ≤ width :=
    (Nat.length_toDigits_le_iff (by decide) positive).mpr fits
  rw [padded, List.length_append, List.length_replicate, Nat.sub_add_cancel short]

end TenantReports.Number
