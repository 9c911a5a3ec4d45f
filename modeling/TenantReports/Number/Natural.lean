/-!
# Natural numbers in decimal

`decimal` writes a number without leading zeros, `natural?` reads a run of digits; `unsigned?` reads
a number below a bound and allows a plus sign before it.

* `natural?_digits`: a number written is the number read.
* `decimal_injective`: other numbers, other texts.
-/

namespace TenantReports.Number

/-- No number of 32 bits is as great as this. -/
def bound32 : Nat := 4294967296

/-- No number of 64 bits is as great as this. -/
def bound64 : Nat := 18446744073709551616

/-- The digits of a number, without leading zeros. -/
def digits (n : Nat) : List Char :=
  Nat.toDigits 10 n

/-- A number in decimal. -/
def decimal (n : Nat) : String :=
  String.ofList (digits n)

/-- A whole number in decimal, with a minus sign if it is negative. -/
def signedDecimal : Int → String
  | .ofNat n => decimal n
  | .negSucc n => "-" ++ decimal (n + 1)

/-- A number with zeros before it up to a width. -/
def padded (width n : Nat) : List Char :=
  List.replicate (width - (digits n).length) '0' ++ digits n

/-- The value of a digit. -/
def digitValue (c : Char) : Nat :=
  c.toNat - 48

/-- The value of digits that follow ones already worth `n`. -/
def accumulate (n : Nat) (s : List Char) : Nat :=
  s.foldl (fun n c => n * 10 + digitValue c) n

/-- The value of a non-empty run of digits. -/
def natural? (s : List Char) : Option Nat :=
  if s.isEmpty || !s.all Char.isDigit then none else some (accumulate 0 s)

/-- The value of a run of digits, which a plus sign may precede, if it is below `bound`. -/
def unsigned? (bound : Nat) (s : List Char) : Option Nat :=
  let value := match s with
    | '+' :: rest => natural? rest
    | _ => natural? s
  value.filter (· < bound)

theorem accumulate_digits (n : Nat) : accumulate 0 (digits n) = n := by
  have h := Nat.ofDigitChars_toDigits (b := 10) (n := n) (by decide) (by decide)
  rw [Nat.ofDigitChars_eq_foldl] at h
  simpa [accumulate, digits, digitValue, Nat.mul_comm] using h

theorem decimal_injective {m n : Nat} (same : decimal m = decimal n) : m = n := by
  have digits_eq : digits m = digits n := String.ofList_injective same
  rw [← accumulate_digits m, digits_eq, accumulate_digits]

theorem isDigit_of_mem_digits {n : Nat} {c : Char} (h : c ∈ digits n) : c.isDigit = true :=
  Nat.isDigit_of_mem_toDigits (by decide) (by decide) h

theorem natural?_digits (n : Nat) : natural? (digits n) = some n := by
  have hall : (digits n).all Char.isDigit = true :=
    List.all_eq_true.2 fun _ h => isDigit_of_mem_digits h
  have hne : (digits n).isEmpty = false := by simp [digits, Nat.toDigits_ne_nil]
  simp [natural?, hall, hne, accumulate_digits]

end TenantReports.Number
