/-!
# Hexadecimal digits

* `value?_digit`: a digit written is the digit read.
-/

namespace TenantReports.Text.Hex

/-- The lower-case digit of a value below 16. -/
def digit (n : Nat) : Char :=
  if n < 10 then Char.ofNat (48 + n) else Char.ofNat (87 + n)

/-- The value of a digit in either case. -/
def value? (c : Char) : Option Nat :=
  if '0' ≤ c ∧ c ≤ '9' then some (c.toNat - 48)
  else if 'a' ≤ c ∧ c ≤ 'f' then some (c.toNat - 87)
  else if 'A' ≤ c ∧ c ≤ 'F' then some (c.toNat - 55)
  else none

/-- Whether the character is a digit in either case. -/
def isDigit (c : Char) : Bool :=
  (value? c).isSome

/-- The two digits of an octet, the high one first. -/
def ofOctet (b : UInt8) : List Char :=
  [digit (b.toNat / 16), digit (b.toNat % 16)]

/-- The digits of a sequence of octets. -/
def ofOctets (bytes : List UInt8) : List Char :=
  bytes.flatMap ofOctet

/-- The octets a text of digit pairs stands for. -/
def toOctets? : List Char → Option (List UInt8)
  | [] => some []
  | [_] => none
  | high :: low :: rest => do
    let h ← value? high
    let l ← value? low
    let bytes ← toOctets? rest
    return UInt8.ofNat (h * 16 + l) :: bytes

theorem value?_digit : ∀ n : Fin 16, value? (digit n) = some n.val := by decide

end TenantReports.Text.Hex
