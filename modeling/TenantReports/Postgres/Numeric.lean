import TenantReports.Number.Fixed
import TenantReports.Postgres.Binary

/-!
# Exact numbers of the server

The server sends an exact number as digits of base 10000 with the weight of the first one, a sign,
and the number of decimal places to show. `Numeric.toFixed` makes it a decimal of 96 bits: it sums
the digits up by their weights, where a digit may be too heavy or too light, and brings the sum to
the places to show.
-/

namespace TenantReports.Postgres

open Number (Fixed)

/-- An exact number as it is sent. -/
structure Numeric where
  negative : Bool
  /-- The power of 10000 that the first digit counts. -/
  weight : Int
  /-- The decimal places to show. -/
  places : Nat
  digits : List Nat
  deriving DecidableEq, Repr, Inhabited

/-- Why an exact number cannot be had. -/
inductive NumericError
  /-- The octets end too soon. -/
  | truncated
  | notANumber
  /-- It is not finite, or not an exact number at all. -/
  | sign (field : Nat)
  | places (field : Int)
  /-- A digit counts more or less than decimals of 96 bits can. -/
  | range
  deriving DecidableEq, Repr, Inhabited

/-- The wording of an error. -/
def NumericError.message : NumericError → String
  | .truncated => "failed to fill whole buffer"
  | .notANumber => "not a number"
  | .sign field =>
    "invalid sign field 0x" ++ String.ofList ((Nat.toDigits 16 field).map Char.toUpper)
  | .places field => "invalid number of places " ++ Number.signedDecimal field
  | .range => "value not representable in 96 bits"

namespace Numeric

/-- The sign field of what is no number. -/
def nanField : Nat := 0xC000

/-- The sign field of a number below zero. -/
def negativeField : Nat := 0x4000

/-- Reads digits. -/
def digits? : Nat → List UInt8 → Option (List Nat)
  | 0, _ => some []
  | count + 1, bytes => do
    let (digit, rest) ← Binary.unsigned? 2 bytes
    return digit :: (← digits? count rest)

/-- Reads what stands before the digits: their count, the weight, the sign and the places. -/
def header? (bytes : List UInt8) : Option ((Nat × Int × Nat × Int) × List UInt8) := do
  let (count, rest) ← Binary.unsigned? 2 bytes
  let (weight, rest) ← Binary.signed? 2 rest
  let (sign, rest) ← Binary.unsigned? 2 rest
  let (places, rest) ← Binary.signed? 2 rest
  return ((count, weight, sign, places), rest)

/-- Reads an exact number. -/
def ofOctets (bytes : List UInt8) : Except NumericError Numeric :=
  match header? bytes with
  | none => .error .truncated
  | some ((count, weight, sign, places), rest) =>
    if sign = nanField then .error .notANumber
    else if sign ≠ 0 ∧ sign ≠ negativeField then .error (.sign sign)
    else if places < 0 then .error (.places places)
    else
      match digits? count rest with
      | none => .error .truncated
      | some digits => .ok ⟨sign = negativeField, weight, places.toNat, digits⟩

/-- The greatest power of 10000 that fits. -/
def maxWeight : Int := 7

/-- A digit counted by its weight. -/
def part? (digit : Nat) (weight : Int) : Option Fixed :=
  if weight < -maxWeight ∨ maxWeight < weight then none
  else if digit = 0 then some Fixed.zero
  else if 0 ≤ weight then
    let coefficient := digit * Nat.pow 10000 weight.toNat
    if coefficient < Fixed.bound then some ⟨false, coefficient, 0⟩ else none
  else some ⟨false, digit, 4 * weight.natAbs⟩

/-- The sum of digits counted by their weights, and of what came before them. -/
def sum? : Fixed → List Nat → Int → Option Fixed
  | total, [], _ => some total
  | total, digit :: digits, weight => do
    let part ← part? digit weight
    sum? (← total.add? part) digits (weight - 1)

/-- The decimal that an exact number becomes. -/
def toFixed (n : Numeric) : Except NumericError Fixed :=
  if n.digits.isEmpty then .ok Fixed.zero
  else
    match sum? Fixed.zero n.digits n.weight with
    | none => .error .range
    | some total => .ok ({ total with negative := n.negative }.rescale n.places)

end Numeric

end TenantReports.Postgres
