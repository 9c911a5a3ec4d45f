import TenantReports.Number.Decimal

/-!
# Decimals of 96 bits

A `Fixed` is a whole number of at most 96 bits, a sign and a number of decimal places, of which
there are at most 28. Sums that do not fit lose places, and what is lost rounds to the even
neighbour; `rescale` changes the number of places on purpose.

* `fit?_lt`: what was made to fit, fits.
* `value_toDecimal`: the text of a decimal has the digits of its coefficient.
-/

namespace TenantReports.Number

/-- A decimal: `± coefficient / 10 ^ places`. -/
structure Fixed where
  negative : Bool
  coefficient : Nat
  places : Nat
  deriving DecidableEq, Repr, Inhabited

namespace Fixed

/-- No number of 96 bits is as great as this. -/
def bound : Nat :=
  79228162514264337593543950336

/-- The greatest number of places. -/
def maxPlaces : Nat := 28

/-- Zero. -/
def zero : Fixed :=
  ⟨false, 0, 0⟩

/-- The coefficient and the places of a sum once they fit, when up to `places` places may go: as few
as possible do. -/
def fit? (sum : Nat) (places : Nat) : Option (Nat × Nat) :=
  (List.range (places + 1)).findSome? fun lost =>
    let kept := roundHalfEven sum (Nat.pow 10 lost)
    if kept < bound then some (kept, places - lost) else none

/-- The sum of decimals that are not negative; none if it does not fit. -/
def add? (a b : Fixed) : Option Fixed :=
  if a.coefficient = 0 then some b
  else if b.coefficient = 0 then some a
  else
    let places := max a.places b.places
    let sum := a.coefficient * Nat.pow 10 (places - a.places) +
      b.coefficient * Nat.pow 10 (places - b.places)
    (fit? sum places).map fun (coefficient, places) => ⟨false, coefficient, places⟩

/-- A coefficient with fewer places; the last one left is rounded up from one half on. -/
def shorten (coefficient lost : Nat) : Nat :=
  coefficient / Nat.pow 10 lost + if 5 ≤ coefficient / Nat.pow 10 (lost - 1) % 10 then 1 else 0

/-- A coefficient with up to `more` further places, as many as fit, and how many they are. -/
def lengthen : Nat → Nat → Nat × Nat
  | 0, coefficient => (coefficient, 0)
  | more + 1, coefficient =>
    if coefficient * 10 < bound then
      let (longer, added) := lengthen more (coefficient * 10)
      (longer, added + 1)
    else (coefficient, 0)

/-- The decimal with a number of places, or as many of them as fit. -/
def rescale (x : Fixed) (places : Nat) : Fixed :=
  let target := min places maxPlaces
  if x.coefficient = 0 then { x with places := target }
  else if places < x.places then
    { x with coefficient := shorten x.coefficient (x.places - places), places }
  else
    let (coefficient, added) := lengthen (target - x.places) x.coefficient
    { x with coefficient, places := x.places + added }

/-- The decimal as it is written: all its places, and at least one digit before the point. -/
def toDecimal (x : Fixed) : Decimal :=
  let ds := padded (x.places + 1) x.coefficient
  ⟨x.negative, ds.take (ds.length - x.places), ds.drop (ds.length - x.places), none⟩

theorem fit?_lt {sum places : Nat} {result : Nat × Nat} (fits : fit? sum places = some result) :
    result.1 < bound := by
  obtain ⟨lost, _, found⟩ := List.exists_of_findSome?_eq_some fits
  dsimp only at found
  by_cases small : roundHalfEven sum (Nat.pow 10 lost) < bound
  · rw [if_pos small] at found
    cases found
    exact small
  · rw [if_neg small] at found
    cases found

theorem accumulate_zeros (count : Nat) : accumulate 0 (List.replicate count '0') = 0 := by
  induction count with
  | zero => rfl
  | succ count ih => simpa [accumulate, List.replicate_succ, digitValue] using ih

theorem value_toDecimal (x : Fixed) : x.toDecimal.significand = x.coefficient := by
  have joined : x.toDecimal.whole ++ x.toDecimal.fraction = padded (x.places + 1) x.coefficient :=
    List.take_append_drop _ _
  have zeros := accumulate_zeros (x.places + 1 - (digits x.coefficient).length)
  have digitsBack := accumulate_digits x.coefficient
  unfold Decimal.significand
  rw [joined]
  unfold accumulate padded at *
  rw [List.foldl_append, zeros, digitsBack]

end Fixed

end TenantReports.Number
