/-!
# Binary floating-point numbers

A finite number is a mantissa times a power of two. `Format.round` gives the number of a format that
is nearest to a fraction, the one with the even mantissa where two are equally near; the arithmetic
below is exact arithmetic followed by one such rounding.
-/

namespace TenantReports.Number

/-- The numbers of `precision` bits whose last bit has a weight between two powers of two. -/
structure Format where
  precision : Nat
  lowest : Int
  highest : Int

/-- Numbers of 64 bits. -/
def Format.double : Format :=
  ⟨53, -1074, 971⟩

/-- Numbers of 32 bits. -/
def Format.single : Format :=
  ⟨24, -149, 104⟩

/-- A floating-point number: `finite negative m e` is worth `± m * 2 ^ e`. -/
inductive Floating
  | nan
  | infinite (negative : Bool)
  | finite (negative : Bool) (mantissa : Nat) (exponent : Int)
  deriving DecidableEq, Repr, Inhabited

/-- The quotient rounded to the nearest whole number, to the even one of two. -/
def roundHalfEven (num den : Nat) : Nat :=
  let quotient := num / den
  let rest := num % den
  if den < 2 * rest ∨ den = 2 * rest ∧ quotient % 2 = 1 then quotient + 1 else quotient

/-- The fraction `num / den` divided by `base ^ e`. -/
def unscale (base num den : Nat) (e : Int) : Nat × Nat :=
  if 0 ≤ e then (num, den * Nat.pow base e.toNat) else (num * Nat.pow base (-e).toNat, den)

/-- The greatest `e` with `2 ^ e ≤ num / den`, for a positive fraction. -/
def binaryExponent (num den : Nat) : Int :=
  let e : Int := num.log2 - den.log2
  let (a, b) := unscale 2 num den e
  if a < b then e - 1 else e

/-- The number of the format nearest to `± num / den`. -/
def Format.round (f : Format) (negative : Bool) (num den : Nat) : Floating :=
  if num = 0 then .finite negative 0 f.lowest
  else
    let e := max f.lowest (binaryExponent num den - (f.precision - 1))
    let (a, b) := unscale 2 num den e
    let m := roundHalfEven a b
    let (m, e) := if m = Nat.pow 2 f.precision then (Nat.pow 2 (f.precision - 1), e + 1) else (m, e)
    if f.highest < e then .infinite negative else .finite negative m e

/-- The fraction that `m * 2 ^ e` is. -/
def fraction (m : Nat) (e : Int) : Nat × Nat :=
  unscale 2 m 1 (-e)

/-- The number of the format nearest to `± n * 10 ^ e`. Exponents so far out that the result is
certain are not expanded. -/
def Format.ofDecimal (f : Format) (negative : Bool) (n : Nat) (e : Int) : Floating :=
  if n = 0 then f.round negative 0 1
  else
    let size : Int := e + (Nat.toDigits 10 n).length
    if 400 < size then .infinite negative
    else if size < -400 then f.round negative 0 1
    else
      let (a, b) := unscale 10 n 1 (-e)
      f.round negative a b

/-- The number of the format nearest to a whole number. -/
def Format.ofInt (f : Format) (n : Int) : Floating :=
  f.round (n < 0) n.natAbs 1

/-- The number of the format nearest to another format's number. -/
def Format.convert (f : Format) : Floating → Floating
  | .finite negative m e =>
    let (a, b) := fraction m e
    f.round negative a b
  | x => x

/-- The opposite number. -/
def Floating.neg : Floating → Floating
  | .nan => .nan
  | .infinite negative => .infinite (!negative)
  | .finite negative m e => .finite (!negative) m e

/-- The rounded product of finite numbers; the other cases do not arise in this library. -/
def Format.mul (f : Format) : Floating → Floating → Floating
  | .finite n₁ m₁ e₁, .finite n₂ m₂ e₂ =>
    let (a, b) := fraction (m₁ * m₂) (e₁ + e₂)
    f.round (n₁ != n₂) a b
  | _, _ => .nan

/-- The rounded quotient of a finite number and one that is not zero. -/
def Format.div (f : Format) : Floating → Floating → Floating
  | .finite n₁ m₁ e₁, .finite n₂ m₂ e₂ =>
    let (a, b) := fraction m₁ (e₁ - e₂)
    if m₂ = 0 then .nan else f.round (n₁ != n₂) a (b * m₂)
  | _, _ => .nan

/-- The rounded sum of finite numbers. -/
def Format.add (f : Format) : Floating → Floating → Floating
  | .finite n₁ m₁ e₁, .finite n₂ m₂ e₂ =>
    let e := min e₁ e₂
    let a : Int := (if n₁ then -1 else 1) * (m₁ * Nat.pow 2 (e₁ - e).toNat : Nat)
    let b : Int := (if n₂ then -1 else 1) * (m₂ * Nat.pow 2 (e₂ - e).toNat : Nat)
    let (num, den) := fraction (a + b).natAbs e
    f.round (if a + b = 0 then n₁ && n₂ else a + b < 0) num den
  | _, _ => .nan

/-- Whether a number is at most another; nothing compares with what is not a number. -/
def Floating.le : Floating → Floating → Bool
  | .nan, _ | _, .nan => false
  | .infinite true, _ | _, .infinite false => true
  | .infinite false, _ | _, .infinite true => false
  | .finite n₁ m₁ e₁, .finite n₂ m₂ e₂ =>
    let e := min e₁ e₂
    let a : Int := (if n₁ then -1 else 1) * (m₁ * Nat.pow 2 (e₁ - e).toNat : Nat)
    let b : Int := (if n₂ then -1 else 1) * (m₂ * Nat.pow 2 (e₂ - e).toNat : Nat)
    a ≤ b

/-- The number whose sign, exponent and fraction fields are the bits of `bits`; `width` is the
number of exponent bits. -/
def Format.ofBits (f : Format) (width bits : Nat) : Floating :=
  let fractionBits := f.precision - 1
  let mantissa := bits % Nat.pow 2 fractionBits
  let exponent := bits / Nat.pow 2 fractionBits % Nat.pow 2 width
  let negative := bits / Nat.pow 2 (fractionBits + width) % 2 == 1
  if exponent = Nat.pow 2 width - 1 then
    if mantissa = 0 then .infinite negative else .nan
  else if exponent = 0 then .finite negative mantissa f.lowest
  else .finite negative (Nat.pow 2 fractionBits + mantissa) (f.lowest + (exponent - 1))

end TenantReports.Number
