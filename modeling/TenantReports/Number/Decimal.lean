import TenantReports.Number.Floating
import TenantReports.Number.Natural

/-!
# Reading decimals

A `Decimal` is a number as written: its sign, the digits before and after the point, and the
exponent. `Decimal.round` reads it to the nearest number of a format; `Decimal.scaled?` reads it as
JSON numbers are read here, by scaling a machine word with rounded powers of ten.

* `value_eq_of_exponent_none`: without an exponent the digits after the point give the scale.
-/

namespace TenantReports.Number

/-- A decimal as written. -/
structure Decimal where
  negative : Bool
  whole : List Char
  fraction : List Char
  /-- The sign and digits of the exponent: `true` for a minus sign. -/
  exponent : Option (Bool × List Char)
  deriving DecidableEq, Repr, Inhabited

/-- The exponent as a number. -/
def Decimal.power (d : Decimal) : Int :=
  match d.exponent with
  | none => 0
  | some (true, ds) => -(accumulate 0 ds : Nat)
  | some (false, ds) => (accumulate 0 ds : Nat)

/-- The digits as one number. -/
def Decimal.significand (d : Decimal) : Nat :=
  accumulate 0 (d.whole ++ d.fraction)

/-- The power of ten that the digits are multiplied with. -/
def Decimal.scale (d : Decimal) : Int :=
  d.power - d.fraction.length

/-- The nearest number of a format. -/
def Decimal.round (d : Decimal) (f : Format) : Floating :=
  f.ofDecimal d.negative d.significand d.scale

/-- The decimal without the sign of an integer zero; `-0.0` and `-0e1` keep theirs. -/
def Decimal.unsignedZero (d : Decimal) : Decimal :=
  if d.whole = ['0'] ∧ d.fraction = [] ∧ d.exponent = none then { d with negative := false } else d

/-- A text before its first character that is not a digit, and from there on. -/
def spanDigits (s : List Char) : List Char × List Char :=
  (s.takeWhile Char.isDigit, s.dropWhile Char.isDigit)

/-- The sign and digits after an exponent mark; nothing may follow them. -/
def readExponent? (s : List Char) : Option (Bool × List Char) :=
  let (negative, ds) := match s with
    | '-' :: rest => (true, rest)
    | '+' :: rest => (false, rest)
    | _ => (false, s)
  if ds.isEmpty || !ds.all Char.isDigit then none else some (negative, ds)

/-- Reads a decimal without its sign: digits with at most one point, at least one of them, and an
optional exponent. -/
def readUnsigned? (negative : Bool) (s : List Char) : Option Decimal :=
  let (whole, rest) := spanDigits s
  let (fraction, rest) := match rest with
    | '.' :: rest => spanDigits rest
    | _ => ([], rest)
  if whole.isEmpty && fraction.isEmpty then none
  else
    match rest with
    | [] => some ⟨negative, whole, fraction, none⟩
    | mark :: rest =>
      if mark == 'e' || mark == 'E' then
        (readExponent? rest).map fun exponent => ⟨negative, whole, fraction, some exponent⟩
      else none

/-- Reads a floating-point number from free text: a decimal, an infinity or no number, with an
optional sign and in any letter case. -/
def readFloating? (s : List Char) : Option Floating :=
  let (negative, body) := match s with
    | '-' :: rest => (true, rest)
    | '+' :: rest => (false, rest)
    | _ => (false, s)
  let lower := String.ofList (body.map Char.toLower)
  if lower = "inf" ∨ lower = "infinity" then some (.infinite negative)
  else if lower = "nan" then some .nan
  else (readUnsigned? negative body).map fun d => d.round .double

/-- The greatest number that fits a machine word. -/
def wordMax : Nat :=
  bound64 - 1

/-- Adds digits to a number as long as it fits a machine word; the digits that are left. -/
def fill (n : Nat) : List Char → Nat × List Char
  | [] => (n, [])
  | c :: rest =>
    if n * 10 + digitValue c ≤ wordMax then fill (n * 10 + digitValue c) rest else (n, c :: rest)

/-- Scales by a power of ten in rounded steps of at most `10 ^ 308`; none if the result is not
finite. -/
def scaleByTen? : Nat → Floating → Int → Option Floating
  | 0, _, _ => none
  | fuel + 1, x, e =>
    let power := fun n : Nat => Format.double.round false (Nat.pow 10 n) 1
    if e.natAbs ≤ 308 then
      if 0 ≤ e then
        match Format.double.mul x (power e.natAbs) with
        | .finite negative m e => some (.finite negative m e)
        | _ => none
      else some (Format.double.div x (power e.natAbs))
    else
      match x with
      | .finite _ 0 _ => some x
      | _ => if 0 ≤ e then none else scaleByTen? fuel (Format.double.div x (power 308)) (e + 308)

/-- The finite number of 64 bits that a decimal is read as: the leading digits that fit a machine
word are rounded, and the result is scaled by a power of ten. -/
def Decimal.scaled? (d : Decimal) : Option Floating :=
  let (n, dropped) := fill 0 d.whole
  let (n, rest) := fill n d.fraction
  let used := d.fraction.length - rest.length
  let start : Int := dropped.length - used
  let signed := fun (x : Floating) => if d.negative then x.neg else x
  match d.exponent with
  | some (negative, ds) =>
    let size := accumulate 0 ds
    if bound32 ≤ 2 * size then
      if n ≠ 0 ∧ !negative then none else some (signed (Format.double.round false 0 1))
    else
      let e : Int := if negative then start - size else start + size
      (scaleByTen? (e.natAbs / 308 + 2) (Format.double.round false n 1) e).map signed
  | none =>
    (scaleByTen? (start.natAbs / 308 + 2) (Format.double.round false n 1) start).map signed

theorem value_eq_of_exponent_none (d : Decimal) (h : d.exponent = none) :
    d.scale = -d.fraction.length := by
  simp [Decimal.scale, Decimal.power, h]

end TenantReports.Number
