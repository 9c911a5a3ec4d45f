import TenantReports.Number.Floating
import TenantReports.Number.Natural

/-!
# The shortest decimal that reads back

`shortest` gives, of all decimals that round to a number, one with the fewest digits, and of those
the nearest. `NumberStyle.write` lays the digits out.
-/

namespace TenantReports.Number

/-- The greatest `e` with `10 ^ e ≤ num / den`, for a positive fraction. -/
def decimalExponent (num den : Nat) : Int :=
  let e : Int := (binaryExponent num den * 30103).fdiv 100000
  let (a, b) := unscale 10 num den e
  if a < b then e - 1 else if b * 10 ≤ a then e + 1 else e

/-- Of the two neighbours of `num / den` among the multiples of `10 ^ unit`, the one that rounds to
`target`; the nearer if both do. -/
def Format.neighbour? (f : Format) (target : Floating) (num den : Nat) (unit : Int) : Option Nat :=
  let (a, b) := unscale 10 num den unit
  let low := a / b
  let readsBack := fun n => f.ofDecimal false n unit == target
  match readsBack low, readsBack (low + 1) with
  | true, true => some (roundHalfEven a b)
  | true, false => some low
  | false, true => some (low + 1)
  | false, false => none

/-- Takes zeros off the end of a number of at most `fuel` digits, and counts them in the exponent.
-/
def withoutZeros : Nat → Nat → Int → Nat × Int
  | 0, n, e => (n, e)
  | fuel + 1, n, e => if n % 10 = 0 then withoutZeros fuel (n / 10) (e + 1) else (n, e)

/-- The fewest digits, with their exponent, that read back as the positive number `m * 2 ^ e`. -/
def Format.shortest (f : Format) (m : Nat) (e : Int) : Nat × Int :=
  let (num, den) := fraction m e
  let top := decimalExponent num den
  let found := (List.range 17).findSome? fun (extra : Nat) =>
    let unit := top - extra
    (f.neighbour? (.finite false m e) num den unit).map fun n => (n, unit)
  let (n, unit) := found.getD (0, 0)
  withoutZeros 18 n unit

/-- How the digits of a number are laid out. -/
structure NumberStyle where
  /-- Decimal exponents that are written without an exponent: from the first up to, but not
  including, the second; none: all. -/
  positional : Option (Int × Int)
  /-- What follows a whole number. -/
  wholeEnd : List Char

/-- Numbers of a JSON text. -/
def NumberStyle.json : NumberStyle :=
  ⟨some (-5, 16), ['.', '0']⟩

/-- Numbers that stand for themselves in a text. -/
def NumberStyle.plain : NumberStyle :=
  ⟨none, []⟩

/-- A positive number, `n * 10 ^ unit`, without an exponent. -/
def NumberStyle.writePositional (style : NumberStyle) (n : Nat) (unit : Int) : List Char :=
  let ds := digits n
  let point := unit + ds.length
  if point ≤ 0 then ['0', '.'] ++ List.replicate (-point).toNat '0' ++ ds
  else if 0 ≤ unit then ds ++ List.replicate unit.toNat '0' ++ style.wholeEnd
  else ds.take point.toNat ++ ['.'] ++ ds.drop point.toNat

/-- A positive number, `n * 10 ^ unit`, with one digit before the point and an exponent whose sign
is always written. -/
def writeScientific (n : Nat) (unit : Int) : List Char :=
  let ds := digits n
  let exponent : Int := unit + ds.length - 1
  let rest := if (ds.drop 1).isEmpty then [] else '.' :: ds.drop 1
  ds.take 1 ++ rest ++ ['e', if exponent < 0 then '-' else '+'] ++ digits exponent.natAbs

/-- A positive number, `n * 10 ^ unit`, in a style. -/
def NumberStyle.writeDigits (style : NumberStyle) (n : Nat) (unit : Int) : List Char :=
  let exponent : Int := unit + (digits n).length - 1
  match style.positional with
  | none => style.writePositional n unit
  | some (from?, below) =>
    if from? ≤ exponent ∧ exponent < below then style.writePositional n unit
    else writeScientific n unit

/-- The shortest text of a number of a format, in a style. -/
def NumberStyle.write (style : NumberStyle) (f : Format) : Floating → List Char
  | .nan => ['N', 'a', 'N']
  | .infinite negative => (if negative then ['-'] else []) ++ ['i', 'n', 'f']
  | .finite negative 0 _ => (if negative then ['-'] else []) ++ '0' :: style.wholeEnd
  | .finite negative m e =>
    let (n, unit) := f.shortest m e
    (if negative then ['-'] else []) ++ style.writeDigits n unit

end TenantReports.Number
