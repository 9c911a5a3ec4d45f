import TenantReports.Number.Natural

/-!
# Punycode

A label of a domain that has letters outside ASCII is written with letters and digits only: first
its ASCII characters, then, behind a hyphen, where the others go. Places are numbers in a base of 36
whose least significant digit comes first; a digit below a threshold ends a number, and the
thresholds adapt to the numbers before.
-/

namespace TenantReports.Net.Punycode

/-- The digit of a value below 36. -/
def digit (n : Nat) : Char :=
  if n < 26 then Char.ofNat (97 + n) else Char.ofNat (22 + n)

/-- The value of a digit. -/
def digitValue? (c : Char) : Option Nat :=
  if c.isLower then some (c.toNat - 97)
  else if c.isUpper then some (c.toNat - 65)
  else if c.isDigit then some (c.toNat - 22)
  else none

/-- The threshold of the digit at a position. -/
def threshold (position bias : Nat) : Nat :=
  max 1 (min 26 (position - bias))

/-- Divides until a number is at most 455; the number and 36 for each division. -/
def shrink : Nat → Nat → Nat → Nat × Nat
  | 0, n, k => (n, k)
  | fuel + 1, n, k => if 455 < n then shrink fuel (n / 35) (k + 36) else (n, k)

/-- The bias after a number; `points` counts the characters placed. -/
def adapt (n points : Nat) (first : Bool) : Nat :=
  let n := if first then n / 700 else n / 2
  let n := n + n / points
  let (n, k) := shrink n n 0
  k + 36 * n / (n + 38)

/-- The digits of a number, from a position on; at most `fuel` of them. -/
def digitsFrom (bias : Nat) : Nat → Nat → Nat → List Char
  | 0, _, _ => []
  | fuel + 1, position, n =>
    let t := threshold position bias
    if n < t then [digit n]
    else digit (t + (n - t) % (36 - t)) :: digitsFrom bias fuel (position + 36) ((n - t) / (36 - t))

/-- The digits of a number. -/
def writeNumber (bias n : Nat) : List Char :=
  digitsFrom bias (n + 1) 36 n

/-- What a writer knows between two characters. -/
structure Writer where
  /-- The digits written, last first. -/
  reversed : List Char
  delta : Nat
  bias : Nat
  points : Nat

/-- Goes past one character of the label while those with the number `n` are placed. -/
def Writer.pass (basic n : Nat) (w : Writer) (c : Char) : Writer :=
  if c.toNat < n then { w with delta := w.delta + 1 }
  else if c.toNat = n then
    { reversed := (writeNumber w.bias w.delta).reverse ++ w.reversed
      delta := 0
      bias := adapt w.delta (w.points + 1) (w.points == basic)
      points := w.points + 1 }
  else w

/-- Places the characters with the given numbers, which increase; `previous` is the least that is
not placed. -/
def placeAll (label : List Char) (basic : Nat) : List Nat → Nat → Writer → Writer
  | [], _, w => w
  | n :: more, previous, w =>
    let w := { w with delta := w.delta + (n - previous) * (w.points + 1) }
    let w := label.foldl (Writer.pass basic n) w
    placeAll label basic more (n + 1) { w with delta := w.delta + 1 }

/-- The text of a label, without the mark that such texts start with. -/
def encode (label : List Char) : List Char :=
  let basic := label.filter fun c => c.toNat < 128
  let others := (label.filter fun c => 128 ≤ c.toNat).map Char.toNat
  let numbers := (others.mergeSort (· ≤ ·)).eraseDups
  let w := placeAll label basic.length numbers 128 ⟨[], 0, 72, basic.length⟩
  basic ++ (if basic.isEmpty then [] else ['-']) ++ w.reversed.reverse

/-- Reads a number that is added to `sum`. -/
def readNumber? (bias : Nat) : Nat → Nat → Nat → List Char → Option (Nat × List Char)
  | _, _, _, [] => none
  | position, weight, sum, c :: rest => do
    let d ← digitValue? c
    let t := threshold position bias
    let sum := sum + d * weight
    if d < t then return (sum, rest)
    else readNumber? bias (position + 36) (weight * (36 - t)) sum rest

/-- Places the characters that the rest of a text tells of; at most `fuel` of them. -/
def insertAll? : Nat → Nat → Nat → Nat → List Char → List Char → Option (List Char)
  | _, _, _, _, label, [] => some label
  | 0, _, _, _, _, _ :: _ => none
  | fuel + 1, bias, n, place, label, rest => do
    let (sum, rest) ← readNumber? bias 36 1 place rest
    let points := label.length + 1
    let m := n + sum / points
    let spot := sum % points
    if m.isValidChar then
      insertAll? fuel (adapt (sum - place) points (place == 0)) m (spot + 1)
        (label.take spot ++ Char.ofNat m :: label.drop spot) rest
    else none

/-- The label that a text stands for, without the mark that such texts start with. -/
def decode? (s : List Char) : Option (List Char) :=
  let reversed := s.reverse
  let tail := (reversed.takeWhile (· != '-')).reverse
  let basic := ((reversed.dropWhile (· != '-')).drop 1).reverse
  if basic.all (fun c => c.toNat < 128) then insertAll? tail.length 72 128 0 basic tail else none

end TenantReports.Net.Punycode
