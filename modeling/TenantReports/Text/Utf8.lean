/-!
# UTF-8

`encode` writes characters as octets. `next` reads one character and finds the octets that belong
to none; `decode?` refuses a text with such octets, `decodeLossy` puts the replacement character
where a run of them starts.

* `next_length`: a step never gives back more than it was given.
-/

namespace TenantReports.Text.Utf8

/-- The octets of a code point. -/
def encodeNat (n : Nat) : List UInt8 :=
  if n < 0x80 then [UInt8.ofNat n]
  else if n < 0x800 then [UInt8.ofNat (0xC0 + n / 64), UInt8.ofNat (0x80 + n % 64)]
  else if n < 0x10000 then
    [UInt8.ofNat (0xE0 + n / 4096), UInt8.ofNat (0x80 + n / 64 % 64), UInt8.ofNat (0x80 + n % 64)]
  else
    [UInt8.ofNat (0xF0 + n / 262144), UInt8.ofNat (0x80 + n / 4096 % 64),
      UInt8.ofNat (0x80 + n / 64 % 64), UInt8.ofNat (0x80 + n % 64)]

/-- The octets of a text. -/
def encode (s : List Char) : List UInt8 :=
  s.flatMap fun c => encodeNat c.toNat

/-- The number of octets of a text. -/
def size (s : List Char) : Nat :=
  (encode s).length

/-- Whether an octet continues a character. -/
def isTail (b : UInt8) : Bool :=
  0x80 ≤ b && b ≤ 0xBF

/-- The number of octets that follow the first one of a character, and the least and the greatest
value of the second: the ranges exclude overlong forms, surrogates and numbers above `10FFFF`. -/
def leader? (b : UInt8) : Option (Nat × UInt8 × UInt8) :=
  if 0xC2 ≤ b && b ≤ 0xDF then some (1, 0x80, 0xBF)
  else if b == 0xE0 then some (2, 0xA0, 0xBF)
  else if b == 0xED then some (2, 0x80, 0x9F)
  else if 0xE1 ≤ b && b ≤ 0xEF then some (2, 0x80, 0xBF)
  else if b == 0xF0 then some (3, 0x90, 0xBF)
  else if 0xF1 ≤ b && b ≤ 0xF3 then some (3, 0x80, 0xBF)
  else if b == 0xF4 then some (3, 0x80, 0x8F)
  else none

/-- Reads the octets that are still owed to a character; where one is missing, the ones read so
far belong to no character. -/
def tails : Nat → Nat → List UInt8 → Option Char × List UInt8
  | 0, n, rest => (some (Char.ofNat n), rest)
  | owed + 1, n, b :: rest =>
    if isTail b then tails owed (n * 64 + (b.toNat - 0x80)) rest else (none, b :: rest)
  | _ + 1, _, [] => (none, [])

/-- The character that starts with octet `b`, or nothing if the octets read belong to no character;
and the octets after them. -/
def next (b : UInt8) (rest : List UInt8) : Option Char × List UInt8 :=
  if b < 0x80 then (some (Char.ofNat b.toNat), rest)
  else
    match leader? b, rest with
    | some (owed, least, greatest), second :: rest =>
      if least ≤ second && second ≤ greatest then
        tails (owed - 1) ((b.toNat % (64 / Nat.pow 2 owed)) * 64 + (second.toNat - 0x80)) rest
      else (none, second :: rest)
    | _, rest => (none, rest)

theorem tails_length (owed n : Nat) (rest : List UInt8) :
    (tails owed n rest).2.length ≤ rest.length := by
  induction owed generalizing n rest with
  | zero => simp [tails]
  | succ owed ih =>
    cases rest with
    | nil => simp [tails]
    | cons b rest =>
      simp only [tails]
      split
      · exact Nat.le_succ_of_le (ih _ _)
      · simp

theorem next_length (b : UInt8) (rest : List UInt8) : (next b rest).2.length ≤ rest.length := by
  unfold next
  split
  · simp
  · split
    · split
      · exact Nat.le_succ_of_le (tails_length _ _ _)
      · simp
    · simp

/-- The text of octets that are all part of characters. -/
def decode? : List UInt8 → Option (List Char)
  | [] => some []
  | b :: rest =>
    match (next b rest).1 with
    | some c => (decode? (next b rest).2).map (c :: ·)
    | none => none
termination_by bytes => bytes.length
decreasing_by simpa using Nat.lt_succ_of_le (next_length b rest)

/-- The text of octets, with the replacement character for each run that belongs to none. -/
def decodeLossy : List UInt8 → List Char
  | [] => []
  | b :: rest => (next b rest).1.getD (Char.ofNat 0xFFFD) :: decodeLossy (next b rest).2
termination_by bytes => bytes.length
decreasing_by simpa using Nat.lt_succ_of_le (next_length b rest)

/-- The octets of a string. -/
def ofString (s : String) : List UInt8 :=
  encode s.toList

/-- The string whose octets these are. -/
def toString? (bytes : List UInt8) : Option String :=
  (decode? bytes).map String.ofList

end TenantReports.Text.Utf8
