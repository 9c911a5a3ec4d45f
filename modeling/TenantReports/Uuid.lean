import TenantReports.Text.Hex

/-!
# Universally unique identifiers

Sixteen octets, written as 32 hexadecimal digits in groups of 8, 4, 4, 4 and 12. `Uuid.text` writes
lower-case digits, `isCanonical` accepts either case, `ofText?` reads what it accepts.
-/

namespace TenantReports

/-- Sixteen octets. -/
structure Uuid where
  bytes : List UInt8
  size : bytes.length = 16
  deriving DecidableEq

namespace Uuid

instance : Inhabited Uuid := ⟨⟨List.replicate 16 0, rfl⟩⟩

/-- The identifier with the given octets, if there are sixteen. -/
def ofOctets? (bytes : List UInt8) : Option Uuid :=
  if h : bytes.length = 16 then some ⟨bytes, h⟩ else none

/-- The digits in their groups. -/
def hyphenate (digits : List Char) : List Char :=
  digits.take 8 ++ '-' :: (digits.drop 8).take 4 ++ '-' :: (digits.drop 12).take 4 ++
    '-' :: (digits.drop 16).take 4 ++ '-' :: digits.drop 20

/-- The text of an identifier. -/
def text (id : Uuid) : String :=
  String.ofList (hyphenate (Text.Hex.ofOctets id.bytes))

/-- Reads groups of digits of the given lengths with a hyphen between them; what the groups hold. -/
def groups? : List Nat → List Char → Option (List Char)
  | [], s => if s.isEmpty then some [] else none
  | [n], s => if s.length = n ∧ s.all Text.Hex.isDigit then some s else none
  | n :: ns, s =>
    if (s.take n).length = n ∧ (s.take n).all Text.Hex.isDigit then
      match s.drop n with
      | '-' :: rest => (groups? ns rest).map (s.take n ++ ·)
      | _ => none
    else none

/-- Whether a text is an identifier in groups, its digits in either case. -/
def isCanonical (s : String) : Bool :=
  (groups? [8, 4, 4, 4, 12] s.toList).isSome

/-- The identifier that a text stands for. -/
def ofText? (s : String) : Option Uuid :=
  ((groups? [8, 4, 4, 4, 12] s.toList).bind Text.Hex.toOctets?).bind ofOctets?

end Uuid

end TenantReports
