import TenantReports.Text.Blank
import TenantReports.Text.Hex
import TenantReports.Text.Utf8

/-!
# Percent encoding

Octets that may not stand in a place of a URL are written as a percent sign and two digits. `encode`
writes, `decode` reads and leaves percent signs alone that no two digits follow. `formPairs` reads
the names and values after a question mark, `formText` writes one of them.
-/

namespace TenantReports.Net.Percent

/-- The digit of a value below 16, a capital letter from ten on. -/
def upperDigit (n : Nat) : Char :=
  (Text.Hex.digit n).toUpper

/-- A percent sign and the digits of an octet. -/
def encodeOctet (b : UInt8) : List Char :=
  ['%', upperDigit (b.toNat / 16), upperDigit (b.toNat % 16)]

/-- A text with the characters of a set encoded, and all outside ASCII. -/
def encode (set : Char → Bool) (s : List Char) : List Char :=
  s.flatMap fun c =>
    if set c || 0x7F ≤ c.toNat || c.toNat < 0x20 then
      (Text.Utf8.encodeNat c.toNat).flatMap encodeOctet
    else [c]

/-- The value of an octet that is a hexadecimal digit. -/
def digitValue? (b : UInt8) : Option Nat :=
  if b < 0x80 then Text.Hex.value? (Char.ofNat b.toNat) else none

/-- The octets that encoded octets stand for. -/
def decode : List UInt8 → List UInt8
  | 0x25 :: high :: low :: rest =>
    match digitValue? high, digitValue? low with
    | some h, some l => UInt8.ofNat (h * 16 + l) :: decode rest
    | _, _ => 0x25 :: decode (high :: low :: rest)
  | b :: rest => b :: decode rest
  | [] => []

/-! ### Sets of characters -/

/-- Characters to encode in a query. -/
def querySet (c : Char) : Bool :=
  c == ' ' || c == '"' || c == '#' || c == '<' || c == '>'

/-- Characters to encode in the query of a web address. -/
def webQuerySet (c : Char) : Bool :=
  querySet c || c == '\''

/-- Characters to encode in a path. -/
def pathSet (c : Char) : Bool :=
  querySet c || c == '?' || c == '\x60' || c == '\x7b' || c == '\x7d'

/-- Characters to encode in the name and the password of a user. -/
def userSet (c : Char) : Bool :=
  pathSet c || [ '/', ':', ';', '=', '@', '[', '\\', ']', '^', '|' ].contains c

/-! ### Names and values -/

/-- Whether a character stands for itself in a name or a value. -/
def isFormPlain (c : Char) : Bool :=
  c.isAlphanum || c == '*' || c == '-' || c == '.' || c == '_'

/-- A name or a value as it is sent. -/
def formText (s : String) : String :=
  String.ofList (s.toList.flatMap fun c =>
    if c == ' ' then ['+'] else if isFormPlain c then [c]
    else (Text.Utf8.encodeNat c.toNat).flatMap encodeOctet)

/-- The text of a name or a value that was sent. -/
def formValue (s : List Char) : String :=
  let spaced := s.map fun c => if c == '+' then ' ' else c
  String.ofList (Text.Utf8.decodeLossy (decode (Text.Utf8.encode spaced)))

/-- The name and the value of a piece between ampersands. -/
def formPair (piece : List Char) : String × String :=
  (formValue (piece.takeWhile (· != '=')), formValue ((piece.dropWhile (· != '=')).drop 1))

/-- The names and values of a query. -/
def formPairs (query : String) : List (String × String) :=
  ((Text.splitWhen (· == '&') query.toList).filter fun piece => !piece.isEmpty).map formPair

end TenantReports.Net.Percent
