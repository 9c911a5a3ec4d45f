import TenantReports.Net.Address
import TenantReports.Net.Percent
import TenantReports.Net.Punycode
import TenantReports.Text.Category
import TenantReports.Text.Fold

/-!
# Hosts of web addresses

A host is an address or a domain. Domains are written in small letters of ASCII; one whose last part
is a number is an address of version 4, whose parts may be decimal, octal or hexadecimal and fewer
than four.
-/

namespace TenantReports.Net

/-- Where a web address leads. -/
inductive Host
  | v4 (address : Ipv4)
  | v6 (address : Ipv6)
  | domain (name : String)
  deriving DecidableEq, Inhabited

namespace Host

/-- The text of an address of version 6 in a web address, where all groups are hexadecimal. -/
def v6Text (groups : List UInt16) : String :=
  let (place, length) := longestZeros 0 groups
  if length < 2 then groupsText groups
  else groupsText (groups.take place) ++ "::" ++ groupsText (groups.drop (place + length))

/-- The text of a host. -/
def text : Host → String
  | .v4 ip => ip.text
  | .v6 ip => "[" ++ v6Text ip.groups ++ "]"
  | .domain name => name

/-! ### Numbers -/

/-- The value of digits in a base. -/
def inBase? (base : Nat) (ds : List Char) : Option Nat :=
  ds.foldlM (fun n c => ((Text.Hex.value? c).filter (· < base)).map fun d => n * base + d) 0

/-- A part of an address of version 4, if it is a number. -/
def number? : List Char → Option Nat
  | [] => none
  | '0' :: 'x' :: ds | '0' :: 'X' :: ds => inBase? 16 ds
  | '0' :: d :: ds => inBase? 8 (d :: ds)
  | ds => inBase? 10 ds

/-- The parts between points, without an empty one at the end. -/
def parts (name : List Char) : List (List Char) :=
  let pieces := Text.splitWhen (· == '.') name
  if pieces.getLast? == some [] then pieces.dropLast else pieces

/-- Whether the last part of a domain is a number. -/
def endsInNumber (name : List Char) : Bool :=
  match (parts name).getLast? with
  | some part => (!part.isEmpty && part.all Char.isDigit) || (number? part).isSome
  | none => false

/-- The address whose parts are given by numbers: the last takes the octets that are left. -/
def ofNumbers? (numbers : List Nat) : Option Ipv4 :=
  let heads := numbers.dropLast
  let last := numbers.getLast?.getD 0
  let free := Nat.pow 256 (4 - heads.length)
  if 4 < numbers.length || heads.any (255 < ·) || free ≤ last then none
  else
    let n := heads.foldl (fun n part => n * 256 + part) 0 * free + last
    some ⟨UInt8.ofNat (n / 16777216), UInt8.ofNat (n / 65536), UInt8.ofNat (n / 256), UInt8.ofNat n⟩

/-! ### Domains -/

/-- Whether a character stands for the structure of an address, and in no name of a host. -/
def isReserved (c : Char) : Bool :=
  ['#', '/', ':', '<', '>', '?', '@', '[', '\\', ']', '^', '|'].contains c

/-- Whether a character may not stand in a domain. -/
def isForbidden (c : Char) : Bool :=
  c.toNat ≤ 0x20 || c.toNat == 0x7F || c == '%' || isReserved c

/-- Whether a character is left out of a domain. -/
def isIgnored (c : Char) : Bool :=
  let n := c.toNat
  n == 0xAD || n == 0x200B || n == 0x2060 || n == 0xFEFF || (0xFE00 ≤ n && n ≤ 0xFE0F)

/-- A character of a domain in its plain form: small, and narrow where it has a narrow form. -/
def plain (c : Char) : Char :=
  let n := c.toNat
  if n == 0x3002 || n == 0xFF0E || n == 0xFF61 then '.'
  else if 0xFF01 ≤ n && n ≤ 0xFF5E then (Char.ofNat (n - 0xFEE0)).toLower
  else Text.foldCase c

/-- Whether a character in its plain form may stand in a domain. -/
def isAllowed (c : Char) : Bool :=
  if c.toNat < 0x80 then !isForbidden c
  else
    match Text.categoryOf c with
    | .cc | .cf | .cn | .co | .cs | .zl | .zp | .zs => c.toNat == 0x200C || c.toNat == 0x200D
    | _ => c.toNat != 0xFFFD

/-- A label in ASCII; none if it claims to be written so and is not. -/
def asciiLabel? (label : List Char) : Option (List Char) :=
  if label.any (0x80 ≤ ·.toNat) then some (['x', 'n', '-', '-'] ++ Punycode.encode label)
  else
    match label with
    | 'x' :: 'n' :: '-' :: '-' :: rest =>
      match Punycode.decode? rest with
      | some decoded =>
        if decoded.any (0x80 ≤ ·.toNat) && Punycode.encode decoded == rest then some label else none
      | none => none
    | _ => some label

/-- A domain in ASCII. -/
def asciiDomain? (name : List Char) : Option (List Char) := do
  let plainName := (name.filter (!isIgnored ·)).map plain
  if plainName.all isAllowed then
    let labels ← (Text.splitWhen (· == '.') plainName).mapM asciiLabel?
    return ['.'].intercalate labels
  else none

/-- A host by a text without brackets around it. -/
def ofName? (s : List Char) : Option Host := do
  let name := Text.Utf8.decodeLossy (Percent.decode (Text.Utf8.encode s))
  let ascii ← asciiDomain? name
  if ascii.isEmpty then none
  else if endsInNumber ascii then
    let numbers ← (parts ascii).mapM number?
    (ofNumbers? numbers).map .v4
  else return .domain (String.ofList ascii)

/-- A host by its text. -/
def ofText? : List Char → Option Host
  | '[' :: rest =>
    if rest.getLast? == some ']' then
      match ipv6? rest.dropLast with
      | some (ip, []) => some (.v6 ip)
      | _ => none
    else none
  | s => ofName? s

end Host

end TenantReports.Net
