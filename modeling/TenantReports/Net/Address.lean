import TenantReports.Number.Natural
import TenantReports.Text.Hex

/-!
# Addresses of the internet protocol

Addresses of both versions and the addresses of sockets, with their readers and writers. The text of
an address of version 6 leaves out the first of the longest runs of zeros, and shows an address that
stands for one of version 4 as such.
-/

namespace TenantReports.Net

/-- An address of version 4 by its octets. -/
structure Ipv4 where
  a : UInt8
  b : UInt8
  c : UInt8
  d : UInt8
  deriving DecidableEq, Repr, Inhabited

/-- An address of version 6 by its groups of 16 bits. -/
structure Ipv6 where
  groups : List UInt16
  size : groups.length = 8
  deriving DecidableEq

instance : Inhabited Ipv6 := ⟨⟨List.replicate 8 0, rfl⟩⟩

/-- The address with the given groups, if there are eight. -/
def Ipv6.ofGroups? (groups : List Nat) : Option Ipv6 :=
  if h : groups.length = 8 then some ⟨groups.map UInt16.ofNat, by simpa using h⟩ else none

/-- An address of either version. -/
inductive Ip
  | v4 (address : Ipv4)
  | v6 (address : Ipv6)
  deriving DecidableEq, Inhabited

/-- The address and port of a socket; an address of version 6 may have a scope. -/
inductive Socket
  | v4 (address : Ipv4) (port : UInt16)
  | v6 (address : Ipv6) (scope : UInt32) (port : UInt16)
  deriving DecidableEq, Inhabited

/-! ### Writing -/

/-- The text of an address of version 4. -/
def Ipv4.text (ip : Ipv4) : String :=
  Number.decimal ip.a.toNat ++ "." ++ Number.decimal ip.b.toNat ++ "." ++
    Number.decimal ip.c.toNat ++ "." ++ Number.decimal ip.d.toNat

/-- The length of the run of zeros that a list starts with. -/
def zerosAt (groups : List UInt16) : Nat :=
  (groups.takeWhile (· == 0)).length

/-- The first place of a longest run of zeros, and its length. -/
def longestZeros : Nat → List UInt16 → Nat × Nat
  | _, [] => (0, 0)
  | place, group :: groups =>
    let here := zerosAt (group :: groups)
    let later := longestZeros (place + 1) groups
    if later.2 ≤ here then (place, here) else later

/-- Groups in hexadecimal with colons between them. -/
def groupsText (groups : List UInt16) : String :=
  String.intercalate ":" (groups.map fun group => String.ofList (Nat.toDigits 16 group.toNat))

/-- The text of an address of version 6. -/
def Ipv6.text (ip : Ipv6) : String :=
  match ip.groups with
  | [0, 0, 0, 0, 0, 0xFFFF, high, low] =>
    "::ffff:" ++ Ipv4.text ⟨UInt8.ofNat (high.toNat / 256), UInt8.ofNat (high.toNat % 256),
      UInt8.ofNat (low.toNat / 256), UInt8.ofNat (low.toNat % 256)⟩
  | groups =>
    let (place, length) := longestZeros 0 groups
    if length < 2 then groupsText groups
    else groupsText (groups.take place) ++ "::" ++ groupsText (groups.drop (place + length))

/-- The text of an address. -/
def Ip.text : Ip → String
  | .v4 ip => ip.text
  | .v6 ip => ip.text

/-- The text of a socket's address. -/
def Socket.text : Socket → String
  | .v4 ip port => ip.text ++ ":" ++ Number.decimal port.toNat
  | .v6 ip scope port =>
    "[" ++ ip.text ++ (if scope = 0 then "" else "%" ++ Number.decimal scope.toNat) ++ "]:" ++
      Number.decimal port.toNat

/-! ### Reading -/

/-- A number of decimal digits below a bound, and what follows its digits. -/
def decimalBelow? (bound : Nat) (s : List Char) : Option (Nat × List Char) := do
  let n ← (Number.natural? (s.takeWhile Char.isDigit)).filter (· < bound)
  return (n, s.dropWhile Char.isDigit)

/-- An octet in at most three digits, without zeros before it. -/
def octet? (s : List Char) : Option (UInt8 × List Char) := do
  let ds := s.takeWhile Char.isDigit
  let (n, rest) ← decimalBelow? 256 s
  if 3 < ds.length || (ds.head? == some '0' && ds.length ≠ 1) then none
  else return (UInt8.ofNat n, rest)

/-- The text after a character that it starts with. -/
def after? (c : Char) : List Char → Option (List Char)
  | [] => none
  | d :: rest => if d == c then some rest else none

/-- An address of version 4, and what follows it. -/
def ipv4? (s : List Char) : Option (Ipv4 × List Char) := do
  let (a, rest) ← octet? s
  let (b, rest) ← octet? (← after? '.' rest)
  let (c, rest) ← octet? (← after? '.' rest)
  let (d, rest) ← octet? (← after? '.' rest)
  return (⟨a, b, c, d⟩, rest)

/-- A group of at most four hexadecimal digits, and what follows them. -/
def group? (s : List Char) : Option (Nat × List Char) :=
  let ds := s.takeWhile Text.Hex.isDigit
  if ds.isEmpty || 4 < ds.length then none
  else some (ds.foldl (fun n c => n * 16 + (Text.Hex.value? c).getD 0) 0,
    s.dropWhile Text.Hex.isDigit)

/-- Reads up to `limit` groups, which an address of version 4 may end; whether it did. -/
def groupsFrom : Nat → Bool → List Char → List Nat × Bool × List Char
  | 0, _, s => ([], false, s)
  | limit + 1, first, s =>
    let body? := if first then some s else after? ':' s
    match body? with
    | none => ([], false, s)
    | some body =>
      let embedded := if limit = 0 then none else ipv4? body
      match embedded with
      | some (ip, rest) =>
        ([ip.a.toNat * 256 + ip.b.toNat, ip.c.toNat * 256 + ip.d.toNat], true, rest)
      | none =>
        match group? body with
        | none => ([], false, s)
        | some (group, rest) =>
          let (groups, ended, rest) := groupsFrom limit false rest
          (group :: groups, ended, rest)

/-- An address of version 6, and what follows it. -/
def ipv6? (s : List Char) : Option (Ipv6 × List Char) :=
  let (head, ended, rest) := groupsFrom 8 true s
  if head.length = 8 then (Ipv6.ofGroups? head).map fun ip => (ip, rest)
  else if ended then none
  else do
    let rest ← after? ':' (← after? ':' rest)
    let (tail, _, rest) := groupsFrom (7 - head.length) true rest
    let ip ← Ipv6.ofGroups? (head ++ List.replicate (8 - head.length - tail.length) 0 ++ tail)
    return (ip, rest)

/-- A port, which has to end the text. -/
def port? (s : List Char) : Option UInt16 := do
  let (port, rest) ← decimalBelow? 65536 s
  if rest.isEmpty then return UInt16.ofNat port else none

/-- The scope of an address, zero if there is none. -/
def scope? : List Char → Option (UInt32 × List Char)
  | '%' :: rest => (decimalBelow? Number.bound32 rest).map fun (n, rest) => (UInt32.ofNat n, rest)
  | s => some (0, s)

/-- The address of a socket of version 4. -/
def socketV4? (s : List Char) : Option Socket := do
  let (ip, rest) ← ipv4? s
  return .v4 ip (← port? (← after? ':' rest))

/-- The address of a socket of version 6. -/
def socketV6? (s : List Char) : Option Socket := do
  let (ip, rest) ← ipv6? (← after? '[' s)
  let (scope, rest) ← scope? rest
  return .v6 ip scope (← port? (← after? ':' (← after? ']' rest)))

/-- The address of a socket. -/
def Socket.ofText? (s : String) : Option Socket :=
  (socketV4? s.toList).or (socketV6? s.toList)

end TenantReports.Net
