import TenantReports.Database.Effect
import TenantReports.Net.Address
import TenantReports.Postgres.Calendar
import TenantReports.Postgres.ColumnType
import TenantReports.Postgres.Interval
import TenantReports.Postgres.Numeric

/-!
# Values from the server

The server sends each value as octets whose meaning its type tells. `decodeScalar` reads the value
of a scalar type and `decodeArray` the elements of an array, of which none may be null. A value that
cannot be read makes the whole result unreadable.

* `decodeRows`: the rows of a result; one without rows has no columns either.
-/

namespace TenantReports.Postgres

open Json (Value)
open Number (Format)

/-! ### Scalars -/

/-- The value, or an error with the given wording. -/
def orElse {α : Type} (reason : String) : Option α → Except String α
  | some a => .ok a
  | none => .error reason

/-- The wording for octets that end too soon. -/
def truncated : String := "failed to fill whole buffer"

/-- An integer of at most eight octets, within the bounds of one of `count` octets. -/
def integer (count : Nat) (bytes : List UInt8) : Except String Int :=
  let n := Binary.signed bytes
  if bytes.isEmpty ∨ 8 < bytes.length then .error "integer size must be between 1 and 8 bytes"
  else if 2 * n < -(Nat.pow 256 count) ∨ Nat.pow 256 count ≤ 2 * n then
    .error "out of range integral type conversion attempted"
  else .ok n

/-- An integer as a value. -/
def integerValue (count : Nat) (bytes : List UInt8) : Except String DbValue :=
  (integer count bytes).map fun n => .int (Int64.ofInt n)

/-- Text. -/
def textOf (bytes : List UInt8) : Except String String :=
  orElse "invalid utf-8 sequence" (Text.Utf8.toString? bytes)

/-- A decimal as a value: a number in JSON with all its digits. -/
def exactNumber (x : Number.Fixed) : DbValue :=
  .json (.ofDecimal x.toDecimal)

/-- An amount of money in hundredths. -/
def moneyOf (hundredths : Int) : Number.Fixed :=
  ⟨hundredths < 0, hundredths.natAbs, 2⟩

/-- A JSON text. -/
def jsonOf (bytes : List UInt8) : Except String Value :=
  orElse "invalid JSON" ((Json.ofOctets? bytes).bind (Value.ofTree? Json.maxDepth))

/-- A JSON text after the number of the format's version. -/
def versionedJson : List UInt8 → Except String Value
  | 1 :: bytes => jsonOf bytes
  | _ => .error "unsupported JSONB format version"

/-- The address of a network and the length of the part that all its machines share. -/
structure Network where
  address : Net.Ip
  shared : Nat
  deriving DecidableEq, Inhabited

/-- The groups of 16 bits that octets are. -/
def groupsOf : List UInt8 → List Nat
  | high :: low :: rest => (high.toNat * 256 + low.toNat) :: groupsOf rest
  | _ => []

/-- A network. -/
def networkOf : List UInt8 → Except String Network
  | 2 :: shared :: _ :: 4 :: [a, b, c, d] =>
    if shared.toNat ≤ 32 then .ok ⟨.v4 ⟨a, b, c, d⟩, shared.toNat⟩
    else .error "invalid IP prefix length"
  | 3 :: shared :: _ :: 16 :: rest =>
    if 128 < shared.toNat then .error "invalid IP prefix length"
    else orElse "invalid data received when expecting an INET"
      ((Net.Ipv6.ofGroups? (groupsOf rest)).map fun ip => ⟨.v6 ip, shared.toNat⟩)
  | _ => .error "invalid data received when expecting an INET"

/-- A network as text. -/
def Network.text (network : Network) : String :=
  network.address.text ++ "/" ++ Number.decimal network.shared

/-- Whether a network is a single machine. -/
def Network.isMachine (network : Network) : Bool :=
  match network.address with
  | .v4 _ => network.shared == 32
  | .v6 _ => network.shared == 128

/-- A network as text; of a single machine only the address. -/
def Network.briefText (network : Network) : String :=
  if network.isMachine then network.address.text else network.text

/-- A moment as text. -/
def moment (bytes : List UInt8) : Except String String := do
  let (micros, _) ← orElse truncated (Binary.signed? 8 bytes)
  orElse "timestamp out of range" (momentText micros)

/-- A date as text. -/
def dateOf (bytes : List UInt8) : Except String String := do
  let (day, _) ← orElse truncated (Binary.signed? 4 bytes)
  let date := Date.ofDay day
  if date.isNear then return date.text else .error "date out of range"

/-- A time of day as text. -/
def timeOf (bytes : List UInt8) : Except String String := do
  let (micros, _) ← orElse truncated (Binary.signed? 8 bytes)
  return clockText (timeOfDay micros)

/-- A time of day with its offset as text; the server counts offsets to the west. -/
def zonedTimeOf (bytes : List UInt8) : Except String String := do
  let (micros, rest) ← orElse truncated (Binary.signed? 8 bytes)
  let (west, _) ← orElse truncated (Binary.signed? 4 rest)
  if west.natAbs < 86400 then return clockText (timeOfDay micros) ++ offsetText (-west)
  else .error "offset out of range"

/-- An interval. -/
def intervalOf (bytes : List UInt8) : Except String Interval := do
  let (micros, rest) ← orElse truncated (Binary.signed? 8 bytes)
  let (days, rest) ← orElse truncated (Binary.signed? 4 rest)
  let (months, _) ← orElse truncated (Binary.signed? 4 rest)
  return ⟨Int32.ofInt months, Int32.ofInt days, Int64.ofInt micros⟩

/-- A floating-point number of 32 bits. -/
def singleOf (bytes : List UInt8) : Except String Number.Floating :=
  (orElse truncated (Binary.unsigned? 4 bytes)).map fun read => Format.single.ofBits 8 read.1

/-- A floating-point number of 64 bits. -/
def doubleOf (bytes : List UInt8) : Except String Number.Floating :=
  (orElse truncated (Binary.unsigned? 8 bytes)).map fun read => Format.double.ofBits 11 read.1

/-- An exact number. -/
def numericOf (bytes : List UInt8) : Except String Number.Fixed :=
  ((Numeric.ofOctets bytes).bind Numeric.toFixed).mapError NumericError.message

/-- The value of a scalar type. -/
def decodeScalar (bytes : List UInt8) : ScalarType → Except String DbValue
  | .bool => (orElse truncated bytes.head?).map fun first => .bool (first != 0)
  | .int2 => integerValue 2 bytes
  | .int4 => integerValue 4 bytes
  | .int8 => integerValue 8 bytes
  | .oid => (orElse truncated (Binary.unsigned? 4 bytes)).map fun read =>
    .int (Int64.ofNat read.1)
  | .float4 => (singleOf bytes).map fun x => .float (Format.double.convert x)
  | .float8 => (doubleOf bytes).map .float
  | .numeric => (numericOf bytes).map exactNumber
  | .money => (orElse truncated (Binary.signed? 8 bytes)).map fun read =>
    exactNumber (moneyOf read.1)
  | .text | .varchar | .padded | .name | .citext => (textOf bytes).map .text
  | .octet =>
    (integer 1 bytes).map fun n => .text (String.singleton (Char.ofNat (n.emod 256).toNat))
  | .bytea => .ok (.text ("\\x" ++ String.ofList (Text.Hex.ofOctets bytes)))
  | .json => (jsonOf bytes).map .json
  | .jsonb => (versionedJson bytes).map .json
  | .uuid => (orElse "invalid length of a UUID" (Uuid.ofOctets? bytes)).map .uuid
  | .inet => (networkOf bytes).map fun network => .text network.briefText
  | .cidr => (networkOf bytes).map fun network => .text network.text
  | .timestamptz => (moment bytes).map fun text => .text (text ++ "Z")
  | .timestamp => (moment bytes).map .text
  | .date => (dateOf bytes).map .text
  | .time => (timeOf bytes).map .text
  | .timetz => (zonedTimeOf bytes).map .text
  | .interval => (intervalOf bytes).map fun interval => .text interval.text

/-! ### Arrays -/

/-- An element in JSON. Arrays read their elements on their own: whole numbers stay as wide as they
are sent, and floating-point numbers of 32 bits keep their own shortest text. -/
def decodeElement (type : ScalarType) (bytes : List UInt8) : Except String Value :=
  match type with
  | .text | .varchar | .padded | .name => (textOf bytes).map .string
  | .bool => (orElse truncated bytes.head?).map fun first => .bool (first != 0)
  | .int2 => (integer 2 bytes).map .int
  | .int4 => (integer 4 bytes).map .int
  | .int8 => (integer 8 bytes).map .int
  | .float4 => (singleOf bytes).map (.float .single)
  | .float8 => (doubleOf bytes).map (.float .double)
  | .numeric => (numericOf bytes).map fun x => .ofDecimal x.toDecimal
  | .uuid =>
    (orElse "invalid length of a UUID" (Uuid.ofOctets? bytes)).map fun id => .string id.text
  | .json => jsonOf bytes
  | .jsonb => versionedJson bytes
  | _ => .error "elements of this type are not read"

/-- The octets of an element, none for null, and what follows it. -/
def element? (bytes : List UInt8) : Option (Option (List UInt8) × List UInt8) := do
  let (length, rest) ← Binary.signed? 4 bytes
  if length < 0 then return (none, rest)
  else
    let (element, rest) ← Binary.take? length.toNat rest
    return (some element, rest)

/-- The elements of an array. -/
def decodeElements (type : ScalarType) : Nat → List UInt8 → Except String (List Value)
  | 0, _ => .ok []
  | count + 1, bytes =>
    match element? bytes with
    | none => .error truncated
    | some (none, _) => .error "unexpected null"
    | some (some element, rest) =>
      match decodeElement type element with
      | .error reason => .error reason
      | .ok value => (decodeElements type count rest).map fun values => value :: values

/-- The elements of an array of one dimension that counts from one, after its number of
dimensions. -/
def decodeDimension (type : ScalarType) (bytes : List UInt8) : Except String (List Value) := do
  let (_, rest) ← orElse truncated (Binary.take? 8 bytes)
  let (length, rest) ← orElse truncated (Binary.signed? 4 rest)
  let (lower, rest) ← orElse truncated (Binary.signed? 4 rest)
  if length < 0 then .error "invalid length of an array"
  else if lower ≠ 1 then .error "only arrays starting at one are supported"
  else decodeElements type length.toNat rest

/-- An array. -/
def decodeArray (type : ScalarType) (bytes : List UInt8) : Except String (List Value) := do
  let (dimensions, rest) ← orElse truncated (Binary.signed? 4 bytes)
  if dimensions = 0 then return []
  else if dimensions ≠ 1 then .error "only one-dimensional arrays are supported"
  else decodeDimension type rest

/-! ### Results -/

/-- Why a value cannot be read. -/
inductive DecodeError
  /-- Values of its type are not read. -/
  | unsupported (typeName : String)
  /-- Its octets do not make a value of its type. -/
  | malformed (reason : String)
  deriving DecidableEq, Repr, Inhabited

/-- The wording of an error in a column, which is also told by its place. -/
def DecodeError.message (place : Nat) (column : String) : DecodeError → String
  | .unsupported typeName => "column " ++ column ++ ": unsupported type " ++ typeName
  | .malformed reason =>
    "column " ++ column ++ ": error occurred while decoding column " ++ Number.decimal place ++
      ": " ++ reason

/-- The value of a type. -/
def decodeTyped (bytes : List UInt8) : ColumnType → Except DecodeError DbValue
  | .scalar type => (decodeScalar bytes type).mapError .malformed
  | .array type =>
    if type.hasArrays then
      ((decodeArray type bytes).map fun values => .json (.array values)).mapError .malformed
    else .error (.unsupported (ColumnType.array type).typeName)
  | .enumeration _ => ((textOf bytes).map .text).mapError .malformed
  | .other name => .error (.unsupported name)

/-- The value of a column. -/
def decodeValue (place : Nat) (column : Column) : Option (List UInt8) → Except DbError DbValue
  | none => .ok .null
  | some bytes =>
    (decodeTyped bytes column.type).mapError fun error => .decode (error.message place column.name)

/-- The values of a row, from a place on. -/
def decodeRow : Nat → List Column → List (Option (List UInt8)) → Except DbError (List DbValue)
  | place, column :: columns, value :: values =>
    match decodeValue place column value with
    | .error error => .error error
    | .ok first => (decodeRow (place + 1) columns values).map fun others => first :: others
  | _, _, _ => .ok []

/-- The rows of a result; one without rows has no columns either. -/
def decodeRows (table : Table) : Except DbError RawRows :=
  let names := if table.rows.isEmpty then [] else table.columns.map (·.name)
  (table.rows.mapM (decodeRow 0 table.columns)).map fun rows =>
    rows.foldl RawRows.push ⟨names, []⟩

end TenantReports.Postgres
