import TenantReports.Json.Tree
import TenantReports.Keyed
import TenantReports.Number.Shortest

/-!
# JSON values

A `Value` is what a JSON text means: the members of an object that was read are sorted and have one
value each. `Value.write` gives the compact text, with the members of an object in the order of the
list; `Value.ofTree?` reads what a text gives and refuses values nested too deeply. One name is kept
for numbers: an object whose first member has it is read as a number, or not at all.
-/

namespace TenantReports.Json

open Number (Decimal Floating Format)

/-- A JSON value. -/
inductive Value
  | null
  | bool (value : Bool)
  | number (value : Decimal)
  | string (value : String)
  | array (items : List Value)
  | object (members : List (String × Value))
  deriving Inhabited

/-! ### Writing -/

/-- A character inside a string. -/
def escapeChar (c : Char) : List Char :=
  if c == '"' then ['\\', '"']
  else if c == '\\' then ['\\', '\\']
  else if c == '\x08' then ['\\', 'b']
  else if c == '\x0c' then ['\\', 'f']
  else if c == '\n' then ['\\', 'n']
  else if c == '\r' then ['\\', 'r']
  else if c == '\t' then ['\\', 't']
  else if c.toNat < 0x20 then
    ['\\', 'u', '0', '0', Text.Hex.digit (c.toNat / 16), Text.Hex.digit (c.toNat % 16)]
  else [c]

/-- A string with its quotes. -/
def writeString (s : String) : List Char :=
  '"' :: s.toList.flatMap escapeChar ++ ['"']

/-- The exponent of a number, with its sign. -/
def writeExponent : Option (Bool × List Char) → List Char
  | none => []
  | some (negative, ds) => 'e' :: (if negative then '-' else '+') :: ds

/-- A number as it was written, except that an exponent has a small `e` and a sign. -/
def writeNumber (d : Decimal) : List Char :=
  (if d.negative then ['-'] else []) ++ d.whole ++
    (if d.fraction.isEmpty then [] else '.' :: d.fraction) ++ writeExponent d.exponent

mutual

/-- The compact text of a value. -/
def Value.write : Value → List Char
  | .null => ['n', 'u', 'l', 'l']
  | .bool true => ['t', 'r', 'u', 'e']
  | .bool false => ['f', 'a', 'l', 's', 'e']
  | .number d => writeNumber d
  | .string s => writeString s
  | .array [] => ['[', ']']
  | .array (item :: items) => '[' :: item.write ++ writeItems items
  | .object [] => ['\x7b', '\x7d']
  | .object ((key, value) :: members) =>
    '\x7b' :: writeString key ++ ':' :: value.write ++ writeMembers members

/-- The items after the first one, and the closing bracket. -/
def writeItems : List Value → List Char
  | [] => [']']
  | item :: items => ',' :: item.write ++ writeItems items

/-- The members after the first one, and the closing brace. -/
def writeMembers : List (String × Value) → List Char
  | [] => ['\x7d']
  | (key, value) :: members =>
    ',' :: writeString key ++ ':' :: value.write ++ writeMembers members

end

/-- The compact text of a value. -/
def Value.text (v : Value) : String :=
  String.ofList v.write

/-! ### Numbers -/

/-- The number that a decimal stands for: digits are kept, but an integer has no negative zero. -/
def Value.ofDecimal (d : Decimal) : Value :=
  .number d.unsignedZero

/-- A whole number. -/
def Value.int (n : Int) : Value :=
  .number ⟨n < 0, Number.digits n.natAbs, [], none⟩

/-- A natural number. -/
def Value.nat (n : Nat) : Value :=
  .number ⟨false, Number.digits n, [], none⟩

/-- The decimal that a number's text in the style of JSON writes. -/
def decimalOfText (negative : Bool) (s : List Char) : Decimal :=
  ((unsignedNumber negative s).map (·.1)).getD ⟨negative, ['0'], [], none⟩

/-- The shortest decimal of a number of a format; null if it is not finite. -/
def Value.float (f : Format) : Floating → Value
  | .nan | .infinite _ => .null
  | .finite negative m e =>
    .number (decimalOfText negative (Number.NumberStyle.json.write f (.finite false m e)))

/-! ### Reading -/

/-- The name that is kept for numbers: an object that begins with it stands for the number that its
only member tells. -/
def numberName : String := "$serde_json::private::Number"

/-- Whether an object begins with the name that is kept for numbers. -/
def standsForNumber (members : List (Option String × Tree)) : Bool :=
  members.head?.any fun member => member.1 == some numberName

/-- The number that the only member of an object tells. -/
def numberOfMembers? : List (Option String × Tree) → Option Value
  | [(_, .string (some digits))] =>
    match number? digits.toList with
    | some (d, []) => some (.ofDecimal d)
    | _ => none
  | _ => none

mutual

/-- The value of what a text gives, nested at most `depth` levels. -/
def Value.ofTree? : Nat → Tree → Option Value
  | _, .null => some .null
  | _, .bool b => some (.bool b)
  | _, .number d => some (.ofDecimal d)
  | _, .string content => content.map .string
  | 0, .array _ => none
  | depth + 1, .array items => (itemsOfTrees? depth items).map .array
  | 0, .object _ => none
  | depth + 1, .object members =>
    if standsForNumber members then numberOfMembers? members
    else (membersOfTrees? depth members []).map .object

/-- The values of an array's items. -/
def itemsOfTrees? : Nat → List Tree → Option (List Value)
  | _, [] => some []
  | depth, item :: items => do
    let item ← Value.ofTree? depth item
    let items ← itemsOfTrees? depth items
    return item :: items

/-- The values of an object's members, put into those already read. -/
def membersOfTrees? : Nat → List (Option String × Tree) → List (String × Value) →
    Option (List (String × Value))
  | _, [], done => some done
  | depth, (key, value) :: members, done => do
    let key ← key
    let value ← Value.ofTree? depth value
    membersOfTrees? depth members (insertEntry key value done)

end

/-- The number of levels that values may be nested. -/
def maxDepth : Nat := 127

/-- The value of a text. -/
def Value.ofText? (s : String) : Option Value :=
  (Json.ofText? s).bind (Value.ofTree? maxDepth)

end TenantReports.Json
