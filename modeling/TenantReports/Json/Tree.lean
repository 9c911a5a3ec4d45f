import TenantReports.Number.Decimal
import TenantReports.Text.Hex
import TenantReports.Text.Utf8

/-!
# The text of a JSON value

`parse` reads a JSON text into a `Tree` that keeps what the text holds: numbers as written and the
members of an object in their order, repeated ones included. A string whose escapes or octets name
no characters has no content; that is an error only for those who ask for the content, so a member
that nobody asks for may hold such a string, at any depth.

* `ofText?`: reads the characters of a text.
* `ofOctets?`: reads octets, of which only the strings that are asked for have to be UTF-8.
-/

namespace TenantReports.Json

open Number (Decimal)

/-- A JSON value as its text gives it. -/
inductive Tree
  | null
  | bool (value : Bool)
  | number (value : Decimal)
  | string (content : Option String)
  | array (items : List Tree)
  | object (members : List (Option String × Tree))
  deriving Inhabited

/-- The white space of JSON. -/
def isSpace (c : Char) : Bool :=
  c == ' ' || c == '\t' || c == '\n' || c == '\r'

/-- The text after the white space it starts with. -/
def skipSpace (s : List Char) : List Char :=
  s.dropWhile isSpace

/-! ### Strings -/

/-- The body of a string up to its closing quote, escapes included, and the text after the quote. -/
def stringBody : List Char → Option (List Char × List Char)
  | [] => none
  | '"' :: rest => some ([], rest)
  | '\\' :: 'u' :: a :: b :: c :: d :: rest =>
    if [a, b, c, d].all Text.Hex.isDigit then
      (stringBody rest).map fun (body, rest) => ('\\' :: 'u' :: a :: b :: c :: d :: body, rest)
    else none
  | '\\' :: c :: rest =>
    if ['"', '\\', '/', 'b', 'f', 'n', 'r', 't'].contains c then
      (stringBody rest).map fun (body, rest) => ('\\' :: c :: body, rest)
    else none
  | c :: rest =>
    if c.toNat < 0x20 || c == '\\' then none
    else (stringBody rest).map fun (body, rest) => (c :: body, rest)

/-- The number that four digits stand for. -/
def unit (a b c d : Char) : Nat :=
  [a, b, c, d].foldl (fun n digit => n * 16 + (Text.Hex.value? digit).getD 0) 0

/-- The character that a letter after a backslash stands for. -/
def escaped : Char → Char
  | 'b' => '\x08'
  | 'f' => '\x0c'
  | 'n' => '\n'
  | 'r' => '\r'
  | 't' => '\t'
  | c => c

/-- Whether a UTF-16 unit is the first of a pair. -/
def isHigh (n : Nat) : Bool :=
  0xD800 ≤ n && n < 0xDC00

/-- Whether a UTF-16 unit is the second of a pair. -/
def isLow (n : Nat) : Bool :=
  0xDC00 ≤ n && n < 0xE000

/-- The characters of a string's body; none if a unit of a surrogate pair stands alone. -/
def unescape : List Char → Option (List Char)
  | [] => some []
  | '\\' :: 'u' :: a :: b :: c :: d :: '\\' :: 'u' :: e :: f :: g :: h :: rest =>
    let first := unit a b c d
    let second := unit e f g h
    if isHigh first then
      if isLow second then
        (unescape rest).map
          (Char.ofNat (0x10000 + (first - 0xD800) * 0x400 + (second - 0xDC00)) :: ·)
      else none
    else if isLow first then none
    else (unescape ('\\' :: 'u' :: e :: f :: g :: h :: rest)).map (Char.ofNat first :: ·)
  | '\\' :: 'u' :: a :: b :: c :: d :: rest =>
    let first := unit a b c d
    if isHigh first || isLow first then none
    else (unescape rest).map (Char.ofNat first :: ·)
  | '\\' :: c :: rest => (unescape rest).map (escaped c :: ·)
  | c :: rest => (unescape rest).map (c :: ·)

/-! ### Numbers -/

/-- The whole part of a number: a zero alone or digits that do not start with one. -/
def wholePart : List Char → Option (List Char × List Char)
  | '0' :: rest => some (['0'], rest)
  | s =>
    let (ds, rest) := Number.spanDigits s
    if ds.isEmpty then none else some (ds, rest)

/-- The digits after a point, if there is one. -/
def fractionPart : List Char → Option (List Char × List Char)
  | '.' :: rest =>
    let (ds, rest) := Number.spanDigits rest
    if ds.isEmpty then none else some (ds, rest)
  | s => some ([], s)

/-- The sign of an exponent: `true` for a minus sign. -/
def exponentSign : List Char → Bool × List Char
  | '-' :: rest => (true, rest)
  | '+' :: rest => (false, rest)
  | s => (false, s)

/-- The sign and digits of an exponent, if there is one. -/
def exponentPart : List Char → Option (Option (Bool × List Char) × List Char)
  | [] => some (none, [])
  | c :: rest =>
    if c == 'e' || c == 'E' then
      let (negative, rest) := exponentSign rest
      let (ds, rest) := Number.spanDigits rest
      if ds.isEmpty then none else some (some (negative, ds), rest)
    else some (none, c :: rest)

/-- A number without its sign, and the text after it. -/
def unsignedNumber (negative : Bool) (s : List Char) : Option (Decimal × List Char) := do
  let (whole, rest) ← wholePart s
  let (fraction, rest) ← fractionPart rest
  let (exponent, rest) ← exponentPart rest
  return (⟨negative, whole, fraction, exponent⟩, rest)

/-- A number, and the text after it. -/
def number? : List Char → Option (Decimal × List Char)
  | '-' :: rest => unsignedNumber true rest
  | s => unsignedNumber false s

/-! ### Values -/

/-- How the characters of a string are found from those of its text. -/
abbrev Charset :=
  List Char → Option (List Char)

/-- The content of a string with the given body. -/
def content (charset : Charset) (body : List Char) : Option String :=
  ((charset body).bind unescape).map String.ofList

mutual

/-- The value a text starts with, and the text after it; `fuel` bounds the number of steps. -/
def value? (charset : Charset) : Nat → List Char → Option (Tree × List Char)
  | 0, _ => none
  | fuel + 1, s =>
    match skipSpace s with
    | 'n' :: 'u' :: 'l' :: 'l' :: rest => some (.null, rest)
    | 't' :: 'r' :: 'u' :: 'e' :: rest => some (.bool true, rest)
    | 'f' :: 'a' :: 'l' :: 's' :: 'e' :: rest => some (.bool false, rest)
    | '"' :: rest =>
      (stringBody rest).map fun (body, rest) => (.string (content charset body), rest)
    | '[' :: rest =>
      match skipSpace rest with
      | ']' :: rest => some (.array [], rest)
      | rest => (items? charset fuel rest).map fun (items, rest) => (.array items, rest)
    | '\x7b' :: rest =>
      match skipSpace rest with
      | '\x7d' :: rest => some (.object [], rest)
      | rest => (members? charset fuel rest).map fun (members, rest) => (.object members, rest)
    | rest => (number? rest).map fun (d, rest) => (.number d, rest)

/-- The items of an array up to its closing bracket, and the text after that. -/
def items? (charset : Charset) : Nat → List Char → Option (List Tree × List Char)
  | 0, _ => none
  | fuel + 1, s => do
    let (item, rest) ← value? charset fuel s
    match skipSpace rest with
    | ',' :: rest =>
      let (items, rest) ← items? charset fuel rest
      return (item :: items, rest)
    | ']' :: rest => return ([item], rest)
    | _ => none

/-- The members of an object up to its closing brace, and the text after that. -/
def members? (charset : Charset) :
    Nat → List Char → Option (List (Option String × Tree) × List Char)
  | 0, _ => none
  | fuel + 1, s =>
    match skipSpace s with
    | '"' :: rest => do
      let (body, rest) ← stringBody rest
      match skipSpace rest with
      | ':' :: rest =>
        let (value, rest) ← value? charset fuel rest
        let member := (content charset body, value)
        match skipSpace rest with
        | ',' :: rest =>
          let (members, rest) ← members? charset fuel rest
          return (member :: members, rest)
        | '\x7d' :: rest => return ([member], rest)
        | _ => none
      | _ => none
    | _ => none

end

/-- The value of a whole text: every step of a reader takes at least one character or is the last
one on its level. -/
def parse (charset : Charset) (s : List Char) : Option Tree :=
  match value? charset (2 * s.length + 2) s with
  | some (tree, rest) => if (skipSpace rest).isEmpty then some tree else none
  | none => none

/-- The value of a text. -/
def ofText? (s : String) : Option Tree :=
  parse some s.toList

/-- Reads characters that stand for octets as UTF-8. -/
def octetCharset : Charset := fun body =>
  Text.Utf8.decode? (body.map fun c => UInt8.ofNat c.toNat)

/-- The value of the octets of a text. -/
def ofOctets? (bytes : List UInt8) : Option Tree :=
  parse octetCharset (bytes.map fun b => Char.ofNat b.toNat)

end TenantReports.Json
