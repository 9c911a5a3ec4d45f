import TenantReports.Number.Natural
import TenantReports.Pattern.Options
import TenantReports.Text.Search

/-!
# Escapes in patterns

What follows a backslash: a character, a set of characters or an anchor. Every character of ASCII
that is neither a letter nor a digit stands for itself, except for the angle brackets, which are
anchors; references to groups do not exist.
-/

namespace TenantReports.Pattern

/-- What an escape stands for. -/
inductive Escaped
  /-- A character; `octet` tells whether it was given as two digits. -/
  | char (c : Char) (octet : Bool)
  | set (letters : Letters)
  | anchor (kind : Anchor)

/-- The text without the blanks and comments it starts with, where these mean nothing. -/
def skipSpaced (options : Options) (s : List Char) : List Char :=
  if options.spaced then go s.length s else s
where
  /-- Skips at most the given number of characters. -/
  go : Nat → List Char → List Char
    | fuel + 1, c :: rest =>
      if Text.isBlank c then go fuel rest
      else if c == '#' then go fuel ((rest.dropWhile (· != '\n')).drop 1)
      else c :: rest
    | _, s => s

/-- The character with a number, if there is one. -/
def charOfNat? (n : Nat) : Option Char :=
  if n.isValidChar then some (Char.ofNat n) else none

/-- The number of hexadecimal digits. -/
def hexNumber? (ds : List Char) : Option Nat :=
  if ds.isEmpty then none
  else ds.foldlM (fun n c => (Text.Hex.value? c).map fun v => n * 16 + v) 0

/-- The first `n` characters, with blanks between them where these mean nothing. -/
def takeSpaced? (options : Options) : Nat → List Char → Option (List Char × List Char)
  | 0, s => some ([], s)
  | n + 1, s =>
    match skipSpaced options s with
    | [] => none
    | c :: rest => (takeSpaced? options n rest).map fun (taken, rest) => (c :: taken, rest)

/-- What stands before a closing brace, and what after it. -/
def braced? (options : Options) (s : List Char) : Option (List Char × List Char) :=
  match s.dropWhile (· != '\x7d') with
  | _ :: rest =>
    let inner := s.takeWhile (· != '\x7d')
    some (if options.spaced then inner.filter (!Text.isBlank ·) else inner, rest)
  | [] => none

/-- A character by its number: as many digits as given, or any number of them in braces. -/
def hexEscape? (options : Options) (width : Nat) (s : List Char) : Option (Escaped × List Char) :=
  match skipSpaced options s with
  | '\x7b' :: rest => do
    let (ds, rest) ← braced? options rest
    let c ← (hexNumber? ds).bind charOfNat?
    return (.char c false, rest)
  | s => do
    let (ds, rest) ← takeSpaced? options width s
    let c ← (hexNumber? ds).bind charOfNat?
    return (.char c (width == 2), rest)

/-- The name of a property in small letters without blanks, hyphens, underscores and a leading
`is`. -/
def plainName (name : List Char) : String :=
  let kept := (name.filter fun c => !(Text.isBlank c || c == '-' || c == '_')).map Char.toLower
  match kept with
  | 'i' :: 's' :: c :: rest => String.ofList (c :: rest)
  | _ => String.ofList kept

/-- The set of characters that a property describes, perhaps with a value. -/
def propertySet? (name : List Char) : Option Letters :=
  let category (key value : List Char) : Option Letters :=
    if ["gc", "generalcategory"].contains (plainName key) then Letters.property? (plainName value)
    else none
  match Text.splitAt? ['!', '='] name with
  | some (key, value) => (category key value).map .negate
  | none =>
    match (Text.splitAt? [':'] name).or (Text.splitAt? ['='] name) with
    | some (key, value) => category key value
    | none => Letters.property? (plainName name)

/-- The name of a property: one letter or any text in braces. -/
def propertyName? (options : Options) (s : List Char) : Option (List Char × List Char) :=
  match skipSpaced options s with
  | '\x7b' :: rest => braced? options rest
  | '\\' :: _ | [] => none
  | c :: rest => some ([c], rest)

/-- A set in the options' case: letters stand for all their cases where this is wanted. -/
def Options.fold (options : Options) (set : Letters) : Letters :=
  if options.anyCase then .anyCase set else set

/-- A property's set, or its complement. -/
def propertyEscape? (options : Options) (negated : Bool) (s : List Char) :
    Option (Escaped × List Char) := do
  let (name, rest) ← propertyName? options s
  let set ← propertySet? name
  if options.unicode then
    let set := options.fold set
    return (.set (if negated then .negate set else set), rest)
  else none

/-- The sets of digits, blanks and characters of words. -/
def classOfLetter? (unicode : Bool) (c : Char) : Option Letters :=
  match c, unicode with
  | 'd', true => some .digit
  | 's', true => some .blank
  | 'w', true => some .word
  | 'd', false => Letters.named? "digit"
  | 's', false => Letters.named? "space"
  | 'w', false => Letters.named? "word"
  | _, _ => none

/-- A set by its letter; a capital is its complement, which has to be one of characters. -/
def classEscape? (options : Options) (c : Char) : Option Escaped :=
  match classOfLetter? options.unicode c with
  | some set => some (.set set)
  | none => do
    let set ← classOfLetter? options.unicode c.toLower
    if options.unicode then return .set (.negate set) else none

/-- The kinds of word boundaries by their names in braces. -/
def wordAnchor? (ascii : Bool) (name : List Char) : Option Anchor :=
  match String.ofList name with
  | "start" => some (.wordStart ascii)
  | "end" => some (.wordEnd ascii)
  | "start-half" => some (.wordStartHalf ascii)
  | "end-half" => some (.wordEndHalf ascii)
  | _ => none

/-- A word boundary, which a name in braces may follow; other braces are left for a repetition. -/
def boundary? (options : Options) (s : List Char) : Option (Escaped × List Char) :=
  let ascii := !options.unicode
  match s with
  | '\x7b' :: rest =>
    match skipSpaced options rest with
    | [] => none
    | c :: _ =>
      if c.isAlpha || c == '-' then do
        let (name, rest) ← braced? options rest
        return (.anchor (← wordAnchor? ascii name), rest)
      else some (.anchor (.boundary ascii), s)
  | _ => some (.anchor (.boundary ascii), s)

/-- What follows a backslash, and the text after it. -/
def escape? (options : Options) : List Char → Option (Escaped × List Char)
  | [] => none
  | c :: rest =>
    let ascii := !options.unicode
    match c with
    | 'x' => hexEscape? options 2 rest
    | 'u' => hexEscape? options 4 rest
    | 'U' => hexEscape? options 8 rest
    | 'p' => propertyEscape? options false rest
    | 'P' => propertyEscape? options true rest
    | 'd' | 's' | 'w' | 'D' | 'S' | 'W' => (classEscape? options c).map fun set => (set, rest)
    | 'a' => some (.char '\x07' false, rest)
    | 'f' => some (.char '\x0c' false, rest)
    | 't' => some (.char '\t' false, rest)
    | 'n' => some (.char '\n' false, rest)
    | 'r' => some (.char '\r' false, rest)
    | 'v' => some (.char '\x0b' false, rest)
    | 'A' => some (.anchor .textStart, rest)
    | 'z' => some (.anchor .textEnd, rest)
    | 'b' => boundary? options rest
    | 'B' => some (.anchor (.notBoundary ascii), rest)
    | '<' => some (.anchor (.wordStart ascii), rest)
    | '>' => some (.anchor (.wordEnd ascii), rest)
    | c => if c.toNat < 0x80 && !c.isAlphanum then some (.char c false, rest) else none

end TenantReports.Pattern
