import TenantReports.Pattern.Escape

/-!
# The text of a pattern

`Regex.ofText?` reads a regular expression. A pattern that would take too much room when its
repetitions are written out is refused, as one that is no pattern at all.
-/

namespace TenantReports.Pattern

/-! ### Classes in brackets -/

/-- A class by its name between `[:` and `:]`, and the text after it. -/
def namedClass? (options : Options) : List Char → Option (Letters × List Char)
  | '[' :: ':' :: rest => do
    let negated := rest.head? == some '^'
    let rest := if negated then rest.drop 1 else rest
    let (name, rest) ← Text.splitAt? [':'] rest
    let set ← Letters.named? (String.ofList name)
    match rest with
    | ']' :: rest =>
      let set := options.fold set
      return (if negated then .negate set else set, rest)
    | _ => none
  | _ => none

/-- A character or an escape inside a class. -/
def classItem? (options : Options) : List Char → Option (Escaped × List Char)
  | [] => none
  | '\\' :: rest => escape? options rest
  | c :: rest => some (.char c false, rest)

/-- A character that a class may hold: with the scripts switched off, only those of ASCII. -/
def classChar? (options : Options) : Escaped → Option Char
  | .char c _ => if options.unicode || c.toNat < 0x80 then some c else none
  | _ => none

/-- The set that an item of a class stands for. -/
def itemSet? (options : Options) : Escaped → Option Letters
  | .set set => some set
  | item => (classChar? options item).map fun c => options.fold (.single c)

/-- An item of a class, or the range between two. -/
def classRange? (options : Options) (s : List Char) : Option (Letters × List Char) := do
  let (first, rest) ← classItem? options s
  let rest := skipSpaced options rest
  match rest with
  | [] => none
  | '-' :: after =>
    match skipSpaced options after with
    | [] => none
    | ']' :: _ | '-' :: _ => return (← itemSet? options first, rest)
    | after =>
      let (last, rest) ← classItem? options after
      let low ← classChar? options first
      let high ← classChar? options last
      if low ≤ high then return (options.fold (.range low high), rest) else none
  | _ => return (← itemSet? options first, rest)

/-- The hyphens that a class starts with. -/
def leadingHyphens (options : Options) : Nat → List Char → Letters × List Char
  | fuel + 1, s =>
    match skipSpaced options s with
    | '-' :: rest =>
      let (set, rest) := leadingHyphens options fuel rest
      (.union (.single '-') set, rest)
    | s => (.none, s)
  | 0, s => (.none, s)

/-- The sign of a class, what it holds at its start, where a closing bracket stands for itself, and
the text after that. -/
def classStart (options : Options) (s : List Char) : Bool × Letters × List Char :=
  let s := skipSpaced options s
  let negated := s.head? == some '^'
  let s := if negated then skipSpaced options (s.drop 1) else s
  match s with
  | ']' :: rest => (negated, .single ']', rest)
  | _ =>
    let (set, rest) := leadingHyphens options s.length s
    (negated, set, rest)

/-- A set or its complement. -/
def signed (negated : Bool) (set : Letters) : Letters :=
  if negated then .negate set else set

/-- Reads a class up to its closing bracket. `operand` takes the union that is being read to the set
it is an operand of, `items` is the union so far. -/
def classBody? (options : Options) : Nat → (Letters → Letters) → Letters → List Char →
    Option (Letters × List Char)
  | 0, _, _, _ => none
  | fuel + 1, operand, items, s =>
    let s := skipSpaced options s
    match s with
    | [] => none
    | ']' :: rest => some (operand items, rest)
    | '[' :: rest =>
      match namedClass? options s with
      | some (set, rest) => classBody? options fuel operand (.union items set) rest
      | none => do
        let (negated, start, rest) := classStart options rest
        let (set, rest) ← classBody? options fuel id start rest
        classBody? options fuel operand (.union items (signed negated set)) rest
    | '&' :: '&' :: rest =>
      classBody? options fuel (.intersection (operand items)) .none rest
    | '-' :: '-' :: rest => classBody? options fuel (.difference (operand items)) .none rest
    | '~' :: '~' :: rest =>
      classBody? options fuel (.symmetricDifference (operand items)) .none rest
    | _ => do
      let (set, rest) ← classRange? options s
      classBody? options fuel operand (.union items set) rest

/-- A class after its opening bracket; complements need the scripts. -/
def class? (options : Options) (s : List Char) : Option (Letters × List Char) := do
  let (negated, start, rest) := classStart options s
  let (set, rest) ← classBody? options (2 * s.length + 2) id start rest
  if negated && !options.unicode then none else return (signed negated set, rest)

/-! ### Repetitions -/

/-- The text after a mark of preference, which is without effect here. -/
def afterPreference : List Char → List Char
  | '?' :: rest => rest
  | s => s

/-- A count of repetitions, and the text after it. -/
def count? (options : Options) (s : List Char) : Option (Nat × List Char) := do
  let body := s.dropWhile Text.isBlank
  let skipped := if options.spaced then fun c => c.isDigit || Text.isBlank c else Char.isDigit
  let n ← Number.natural? ((body.takeWhile skipped).filter Char.isDigit)
  if n < Number.bound32 then
    return (n, skipSpaced options ((body.dropWhile skipped).dropWhile Text.isBlank))
  else none

/-- The bounds of a repetition in braces, and the text after the closing one. -/
def bounds? (options : Options) (s : List Char) : Option (Nat × Option Nat × List Char) := do
  let (least, rest) ← count? options s
  match rest with
  | '\x7d' :: rest => return (least, some least, skipSpaced options rest)
  | ',' :: rest =>
    match skipSpaced options rest with
    | '\x7d' :: rest => return (least, none, skipSpaced options rest)
    | rest =>
      let (most, rest) ← count? options rest
      match rest with
      | '\x7d' :: rest =>
        if least ≤ most then return (least, some most, skipSpaced options rest) else none
      | _ => none
  | _ => none

/-- A mark of repetition: its bounds and the text after it. -/
def repetition? (options : Options) (mark : Char) (rest : List Char) :
    Option (Nat × Option Nat × List Char) :=
  match mark with
  | '*' => some (0, none, afterPreference rest)
  | '+' => some (1, none, afterPreference rest)
  | '?' => some (0, some 1, afterPreference rest)
  | _ => (bounds? options (skipSpaced options rest)).map fun (least, most, rest) =>
    (least, most, afterPreference rest)

/-- Whether a character starts a mark of repetition. -/
def isRepetition (c : Char) : Bool :=
  c == '*' || c == '+' || c == '?' || c == '\x7b'

/-! ### Expressions -/

/-- The characters that a point stands for. -/
def pointSet (options : Options) : Letters :=
  if options.pointAll then .all
  else if options.returns then .negate (.union (.single '\n') (.single '\r'))
  else .negate (.single '\n')

/-- The anchor at a start. -/
def startAnchor (options : Options) : Anchor :=
  match options.manyLines, options.returns with
  | false, _ => .textStart
  | true, false => .lineStart
  | true, true => .lineStartCr

/-- The anchor at an end. -/
def endAnchor (options : Options) : Anchor :=
  match options.manyLines, options.returns with
  | false, _ => .textEnd
  | true, false => .lineEnd
  | true, true => .lineEndCr

/-- A single operand: a character, an escape, a class, a point or an anchor. -/
def operand? (options : Options) : List Char → Option (Regex × List Char)
  | [] => none
  | '\\' :: rest => do
    match ← escape? options rest with
    | (.char c octet, rest) =>
      if octet && !options.unicode && 0x80 ≤ c.toNat then none
      else return (.letter (options.fold (.single c)), rest)
    | (.set set, rest) => return (.letter set, rest)
    | (.anchor kind, rest) => return (.anchor kind, rest)
  | '[' :: rest => (class? options rest).map fun (set, rest) => (.letter set, rest)
  | '.' :: rest => if options.unicode then some (.letter (pointSet options), rest) else none
  | '^' :: rest => some (.anchor (startAnchor options), rest)
  | '$' :: rest => some (.anchor (endAnchor options), rest)
  | c :: rest => some (.letter (options.fold (.single c)), rest)

/-- What a reader knows at a place: the options, and the names that groups have. -/
structure Reading where
  options : Options
  names : List String

/-- The reading inside a group; a name may be given once. -/
def Reading.enter? (reading : Reading) (options : Options) : Option String → Option Reading
  | none => some { reading with options := options }
  | some name =>
    if reading.names.contains name then none else some ⟨options, name :: reading.names⟩

mutual

/-- Alternatives up to a closing parenthesis or the end of the text. -/
def alternatives? : Nat → Reading → List Char → Option (Regex × Reading × List Char)
  | 0, _, _ => none
  | fuel + 1, reading, s => do
    let (first, reading, rest) ← branch? fuel reading .empty none s
    match rest with
    | '|' :: rest =>
      let (others, reading, rest) ← alternatives? fuel reading rest
      return (.either first others, reading, rest)
    | _ => return (first, reading, rest)

/-- One alternative: `before` is what was read but for the last operand, which may be repeated. -/
def branch? : Nat → Reading → Regex → Option Regex → List Char →
    Option (Regex × Reading × List Char)
  | 0, _, _, _, _ => none
  | fuel + 1, reading, before, last, s =>
    let sofar := match last with
      | some operand => .concat before operand
      | none => before
    let s := skipSpaced reading.options s
    match s with
    | [] | '|' :: _ | ')' :: _ => some (sofar, reading, s)
    | '(' :: rest => do
      match ← opening? reading.options (skipSpaced reading.options rest) with
      | .switch options rest => branch? fuel { reading with options := options } sofar none rest
      | .group options name rest =>
        let (inner, inside, rest) ← alternatives? fuel (← reading.enter? options name) rest
        match rest with
        | ')' :: rest =>
          branch? fuel { inside with options := reading.options } sofar (some inner) rest
        | _ => none
    | c :: rest =>
      if isRepetition c then do
        let operand ← last
        let (least, most, rest) ← repetition? reading.options c rest
        branch? fuel reading before (some (.times operand least most)) rest
      else do
        let (operand, rest) ← operand? reading.options s
        branch? fuel reading sofar (some operand) rest

end

/-- The greatest size of an expression. -/
def maxSize : Nat := 327680

/-- The expression that a pattern stands for. -/
def Regex.ofText? (pattern : String) : Option Regex := do
  let s := pattern.toList
  let (regex, _, rest) ← alternatives? (3 * s.length + 3) ⟨.initial, []⟩ s
  if rest.isEmpty && regex.size ≤ maxSize then return regex else none

end TenantReports.Pattern
