import TenantReports.Proofs.Postgres.Marks

/-!
# How the server reads a statement

**The lexical rules of the server, with standard-conforming strings, as far as they decide where a
parameter stands.** A reader goes through a statement character by character; `Reading` is all that
it has to know of what came before.

* A literal holds no escapes unless the single letter `E` stands right before it. One that holds
  escapes goes on after a doubled quote, and also after a quote on a later line with nothing but
  blanks and line comments in between.
* Between `$tag$` and the next `$tag$` nothing has a meaning; the tag may be empty.
* A block comment ends where every comment that begins inside of it has ended; a line comment ends
  with either character of a line's end.
* Every character beyond ASCII is a letter, and a name that has begun goes on over dollar signs. A
  number does not, and neither does a parameter.

Text that the server rejects as a whole, such as a number with letters directly after it, is read in
some way.

* `Reading.after`: the step of the reader.
* `parameters`: the marks of a statement, as the server reads it.
* `castParameters`: the statement with its casts where the server reads parameters.
-/

namespace TenantReports.Postgres

/-! ### Characters -/

/-- A character that a name can begin with. -/
def beginsName (c : Char) : Bool :=
  c.isAlpha || c == '_' || 128 ≤ c.toNat

/-- A character that a name can go on with. -/
def extendsName (c : Char) : Bool :=
  beginsName c || c.isDigit || c == '$'

/-- The letter of escapes and of powers of ten. -/
def isLetterE (c : Char) : Bool :=
  c == 'e' || c == 'E'

/-- A character that ends a line. -/
def isLineEnd (c : Char) : Bool :=
  c == '\n' || c == '\r'

def isBlank (c : Char) : Bool :=
  isLineEnd c || c == ' ' || c == '\t' || c == '\x0b' || c == '\x0c'

/-! ### What the reader remembers -/

/-- How a number has gone on so far. -/
inductive Figure
  | whole
  | fraction
  /-- Behind the letter of a power of ten. -/
  | power
  /-- Behind another letter, as in numbers of another base. -/
  | lettered
  deriving DecidableEq, Repr

/-- How a number goes on with a character, if it does. -/
def Figure.next? (figure : Figure) (previous : Option Char) (c : Char) : Option Figure :=
  match figure with
  | .whole =>
    if c.isDigit || c == '_' then some .whole
    else if c == '.' then some .fraction
    else if isLetterE c then some .power
    else if beginsName c then some .lettered
    else none
  | .fraction =>
    if c.isDigit || c == '_' then some .fraction
    else if isLetterE c then some .power
    else if beginsName c then some .lettered
    else none
  | .power =>
    if c.isDigit || c == '_' then some .power
    else if (c == '+' || c == '-') && previous.any isLetterE then some .power
    else if beginsName c then some .lettered
    else none
  | .lettered => if c.isDigit || beginsName c then some .lettered else none

/-- Whether a quote takes up a literal with escapes that was closed. -/
inductive Resume
  /-- There is none to take up. -/
  | never
  /-- It was closed by the character before. -/
  | doubled
  /-- Only blanks have come since then, and no end of a line. -/
  | sameLine
  /-- Only blanks and line comments have come since then, and an end of a line. -/
  | laterLine
  deriving DecidableEq, Repr

/-- What a character leaves to take up. A dash does so only as the first of a line comment. -/
def Resume.after (resume : Resume) (previous : Option Char) (c : Char) : Resume :=
  if resume = .never || previous == some '-' then .never
  else if isLineEnd c then .laterLine
  else if isBlank c || c == '-' then (if resume = .doubled then .sameLine else resume)
  else .never

/-- Whether a quote takes it up. -/
def Resume.resumes (resume : Resume) (previous : Option Char) : Bool :=
  (resume = .doubled || resume = .laterLine) && previous != some '-'

/-- What the character before belongs to, in code. -/
inductive Token
  /-- Neither a name nor a number. -/
  | sign (resume : Resume)
  /-- A name that so far is the letter of escapes alone. -/
  | letterE
  | name
  | number (figure : Figure)
  deriving DecidableEq, Repr

/-- What the next character of a statement stands in. -/
inductive Reading
  /-- Code, after a character or at the start. -/
  | code (token : Token) (previous : Option Char)
  /-- Code, after a dollar sign that belongs to no name. -/
  | dollar
  /-- A parameter with the given digits in reverse order. -/
  | parameter (reversed : List Char)
  /-- What may be a tag, with the given characters in reverse order. -/
  | tag (reversed : List Char)
  | literal
  /-- A literal with escapes, perhaps after a backslash that escapes the next character. -/
  | escapes (backslash : Bool)
  | quotedName
  /-- A line comment, after a literal that may be taken up. -/
  | lineComment (resume : Resume)
  /-- That many block comments inside each other. -/
  | blockComment (depth : Nat) (previous : Option Char)
  /-- A literal after an opening tag, with what came since its last dollar sign; both are in reverse
  order. -/
  | tagged (opened : List Char) (since : Option (List Char))
  deriving DecidableEq, Repr

/-! ### The steps of the reader -/

/-- The reading after a character of code that no name or number goes on with. -/
def start (resume : Resume) (previous : Option Char) (c : Char) : Reading :=
  if c == '\'' then (if resume.resumes previous then .escapes false else .literal)
  else if c == '"' then .quotedName
  else if c == '-' && previous == some '-' then .lineComment resume
  else if c == '*' && previous == some '/' then .blockComment 1 none
  else if c == '$' then .dollar
  else if c.isDigit then
    .code (.number (if previous == some '.' then .fraction else .whole)) (some c)
  else if beginsName c then .code (if isLetterE c then .letterE else .name) (some c)
  else .code (.sign (resume.after previous c)) (some c)

/-- The reading after a character of code. -/
def Token.after (token : Token) (previous : Option Char) (c : Char) : Reading :=
  match token with
  | .sign resume => start resume previous c
  | .letterE =>
    if c == '\'' then .escapes false
    else if extendsName c then .code .name (some c)
    else start .never previous c
  | .name => if extendsName c then .code .name (some c) else start .never previous c
  | .number figure =>
    match figure.next? previous c with
    | some figure => .code (.number figure) (some c)
    | none => start .never previous c

/-- What is read instead of a tag that does not end: a name. -/
def untagged (reversed : List Char) : Token :=
  if reversed.length = 1 && reversed.all isLetterE then .letterE else .name

/-- **The reading after a character.** -/
def Reading.after (reading : Reading) (c : Char) : Reading :=
  match reading with
  | .code token previous => token.after previous c
  | .dollar =>
    if c.isDigit then .parameter [c]
    else if c == '$' then .tagged [] none
    else if beginsName c then .tag [c]
    else start .never (some '$') c
  | .parameter reversed =>
    if c.isDigit then .parameter (c :: reversed) else start .never reversed.head? c
  | .tag reversed =>
    if c == '$' then .tagged reversed none
    else if extendsName c then .tag (c :: reversed)
    else (untagged reversed).after reversed.head? c
  | .literal => if c == '\'' then .code (.sign .never) (some c) else .literal
  | .escapes backslash =>
    if backslash then .escapes false
    else if c == '\'' then .code (.sign .doubled) (some c)
    else .escapes (c == '\\')
  | .quotedName => if c == '"' then .code (.sign .never) (some c) else .quotedName
  | .lineComment resume =>
    if isLineEnd c then .code (.sign (resume.after none c)) (some c) else .lineComment resume
  | .blockComment depth previous =>
    if c == '*' && previous == some '/' then .blockComment (depth + 1) none
    else if c == '/' && previous == some '*' then
      (if depth ≤ 1 then .code (.sign .never) none else .blockComment (depth - 1) none)
    else .blockComment depth (some c)
  | .tagged opened since =>
    if c == '$' then
      (if since = some opened then .code (.sign .never) (some c) else .tagged opened (some []))
    else .tagged opened (since.map (c :: ·))

/-- The number of the parameter that ends before the given character, or none. -/
def Reading.ended (reading : Reading) (next : Option Char) : Nat :=
  match reading with
  | .parameter reversed => if next.any Char.isDigit then 0 else numberOf reversed.reverse
  | _ => 0

/-- The marks of a text that the server reads from some reading on. -/
def parametersFrom : Reading → List Char → List Nat
  | reading, [] => [reading.ended none]
  | reading, c :: s => reading.ended (some c) :: parametersFrom (reading.after c) s

/-- **What the server reads as parameters.** -/
def parameters (sql : String) : List Nat :=
  parametersFrom (.code (.sign .never) none) sql.toList

/-- The statement with its casts after the parameters, wherever the server reads one. -/
def castParameters (sql : String) (inferred : List String) : String :=
  String.ofList (insertCasts inferred (parameters sql) sql.toList)

theorem length_parametersFrom (reading : Reading) (s : List Char) :
    (parametersFrom reading s).length = s.length + 1 := by
  induction s generalizing reading with
  | nil => rfl
  | cons c s ih => exact congrArg (· + 1) (ih (reading.after c))

end TenantReports.Postgres
