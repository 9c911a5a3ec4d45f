import TenantReports.Pattern.Regex
import TenantReports.Text.Hex

/-!
# Options of a pattern

A pattern may switch options inside its text: `(?i)` from there to the end of the group, `(?i:...)`
for one group. `options?` reads the letters of such a switch; each option may be named once, and
those after a hyphen are switched off.
-/

namespace TenantReports.Pattern

/-- How the text of a pattern is read. -/
structure Options where
  /-- Letters stand for all their cases. -/
  anyCase : Bool
  /-- `^` and `$` stand at the ends of lines too. -/
  manyLines : Bool
  /-- A point stands for line ends too. -/
  pointAll : Bool
  /-- Classes know all scripts. -/
  unicode : Bool
  /-- A carriage return ends a line too. -/
  returns : Bool
  /-- Blanks and comments in the pattern mean nothing. -/
  spaced : Bool
  deriving DecidableEq, Repr, Inhabited

namespace Options

/-- The options that a pattern starts with. -/
def initial : Options :=
  ⟨false, false, false, true, false, false⟩

/-- The options after a letter; the one for the preference of repetitions is without effect here. -/
def set? (options : Options) (letter : Char) (on : Bool) : Option Options :=
  match letter with
  | 'i' => some { options with anyCase := on }
  | 'm' => some { options with manyLines := on }
  | 's' => some { options with pointAll := on }
  | 'u' => some { options with unicode := on }
  | 'R' => some { options with returns := on }
  | 'x' => some { options with spaced := on }
  | 'U' => some options
  | _ => none

/-- Reads the letters of a switch up to a closing parenthesis or a colon, which stays; `used` holds
those before. -/
def letters? (used : List Char) : Options → List Char → Option (Options × List Char)
  | _, [] => none
  | options, c :: rest =>
    if c == ')' || c == ':' then
      if used.head? == some '-' then none else some (options, c :: rest)
    else if used.contains c then none
    else if c == '-' then letters? ('-' :: used) options rest
    else do
      let options ← options.set? c (!used.contains '-')
      letters? (c :: used) options rest

end Options

/-- What a group starts with after its parenthesis. -/
inductive Opening
  /-- A switch of options and the text after it. -/
  | switch (options : Options) (rest : List Char)
  /-- A group with options of its own, perhaps a name, and the text inside it. -/
  | group (options : Options) (name : Option String) (rest : List Char)

/-- Whether a character may stand in the name of a group. -/
def isNameChar (first : Bool) (c : Char) : Bool :=
  let category := Text.categoryOf c
  if first then c == '_' || category.isLetter || category == .nl
  else c == '_' || c == '.' || c == '[' || c == ']' || category.isLetter || category.isNumber

/-- The name of a group and the text after its closing bracket. -/
def groupName? (s : List Char) : Option (String × List Char) :=
  let name := s.takeWhile (· != '>')
  match name, s.dropWhile (· != '>') with
  | first :: others, '>' :: rest =>
    if isNameChar true first && others.all (isNameChar false) then some (String.ofList name, rest)
    else none
  | _, _ => none

/-- Reads the start of a group; groups that look ahead or behind are refused. -/
def opening? (options : Options) : List Char → Option Opening
  | '?' :: '=' :: _ | '?' :: '!' :: _ | '?' :: '<' :: '=' :: _ | '?' :: '<' :: '!' :: _ => none
  | '?' :: 'P' :: '<' :: rest | '?' :: '<' :: rest =>
    (groupName? rest).map fun (name, rest) => .group options (some name) rest
  | '?' :: rest => do
    match ← Options.letters? [] options rest with
    | (switched, ')' :: after) =>
      if rest.head? == some ')' then none else return .switch switched after
    | (switched, _ :: after) => return .group switched none after
    | (_, []) => none
  | rest => some (.group options none rest)

end TenantReports.Pattern
