import TenantReports.Number.Natural

/-!
# Casts for text parameters

Every parameter of a statement is sent as text. `castPlaceholders` adds to each placeholder the cast
to the type that the server expects there, if that is not text already. Placeholders inside
literals, quoted names and comments are left alone.
-/

namespace TenantReports.Postgres

/-- The names of types that text can stand for without a cast. -/
def textTypes : List String :=
  ["TEXT", "VARCHAR", "CHAR", "NAME", "UNKNOWN", "CITEXT", "citext"]

/-- A character that a type name may have in a cast. -/
def isTypeNameChar (c : Char) : Bool :=
  c.isAlphanum || c == '_' || c == '[' || c == ']'

/-- Whether text needs a cast to a type. -/
def needsCast (typeName : String) : Bool :=
  !textTypes.contains typeName && !typeName.isEmpty && typeName.toList.all isTypeNameChar

/-- The name of a type in a cast; blank-padded text has a name of its own, since the plain one would
cut it to a single character. -/
def castTarget (typeName : String) : String :=
  if typeName = "CHAR[]" then "bpchar[]" else String.ofList (typeName.toList.map Char.toLower)

/-- What follows a placeholder with the given digits. -/
def castAfter (inferred : List String) (ds : List Char) : List Char :=
  match Number.natural? ds with
  | some (n + 1) =>
    match inferred[n]? with
    | some typeName =>
      if needsCast typeName then [':', ':'] ++ (castTarget typeName).toList else []
    | none => []
  | _ => []

/-- Where in a statement the next character stands. -/
inductive Place
  /-- In code, after a character or at the start. -/
  | code (previous : Option Char)
  /-- After a dollar sign in code, which a name may stand directly before. -/
  | dollar (nameBefore : Bool)
  /-- In a placeholder, after the given digits in reverse order. -/
  | placeholder (reversed : List Char)
  | literal
  | quotedName
  | lineComment
  /-- In a block comment, perhaps after a star. -/
  | blockComment (star : Bool)
  deriving DecidableEq, Repr

/-- Whether a name can go on after a character. -/
def continuesName (c : Char) : Bool :=
  c.isAlphanum || c == '_'

/-- The place after a character of code. -/
def placeAfter (previous : Option Char) (c : Char) : Place :=
  if c == '\'' then .literal
  else if c == '"' then .quotedName
  else if c == '-' && previous == some '-' then .lineComment
  else if c == '*' && previous == some '/' then .blockComment false
  else if c == '$' then .dollar (previous.any continuesName)
  else .code (some c)

/-- What is added before a character at a place, and the place after it. -/
def castStep (inferred : List String) (place : Place) (c : Char) : List Char × Place :=
  match place with
  | .code previous => ([], placeAfter previous c)
  | .dollar nameBefore =>
    ([], if c.isDigit && !nameBefore then .placeholder [c] else placeAfter (some '$') c)
  | .placeholder reversed =>
    if c.isDigit then ([], .placeholder (c :: reversed))
    else (castAfter inferred reversed.reverse, placeAfter reversed.head? c)
  | .literal => ([], if c == '\'' then .code (some c) else .literal)
  | .quotedName => ([], if c == '"' then .code (some c) else .quotedName)
  | .lineComment => ([], if c == '\n' then .code (some c) else .lineComment)
  | .blockComment star =>
    ([], if c == '/' && star then .code none else .blockComment (c == '*'))

/-- Reads a statement from a place on and adds the casts. -/
def castFrom (inferred : List String) : Place → List Char → List Char
  | .placeholder reversed, [] => castAfter inferred reversed.reverse
  | _, [] => []
  | place, c :: rest =>
    let (added, next) := castStep inferred place c
    added ++ c :: castFrom inferred next rest

/-- The statement with casts, where `inferred` names the types of its parameters in order. -/
def castPlaceholders (sql : String) (inferred : List String) : String :=
  String.ofList (castFrom inferred (.code none) sql.toList)

end TenantReports.Postgres
