import TenantReports.Failure
import TenantReports.Text.Lines
import TenantReports.Text.Search
import TenantReports.Wire.Dialect

/-!
# The marker of a report script

A report script says in a comment of the form `--<tag>:function <name>` for which convention it is
written and which function it defines. `Marker.ofScript` finds it: in the first line where a tag and
a name stand around the word, after the first two hyphens of the line.
-/

namespace TenantReports

/-- The convention and the function that a script declares. -/
structure Marker where
  dialect : Dialect
  function : String
  deriving DecidableEq, Repr, Inhabited

namespace Marker

/-- The word between the tag and the name. -/
def keyword : List Char := [':', 'f', 'u', 'n', 'c', 't', 'i', 'o', 'n']

/-- What opens a comment. -/
def commentStart : List Char := ['-', '-']

/-- The tag and the name that a line declares. -/
def ofLine? (line : List Char) : Option (List Char × List Char) := do
  let (_, comment) ← Text.splitAt? commentStart line
  let (tag, rest) ← Text.splitAt? keyword comment
  let tag := Text.trim tag
  let name := Text.trim rest
  match rest with
  | c :: _ => if tag.isEmpty || !Text.isBlank c || name.isEmpty then none else some (tag, name)
  | [] => none

/-- The marker of a script. -/
def ofScript (script : String) : Except Failure Marker :=
  match (Text.lines script.toList).findSome? ofLine? with
  | none => .error ⟨.malformedScript, "could not extract SQL function name"⟩
  | some (tag, name) =>
    match Dialect.ofTag? (String.ofList tag) with
    | some dialect => .ok ⟨dialect, String.ofList name⟩
    | none => .error ⟨.malformedScript, "unrecognized dialect " ++ String.ofList tag ++
        " in report function marker"⟩

end Marker

end TenantReports
