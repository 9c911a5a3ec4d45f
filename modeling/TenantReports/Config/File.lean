import TenantReports.Config.Error
import TenantReports.Text.Lines
import TenantReports.Text.Search

/-!
# Configuration files

Every line of a configuration file is blank, a comment after a hash sign, or an assignment
`KEY=VALUE`, where blanks around the key and the value mean nothing and the value may stand between
quotes of either kind. `ConfigFile.entries` reads the assignments in their order, or finds the first
line that is none of the three.
-/

namespace TenantReports.ConfigFile

/-- Whether a text starts and ends with the same quote. -/
def isQuoted (s : List Char) : Bool :=
  2 ≤ s.length && s.head? == s.getLast? && (s.head? == some '"' || s.head? == some '\'')

/-- The text without quotes around it. -/
def unquote (s : List Char) : List Char :=
  if isQuoted s then s.tail.dropLast else s

/-- What a line without blanks around it assigns; nothing if it is empty or a comment. -/
def assignment? (line : List Char) : Except LineFault (Option (String × String)) :=
  if line.isEmpty || line.head? == some '#' then .ok none
  else
    match Text.splitAt? ['='] line with
    | none => .error .noAssignment
    | some (key, value) =>
      let key := Text.trim key
      if key.isEmpty then .error .emptyKey
      else .ok (some (String.ofList key, String.ofList (unquote (Text.trim value))))

/-- The assignments of lines, the first of which has the given number. -/
def ofLines : Nat → List (List Char) → Except StartupError (List (String × String))
  | _, [] => .ok []
  | number, line :: lines =>
    match assignment? (Text.trim line) with
    | .error fault => .error (.line number fault)
    | .ok none => ofLines (number + 1) lines
    | .ok (some entry) => (ofLines (number + 1) lines).map (entry :: ·)

/-- The assignments of a file. -/
def entries (contents : String) : Except StartupError (List (String × String)) :=
  ofLines 1 (Text.lines contents.toList)

end TenantReports.ConfigFile
