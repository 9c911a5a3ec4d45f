import TenantReports.Text.Blank

/-!
# Lines of a text

A line ends with a line feed, which may follow a carriage return; the end of the text ends the
last line if it is not empty. A carriage return anywhere else belongs to its line.
-/

namespace TenantReports.Text

/-- The line without a carriage return at its end. -/
def withoutReturn (line : List Char) : List Char :=
  if line.getLast? = some '\r' then line.dropLast else line

/-- The lines among the pieces between line feeds. -/
def linesOfPieces : List (List Char) → List (List Char)
  | [] => []
  | [last] => if last.isEmpty then [] else [last]
  | piece :: pieces => withoutReturn piece :: linesOfPieces pieces

/-- The lines of a text, without their ends. -/
def lines (s : List Char) : List (List Char) :=
  linesOfPieces (splitWhen (· == '\n') s)

end TenantReports.Text
