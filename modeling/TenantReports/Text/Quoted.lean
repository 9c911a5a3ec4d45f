import TenantReports.Text.Category
import TenantReports.Text.Hex

/-!
# Quoted text for diagnostics

`quote` shows a text between double quotes so that nothing in it can be mistaken for something
else: characters that do not print, or that would join the one before them, stand as their number.
-/

namespace TenantReports.Text.Quoted

/-- Spacing marks and signs that extend the character before them although their category is not
that of a non-spacing or enclosing mark. -/
def extendingRanges : List (Nat × Nat) := [
  (0x09BE, 0x09BE), (0x09D7, 0x09D7), (0x0B3E, 0x0B3E), (0x0B57, 0x0B57), (0x0BBE, 0x0BBE),
  (0x0BD7, 0x0BD7), (0x0CC2, 0x0CC2), (0x0CD5, 0x0CD6), (0x0D3E, 0x0D3E), (0x0D57, 0x0D57),
  (0x0DCF, 0x0DCF), (0x0DDF, 0x0DDF), (0x1B35, 0x1B35), (0x200C, 0x200C), (0x302E, 0x302F),
  (0xFF9E, 0xFF9F), (0x1133E, 0x1133E), (0x11357, 0x11357), (0x114B0, 0x114B0),
  (0x114BD, 0x114BD), (0x115AF, 0x115AF), (0x11930, 0x11930), (0x1D165, 0x1D165),
  (0x1D16E, 0x1D172), (0xE0020, 0xE007F)]

/-- Whether a character joins the one before it. -/
def extendsPrevious (c : Char) : Bool :=
  match categoryOf c with
  | .mn | .me => true
  | _ => extendingRanges.any fun (first, last) => first ≤ c.toNat && c.toNat ≤ last

/-- Whether a character shows as itself. -/
def isPrintable (c : Char) : Bool :=
  c == ' ' || !((categoryOf c).isOther || (categoryOf c).isSeparator)

/-- A character by its number. -/
def numbered (c : Char) : List Char :=
  ['\\', 'u', '\x7b'] ++ (Nat.toDigits 16 c.toNat) ++ ['\x7d']

/-- A character as it stands between the quotes. -/
def escape (c : Char) : List Char :=
  if c == '\x00' then ['\\', '0']
  else if c == '\t' then ['\\', 't']
  else if c == '\r' then ['\\', 'r']
  else if c == '\n' then ['\\', 'n']
  else if c == '"' then ['\\', '"']
  else if c == '\\' then ['\\', '\\']
  else if isPrintable c && !extendsPrevious c then [c]
  else numbered c

/-- A text between quotes. -/
def quote (s : String) : String :=
  String.ofList (['"'] ++ s.toList.flatMap escape ++ ['"'])

end TenantReports.Text.Quoted
