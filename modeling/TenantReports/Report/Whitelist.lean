import TenantReports.Failure
import TenantReports.Pattern.Parser

/-!
# Which addresses reports may come from

A whitelist is a list of patterns. An address is allowed if one of them matches somewhere in its
text, and an empty whitelist allows all addresses.

* `check_eq_ok_iff`: what the whitelist allows.
-/

namespace TenantReports

/-- An entry of a whitelist. -/
structure UrlPattern where
  text : String
  regex : Pattern.Regex
  deriving Inhabited

namespace UrlPattern

/-- The entry with the given text. -/
def ofText? (text : String) : Option UrlPattern :=
  (Pattern.Regex.ofText? text).map fun regex => ⟨text, regex⟩

/-- Whether an address matches a pattern somewhere. -/
def accepts (pattern : UrlPattern) (url : String) : Bool :=
  pattern.regex.isMatch url

end UrlPattern

/-- Patterns of which an address has to match one, if there are any. -/
abbrev Whitelist :=
  List UrlPattern

namespace Whitelist

/-- Whether an address is allowed. -/
def allows (whitelist : Whitelist) (url : String) : Bool :=
  whitelist.isEmpty || whitelist.any fun pattern => pattern.accepts url

/-- Refuses an address that is not allowed. -/
def check (whitelist : Whitelist) (url : String) : Except Failure Unit :=
  if whitelist.allows url then .ok ()
  else
    .error ⟨.whitelist, "query may not be loaded from " ++ url ++
      ": report URL did not match any whitelist regular expression"⟩

theorem check_eq_ok_iff (whitelist : Whitelist) (url : String) :
    whitelist.check url = .ok () ↔
      whitelist = [] ∨ ∃ pattern ∈ whitelist, pattern.accepts url = true := by
  unfold check allows
  split <;> simp_all

end Whitelist

end TenantReports
