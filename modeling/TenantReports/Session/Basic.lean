import TenantReports.Session.Key
import TenantReports.Wire.Dialect

/-!
# Sessions

A session is what a caller works with: the connections to the database of the caller's tenant, and
the convention that the database follows. It is opened once and then shared by all requests of the
caller.
-/

namespace TenantReports

/-- The connections to one database, by the number they have for this process. -/
structure Handle where
  number : Nat
  deriving DecidableEq, Repr, Inhabited

/-- A caller's session. -/
structure Session where
  key : SessionKey
  database : Handle
  dialect : Dialect
  deriving DecidableEq, Repr, Inhabited

end TenantReports
