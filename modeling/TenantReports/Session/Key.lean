import TenantReports.Credentials
import TenantReports.Sha256
import TenantReports.Text.Utf8

/-!
# Who calls

Callers are told apart by their tenant, the address of the tenant's gateway and a token. Where a
caller is named in a log, a few digits of a digest stand for it, and the token is left out.
-/

namespace TenantReports

/-- The identity of a caller. -/
structure SessionKey where
  tenant : String
  gatewayUrl : String
  token : String
  deriving DecidableEq, Repr, Inhabited

namespace SessionKey

/-- The digits that stand for a caller in a log. -/
def logId (key : SessionKey) : String :=
  let text := key.tenant ++ ":" ++ key.gatewayUrl ++ ":" ++ key.token
  String.ofList ((Text.Hex.ofOctets (Sha256.digest (Text.Utf8.ofString text))).take 16)

/-- A caller in diagnostics. -/
def diagnostic (key : SessionKey) : String :=
  diagnosticRecord "SessionKey"
    [("tenant", Text.Quoted.quote key.tenant), ("gateway_url", Text.Quoted.quote key.gatewayUrl),
      ("token", redacted)]

end SessionKey

end TenantReports
