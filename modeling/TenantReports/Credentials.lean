import TenantReports.Text.Quoted

/-!
# Credentials of a reporting database

The address of a database with the name and password to log in with. The password is left out of the
text that shows credentials in diagnostics.
-/

namespace TenantReports

/-- A record in diagnostics: its name, and its fields with texts that are shown as they are. -/
def diagnosticRecord (name : String) (fields : List (String × String)) : String :=
  name ++ " \x7b " ++
    String.intercalate ", " (fields.map fun (field, text) => field ++ ": " ++ text) ++ " \x7d"

/-- What a secret is shown as. -/
def redacted : String :=
  Text.Quoted.quote "<redacted>"

/-- The address of a database and a login. -/
structure Credentials where
  url : String
  user : String
  pass : String
  deriving DecidableEq, Repr, Inhabited

/-- Credentials in diagnostics. -/
def Credentials.diagnostic (credentials : Credentials) : String :=
  diagnosticRecord "DbCredentials"
    [("url", Text.Quoted.quote credentials.url), ("user", Text.Quoted.quote credentials.user),
      ("pass", redacted)]

end TenantReports
