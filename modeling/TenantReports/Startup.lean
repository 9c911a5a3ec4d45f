import TenantReports.Config.Basic

/-!
# Starting the gateway

The gateway reads its configuration and then listens on the address that it names. What stops it is
told in one line.
-/

namespace TenantReports

/-- The configuration of a gateway that listens, or what stopped it: `listen` tells why an address
cannot be listened on. -/
def start (readFile : String → Option (List UInt8)) (listen : Net.Socket → Option SystemError)
    (environment : Keyed String) : Except StartupError Config := do
  let config ← Config.load readFile environment
  match listen config.bind with
  | some reason => throw (.bind config.bind reason)
  | none => return config

/-- The line that tells why the gateway did not start. -/
def StartupError.line? (outcome : Except StartupError Config) : Option String :=
  match outcome with
  | .error error => some ("STARTUP_ERROR " ++ error.display)
  | .ok _ => none

end TenantReports
