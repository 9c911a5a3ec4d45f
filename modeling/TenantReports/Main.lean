import TenantReports.Startup
import Std.Internal.UV.TCP

/-!
# The program

Starts the gateway with the environment's configuration: what stops it is told in one line on the
standard error stream.
-/

namespace TenantReports

/-- The values of the environment that the configuration knows. -/
def readEnvironment : IO (Keyed String) := do
  let values ← Config.keys.filterMapM fun key => do
    return (← IO.getEnv key).map fun value => (key, value)
  return Keyed.ofList values

/-- The octets of a file, if it can be read. -/
def readOctets (path : String) : IO (Option (List UInt8)) := do
  try
    return some (← IO.FS.readBinFile path).toList
  catch _ => return none

/-- The address of a socket as the standard library has it. -/
def Net.Socket.address : Net.Socket → Std.Net.SocketAddress
  | .v4 ip port => .v4 ⟨⟨#v[ip.a, ip.b, ip.c, ip.d]⟩, port⟩
  | .v6 ip _ port => .v6 ⟨⟨⟨ip.groups.toArray, by simpa using ip.size⟩⟩, port⟩

/-- The system's number of a failed operation; numbers may come negated. -/
def errorNumber : IO.Error → Nat
  | .alreadyExists _ code _ | .otherError code _ | .resourceBusy code _
  | .resourceVanished code _ | .unsupportedOperation code _ | .illegalOperation code _
  | .invalidArgument _ code _ | .permissionDenied _ code _ | .resourceExhausted _ code _ =>
    min code.toNat (Number.bound32 - code.toNat)
  | _ => 0

/-- Listens on an address; tells why that is not possible. -/
def listenOn (address : Net.Socket) : IO (Option SystemError) := do
  try
    let server ← Std.Internal.UV.TCP.Socket.new
    server.bind address.address
    server.listen 1024
    return none
  catch error =>
    return some ((SystemError.ofNumber? (errorNumber error)).getD .addressNotAvailable)

/-- Reads the configuration and listens on its address; ends with one if that is not possible. -/
def startProgram : IO UInt32 := do
  let environment ← readEnvironment
  let octets ← match Config.value? environment Config.pathKey with
    | some path => readOctets path
    | none => pure none
  let refusal ← match Config.load (fun _ => octets) environment with
    | .ok config => listenOn config.bind
    | .error _ => pure none
  match StartupError.line? (start (fun _ => octets) (fun _ => refusal) environment) with
  | some line =>
    IO.eprintln line
    return 1
  | none => return 0

end TenantReports

/-- The program. -/
def main : IO UInt32 :=
  TenantReports.startProgram
