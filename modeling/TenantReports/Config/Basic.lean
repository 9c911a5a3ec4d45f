import TenantReports.Config.File
import TenantReports.Credentials
import TenantReports.Keyed
import TenantReports.Report.Whitelist
import TenantReports.Text.Utf8

/-!
# The gateway's configuration

A configuration is made from named values. Blanks around a value mean nothing, and a value of blanks
only is as good as none. `Config.ofValues` takes the values in a fixed order and stops at the first
that is not acceptable; `Config.load` collects them from the file that one of them names, where the
environment goes before the file.
-/

namespace TenantReports

/-- What the gateway is told when it starts. Times are in milliseconds, but for that of queries,
which is in seconds. -/
structure Config where
  bind : Net.Socket
  queryTimeout : UInt64
  whitelist : Whitelist
  fileRoot : String
  settingsTimeout : UInt64
  fetchTimeout : UInt64
  maxConnections : UInt32
  connectTimeout : UInt64
  /-- Credentials for all callers. -/
  credentials : Option Credentials
  deriving Inhabited

namespace Config

/-! ### Names -/

/-- Names the configuration file. -/
def pathKey : String := "REPORTING_CONFIG_PATH"

/-- Names the address to listen on. -/
def bindKey : String := "REPORTING_BIND_ADDR"

/-- Names the time limit of queries. -/
def queryTimeoutKey : String := "REPORTING_QUERY_TIMEOUT_SECS"

/-- Names the time limit of queries where the other name has no value. -/
def olderTimeoutKey : String := "MOD_REPORTING_QUERY_TIMEOUT"

/-- Names the patterns of acceptable report addresses. -/
def whitelistKey : String := "REPORTING_REPORT_URL_WHITELIST"

/-- Names the directory of report files. -/
def fileRootKey : String := "REPORTING_FILE_ROOT"

/-- Names the time limit of a request for a tenant's settings. -/
def settingsTimeoutKey : String := "REPORTING_SETTINGS_TIMEOUT_MS"

/-- Names the time limit of a request for a report. -/
def fetchTimeoutKey : String := "REPORTING_REPORT_FETCH_TIMEOUT_MS"

/-- Names the greatest number of connections of a session. -/
def maxConnectionsKey : String := "REPORTING_DB_MAX_CONNECTIONS"

/-- Names the time limit of connecting. -/
def connectTimeoutKey : String := "REPORTING_DB_CONNECT_TIMEOUT_MS"

/-- Names the address of the database. -/
def urlKey : String := "REPORTING_DB_URL"

/-- Names the user of the database. -/
def userKey : String := "REPORTING_DB_USER"

/-- Names the password for the database. -/
def passKey : String := "REPORTING_DB_PASS"

/-- All names. -/
def keys : List String :=
  [pathKey, bindKey, queryTimeoutKey, olderTimeoutKey, whitelistKey, fileRootKey,
    settingsTimeoutKey, fetchTimeoutKey, maxConnectionsKey, connectTimeoutKey, urlKey, userKey,
    passKey]

/-! ### Values -/

/-- The value under a name, without blanks around it; none if it is blank. -/
def value? (values : Keyed String) (key : String) : Option String :=
  ((values.get? key).map Text.trimmed).filter fun value => !value.isEmpty

/-- A value as an integer below `bound`, which may not be zero; the default if there is none. -/
def positive (bound default : Nat) (key : String) (value : Option String) :
    Except StartupError Nat :=
  match value with
  | none => .ok default
  | some text =>
    match Number.unsigned? bound text.toList with
    | none => .error (.notInteger key)
    | some 0 => .error (.zero key)
    | some n => .ok n

/-- The address to listen on. -/
def bindOf (value : Option String) : Except StartupError Net.Socket :=
  match value with
  | none => .ok (.v4 ⟨127, 0, 0, 1⟩ 12369)
  | some text =>
    match Net.Socket.ofText? text with
    | some address => .ok address
    | none => .error (.notAddress bindKey)

/-- The patterns with the given texts. -/
def patternsOf : List (List Char) → Except StartupError Whitelist
  | [] => .ok []
  | entry :: entries =>
    match UrlPattern.ofText? (String.ofList entry) with
    | none => .error (.notPattern whitelistKey (String.ofList entry))
    | some pattern => (patternsOf entries).map (pattern :: ·)

/-- The credentials, if all of their parts are there. -/
def credentialsOf (values : Keyed String) : Option Credentials := do
  let url ← value? values urlKey
  let user ← value? values userKey
  let pass ← value? values passKey
  return ⟨url, user, pass⟩

/-- The configuration that values make. -/
def ofValues (values : Keyed String) : Except StartupError Config := do
  let bind ← bindOf (value? values bindKey)
  let queryTimeout ← positive Number.bound64 60 queryTimeoutKey
    ((value? values queryTimeoutKey).or (value? values olderTimeoutKey))
  let whitelist ← patternsOf (Text.words ((value? values whitelistKey).getD "").toList)
  let settingsTimeout ← positive Number.bound64 5000 settingsTimeoutKey
    (value? values settingsTimeoutKey)
  let fetchTimeout ← positive Number.bound64 30000 fetchTimeoutKey (value? values fetchTimeoutKey)
  let maxConnections ← positive Number.bound32 4 maxConnectionsKey (value? values maxConnectionsKey)
  let connectTimeout ← positive Number.bound64 5000 connectTimeoutKey
    (value? values connectTimeoutKey)
  return {
    bind
    queryTimeout := UInt64.ofNat queryTimeout
    whitelist
    fileRoot := (value? values fileRootKey).getD "."
    settingsTimeout := UInt64.ofNat settingsTimeout
    fetchTimeout := UInt64.ofNat fetchTimeout
    maxConnections := UInt32.ofNat maxConnections
    connectTimeout := UInt64.ofNat connectTimeout
    credentials := credentialsOf values }

/-- The values of a file, given its octets, if it can be read. -/
def fileValues (path : String) (octets : Option (List UInt8)) :
    Except StartupError (List (String × String)) :=
  match octets.bind Text.Utf8.toString? with
  | none => .error (.unreadable path)
  | some contents => ConfigFile.entries contents

/-- The values of the environment, and of the file that it names. -/
def collect (readFile : String → Option (List UInt8)) (environment : Keyed String) :
    Except StartupError (Keyed String) :=
  match value? environment pathKey with
  | none => .ok environment
  | some path => do
    let entries ← fileValues path (readFile path)
    return Keyed.ofList (entries ++ environment.entries)

/-- The configuration of an environment. -/
def load (readFile : String → Option (List UInt8)) (environment : Keyed String) :
    Except StartupError Config := do
  ofValues (← collect readFile environment)

/-- The time limit of queries in milliseconds. -/
def queryLimit (config : Config) : Nat :=
  config.queryTimeout.toNat * 1000

end Config

end TenantReports
