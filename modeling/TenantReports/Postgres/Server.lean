import TenantReports.Credentials
import TenantReports.Net.Url

/-!
# Addresses of database servers

The address of a server is a URL of any scheme, with the database in its path and settings in its
query. `Server.ofText?` refuses what is no URL, and settings whose values mean nothing; settings it
does not know are passed over. The name and the password of the user are not taken from it, but have
to be text.
-/

namespace TenantReports.Postgres

/-- How far a connection is to be protected. -/
inductive Protection
  | disable
  | allow
  | prefer
  | require
  | verifyAuthority
  | verifyFull
  deriving DecidableEq, Repr, Inhabited

/-- The word for a protection. -/
def Protection.word : Protection → String
  | .disable => "disable"
  | .allow => "allow"
  | .prefer => "prefer"
  | .require => "require"
  | .verifyAuthority => "verify-ca"
  | .verifyFull => "verify-full"

/-- The protection that a word in any letter case stands for. -/
def Protection.ofWord? (word : String) : Option Protection :=
  [.disable, .allow, .prefer, .require, .verifyAuthority, .verifyFull].find? fun protection =>
    protection.word == String.ofList (word.toList.map Char.toLower)

/-- Where a database is. -/
structure Server where
  /-- The name or address of the machine, or the directory of a socket; this machine if missing. -/
  host : Option String
  port : UInt16
  database : Option String
  protection : Protection
  deriving DecidableEq, Repr, Inhabited

namespace Server

/-! ### The parts of an address -/

/-- The parts of an address; all but the query are still encoded. -/
structure Parts where
  user : String
  password : String
  host : Option String
  port : Option Nat
  path : String
  query : Option String
  deriving Inhabited

/-- The ports of the schemes that are read as web addresses are. -/
def webPorts : List (String × Nat) :=
  [("http", 80), ("https", 443), ("ws", 80), ("wss", 443), ("ftp", 21)]

/-- The parts of a web address. -/
def Parts.ofWeb (url : Net.WebUrl) : Parts :=
  ⟨url.user, url.password, some url.host.text, url.port, String.join (url.path.map ("/" ++ ·)),
    url.query⟩

/-- A host as other schemes than those of the web have it: an address in brackets, or nearly any
text. -/
def hostName? (s : List Char) : Option String :=
  match s with
  | '[' :: _ => (Net.Host.ofText? s).map Net.Host.text
  | _ =>
    if s.any fun c => c == '\x00' || c == ' ' || Net.Host.isReserved c then none
    else some (String.ofList (Net.Percent.encode (fun _ => false) s))

/-- The path and the query of a text. -/
def pathAndQuery (s : List Char) : String × Option String :=
  let (path, query) := Net.pathAndQuery (· == '/') Net.Percent.querySet s
  (String.join (path.map ("/" ++ ·)), query)

/-- The parts of an address after its two slashes. -/
def hierarchy? (s : List Char) : Option Parts := do
  let before := s.takeWhile fun c => !(c == '/' || c == '?' || c == '#')
  let after := s.drop before.length
  let (user?, hostAndPort) := Net.splitUser before
  let (user, password) := Net.userInfo (user?.getD [])
  let hostText := hostAndPort.take (Net.hostLength false hostAndPort)
  let portText := hostAndPort.drop hostText.length
  let host ← hostName? hostText
  let port ← Net.portOf? none portText
  let named := !(user?.getD []).isEmpty
  if hostText.isEmpty && (named || !portText.isEmpty || (user?.isSome && !after.isEmpty)) then none
  else
    let (path, query) := pathAndQuery after
    return ⟨user, password, if hostText.isEmpty then none else some host, port,
      if after.isEmpty then "" else path, query⟩

/-- The parts of an address without a host. -/
def hostless (s : List Char) : Parts :=
  match s with
  | '/' :: _ =>
    let (path, query) := pathAndQuery s
    ⟨"", "", none, none, path, query⟩
  | _ =>
    let path := s.takeWhile fun c => c != '?' && c != '#'
    ⟨"", "", none, none, String.ofList path, (pathAndQuery (s.drop path.length)).2⟩

/-- The parts of an address. -/
def Parts.ofText? (s : String) : Option Parts := do
  let (scheme, rest) ← Net.scheme? (Net.urlChars s.toList)
  match webPorts.lookup scheme with
  | some own =>
    (Net.webUrl? (own == 443) own (rest.dropWhile Net.isSlash)).map Parts.ofWeb
  | none =>
    if scheme = "file" then
      if Net.isFileUrl rest then return hostless rest else none
    else
      match rest with
      | '/' :: '/' :: inner => hierarchy? inner
      | _ => return hostless rest

/-! ### What the parts mean -/

/-- The text of an encoded part. -/
def decoded? (s : String) : Option String :=
  Text.Utf8.toString? (Net.Percent.decode (Text.Utf8.ofString s))

/-- The host of an address; the name of a directory is decoded. -/
def hostOf? : Option String → Option (Option String)
  | none => some none
  | some host =>
    if (Net.Percent.decode (Text.Utf8.ofString host)).head? == some 0x2F then
      (decoded? host).map some
    else some (some host)

/-- The database that a path names. -/
def databaseOf? (path : String) : Option (Option String) :=
  let name := path.toList.dropWhile (· == '/')
  if name.isEmpty then some none else (decoded? (String.ofList name)).map some

/-- Whether a text is an address of the internet protocol. -/
def isIp (s : String) : Bool :=
  match Net.ipv4? s.toList, Net.ipv6? s.toList with
  | some (_, []), _ | _, some (_, []) => true
  | _, _ => false

/-- The server after a setting. -/
def set? (server : Server) : String × String → Option Server
  | ("sslmode", value) | ("ssl-mode", value) =>
    (Protection.ofWord? value).map fun protection => { server with protection }
  | ("host", value) => some { server with host := some value }
  | ("hostaddr", value) => if isIp value then some { server with host := some value } else none
  | ("port", value) =>
    (Number.unsigned? 65536 value.toList).map fun port => { server with port := UInt16.ofNat port }
  | ("dbname", value) => some { server with database := some value }
  | ("statement-cache-capacity", value) =>
    (Number.unsigned? Number.bound64 value.toList).map fun _ => server
  | _ => some server

/-- The server that parts mean. -/
def ofParts? (parts : Parts) : Option Server := do
  let host ← hostOf? parts.host
  let _ ← decoded? parts.user
  let _ ← decoded? parts.password
  let database ← databaseOf? parts.path
  let named : Server := ⟨host, UInt16.ofNat (parts.port.getD 5432), database, .prefer⟩
  (Net.Percent.formPairs (parts.query.getD "")).foldlM set? named

/-- The server with an address. -/
def ofText? (s : String) : Option Server :=
  (Parts.ofText? s).bind ofParts?

end Server

end TenantReports.Postgres
