import TenantReports.Effect
import TenantReports.Report.Whitelist

/-!
# Where report scripts come from

A report script is named by an address. The address has to match a pattern of the whitelist, if
there is one; the script is then fetched from the web, or read from a file under the directory of
reports.
-/

namespace TenantReports

/-- Why a script was not fetched. -/
inductive FetchError
  /-- The address is none, or of a scheme that scripts do not come from. -/
  | scheme
  /-- The address of a file does not name one under the directory of reports. -/
  | path
  /-- A path that holds the character with the number zero. -/
  | nul
  | system (error : SystemError)
  /-- The content of a file is not text. -/
  | notText
  /-- The request got no answer; `target` is what it was sent to. -/
  | transport (target : String)
  /-- The request was answered with a status other than the plain success. -/
  | status (status : Nat)
  deriving DecidableEq, Repr, Inhabited

/-- The wording of an error. -/
def FetchError.reason : FetchError → String
  | .scheme => "unsupported protocol scheme"
  | .path => "file reports must name a relative path without '..'"
  | .nul => "file name contained an unexpected NUL byte"
  | .system error => error.message
  | .notText => "stream did not contain valid UTF-8"
  | .transport target => "error sending request for url (" ++ target ++ ")"
  | .status code => Net.statusText code

/-- The failure to fetch a script from an address. -/
def FetchError.toFailure (error : FetchError) (url : String) : Failure :=
  ⟨.fetch, "could not fetch report from " ++ url ++ ": " ++ error.reason⟩

/-- The whitelist, which accepts everything if it is empty, and the directory of reports. -/
structure ReportSource where
  whitelist : Whitelist
  root : String
  deriving Inhabited

namespace ReportSource

/-! ### Files -/

/-- What the addresses of files start with. -/
def fileScheme : List Char := ['f', 'i', 'l', 'e', ':', '/', '/']

/-- The names between the slashes of a path. -/
def components (path : List Char) : List (List Char) :=
  Text.splitWhen (· == '/') path

/-- Whether a path leads to something under the directory that it starts from. -/
def isSafePath (path : List Char) : Bool :=
  !path.isEmpty && path.head? != some '/' && (components path).all (· != ['.', '.'])

/-- The path that the address of a file names. -/
def relativePath? (url : String) : Option (List Char) :=
  (fileScheme.isPrefixOf? url.toList).filter isSafePath

/-- A path from a directory on. -/
def under (root : String) (path : List Char) : String :=
  root ++ (if root.isEmpty || root.toList.getLast? == some '/' then "" else "/") ++
    String.ofList path

/-- The text of a file, or why there is none. -/
def textOfFile : Except SystemError (List UInt8) → Except FetchError String
  | .error error => .error (.system error)
  | .ok octets =>
    match Text.Utf8.toString? octets with
    | some text => .ok text
    | none => .error .notText

/-- Reads the file that an address names. -/
def readFile (source : ReportSource) (url : String) : GatewayTask (Except Failure String) :=
  match relativePath? url with
  | none => .done (.error (FetchError.path.toFailure url))
  | some path =>
    let whole := under source.root path
    if whole.toList.contains '\x00' then .done (.error (FetchError.nul.toFailure url))
    else .ask (.read whole) fun content =>
      .done ((textOfFile content).mapError fun error => error.toFailure url)

/-! ### The web -/

/-- The script in the outcome of a request, which was sent to `target` for an address. -/
def textOfOutcome (url target : String) : Net.Outcome → Except Failure String
  | .error _ => .error ((FetchError.transport target).toFailure url)
  | .ok answer =>
    if answer.status = 200 then
      match answer.body with
      | .ok body => .ok (Net.bodyText body)
      | .error _ => .error ⟨.fetch, "could not read report: error decoding response body"⟩
    else .error ((FetchError.status answer.status).toFailure url)

/-- The script at an address. -/
def fetch (source : ReportSource) (url : String) : GatewayTask (Except Failure String) :=
  match Net.Url.ofText? url with
  | none => .done (.error (FetchError.scheme.toFailure url))
  | some .file => source.readFile url
  | some (.web target) => .ask (.fetch target) fun outcome =>
    .done (textOfOutcome url target.text outcome)

/-- The script at an address that the whitelist allows. -/
def load (source : ReportSource) (url : String) : GatewayTask (Except Failure String) :=
  match source.whitelist.check url with
  | .error failure => .done (.error failure)
  | .ok _ => source.fetch url

end ReportSource

end TenantReports
